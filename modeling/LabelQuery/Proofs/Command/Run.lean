import LabelQuery.Command.Run

/-!
How runs compose: what the first part leaves is where the second one starts, unless the first
fails.
-/
namespace LabelQuery.Run

variable {α β γ : Type}

theorem bind_of_ok {run : Run α} {files : FileTree} {value : α}
    (h : (run files).result = .ok value) (next : α → Run β) :
    (run >>= next) files =
      ⟨(run files).events ++ (next value (run files).files).events,
        (next value (run files).files).files, (next value (run files).files).result⟩ := by
  show andThen run next files = _
  simp only [andThen, h]

theorem bind_of_error {run : Run α} {files : FileTree} {error : CommandError}
    (h : (run files).result = .error error) (next : α → Run β) :
    (run >>= next) files = ⟨(run files).events, (run files).files, .error error⟩ := by
  show andThen run next files = _
  simp only [andThen, h]

theorem result_bind_of_ok {run : Run α} {files : FileTree} {value : α}
    (h : (run files).result = .ok value) (next : α → Run β) :
    ((run >>= next) files).result = (next value (run files).files).result := by
  rw [bind_of_ok h]

theorem result_bind_of_error {run : Run α} {files : FileTree} {error : CommandError}
    (h : (run files).result = .error error) (next : α → Run β) :
    ((run >>= next) files).result = .error error := by
  rw [bind_of_error h]

theorem result_bind_eq_error {run : Run α} {next : α → Run β} {files : FileTree}
    {error : CommandError} (h : ((run >>= next) files).result = .error error) :
    (run files).result = .error error ∨
      ∃ value, (run files).result = .ok value ∧
        (next value (run files).files).result = .error error := by
  cases first : (run files).result with
  | error fault =>
    rw [result_bind_of_error first] at h
    exact .inl (congrArg _ (Except.error.inj h))
  | ok value => rw [result_bind_of_ok first] at h; exact .inr ⟨value, rfl, h⟩

theorem result_bind_eq_ok {run : Run α} {next : α → Run β} {files : FileTree} {value : β}
    (h : ((run >>= next) files).result = .ok value) :
    ∃ first, (run files).result = .ok first ∧
      (next first (run files).files).result = .ok value := by
  cases first : (run files).result with
  | error fault =>
    rw [result_bind_of_error first] at h
    contradiction
  | ok between =>
    rw [result_bind_of_ok first] at h
    exact ⟨between, rfl, h⟩

theorem bind_done (run : Run α) : run >>= done = run := by
  funext files
  cases first : (run files).result with
  | error error => rw [bind_of_error first, ← first]
  | ok value => rw [bind_of_ok first, done, List.append_nil, ← first]

theorem bind_bind (run : Run α) (next : α → Run β) (last : β → Run γ) :
    run >>= next >>= last = run >>= fun value => next value >>= last := by
  funext files
  cases first : (run files).result with
  | error error =>
    rw [bind_of_error (result_bind_of_error first next), bind_of_error first, bind_of_error first]
  | ok value =>
    have both := result_bind_of_ok first next
    rw [bind_of_ok first]
    cases second : (next value (run files).files).result with
    | error error =>
      rw [bind_of_error (both.trans second), bind_of_error second, bind_of_ok first]
    | ok between =>
      rw [bind_of_ok (both.trans second), bind_of_ok second, bind_of_ok first, List.append_assoc]

instance : LawfulMonad Run :=
  .mk' Run bind_done (fun _ _ => rfl) bind_bind

def KeepsFiles (run : Run α) : Prop :=
  ∀ files, (run files).files = files

def Succeeds (run : Run α) : Prop :=
  ∀ files, ∃ value, (run files).result = .ok value

def Silent (run : Run α) : Prop :=
  ∀ files, printedLines (run files).events = []

namespace KeepsFiles

theorem pure (value : α) : KeepsFiles (Pure.pure value : Run α) := fun _ => rfl

theorem bind {run : Run α} {next : α → Run β} (hrun : KeepsFiles run)
    (hnext : ∀ value, KeepsFiles (next value)) : KeepsFiles (run >>= next) := by
  intro files
  cases first : (run files).result with
  | error error => rw [bind_of_error first]; exact hrun files
  | ok value => rw [bind_of_ok first]; exact (hnext value _).trans (hrun files)

theorem result_bind {run : Run α} (keeps : KeepsFiles run) (next : α → Run β) (files : FileTree) :
    ((run >>= next) files).result =
      (run files).result.bind fun value => (next value files).result := by
  cases first : (run files).result with
  | error error => exact result_bind_of_error first next
  | ok value =>
    rw [result_bind_of_ok first, keeps files]
    rfl

theorem files : KeepsFiles Run.files := fun _ => rfl

theorem event (event : Event) : KeepsFiles (Run.event event) := fun _ => rfl

theorem ofExcept {ε : Type} (describe : ε → CommandError) (result : Except ε α) :
    KeepsFiles (Run.ofExcept describe result) := by
  intro files
  cases result <;> rfl

end KeepsFiles

namespace Succeeds

theorem pure (value : α) : Succeeds (Pure.pure value : Run α) := fun _ => ⟨value, rfl⟩

theorem bind {run : Run α} {next : α → Run β} (hrun : Succeeds run)
    (hnext : ∀ value, Succeeds (next value)) : Succeeds (run >>= next) := by
  intro files
  obtain ⟨value, hvalue⟩ := hrun files
  rw [result_bind_of_ok hvalue]
  exact hnext value _

theorem event (event : Event) : Succeeds (Run.event event) := fun _ => ⟨(), rfl⟩

/-- What comes after a run that never fails decides how both end. -/
theorem result_bind {run : Run α} {next : α → Run β} {result : Except CommandError β}
    (hrun : Succeeds run) (hnext : ∀ value files, (next value files).result = result)
    (files : FileTree) : ((run >>= next) files).result = result := by
  obtain ⟨value, hvalue⟩ := hrun files
  rw [result_bind_of_ok hvalue]
  exact hnext value _

end Succeeds

theorem printedLines_append (first second : List Event) :
    printedLines (first ++ second) = printedLines first ++ printedLines second :=
  List.filterMap_append

namespace Silent

theorem pure (value : α) : Silent (Pure.pure value : Run α) := fun _ => rfl

theorem bind {run : Run α} {next : α → Run β} (hrun : Silent run)
    (hnext : ∀ value, Silent (next value)) : Silent (run >>= next) := by
  intro files
  cases first : (run files).result with
  | error error => rw [bind_of_error first]; exact hrun files
  | ok value => rw [bind_of_ok first, printedLines_append, hrun files, hnext value]; rfl

theorem files : Silent Run.files := fun _ => rfl

theorem note (text : String) : Silent (Run.note text) := fun _ => rfl

theorem warn (text : String) : Silent (Run.warn text) := fun _ => rfl

theorem ofExcept {ε : Type} (describe : ε → CommandError) (result : Except ε α) :
    Silent (Run.ofExcept describe result) := by
  intro files
  cases result <;> rfl

end Silent

/-- A part of a run that tells only of events of one kind. -/
def Tells (kind : Event → Prop) (run : Run α) : Prop :=
  ∀ files, ∀ event ∈ (run files).events, kind event

namespace Tells

variable {kind : Event → Prop}

theorem pure (value : α) : Tells kind (Pure.pure value : Run α) :=
  fun _ _ mem => absurd mem List.not_mem_nil

theorem bind {run : Run α} {next : α → Run β} (hrun : Tells kind run)
    (hnext : ∀ value, Tells kind (next value)) : Tells kind (run >>= next) := by
  intro files event mem
  cases first : (run files).result with
  | error error =>
    rw [bind_of_error first] at mem
    exact hrun files event mem
  | ok value =>
    rw [bind_of_ok first] at mem
    rcases List.mem_append.1 mem with early | late
    · exact hrun files event early
    · exact hnext value _ event late

theorem files : Tells kind Run.files :=
  fun _ _ mem => absurd mem List.not_mem_nil

theorem event {event : Event} (h : kind event) : Tells kind (Run.event event) :=
  fun _ _ mem => List.mem_singleton.1 mem ▸ h

theorem ofExcept {ε : Type} (describe : ε → CommandError) (result : Except ε α) :
    Tells kind (Run.ofExcept describe result) := by
  intro files event mem
  cases result <;> cases mem

theorem mono {other : Event → Prop} {run : Run α} (h : Tells kind run)
    (weaker : ∀ event, kind event → other event) : Tells other run :=
  fun files event mem => weaker event (h files event mem)

end Tells

/-- A part of a run that tells no more than details on its way. -/
def Notes (run : Run α) : Prop :=
  Tells (fun event => ∃ text, event = .noted text) run

theorem Notes.note (text : String) : Notes (Run.note text) :=
  Tells.event ⟨text, rfl⟩

theorem Notes.silent {run : Run α} (h : Notes run) : Silent run := by
  intro files
  apply List.filterMap_eq_nil_iff.2
  intro event mem
  obtain ⟨text, rfl⟩ := h files event mem
  rfl

/-- A run that ends with an error and has printed nothing by then. -/
def FailsSilently (run : Run α) (files : FileTree) (error : CommandError) : Prop :=
  (run files).result = .error error ∧ printedLines (run files).events = []

namespace FailsSilently

variable {run : Run α} {next : α → Run β} {files : FileTree} {error : CommandError}

theorem first (silent : Silent run) (h : (run files).result = .error error) :
    FailsSilently (run >>= next) files error :=
  ⟨result_bind_of_error h next, by rw [bind_of_error h]; exact silent files⟩

theorem second {value : α} (silent : Silent run) (h : (run files).result = .ok value)
    (hnext : FailsSilently (next value) (run files).files error) :
    FailsSilently (run >>= next) files error := by
  refine ⟨(result_bind_of_ok h next).trans hnext.1, ?_⟩
  rw [bind_of_ok h, printedLines_append, silent files]
  exact hnext.2

end FailsSilently

/-- How a run ends, and what it has printed by then. -/
def Ends (run : Run α) (files : FileTree) (printed : List String)
    (result : Except CommandError α) : Prop :=
  (run files).result = result ∧ printedLines (run files).events = printed

theorem Ends.after {run : Run α} {next : α → Run β} {files : FileTree} {value : α}
    {printed : List String} {result : Except CommandError β} (silent : Silent run)
    (h : (run files).result = .ok value)
    (hnext : Ends (next value) (run files).files printed result) :
    Ends (run >>= next) files printed result := by
  constructor
  · rw [result_bind_of_ok h]
    exact hnext.1
  · rw [bind_of_ok h, printedLines_append, silent files]
    exact hnext.2

/-- How a run ends, and what the files are then. -/
def Leaves (run : Run α) (files : FileTree) (result : Except CommandError α)
    (after : FileTree) : Prop :=
  (run files).result = result ∧ (run files).files = after

namespace Leaves

variable {run : Run α} {next : α → Run β} {files between after : FileTree} {value : α}
  {result : Except CommandError β} {error : CommandError}

theorem bind (hrun : Leaves run files (.ok value) between)
    (hnext : Leaves (next value) between result after) :
    Leaves (run >>= next) files result after := by
  obtain ⟨first, rfl⟩ := hrun
  constructor
  · rw [result_bind_of_ok first]
    exact hnext.1
  · rw [bind_of_ok first]
    exact hnext.2

theorem fails (hrun : Leaves run files (.error error) after) (next : α → Run β) :
    Leaves (run >>= next) files (.error error) after := by
  rw [Leaves, bind_of_error hrun.1]
  exact ⟨rfl, hrun.2⟩

end Leaves

theorem KeepsFiles.leaves {run : Run α} (keeps : KeepsFiles run) {files : FileTree}
    {result : Except CommandError α} (h : (run files).result = result) :
    Leaves run files result files :=
  ⟨h, keeps files⟩

theorem result_ofExcept {ε : Type} (describe : ε → CommandError) (result : Except ε α)
    (files : FileTree) : (ofExcept describe result files).result = result.mapError describe := by
  cases result <;> rfl

theorem leaves_of_ok {ε : Type} {result : Except ε α} {value : α} (h : result = .ok value)
    (describe : ε → CommandError) (files : FileTree) :
    Leaves (ofExcept describe result) files (.ok value) files := by
  subst h
  exact ⟨rfl, rfl⟩

theorem leaves_of_error {ε : Type} {result : Except ε α} {error : ε} (h : result = .error error)
    (describe : ε → CommandError) (files : FileTree) :
    Leaves (ofExcept describe result) files (.error (describe error)) files := by
  subst h
  exact ⟨rfl, rfl⟩

theorem leaves_change {ε : Type} {change : FileTree → FileTree × Except ε Unit}
    {files after : FileTree} {result : Except ε Unit} (h : change files = (after, result))
    (describe : ε → CommandError) :
    Leaves (Run.change describe change) files (result.mapError describe) after := by
  unfold Leaves Run.change
  rw [h]
  exact ⟨rfl, rfl⟩

theorem exists_of_result_ofExcept_eq_error {ε : Type} {describe : ε → CommandError}
    {result : Except ε α} {files : FileTree} {error : CommandError}
    (h : (ofExcept describe result files).result = .error error) :
    ∃ fault, result = .error fault ∧ describe fault = error := by
  cases result with
  | error fault => exact ⟨fault, rfl, Except.error.inj h⟩
  | ok value => cases h

theorem eq_ok_of_result_ofExcept {ε : Type} {describe : ε → CommandError} {result : Except ε α}
    {files : FileTree} {value : α} (h : (ofExcept describe result files).result = .ok value) :
    result = .ok value := by
  cases result with
  | error fault => cases h
  | ok other => cases h; rfl

end LabelQuery.Run
