import LabelQuery.FileTree
import LabelQuery.Proofs.Text.Lines

/-!
What a written file leaves in a tree. Main statement: where something could be written, what was
written is found, and writing there again needs no new directory.
-/
namespace LabelQuery

namespace FileTree

open Text

/-- Steps without a slash, as those of a path are. -/
def Plain (steps : List String) : Prop :=
  ∀ step ∈ steps, '/' ∉ step.toList

theorem plain_steps (path : String) : Plain (steps path) := by
  have parts : Plain (((cutAt '/' path.toList).map String.ofList).filter (· ≠ "")) := by
    intro step mem
    obtain ⟨piece, cut, rfl⟩ := List.mem_map.1 (List.mem_filter.1 mem).1
    simpa using notMem_of_mem_cutAt cut
  unfold steps
  dsimp only
  split
  · exact List.forall_mem_cons.2 ⟨by simp, parts⟩
  · exact parts

theorem Plain.stepInto {done : List String} {step : String} (plain : Plain done)
    (plainStep : '/' ∉ step.toList) : Plain (stepInto done step) := by
  have further : Plain (done ++ [step]) := by
    intro other mem
    rcases List.mem_append.1 mem with mem | mem
    · exact plain other mem
    · rwa [List.mem_singleton.1 mem]
  unfold FileTree.stepInto
  split
  · exact further
  · split
    · exact further
    · split
      · exact plain
      · exact fun other mem => plain other (List.dropLast_subset done mem)

theorem cutAt_key {steps : List String} (plain : Plain steps) (nonempty : steps ≠ []) :
    cutAt '/' (key steps).toList = steps.map String.toList := by
  induction steps with
  | nil => contradiction
  | cons step rest ih =>
    obtain ⟨first, later⟩ := List.forall_mem_cons.1 plain
    cases rest with
    | nil => exact cutAt_of_notMem first
    | cons other others =>
      have text : (key (step :: other :: others)).toList =
          step.toList ++ '/' :: (key (other :: others)).toList := by
        simp [key, joined]
      rw [text, cutAt_append, cutAt_of_notMem first, ih later (by simp)]
      rfl

/-- The working directory and the root share a key; other steps are told apart by theirs. -/
theorem key_inj {first second : List String} (hfirst : Plain first) (hsecond : Plain second)
    (same : key first = key second) :
    first = second ∨ (first = [] ∨ first = [""]) ∧ (second = [] ∨ second = [""]) := by
  have ofEmpty {steps : List String} (plain : Plain steps) (empty : key steps = "") :
      steps = [] ∨ steps = [""] := by
    by_cases nonempty : steps = []
    · exact .inl nonempty
    · right
      have cut := cutAt_key plain nonempty
      rw [empty] at cut
      have pieces : steps.map String.toList = [[]] := cut.symm
      obtain ⟨step, rfl, text⟩ := List.map_eq_singleton_iff.1 pieces
      rw [String.toList_eq_nil_iff.1 text]
  -- cut at slashes a key gives its steps back, but for no steps it gives one that is empty
  by_cases none : first = []
  · have empty : key second = "" := by rw [← same, none]; rfl
    exact .inr ⟨.inl none, ofEmpty hsecond empty⟩
  · by_cases none' : second = []
    · have empty : key first = "" := by rw [same, none']; rfl
      exact .inr ⟨ofEmpty hfirst empty, .inl none'⟩
    · left
      have cut := cutAt_key hfirst none
      rw [same, cutAt_key hsecond none'] at cut
      exact ((List.map_inj_right fun _ _ => String.toList_inj.1).1 cut).symm

theorem isDirectory_congr {tree : FileTree} {first second : List String} (hfirst : Plain first)
    (hsecond : Plain second) (same : key first = key second) :
    tree.isDirectory first = tree.isDirectory second := by
  rcases key_inj hfirst hsecond same with rfl | ⟨rfl | rfl, rfl | rfl⟩ <;> simp [isDirectory]

/-- No file lies where a directory is. -/
def Sound (tree : FileTree) : Prop :=
  ∀ steps, Plain steps → tree.isDirectory steps = true → tree.files.get? (key steps) = none

/-- The tree with a file of some content under a key. -/
def withFile (tree : FileTree) (key : String) (content : ByteArray) : FileTree :=
  { tree with files := tree.files.insert key content }

theorem isDirectory_withFile (tree : FileTree) (key : String) (content : ByteArray)
    (steps : List String) :
    (tree.withFile key content).isDirectory steps = tree.isDirectory steps :=
  rfl

theorem get?_withFile (tree : FileTree) (key other : String) (content : ByteArray) :
    (tree.withFile key content).files.get? other =
      if other = key then some content else tree.files.get? other :=
  Dict.get?_insert tree.files key other content

/-- A key that is no directory's. -/
def Apart (tree : FileTree) (last : String) : Prop :=
  ∀ steps, Plain steps → tree.isDirectory steps = true → tree.files.get? (key steps) = none →
    key steps ≠ last

theorem apart_withFile (tree : FileTree) (last : String) (content : ByteArray) :
    (tree.withFile last content).Apart last := by
  intro steps plain directory noFile same
  rw [get?_withFile, if_pos same] at noFile
  contradiction

theorem Sound.withFile {tree : FileTree} (sound : tree.Sound) {last : String}
    (apart : tree.Apart last) (content : ByteArray) : (tree.withFile last content).Sound := by
  intro steps plain directory
  have noFile := sound steps plain directory
  rw [get?_withFile, if_neg (apart steps plain directory noFile), noFile]

/-- Steps lead to a file, or to a place for one. -/
def Leads (tree : FileTree) (done steps : List String) (last : String) : Prop :=
  (∃ content, tree.follow done steps = .ok (.file last content)) ∨
    tree.follow done steps = .ok (.vacant last)

section Follow

variable {tree : FileTree} {done rest : List String} {step last : String}

theorem leads_nil : ¬tree.Leads done [] last := by
  rintro (⟨content, h⟩ | h) <;> simp [follow] at h

theorem leads_dot : tree.Leads done ("." :: rest) last ↔ tree.Leads done rest last := by
  unfold Leads
  rw [follow, if_pos rfl]

/-- One step of the way: it ends at a file or a place for one, or goes on from a directory. -/
theorem leads_step (notDot : step ≠ ".") (h : tree.Leads done (step :: rest) last) :
    step.utf8ByteSize ≤ stepLimit ∧
      ((rest = [] ∧ last = key (stepInto done step) ∧
          ((∃ content, tree.files.get? last = some content) ∨
            tree.files.get? last = none ∧ tree.isDirectory (stepInto done step) = false)) ∨
        tree.files.get? (key (stepInto done step)) = none ∧
          tree.isDirectory (stepInto done step) = true ∧
          tree.Leads (stepInto done step) rest last) := by
  unfold Leads at h
  rw [follow, if_neg notDot] at h
  by_cases long : stepLimit < step.utf8ByteSize
  · simp [long] at h
  refine ⟨Nat.le_of_not_lt long, ?_⟩
  simp only [long, if_false] at h
  cases hfile : tree.files.get? (key (stepInto done step)) with
  | some content =>
    simp only [hfile] at h
    cases rest with
    | nil =>
      rcases h with ⟨other, h⟩ | h
      · simp only [List.isEmpty_nil, if_true, Except.ok.injEq, Place.file.injEq] at h
        obtain ⟨rfl, rfl⟩ := h
        exact .inl ⟨rfl, rfl, .inl ⟨content, hfile⟩⟩
      · simp at h
    | cons other others => simp at h
  | none =>
    simp only [hfile] at h
    cases directory : tree.isDirectory (stepInto done step) with
    | true =>
      simp only [directory, if_true] at h
      exact .inr ⟨rfl, rfl, h⟩
    | false =>
      cases rest with
      | nil =>
        simp [directory] at h
        subst h
        exact .inl ⟨rfl, rfl, .inr ⟨hfile, rfl⟩⟩
      | cons other others => simp [directory] at h

theorem Leads.apart {steps : List String} (h : tree.Leads done steps last) (plain : Plain done)
    (plainSteps : Plain steps) : tree.Apart last := by
  induction steps generalizing done with
  | nil => exact absurd h leads_nil
  | cons step rest ih =>
    obtain ⟨plainStep, plainRest⟩ := List.forall_mem_cons.1 plainSteps
    by_cases dot : step = "."
    · subst dot
      exact ih (leads_dot.1 h) plain plainRest
    · obtain ⟨-, ⟨-, rfl, ⟨content, hfile⟩ | ⟨-, noDirectory⟩⟩ | ⟨-, -, goesOn⟩⟩ := leads_step dot h
      · intro steps _ _ noFile same
        rw [same, hfile] at noFile
        contradiction
      · intro steps plainOther directory _ same
        rw [isDirectory_congr plainOther (plain.stepInto plainStep) same, noDirectory] at directory
        contradiction
      · exact ih goesOn (plain.stepInto plainStep) plainRest

/-- A file that is written stands at the end of the steps that led to its place. -/
theorem Leads.follow_withFile {steps : List String} (h : tree.Leads done steps last)
    (apart : tree.Apart last) (plain : Plain done) (plainSteps : Plain steps)
    (content : ByteArray) :
    (tree.withFile last content).follow done steps = .ok (.file last content) := by
  -- the new file could only be met on the way, where it would be in the way; it is not, as the
  -- steps before the last lead through directories
  induction steps generalizing done with
  | nil => exact absurd h leads_nil
  | cons step rest ih =>
    obtain ⟨plainStep, plainRest⟩ := List.forall_mem_cons.1 plainSteps
    by_cases dot : step = "."
    · subst dot
      rw [follow, if_pos rfl]
      exact ih (leads_dot.1 h) plain plainRest
    · obtain ⟨fits, ⟨rfl, rfl, -⟩ | ⟨noFile, directory, goesOn⟩⟩ := leads_step dot h
      · rw [follow, if_neg dot, if_neg (Nat.not_lt.2 fits)]
        simp [get?_withFile]
      · have other := apart _ (plain.stepInto plainStep) directory noFile
        rw [follow, if_neg dot, if_neg (Nat.not_lt.2 fits)]
        simp only [get?_withFile, if_neg other, noFile, isDirectory_withFile, directory, if_true]
        exact ih goesOn (plain.stepInto plainStep) plainRest

/-- Each beginning of some steps is a directory. -/
def Rooted (tree : FileTree) (done : List String) : Prop :=
  ∀ first, first <+: done → tree.isDirectory first = true

theorem Rooted.further (rooted : tree.Rooted done)
    (directory : tree.isDirectory (done ++ [step]) = true) :
    tree.Rooted (done ++ [step]) := by
  intro first begins
  rcases List.prefix_concat_iff.1 begins with rfl | within
  · exact directory
  · exact rooted first within

/-- A double dot never leads out of the directories. -/
theorem Rooted.back (rooted : tree.Rooted done) : tree.Rooted (stepInto done "..") := by
  unfold stepInto
  rw [if_neg (by simp)]
  split
  · next above =>
    refine rooted.further ?_
    simp only [isDirectory, List.all_append, above]
    simp
  · split
    · exact rooted
    · exact fun first begins => rooted first (begins.trans (List.dropLast_prefix done))

/-- Dots at the end of a path lead to a directory. -/
theorem not_leads_of_dots (sound : tree.Sound) {steps : List String} (rooted : tree.Rooted done)
    (plain : Plain done) (plainSteps : Plain steps)
    (dots : steps.getLast? = some "." ∨ steps.getLast? = some "..") :
    ¬tree.Leads done steps last := by
  induction steps generalizing done with
  | nil => simp at dots
  | cons step rest ih =>
    obtain ⟨plainStep, plainRest⟩ := List.forall_mem_cons.1 plainSteps
    intro h
    by_cases dot : step = "."
    · subst dot
      have goesOn := leads_dot.1 h
      cases rest with
      | nil => exact leads_nil goesOn
      | cons other others =>
        exact ih rooted plain plainRest (by simpa using dots) goesOn
    · obtain ⟨-, ⟨rfl, rfl, ends⟩ | ⟨-, directory, goesOn⟩⟩ := leads_step dot h
      · have double : step = ".." := by simpa [dot] using dots
        subst double
        have directory : tree.isDirectory (stepInto done "..") = true :=
          rooted.back _ (List.prefix_refl _)
        have noFile := sound _ (plain.stepInto plainStep) directory
        rcases ends with ⟨content, hfile⟩ | ⟨-, noDirectory⟩
        · rw [hfile] at noFile
          contradiction
        · rw [directory] at noDirectory
          contradiction
      · cases rest with
        | nil => exact leads_nil goesOn
        | cons other others =>
          refine ih ?_ (plain.stepInto plainStep) plainRest (by simpa using dots) goesOn
          by_cases double : step = ".."
          · rw [double]
            exact rooted.back
          · have forward : stepInto done step = done ++ [step] := if_pos double
            rw [forward] at directory ⊢
            exact rooted.further directory

end Follow

section Place

variable {tree : FileTree} {path last : String}

theorem destination_eq_ok :
    tree.destination path = .ok last ↔
      pathFault? path = none ∧ namesDirectory path = false ∧ tree.Leads [] (steps path) last := by
  unfold destination Leads
  cases pathFault? path with
  | some fault => simp
  | none =>
    cases namesDirectory path with
    | true =>
      simp only [if_true]
      cases tree.follow [] (steps path).dropLast with
      | error fault => simp
      | ok place => cases place <;> simp
    | false =>
      simp only [Bool.false_eq_true, if_false]
      cases tree.follow [] (steps path) with
      | error fault => simp
      | ok place => cases place <;> simp

theorem rooted_nil (tree : FileTree) : tree.Rooted [] := by
  intro first begins
  rw [List.prefix_nil.1 begins]
  rfl

theorem steps_getLast? (path : String) :
    steps path = [""] ∨ (steps path).getLast? ≠ some "" := by
  have parts : "" ∉ ((cutAt '/' path.toList).map String.ofList).filter (· ≠ "") := by simp
  unfold steps
  dsimp only
  generalize ((cutAt '/' path.toList).map String.ofList).filter (· ≠ "") = rest at parts
  have other : rest.getLast? ≠ some "" := fun last => parts (List.mem_of_getLast? last)
  split
  · cases rest with
    | nil => exact .inl rfl
    | cons part others => exact .inr (by simpa using other)
  · exact .inr other

/-- A file cannot be written where the path ends in a slash. -/
theorem endsInSlash_of_destination (sound : tree.Sound) (h : tree.destination path = .ok last) :
    endsInSlash path = false := by
  obtain ⟨-, noDirectory, leads⟩ := destination_eq_ok.1 h
  cases ends : endsInSlash path with
  | false => rfl
  | true =>
    exfalso
    simp only [namesDirectory, ends, Bool.true_and] at noDirectory
    rcases steps_getLast? path with root | notRoot
    · rw [root] at leads
      obtain ⟨-, ⟨-, rfl, hfile | ⟨-, notThere⟩⟩ | ⟨-, -, goesOn⟩⟩ := leads_step (by decide) leads
      · obtain ⟨content, hfile⟩ := hfile
        have noFile := sound [""] (by simp [Plain]) rfl
        rw [show stepInto [] "" = [""] from rfl, noFile] at hfile
        contradiction
      · exact absurd notThere (by simp [isDirectory, stepInto])
      · exact leads_nil goesOn
    · cases hlast : (steps path).getLast? with
      | none =>
        rw [List.getLast?_eq_none_iff.1 hlast] at leads
        exact leads_nil leads
      | some step =>
        rw [hlast] at noDirectory notRoot
        have dots : step = "." ∨ step = ".." := by
          have named : step ≠ "" := fun empty => notRoot (congrArg some empty)
          by_cases dot : step = "."
          · exact .inl dot
          · exact .inr (by simpa [named, dot] using noDirectory)
        refine not_leads_of_dots sound (rooted_nil tree) (by simp [Plain]) (plain_steps path) ?_
          leads
        rcases dots with rfl | rfl
        · exact .inl hlast
        · exact .inr hlast

/-- Names lead through directories that are there. -/
inductive Open (tree : FileTree) : List String → List String → Prop
  | nil {done : List String} : Open tree done []
  | cons {done rest : List String} {name : String} : name.utf8ByteSize ≤ stepLimit →
      tree.files.get? (key (stepInto done name)) = none →
      tree.isDirectory (stepInto done name) = true → Open tree (stepInto done name) rest →
      Open tree done (name :: rest)

theorem makeDirectories_of_open {made : Bool} {done names : List String}
    (h : tree.Open done names) :
    makeDirectories made tree done names = (tree, .ok ()) := by
  induction h with
  | nil => rfl
  | @cons done rest name fits noFile directory _ ih =>
    have vacant : tree.files.contains (key (stepInto done name)) = false := by
      simp [Dict.contains, noFile]
    rw [makeDirectories, if_neg (Nat.not_lt.2 fits)]
    simp only [vacant, directory, Bool.false_eq_true, if_false, if_true]
    exact ih

theorem Open.withFile {done names : List String} (h : tree.Open done names) (plain : Plain done)
    (plainNames : Plain names) (apart : tree.Apart last) (content : ByteArray) :
    (tree.withFile last content).Open done names := by
  induction h with
  | nil => exact .nil
  | cons fits noFile directory _ ih =>
    obtain ⟨plainName, plainRest⟩ := List.forall_mem_cons.1 plainNames
    have other := apart _ (plain.stepInto plainName) directory noFile
    have vacant := (get?_withFile tree last _ content).trans (if_neg other)
    exact .cons fits (vacant.trans noFile) directory (ih (plain.stepInto plainName) plainRest)

/-- The tree with one more directory. -/
def withDirectory (tree : FileTree) (key : String) : FileTree :=
  { tree with directories := tree.directories.insert key () }

theorem isDirectory_withDirectory (tree : FileTree) (made : String) (steps : List String) :
    (tree.withDirectory made).isDirectory steps =
      (tree.isDirectory steps || decide (key steps = made)) := by
  simp only [withDirectory, isDirectory, Dict.contains, Dict.get?_insert]
  by_cases same : key steps = made <;> simp [same]

/-- What is there stays there: directories, and files with any content. -/
structure Grows (tree after : FileTree) : Prop where
  directories : ∀ steps, tree.isDirectory steps = true → after.isDirectory steps = true
  files : ∀ key content, tree.files.get? key = some content →
    ∃ other, after.files.get? key = some other

section Grows

variable {between after : FileTree}

theorem Grows.refl (tree : FileTree) : tree.Grows tree where
  directories _ := id
  files _ content there := ⟨content, there⟩

theorem Grows.trans (first : tree.Grows between) (second : between.Grows after) :
    tree.Grows after where
  directories steps there := second.directories steps (first.directories steps there)
  files key content there := by
    obtain ⟨other, there⟩ := first.files key content there
    exact second.files key other there

theorem grows_withFile (tree : FileTree) (last : String) (content : ByteArray) :
    tree.Grows (tree.withFile last content) where
  directories _ := id
  files key other there := by
    rw [get?_withFile]
    split
    · exact ⟨content, rfl⟩
    · exact ⟨other, there⟩

theorem grows_withDirectory (tree : FileTree) (made : String) :
    tree.Grows (tree.withDirectory made) where
  directories steps there := by simp [isDirectory_withDirectory, there]
  files _ content there := ⟨content, there⟩

theorem Sound.withDirectory (sound : tree.Sound) {made : String}
    (noFile : tree.files.get? made = none) : (tree.withDirectory made).Sound := by
  intro steps plain there
  rw [isDirectory_withDirectory, Bool.or_eq_true, decide_eq_true_eq] at there
  rcases there with there | same
  · exact sound steps plain there
  · rw [same]
    exact noFile

/-- Directories that are made, as far as that goes, leave the files as they are. -/
theorem makeDirectories_grows (made : Bool) (tree : FileTree) (done names : List String) :
    let opened := (makeDirectories made tree done names).1
    opened.files = tree.files ∧ tree.Grows opened ∧ (tree.Sound → opened.Sound) := by
  induction names generalizing made tree done with
  | nil => exact ⟨rfl, .refl tree, id⟩
  | cons name rest ih =>
    rw [makeDirectories]
    dsimp only
    split
    · exact ⟨rfl, .refl tree, id⟩
    · split
      · exact ⟨rfl, .refl tree, id⟩
      · next noFile =>
        split
        · exact ih made tree (stepInto done name)
        · have noFile : tree.files.get? (key (stepInto done name)) = none := by
            simpa [Dict.contains] using noFile
          have here := grows_withDirectory tree (key (stepInto done name))
          obtain ⟨files, grows, sound⟩ :=
            ih true (tree.withDirectory (key (stepInto done name))) (stepInto done name)
          exact ⟨files, here.trans grows, fun before => sound (before.withDirectory noFile)⟩

theorem makeParents_grows (tree : FileTree) (path : String) :
    let opened := (tree.makeParents path).1
    opened.files = tree.files ∧ tree.Grows opened ∧ (tree.Sound → opened.Sound) := by
  unfold makeParents
  dsimp only
  split
  · exact ⟨rfl, .refl tree, id⟩
  · split
    · exact ⟨rfl, .refl tree, id⟩
    · exact makeDirectories_grows false tree [] (names (parent path))

end Grows

/-- Making directories opens the way. -/
theorem open_of_makeDirectories {made : Bool} {done names : List String} {opened : FileTree}
    (h : makeDirectories made tree done names = (opened, .ok ())) : opened.Open done names := by
  induction names generalizing tree made done with
  | nil => exact .nil
  | cons name rest ih =>
    have grown := makeDirectories_grows made tree done (name :: rest)
    rw [h] at grown
    obtain ⟨files, grows, -⟩ := grown
    rw [makeDirectories] at h
    dsimp only at h
    split at h
    · cases h
    · next fits =>
      split at h
      · cases h
      · next noFile =>
        have noFile : opened.files.get? (key (stepInto done name)) = none := by
          rw [files]
          simpa [Dict.contains] using noFile
        split at h
        · next directory =>
          exact .cons (Nat.le_of_not_lt fits) noFile (grows.directories _ directory) (ih h)
        · have later := makeDirectories_grows true
            (tree.withDirectory (key (stepInto done name))) (stepInto done name) rest
          have same : (makeDirectories true (tree.withDirectory (key (stepInto done name)))
              (stepInto done name) rest).1 = opened := congrArg Prod.fst h
          have here : opened.isDirectory (stepInto done name) = true := by
            rw [← same]
            exact later.2.1.directories _ (by simp [isDirectory_withDirectory])
          exact .cons (Nat.le_of_not_lt fits) noFile here (ih h)

/-- A file of some content stands at a path, in directories that are there. -/
structure Stands (tree : FileTree) (path last : String) (content : ByteArray) : Prop where
  sound : tree.Sound
  apart : tree.Apart last
  opened : tree.makeParents path = (tree, .ok ())
  leads : tree.destination path = .ok last
  located : tree.locate path = .ok (.file last content)

theorem makeParents_eq_ok {opened : FileTree} :
    tree.makeParents path = (opened, .ok ()) ↔
      parent path = "" ∧ opened = tree ∨
        parent path ≠ "" ∧ pathFault? (parent path) = none ∧
          makeDirectories false tree [] (names (parent path)) = (opened, .ok ()) := by
  unfold makeParents
  generalize parent path = above
  by_cases working : above = ""
  · simp [working, eq_comm]
  · cases fault : pathFault? above <;> simp [working, fault]

/-- Once the parents were made, they are there. -/
theorem opened_of_makeParents {opened : FileTree} (h : tree.makeParents path = (opened, .ok ())) :
    opened.files = tree.files ∧ opened.makeParents path = (opened, .ok ()) ∧
      (tree.Sound → opened.Sound) := by
  have grown := makeParents_grows tree path
  rw [h] at grown
  obtain ⟨files, -, sound⟩ := grown
  refine ⟨files, ?_, sound⟩
  rcases makeParents_eq_ok.1 h with ⟨working, rfl⟩ | ⟨named, wellFormed, makes⟩
  · exact h
  · have way := open_of_makeDirectories makes
    exact makeParents_eq_ok.2 (.inr ⟨named, wellFormed, makeDirectories_of_open way⟩)

/-- What is written at a path is found there. -/
theorem locate_withFile (sound : tree.Sound) (h : tree.destination path = .ok last)
    (content : ByteArray) :
    (tree.withFile last content).locate path = .ok (.file last content) := by
  obtain ⟨wellFormed, -, leads⟩ := destination_eq_ok.1 h
  have apart : tree.Apart last := leads.apart (by simp [Plain]) (plain_steps path)
  have follows : (tree.withFile last content).follow [] (steps path) = .ok (.file last content) :=
    leads.follow_withFile apart (by simp [Plain]) (plain_steps path) content
  rw [locate, wellFormed]
  simp only [follows, endsInSlash_of_destination sound h, Bool.false_eq_true, if_false]

/-- Where the parents are there and the path leads to a place for a file, what is written stands. -/
theorem stands_withFile (sound : tree.Sound) (opened : tree.makeParents path = (tree, .ok ()))
    (h : tree.destination path = .ok last) (content : ByteArray) :
    (tree.withFile last content).Stands path last content := by
  obtain ⟨wellFormed, noDirectory, leads⟩ := destination_eq_ok.1 h
  have apart : tree.Apart last := leads.apart (by simp [Plain]) (plain_steps path)
  have follows : (tree.withFile last content).follow [] (steps path) = .ok (.file last content) :=
    leads.follow_withFile apart (by simp [Plain]) (plain_steps path) content
  refine ⟨sound.withFile apart content, apart_withFile tree last content, ?_, ?_,
    locate_withFile sound h content⟩
  · rcases makeParents_eq_ok.1 opened with ⟨working, -⟩ | ⟨named, wellFormed, makes⟩
    · exact makeParents_eq_ok.2 (.inl ⟨working, rfl⟩)
    · have way := open_of_makeDirectories makes
      have plainNames : Plain (names (parent path)) := fun step mem =>
        plain_steps _ step (List.mem_filter.1 mem).1
      have still := way.withFile (by simp [Plain]) plainNames apart content
      exact makeParents_eq_ok.2 (.inr ⟨named, wellFormed, makeDirectories_of_open still⟩)
  · exact destination_eq_ok.2 ⟨wellFormed, noDirectory, .inl ⟨content, follows⟩⟩

/-- What was written at a path stands there, and nothing else has changed among the files. -/
theorem stands_of_place (sound : tree.Sound) {content : ByteArray} {written : FileTree}
    (h : tree.place path content = .ok written) :
    ∃ opened last, tree.makeParents path = (opened, .ok ()) ∧ opened.files = tree.files ∧
      opened.destination path = .ok last ∧ written = opened.withFile last content ∧
      ∀ other, (opened.withFile last other).Stands path last other := by
  unfold place at h
  split at h
  · contradiction
  · next opened makes =>
    obtain ⟨files, again, soundOpened⟩ := opened_of_makeParents makes
    cases destination : opened.destination path with
    | error fault =>
      rw [write, destination] at h
      contradiction
    | ok last =>
      rw [write, destination] at h
      cases h
      exact ⟨opened, last, makes, files, destination, rfl,
        stands_withFile (soundOpened sound) again destination⟩

/-- Whether a file can be written does not depend on what is written. -/
theorem place_again (sound : tree.Sound) {content : ByteArray} {written : FileTree}
    (h : tree.place path content = .ok written) (other : ByteArray) :
    ∃ again last, tree.place path other = .ok again ∧
      again.files = tree.files.insert last other ∧ again.Stands path last other := by
  obtain ⟨opened, last, makes, same, leads, -, stands⟩ := stands_of_place sound h
  refine ⟨opened.withFile last other, last, ?_, by rw [FileTree.withFile, same], stands other⟩
  rw [place, makes]
  simp only [write, leads]
  rfl

theorem Stands.withFile {content : ByteArray} (h : tree.Stands path last content)
    (other : ByteArray) : (tree.withFile last other).Stands path last other :=
  stands_withFile h.sound h.opened h.leads other

theorem Stands.place {content : ByteArray} (h : tree.Stands path last content)
    (other : ByteArray) : tree.place path other = .ok (tree.withFile last other) := by
  rw [FileTree.place, h.opened]
  simp only [write, h.leads]
  rfl

end Place

/-! ### Files that stay -/

section Stays

variable {tree after : FileTree} {done : List String} {path last : String} {content : ByteArray}

/-- One step of the way to a file that is there. -/
theorem follow_step {step : String} {rest : List String} (notDot : step ≠ ".")
    (h : tree.follow done (step :: rest) = .ok (.file last content)) :
    step.utf8ByteSize ≤ stepLimit ∧
      (rest = [] ∧ last = key (stepInto done step) ∧ tree.files.get? last = some content ∨
        tree.isDirectory (stepInto done step) = true ∧
          tree.follow (stepInto done step) rest = .ok (.file last content)) := by
  rw [follow, if_neg notDot] at h
  split at h
  · contradiction
  · next fits =>
    refine ⟨Nat.le_of_not_lt fits, ?_⟩
    dsimp only at h
    split at h
    · next there =>
      cases rest with
      | nil =>
        cases h
        exact .inl ⟨rfl, rfl, there⟩
      | cons => contradiction
    · split at h
      · next directory => exact .inr ⟨directory, h⟩
      · split at h <;> cases h

theorem follow_file {steps : List String} (h : tree.follow done steps = .ok (.file last content)) :
    tree.files.get? last = some content := by
  induction steps generalizing done with
  | nil => simp [follow] at h
  | cons step rest ih =>
    by_cases dot : step = "."
    · rw [follow, if_pos dot] at h
      exact ih h
    · obtain ⟨-, ⟨-, -, there⟩ | ⟨-, goesOn⟩⟩ := follow_step dot h
      · exact there
      · exact ih goesOn

theorem locate_eq_file : tree.locate path = .ok (.file last content) ↔
    pathFault? path = none ∧ endsInSlash path = false ∧
      tree.follow [] (steps path) = .ok (.file last content) := by
  unfold locate
  cases pathFault? path with
  | some fault => simp
  | none =>
    cases tree.follow [] (steps path) with
    | error fault => simp
    | ok place => cases place <;> cases endsInSlash path <;> simp

/-- A file that is found stays to be found: what leads to it stays a way of directories. -/
theorem Grows.follow (grows : tree.Grows after) (sound : after.Sound) {steps : List String}
    (plain : Plain done) (plainSteps : Plain steps)
    (h : tree.follow done steps = .ok (.file last content)) :
    ∃ other, after.follow done steps = .ok (.file last other) := by
  induction steps generalizing done with
  | nil => simp [FileTree.follow] at h
  | cons step rest ih =>
    obtain ⟨plainStep, plainRest⟩ := List.forall_mem_cons.1 plainSteps
    by_cases dot : step = "."
    · rw [FileTree.follow, if_pos dot] at h ⊢
      exact ih plain plainRest h
    · obtain ⟨fits, ⟨rfl, rfl, there⟩ | ⟨directory, goesOn⟩⟩ := follow_step dot h
      · obtain ⟨other, there⟩ := grows.files _ content there
        refine ⟨other, ?_⟩
        rw [FileTree.follow, if_neg dot, if_neg (Nat.not_lt.2 fits)]
        simp [there]
      · have here := grows.directories _ directory
        have noFile := sound _ (plain.stepInto plainStep) here
        rw [FileTree.follow, if_neg dot, if_neg (Nat.not_lt.2 fits)]
        simp only [noFile, here, if_true]
        exact ih (plain.stepInto plainStep) plainRest goesOn

theorem Grows.locate (grows : tree.Grows after) (sound : after.Sound)
    (h : tree.locate path = .ok (.file last content)) :
    ∃ other, after.locate path = .ok (.file last other) := by
  obtain ⟨wellFormed, noSlash, follows⟩ := locate_eq_file.1 h
  obtain ⟨other, follows⟩ := grows.follow sound (by simp [Plain]) (plain_steps path) follows
  exact ⟨other, locate_eq_file.2 ⟨wellFormed, noSlash, follows⟩⟩

theorem get?_of_locate (h : tree.locate path = .ok (.file last content)) :
    tree.files.get? last = some content :=
  follow_file (locate_eq_file.1 h).2.2

/-- A file written at a path leaves a tree with no file where a directory is. -/
theorem Sound.write (sound : tree.Sound) (h : tree.destination path = .ok last)
    (content : ByteArray) : (tree.withFile last content).Sound := by
  obtain ⟨-, -, leads⟩ := destination_eq_ok.1 h
  exact sound.withFile (leads.apart (by simp [Plain]) (plain_steps path)) content

end Stays

end FileTree

end LabelQuery
