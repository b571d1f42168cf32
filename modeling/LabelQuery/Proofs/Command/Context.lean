import LabelQuery.Proofs.Command.Labels
import LabelQuery.Proofs.Command.Response
import LabelQuery.Proofs.Command.Selection

/-!
The labels that a command line gives for a match. Main statement: a key has the value of the last label
with it, and otherwise an empty one if a flag names it, however labels and flags are mixed. So it does
not matter where a flag stands.
-/
namespace LabelQuery

/-- What a match takes besides the options of every command. -/
def matchForm : CommandForm :=
  leafForm [.label, .flag] 1

section Lines

variable {line rest : List String} {shared common own : Reading} {path : List String}
  {readings : List Reading} {options : Options} {argument : String} {labels : List (String × String)}
  {flags : List String}

theorem prefix_of_readParts {depth : Nat} {above : List String}
    (read : readParts depth above line = .ok (path, readings)) : above <+: path := by
  induction depth generalizing above line readings with
  | zero => contradiction
  | succ depth ih =>
    unfold readParts at read
    split at read
    · contradiction
    · obtain ⟨⟨reading, next⟩, -, read⟩ := bind_eq_ok.1 read
      dsimp only at read
      split at read
      · obtain ⟨_, -, read⟩ := bind_eq_ok.1 read
        cases read
        exact List.prefix_refl _
      · next name rest =>
        split at read
        · contradiction
        · obtain ⟨⟨below, parts⟩, deeper, read⟩ := bind_eq_ok.1 read
          obtain ⟨_, -, read⟩ := bind_eq_ok.1 read
          cases read
          exact (List.prefix_append above _).trans (ih deeper)

/-- The part of a match is there and asks for nothing that excludes other things. -/
def Reading.IsWhole (own : Reading) : Prop :=
  (own.has .json && own.has .noJson) = false ∧ (own.has .names && own.has .format) = false ∧
    ¬own.arguments.length < 1

theorem finish_match {reading : Reading} :
    reading.finish matchForm false = .ok own ↔ reading.settle = .ok own ∧ own.IsWhole := by
  have leaf : matchForm.subcommands.isEmpty = true := rfl
  have single : matchForm.arguments = 1 := rfl
  rw [Reading.finish, bind_eq_ok]
  simp only [leaf, single, Bool.not_true, Bool.false_and, Bool.false_eq_true, if_false]
  constructor
  · rintro ⟨settled, settles, passes⟩
    split_ifs at passes with excluded missing
    cases passes
    rw [Bool.or_eq_true, not_or, Bool.not_eq_true, Bool.not_eq_true] at excluded
    exact ⟨settles, excluded.1, excluded.2, missing⟩
  · rintro ⟨settles, noJson, noFormat, whole⟩
    refine ⟨own, settles, ?_⟩
    rw [noJson, noFormat, if_neg (by decide), if_neg whole]
    rfl

theorem readParts_own {depth : Nat} :
    readParts (depth + 1) ["match"] rest = .ok (path, readings) ↔
      ∃ own, Reading.Accepts matchForm {} false rest own ∧ own.IsWhole ∧
        path = ["match"] ∧ readings = [own] := by
  have form : formOf ["match"] = some matchForm := rfl
  unfold readParts
  simp only [form]
  constructor
  · intro read
    obtain ⟨⟨last, next⟩, words, read⟩ := bind_eq_ok.1 read
    cases Reading.none_of_words rfl words
    obtain ⟨own, finishes, read⟩ := bind_eq_ok.1 read
    cases read
    obtain ⟨settles, whole⟩ := finish_match.1 finishes
    exact ⟨own, ⟨last, words, settles⟩, whole, rfl, rfl⟩
  · rintro ⟨own, ⟨last, words, settles⟩, whole, rfl, rfl⟩
    have finishes : last.finish matchForm false = .ok own := finish_match.2 ⟨settles, whole⟩
    exact bind_eq_ok.2 ⟨(last, none), words, bind_eq_ok.2 ⟨own, finishes, rfl⟩⟩

theorem readParts_of_match
    (words : Reading.words programForm {} false line = .ok (shared, some ("match", rest))) :
    readParts 3 [] line = .ok (path, readings) ↔
      ∃ common own, shared.finish programForm true = .ok common ∧
        Reading.Accepts matchForm {} false rest own ∧ own.IsWhole ∧
        path = ["match"] ∧ readings = [common, own] := by
  have form : formOf [] = some programForm := rfl
  have command : ¬"match" = "help" := by decide
  unfold readParts
  simp only [form]
  constructor
  · intro read
    obtain ⟨_, words', read⟩ := bind_eq_ok.1 read
    cases words.symm.trans words'
    dsimp only at read
    rw [if_neg command] at read
    obtain ⟨⟨below, parts⟩, deeper, read⟩ := bind_eq_ok.1 read
    obtain ⟨common, finishes, read⟩ := bind_eq_ok.1 read
    cases read
    obtain ⟨own, accepts, whole, rfl, rfl⟩ := readParts_own.1 deeper
    exact ⟨common, own, finishes, accepts, whole, rfl, rfl⟩
  · rintro ⟨common, own, finishes, accepts, whole, rfl, rfl⟩
    have deeper : readParts 2 ([] ++ ["match"]) rest = .ok (["match"], [own]) :=
      readParts_own.2 ⟨own, accepts, whole, rfl, rfl⟩
    refine bind_eq_ok.2 ⟨_, words, ?_⟩
    dsimp only
    rw [if_neg command]
    exact bind_eq_ok.2 ⟨_, deeper, bind_eq_ok.2 ⟨common, finishes, rfl⟩⟩

theorem exists_words_match (read : readParts 3 [] line = .ok (["match"], readings)) :
    ∃ shared rest, Reading.words programForm {} false line = .ok (shared, some ("match", rest)) := by
  have form : formOf [] = some programForm := rfl
  unfold readParts at read
  simp only [form] at read
  obtain ⟨⟨shared, next⟩, words, read⟩ := bind_eq_ok.1 read
  dsimp only at read
  split at read
  · obtain ⟨_, -, read⟩ := bind_eq_ok.1 read
    cases read
  · next name rest =>
    split at read
    · contradiction
    · obtain ⟨⟨below, parts⟩, deeper, read⟩ := bind_eq_ok.1 read
      obtain ⟨common, finishes, read⟩ := bind_eq_ok.1 read
      cases read
      have named : name = "match" := by
        have begins := prefix_of_readParts deeper
        simpa using begins
      exact ⟨shared, rest, named ▸ words⟩

theorem ofReading?_decide {reading : Reading} :
    Command.ofReading? path reading = .ok (.decide argument labels flags) ↔
      path = ["match"] ∧ reading.arguments = [argument] ∧
        (reading.values .label).mapM readLabel = .ok labels ∧ reading.values .flag = flags := by
  constructor
  · intro read
    unfold Command.ofReading? at read
    split at read
    · next filter arguments =>
      obtain ⟨found, reads, read⟩ := bind_eq_ok.1 read
      cases read
      exact ⟨rfl, arguments, reads, rfl⟩
    all_goals cases read
  · rintro ⟨rfl, arguments, reads, rfl⟩
    unfold Command.ofReading?
    simp only [arguments]
    exact bind_eq_ok.2 ⟨labels, reads, rfl⟩

theorem exists_of_ofReading?_match {command : Command}
    (read : Command.ofReading? ["match"] own = .ok command) :
    ∃ argument labels, command = .decide argument labels (own.values .flag) := by
  unfold Command.ofReading? at read
  match known : own.arguments with
  | [] =>
    rw [known] at read
    contradiction
  | [argument] =>
    rw [known] at read
    obtain ⟨labels, -, read⟩ := bind_eq_ok.1 read
    cases read
    exact ⟨argument, labels, rfl⟩
  | _ :: _ :: _ =>
    rw [known] at read
    contradiction

/-- A line that is accepted as a match. -/
theorem parse_eq_ok :
    Invocation.parse line = .ok ⟨options, .decide argument labels flags⟩ ↔
      ∃ common own, readParts 3 [] line = .ok (["match"], [common, own]) ∧
        options = .ofReadings [common, own] ∧ own.arguments = [argument] ∧
        (own.values .label).mapM readLabel = .ok labels ∧ own.values .flag = flags := by
  constructor
  · intro parsed
    obtain ⟨⟨path, readings⟩, read, parsed⟩ := bind_eq_ok.1 parsed
    obtain ⟨command, known, parsed⟩ := bind_eq_ok.1 parsed
    cases parsed
    obtain ⟨rfl, arguments, reads, named⟩ := ofReading?_decide.1 known
    obtain ⟨shared, rest, words⟩ := exists_words_match read
    obtain ⟨common, own, -, -, -, -, rfl⟩ := (readParts_of_match words).1 read
    exact ⟨common, own, read, rfl, arguments, reads, named⟩
  · rintro ⟨common, own, read, rfl, arguments, reads, named⟩
    have known : Command.ofReading? ["match"] own = .ok (.decide argument labels flags) :=
      ofReading?_decide.2 ⟨rfl, arguments, reads, named⟩
    exact bind_eq_ok.2 ⟨(["match"], [common, own]), read, bind_eq_ok.2 ⟨_, known, rfl⟩⟩

end Lines

/-- A longer line has an option in addition: behind the name of the command, where no value is due, and
in front of any double dash. -/
inductive Inserts (name : OptionName) (value : String) : List String → List String → Prop
  | intro {front first second words : List String} {shared : Reading} :
      Reading.words programForm {} false front = .ok (shared, none) → shared.awaitsValue = false →
      "--" ∉ front →
      (∀ reading, Reading.words matchForm {} false first = .ok (reading, none) →
        reading.awaitsValue = false) →
      "--" ∉ first → Reading.Spells name value words →
      Inserts name value (front ++ "match" :: (first ++ second))
        (front ++ "match" :: (first ++ (words ++ second)))

section Insertion

variable {front first second rest words line longer : List String} {shared own other : Reading}
  {key argument : String} {options : Options} {labels : List (String × String)} {flags : List String}

theorem words_front (rest : List String)
    (read : Reading.words programForm {} false front = .ok (shared, none))
    (complete : shared.awaitsValue = false) (unescaped : "--" ∉ front) :
    Reading.words programForm {} false (front ++ "match" :: rest) = .ok (shared, some ("match", rest)) := by
  rw [Reading.words_append unescaped, read]
  simp [bind, Except.bind, Reading.words, complete, programForm]

/-- With and without a flag a part is accepted alike. -/
theorem accepts_inserted (complete : ∀ reading,
      Reading.words matchForm {} false first = .ok (reading, none) → reading.awaitsValue = false)
    (unescaped : "--" ∉ first) (spells : Reading.Spells .flag key words) :
    (∀ own, Reading.Accepts matchForm {} false (first ++ second) own →
      ∃ other, Reading.Accepts matchForm {} false (first ++ (words ++ second)) other ∧
        Reading.AddsFlag key own other) ∧
    (∀ other, Reading.Accepts matchForm {} false (first ++ (words ++ second)) other →
      ∃ own, Reading.Accepts matchForm {} false (first ++ second) own ∧
        Reading.AddsFlag key own other) := by
  have leaf : matchForm.subcommands = [] := rfl
  have offered : OptionName.flag ∈ matchForm.options := by decide
  have inserted {settled result : Reading} (closed : settled.open? = none) :
      Reading.Accepts matchForm settled false (words ++ second) result ↔
        Reading.Accepts matchForm { settled with given := settled.given ++ [(.flag, key)] } false second
          result := by
    rw [Reading.accepts_spelled offered rfl leaf closed spells, Reading.take_flag]
    simp
  constructor
  · intro own accepts
    obtain ⟨middle, settled, read, settles, accepts⟩ :=
      (Reading.accepts_at leaf unescaped complete).1 accepts
    obtain ⟨other, longer, adds⟩ := (Reading.addsFlag_take settled key).accepts_longer accepts
    have closed := (Reading.closed_of_settle settles).1
    refine ⟨other, ?_, adds⟩
    rw [Reading.accepts_at leaf unescaped complete]
    exact ⟨middle, settled, read, settles, (inserted closed).2 longer⟩
  · intro other accepts
    obtain ⟨middle, settled, read, settles, accepts⟩ :=
      (Reading.accepts_at leaf unescaped complete).1 accepts
    have closed := (Reading.closed_of_settle settles).1
    obtain ⟨own, shorter, adds⟩ :=
      (Reading.addsFlag_take settled key).accepts_shorter ((inserted closed).1 accepts)
    refine ⟨own, ?_, adds⟩
    rw [Reading.accepts_at leaf unescaped complete]
    exact ⟨middle, settled, read, settles, shorter⟩

theorem isWhole_iff (adds : Reading.AddsFlag key own other) : other.IsWhole ↔ own.IsWhole := by
  simp only [Reading.IsWhole, adds.arguments, adds.has .json nofun,
    adds.has .noJson nofun, adds.has .names nofun, adds.has .format nofun]

theorem ofReadings_eq (adds : Reading.AddsFlag key own other) (common : Reading) :
    Options.ofReadings [common, other] = Options.ofReadings [common, own] := by
  simp [Options.ofReadings, adds.values .config nofun, adds.has .json nofun,
    adds.has .noJson nofun, adds.has .quiet nofun,
    adds.has .verbose nofun]

theorem mem_values_flag {reading : Reading} {k : String} :
    k ∈ reading.values .flag ↔ (.flag, k) ∈ reading.given := by
  simp [Reading.values]

theorem parse_front (read : Reading.words programForm {} false front = .ok (shared, none))
    (complete : shared.awaitsValue = false) (unescaped : "--" ∉ front) :
    Invocation.parse (front ++ "match" :: rest) = .ok ⟨options, .decide argument labels flags⟩ ↔
      ∃ common own, shared.finish programForm true = .ok common ∧
        Reading.Accepts matchForm {} false rest own ∧ own.IsWhole ∧
        options = .ofReadings [common, own] ∧ own.arguments = [argument] ∧
        (own.values .label).mapM readLabel = .ok labels ∧ own.values .flag = flags := by
  have fronted := words_front rest read complete unescaped
  rw [parse_eq_ok]
  constructor
  · rintro ⟨common, own, parts, same⟩
    obtain ⟨_, _, finishes, accepts, whole, -, both⟩ := (readParts_of_match fronted).1 parts
    cases both
    exact ⟨common, own, finishes, accepts, whole, same⟩
  · rintro ⟨common, own, finishes, accepts, whole, same⟩
    have parts := (readParts_of_match fronted).2 ⟨common, own, finishes, accepts, whole, rfl, rfl⟩
    exact ⟨common, own, parts, same⟩

/-- What is accepted behind the command's name is a match. -/
theorem exists_of_parse {invocation : Invocation}
    (read : Reading.words programForm {} false front = .ok (shared, none))
    (complete : shared.awaitsValue = false) (unescaped : "--" ∉ front)
    (parsed : Invocation.parse (front ++ "match" :: rest) = .ok invocation) :
    ∃ options argument labels flags, invocation = ⟨options, .decide argument labels flags⟩ := by
  have fronted := words_front rest read complete unescaped
  obtain ⟨⟨path, readings⟩, parts, parsed⟩ := bind_eq_ok.1 parsed
  obtain ⟨command, known, parsed⟩ := bind_eq_ok.1 parsed
  cases parsed
  obtain ⟨common, own, -, -, -, rfl, rfl⟩ := (readParts_of_match fronted).1 parts
  obtain ⟨argument, labels, rfl⟩ := exists_of_ofReading?_match known
  exact ⟨_, argument, labels, _, rfl⟩

/-- A flag put in leaves everything but the flags. -/
theorem parse_longer (inserts : Inserts .flag key line longer)
    (parsed : Invocation.parse line = .ok ⟨options, .decide argument labels flags⟩) :
    ∃ flags', Invocation.parse longer = .ok ⟨options, .decide argument labels flags'⟩ ∧
      ∀ k, k ∈ flags' ↔ k = key ∨ k ∈ flags := by
  obtain ⟨read, completeFront, unescapedFront, complete, unescaped, spells⟩ := inserts
  obtain ⟨common, own, finishes, accepts, whole, rfl, arguments, reads, rfl⟩ :=
    (parse_front read completeFront unescapedFront).1 parsed
  obtain ⟨other, longer, adds⟩ := (accepts_inserted complete unescaped spells).1 own accepts
  refine ⟨other.values .flag, ?_, fun k => ?_⟩
  · rw [parse_front read completeFront unescapedFront]
    refine ⟨common, other, finishes, longer, (isWhole_iff adds).2 whole, ?_, ?_, ?_, rfl⟩
    · exact (ofReadings_eq adds common).symm
    · exact adds.arguments.trans arguments
    · rwa [adds.values .label nofun]
  · rw [mem_values_flag, mem_values_flag]
    exact adds.flags k

theorem parse_shorter {flags' : List String} (inserts : Inserts .flag key line longer)
    (parsed : Invocation.parse longer = .ok ⟨options, .decide argument labels flags'⟩) :
    ∃ flags, Invocation.parse line = .ok ⟨options, .decide argument labels flags⟩ ∧
      ∀ k, k ∈ flags' ↔ k = key ∨ k ∈ flags := by
  obtain ⟨read, completeFront, unescapedFront, complete, unescaped, spells⟩ := inserts
  obtain ⟨common, other, finishes, accepts, whole, rfl, arguments, reads, rfl⟩ :=
    (parse_front read completeFront unescapedFront).1 parsed
  obtain ⟨own, shorter, adds⟩ := (accepts_inserted complete unescaped spells).2 other accepts
  refine ⟨own.values .flag, ?_, fun k => ?_⟩
  · rw [parse_front read completeFront unescapedFront]
    refine ⟨common, own, finishes, shorter, (isWhole_iff adds).1 whole, ?_, ?_, ?_, rfl⟩
    · exact ofReadings_eq adds common
    · exact adds.arguments.symm.trans arguments
    · rwa [← adds.values .label nofun]
  · rw [mem_values_flag, mem_values_flag]
    exact adds.flags k

end Insertion

/-- Words that give labels and flags in a certain order, and arguments in between. -/
inductive Writes : List (OptionName × String) → List String → List String → Prop
  | nil : Writes [] [] []
  | option {name : OptionName} {value : String} {words line arguments : List String}
      {given : List (OptionName × String)} : name = .label ∨ name = .flag →
      Reading.Spells name value words → Writes given arguments line →
      Writes ((name, value) :: given) arguments (words ++ line)
  | argument {word : String} {line arguments : List String} {given : List (OptionName × String)} :
      (∀ c rest, word.toList ≠ '-' :: c :: rest) → Writes given arguments line →
      Writes given (word :: arguments) (word :: line)

section Writing

variable {given : List (OptionName × String)} {arguments line : List String} {argument : String}
  {reading result : Reading}

theorem take_eq_ok {name : OptionName} {value : String} (kind : name = .label ∨ name = .flag) :
    reading.take name value = .ok result ↔
      (name = .label → ∃ key label, SpellsLabel value key label) ∧
        result = { reading with given := reading.given ++ [(name, value)] } := by
  rcases kind with rfl | rfl
  · rw [Reading.take_label]
    simp only [Prod.exists, readLabel_eq_ok, forall_const]
  · rw [Reading.take_flag]
    simp [eq_comm]

theorem word_argument {word : String} (plain : ∀ c rest, word.toList ≠ '-' :: c :: rest)
    (closed : reading.open? = none) (room : reading.arguments.length < matchForm.arguments) :
    reading.word matchForm false word =
      .ok { reading with arguments := reading.arguments ++ [word] } := by
  have complete : reading.awaitsValue = false := by rw [Reading.awaitsValue, closed]
  have read : reading.word matchForm false word = reading.argument matchForm false word := by
    rw [Reading.word_of_complete complete, if_neg Bool.false_ne_true]
    split
    · next long => exact absurd long (plain _ _)
    · next short => exact absurd short (plain _ _)
    · rfl
  rw [read, Reading.argument, if_pos room, Reading.settle_of_closed closed]
  rfl

/-- The options are taken one after the other, and fail only at a text that gives no label. -/
theorem accepts_writes (writes : Writes given arguments line) (closed : reading.open? = none)
    (room : reading.arguments.length + arguments.length ≤ matchForm.arguments) :
    Reading.Accepts matchForm reading false line result ↔
      (∀ text, (.label, text) ∈ given → ∃ key value, SpellsLabel text key value) ∧
        result = { reading with
          given := reading.given ++ given, arguments := reading.arguments ++ arguments } := by
  have leaf : matchForm.subcommands = [] := rfl
  induction writes generalizing reading with
  | nil => simp [Reading.Accepts, Reading.words, Reading.settle_of_closed closed, eq_comm]
  | @option name value words line arguments given kind spells writes ih =>
    have offered : name ∈ matchForm.options := by rcases kind with rfl | rfl <;> decide
    have valued : name.takesValue = true := by rcases kind with rfl | rfl <;> rfl
    have rest := @ih { reading with given := reading.given ++ [(name, value)] } closed room
    rw [Reading.accepts_spelled offered valued leaf closed spells]
    simp only [take_eq_ok kind]
    constructor
    · rintro ⟨_, ⟨here, rfl⟩, accepts⟩
      obtain ⟨later, same⟩ := rest.1 accepts
      refine ⟨?_, by rw [same]; simp⟩
      intro text mem
      rcases List.mem_cons.1 mem with first | mem
      · cases first
        exact here rfl
      · exact later text mem
    · rintro ⟨each, same⟩
      refine ⟨_, ⟨?_, rfl⟩, rest.2 ⟨?_, by rw [same]; simp⟩⟩
      · rintro rfl
        exact each value List.mem_cons_self
      · exact fun text mem => each text (List.mem_cons_of_mem _ mem)
  | @argument word line arguments given plain writes ih =>
    have unescaped : word ≠ "--" := by
      rintro rfl
      exact plain '-' [] rfl
    rw [List.length_cons] at room
    have read := word_argument plain closed (by omega)
    rw [Reading.accepts_cons leaf unescaped, read]
    simp only [Except.ok.injEq, exists_eq_left']
    have shifted : (reading.arguments ++ [word]).length + arguments.length ≤ matchForm.arguments := by
      rw [List.length_append, List.length_singleton]
      omega
    have rest := @ih { reading with arguments := reading.arguments ++ [word] } closed shifted
    refine rest.trans ?_
    simp

theorem kind_of_writes (writes : Writes given arguments line) :
    ∀ option ∈ given, option.1 = .label ∨ option.1 = .flag := by
  induction writes with
  | nil => exact nofun
  | option kind _ _ ih => exact List.forall_mem_cons.2 ⟨kind, ih⟩
  | argument _ _ ih => exact ih

theorem isWhole_of_kinds (argument : String)
    (kinds : ∀ option ∈ given, option.1 = .label ∨ option.1 = .flag) :
    Reading.IsWhole { given, arguments := [argument] } := by
  have lacks (name : OptionName) (noLabel : name ≠ .label) (noFlag : name ≠ .flag) :
      Reading.has { given, arguments := [argument] } name = false := by
    rw [Reading.has, List.any_eq_false]
    intro option mem same
    rcases kinds option mem with label | flag
    · exact noLabel ((eq_of_beq same).symm.trans label)
    · exact noFlag ((eq_of_beq same).symm.trans flag)
  refine ⟨?_, ?_, by simp⟩
  · rw [lacks .json (by decide) (by decide), Bool.false_and]
  · rw [lacks .names (by decide) (by decide), Bool.false_and]

/-- Written out behind the command's name, labels, flags and a filter are accepted exactly if each
label is one, and the options are read in their order. -/
theorem parse_writes (writes : Writes given [argument] line) :
    ((∃ invocation, Invocation.parse ("match" :: line) = .ok invocation) ↔
      ∀ text, (.label, text) ∈ given → ∃ key value, SpellsLabel text key value) ∧
    ∀ common own, readParts 3 [] ("match" :: line) = .ok (["match"], [common, own]) →
      own.given = given := by
  have front : Reading.words programForm {} false [] = .ok ({}, none) := rfl
  have accepts (own : Reading) : Reading.Accepts matchForm {} false line own ↔ _ :=
    accepts_writes writes rfl (le_refl 1)
  refine ⟨⟨?_, ?_⟩, ?_⟩
  · rintro ⟨_, parsed⟩
    obtain ⟨options, filter, labels, flags, rfl⟩ := exists_of_parse front rfl List.not_mem_nil parsed
    obtain ⟨_, own, -, accepted, -⟩ := (parse_front front rfl List.not_mem_nil).1 parsed
    exact ((accepts own).1 accepted).1
  · intro each
    have known : ∃ labels, List.Forall₂
        (fun text (label : String × String) => SpellsLabel text label.1 label.2) (labelTexts given) labels := by
      rw [exists_forall₂]
      intro text mem
      obtain ⟨key, value, spells⟩ := each text (mem_labelTexts.1 mem)
      exact ⟨(key, value), spells⟩
    obtain ⟨labels, all⟩ := known
    have accepted := (accepts _).2 ⟨each, rfl⟩
    have whole := isWhole_of_kinds argument (kind_of_writes writes)
    exact ⟨_, (parse_front front rfl List.not_mem_nil).2
      ⟨{}, _, rfl, accepted, whole, rfl, rfl, mapM_readLabel.2 all, rfl⟩⟩
  · intro common own parts
    have fronted := words_front line front rfl List.not_mem_nil
    obtain ⟨_, _, -, accepted, -, -, same⟩ := (readParts_of_match fronted).1 parts
    cases same
    rw [((accepts own).1 accepted).2]
    rfl

end Writing

section Outcomes

variable {labels : List (String × String)} {flags flags' : List String} {options : Options}
  {argument : String}

/-- Fields of data that give each label once, as a text, and nothing else. -/
def ListsLabels (fields : List (String × Json)) (labels : Dict String) : Prop :=
  (fields.map (·.1)).Nodup ∧
    ∀ key value, (key, value) ∈ fields ↔ ∃ text, value = .str text ∧ labels.get? key = some text

theorem exists_textFields (labels : Dict String) :
    ∃ fields, Report.textFields labels = .obj fields ∧ ListsLabels fields labels := by
  refine ⟨_, rfl, ?_, fun key value => ?_⟩
  · rw [List.map_map]
    exact labels.nodup_keys
  · rw [List.mem_map]
    constructor
    · rintro ⟨⟨_, text⟩, mem, same⟩
      cases same
      exact ⟨text, rfl, Dict.mem_entries.1 mem⟩
    · rintro ⟨text, rfl, found⟩
      exact ⟨(key, text), Dict.mem_entries.2 found, rfl⟩

theorem run_congr (same : ∀ key, key ∈ flags' ↔ key ∈ flags) (here : Surroundings) (files : FileTree) :
    here.run files ⟨options, .decide argument labels flags'⟩ =
      here.run files ⟨options, .decide argument labels flags⟩ := by
  have executed : here.execute ⟨options, .decide argument labels flags'⟩ =
      here.execute ⟨options, .decide argument labels flags⟩ :=
    congrArg (here.decide options argument) (givenLabels_congr same)
  rw [Surroundings.run, Surroundings.run, executed]

theorem ends_decide {here : Surroundings} {files : FileTree} {config : Config} {filter : Filter}
    {context : Dict String} {matched : Bool}
    (prepared : (here.prepare options argument files).result = .ok (config, filter))
    (asked : filter.accepts context.get? = .ok matched) :
    Run.Ends (here.decide options argument context) files
      (Surroundings.shownLines (options.mode false false here.terminal)
        (Report.matchResult filter.expression matched context) [Surroundings.truthName matched])
      (.ok (Surroundings.matchCode matched)) := by
  refine .after (Surroundings.silent_prepare here options argument) prepared ?_
  refine .after (Run.Silent.ofExcept _ _) (Surroundings.result_ask_of_answer asked) ?_
  refine .after (Run.Silent.note _) rfl ?_
  exact Surroundings.ends_present _ _ _ _

/-- Both lines are accepted, and whatever surrounds them they run alike. -/
def RunsAlike (line other : List String) : Prop :=
  ∃ one two, Invocation.parse line = .ok one ∧ Invocation.parse other = .ok two ∧
    ∀ (here : Surroundings) files, here.run files one = here.run files two

theorem exists_of_inserts {key : String} {shorter line : List String} {invocation : Invocation}
    (inserts : Inserts .flag key shorter line) (parsed : Invocation.parse line = .ok invocation) :
    ∃ options argument labels flags, invocation = ⟨options, .decide argument labels flags⟩ := by
  obtain ⟨read, complete, unescaped, -, -, -⟩ := inserts
  exact exists_of_parse read complete unescaped parsed

theorem runsAlike_moved {key : String} {shorter line moved : List String} {invocation : Invocation}
    (here : Inserts .flag key shorter line) (there : Inserts .flag key shorter moved)
    (parsed : Invocation.parse line = .ok invocation) : RunsAlike line moved := by
  obtain ⟨options, argument, labels, flags, rfl⟩ := exists_of_inserts here parsed
  obtain ⟨others, without, asked⟩ := parse_shorter here parsed
  obtain ⟨flags', again, askedAgain⟩ := parse_longer there without
  have same (key : String) : key ∈ flags ↔ key ∈ flags' := (asked key).trans (askedAgain key).symm
  exact ⟨_, _, parsed, again, run_congr same⟩

theorem runsAlike_repeated {key : String} {shorter line repeated : List String}
    {invocation : Invocation} (once : Inserts .flag key shorter line)
    (twice : Inserts .flag key line repeated)
    (parsed : Invocation.parse line = .ok invocation) : RunsAlike line repeated := by
  obtain ⟨options, argument, labels, flags, rfl⟩ := exists_of_inserts once parsed
  obtain ⟨others, -, asked⟩ := parse_shorter once parsed
  obtain ⟨flags', again, askedAgain⟩ := parse_longer twice parsed
  have known : key ∈ flags := (asked key).2 (.inl rfl)
  have same (k : String) : k ∈ flags ↔ k ∈ flags' := by
    rw [askedAgain k]
    exact ⟨.inr, fun either => either.elim (fun eq => eq ▸ known) id⟩
  exact ⟨_, _, parsed, again, run_congr same⟩

/-- The labels of an accepted line. -/
theorem context_of_parse {line : List String}
    (parsed : Invocation.parse line = .ok ⟨options, .decide argument labels flags⟩) :
    ∃ common own, readParts 3 [] line = .ok (["match"], [common, own]) ∧ own.arguments = [argument] ∧
      (∀ text, (.label, text) ∈ own.given → ∃ key value, SpellsLabel text key value) ∧
      ∀ key value, (Surroundings.givenLabels labels flags).get? key = some value ↔
        Yields own.given key value := by
  obtain ⟨common, own, parts, -, arguments, reads, rfl⟩ := parse_eq_ok.1 parsed
  have all := mapM_readLabel.1 reads
  refine ⟨common, own, parts, arguments, ?_, ?_⟩
  · intro text mem
    obtain ⟨label, spells⟩ := exists_forall₂.1 ⟨labels, all⟩ text (mem_labelTexts.2 mem)
    exact ⟨label.1, label.2, spells⟩
  · intro key value
    exact get?_givenLabels all fun key => mem_values_flag

end Outcomes

open Surroundings in
/-- The labels that a match is asked about. A label is split at its first equals sign, and without one, or
with nothing in front of it, the line is refused. Of an accepted line the labels are those that its options
yield in their order; the filter is evaluated against them, and where data is asked for, the line that is
written is decoded as a result with these labels and no other. So a flag can be moved to any other place or
repeated. -/
theorem match_context :
    ((∀ text key value, readLabel text = .ok (key, value) ↔ SpellsLabel text key value) ∧
      ∀ text, (∃ detail, readLabel text = .error (.badLabel detail)) ↔
        '=' ∉ text.toList ∨ ∃ value, text = "=" ++ value) ∧
    (∀ given argument line, Writes given [argument] line →
      ((∃ invocation, Invocation.parse ("match" :: line) = .ok invocation) ↔
        ∀ text, (.label, text) ∈ given → ∃ key value, SpellsLabel text key value) ∧
      ∀ common own, readParts 3 [] ("match" :: line) = .ok (["match"], [common, own]) →
        own.given = given) ∧
    (∀ line options argument labels flags,
      Invocation.parse line = .ok ⟨options, .decide argument labels flags⟩ →
      let context := givenLabels labels flags
      (∃ common own, readParts 3 [] line = .ok (["match"], [common, own]) ∧
        own.arguments = [argument] ∧
        (∀ text, (.label, text) ∈ own.given → ∃ key value, SpellsLabel text key value) ∧
        ∀ key value, context.get? key = some value ↔ Yields own.given key value) ∧
      ∀ (here : Surroundings) files config filter matched,
        (here.prepare options argument files).result = .ok (config, filter) →
        filter.accepts context.get? = .ok matched →
        let outcome := here.run files ⟨options, .decide argument labels flags⟩
        outcome.code = matchCode matched ∧
          (options.mode false false here.terminal = .json → ∃ line fields shown,
            outcome.output = line ++ "\n" ∧
            Json.decode? line = some
              (.obj [("jsonrpc", .str "2.0"), ("result", .obj fields), ("id", .null)]) ∧
            Json.field? fields "labels" = some (.obj shown) ∧ ListsLabels shown context)) ∧
    ∀ key shorter line invocation, Inserts .flag key shorter line →
      Invocation.parse line = .ok invocation →
      (∀ moved, Inserts .flag key shorter moved → RunsAlike line moved) ∧
      ∀ repeated, Inserts .flag key line repeated → RunsAlike line repeated := by
  refine ⟨⟨fun _ _ _ => readLabel_eq_ok, fun _ => readLabel_eq_error⟩, ?_, ?_, ?_⟩
  · intro given argument line writes
    exact parse_writes writes
  · intro line options argument labels flags parsed context
    refine ⟨context_of_parse parsed, ?_⟩
    intro here files config filter matched prepared asked outcome
    have ends : Run.Ends (here.execute ⟨options, .decide argument labels flags⟩) files _ _ :=
      ends_decide prepared asked
    obtain ⟨code, output, -⟩ := run_of_ends ends
    refine ⟨code, fun data => ?_⟩
    obtain ⟨shown, fields, lists⟩ := exists_textFields context
    have whole := Report.isWhole_success (Report.isWhole_matchResult filter.expression matched context)
    rw [output, data]
    exact ⟨_, _, shown, textOfLines_singleton _, Json.decode?_line whole, congrArg some fields, lists⟩
  · intro key shorter line invocation inserts parsed
    exact ⟨fun moved there => runsAlike_moved inserts there parsed,
      fun repeated twice => runsAlike_repeated inserts twice parsed⟩

/-- The flag gives way to the label in front of it and to the one behind it, wherever it is put. -/
theorem match_context_role :
    let line := ["match", "role", "-l", "role=a", "-L", "role", "--label=role=b=c"]
    let moved := ["match", "--flag", "role", "role", "-l", "role=a", "--label=role=b=c"]
    Invocation.parse line =
        .ok ⟨{}, .decide "role" [("role", "a"), ("role", "b=c")] ["role"]⟩ ∧
      (∃ common own, readParts 3 [] line = .ok (["match"], [common, own]) ∧
        Yields own.given "role" "b=c") ∧
      RunsAlike line moved ∧
      let here : Surroundings := ⟨none, some "/home", .empty, false⟩
      let outcome := here.run .empty ⟨{}, .decide "role" [("role", "a"), ("role", "b=c")] ["role"]⟩
      outcome.code = ExitCode.success ∧ ∃ line fields shown, outcome.output = line ++ "\n" ∧
        Json.decode? line = some
          (.obj [("jsonrpc", .str "2.0"), ("result", .obj fields), ("id", .null)]) ∧
        Json.field? fields "labels" = some (.obj shown) ∧ ("role", .str "b=c") ∈ shown := by
  intro line moved
  obtain ⟨-, -, contexts, moves⟩ := match_context
  have parsed : Invocation.parse line =
      .ok ⟨{}, .decide "role" [("role", "a"), ("role", "b=c")] ["role"]⟩ := by
    decide +kernel
  obtain ⟨⟨common, own, parts, -, -, yields⟩, runs⟩ := contexts line _ _ _ _ parsed
  have last : (Surroundings.givenLabels [("role", "a"), ("role", "b=c")] ["role"]).get? "role" =
      some "b=c" := by
    decide +kernel
  have plain : ∀ c rest, "role".toList ≠ '-' :: c :: rest := by simp
  have before : Reading.words matchForm {} false ["role", "-l", "role=a"] =
      .ok ({ open? := some (.label, some "role=a"), arguments := ["role"] }, none) := rfl
  have here : Inserts .flag "role"
      ([] ++ "match" :: (["role", "-l", "role=a"] ++ ["--label=role=b=c"])) line := by
    refine .intro rfl rfl List.not_mem_nil ?_ (by decide) (.short rfl plain)
    intro reading read
    cases before.symm.trans read
    rfl
  have there : Inserts .flag "role"
      ([] ++ "match" :: ([] ++ ["role", "-l", "role=a", "--label=role=b=c"])) moved := by
    refine .intro rfl rfl List.not_mem_nil ?_ List.not_mem_nil (.long plain)
    intro reading read
    cases read
    rfl
  refine ⟨parsed, ⟨common, own, parts, (yields "role" "b=c").1 last⟩,
    (moves _ _ line _ here parsed).1 moved there, ?_⟩
  intro surroundings outcome
  have asks : (surroundings.prepare {} "role" .empty).result.toOption.any (fun found =>
      found.2.accepts (Surroundings.givenLabels [("role", "a"), ("role", "b=c")] ["role"]).get? =
        .ok true) = true := by
    decide +kernel
  cases prepared : (surroundings.prepare {} "role" .empty).result with
  | error fault => simp [prepared, Except.toOption] at asks
  | ok both =>
    obtain ⟨config, filter⟩ := both
    have asked := by simpa [prepared, Except.toOption] using asks
    obtain ⟨code, data⟩ := runs surroundings .empty config filter true prepared asked
    obtain ⟨line, fields, shown, output, decoded, labels, lists⟩ := data rfl
    exact ⟨code, line, fields, shown, output, decoded, labels, (lists.2 _ _).2 ⟨_, rfl, last⟩⟩

end LabelQuery
