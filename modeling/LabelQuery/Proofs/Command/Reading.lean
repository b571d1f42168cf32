import LabelQuery.Command.Arguments
import LabelQuery.Proofs.Result
import Mathlib.Data.List.TakeWhile
import Mathlib.Tactic.SplitIfs

/-!
Reading the options of one command. An option is checked when the next word shows that it is over; for
a line that is accepted this makes no difference, so it is read option by option.
-/
namespace LabelQuery

namespace Reading

variable {form : CommandForm} {reading settled next : Reading} {name : OptionName} {value : String}
  {escaped : Bool} {words rest : List String}

/-- The words are read to the end of the line, and the last option is accepted too. -/
def Accepts (form : CommandForm) (reading : Reading) (escaped : Bool) (words : List String)
    (result : Reading) : Prop :=
  ∃ last, Reading.words form reading escaped words = .ok (last, none) ∧ last.settle = .ok result

/-- Words that spell an option with a value: its long name or its letter, and the value as the next word
or attached to it. A value of its own does not begin as an option does. -/
inductive Spells (name : OptionName) (value : String) : List String → Prop
  | long : (∀ c rest, value.toList ≠ '-' :: c :: rest) →
      Spells name value ["--" ++ name.long, value]
  | longAttached : Spells name value ["--" ++ name.long ++ "=" ++ value]
  | short {letter : Char} : name.short? = some letter →
      (∀ c rest, value.toList ≠ '-' :: c :: rest) →
      Spells name value [String.ofList ['-', letter], value]
  | shortAttached {letter c : Char} {rest : List Char} : name.short? = some letter →
      value.toList = c :: rest → c ≠ '=' →
      Spells name value [String.ofList ('-' :: letter :: value.toList)]
  | shortEquals {letter : Char} : name.short? = some letter →
      Spells name value [String.ofList ('-' :: letter :: '=' :: value.toList)]

theorem of_take (taken : reading.take name value = .ok next) :
    next = { reading with given := reading.given ++ [(name, value)] } := by
  dsimp only [take] at taken
  split_ifs at taken
  · cases known : readLabel value with
    | error =>
      rw [known] at taken
      contradiction
    | ok =>
      rw [known] at taken
      exact (Except.ok.inj taken).symm
  · exact (Except.ok.inj taken).symm

theorem closed_of_settle (settles : reading.settle = .ok settled) :
    settled.open? = none ∧ settled.arguments = reading.arguments := by
  unfold settle at settles
  split at settles
  · next closed =>
    cases settles
    exact ⟨closed, rfl⟩
  · contradiction
  · rw [of_take settles]
    exact ⟨rfl, rfl⟩

theorem settle_of_closed (closed : reading.open? = none) : reading.settle = .ok reading := by
  rw [settle, closed]

/-- Where no value is due, the dashes in front of a word tell what it is. -/
theorem word_of_complete (complete : reading.awaitsValue = false) (word : String) :
    reading.word form escaped word =
      if escaped then reading.argument form true word
      else
        match word.toList with
        | '-' :: '-' :: name => reading.longOption form (splitLong name).1 (splitLong name).2
        | '-' :: letter :: letters => reading.shortOptions form (letter :: letters)
        | _ => reading.argument form false word := by
  unfold Reading.word
  split
  · rfl
  · split
    · next known => simp [known]
    · next noLong known => simp [known]
    · next opened _ _ => simp [awaitsValue, opened] at complete
    · grind

section Early

/-! What settles can be settled before the next word is read. -/

variable (settles : reading.settle = .ok settled)
include settles

theorem option_of_settle (attached : Option String) :
    settled.option name attached = reading.option name attached := by
  rw [Reading.option, Reading.option, settles, settle_of_closed (closed_of_settle settles).1]

theorem longOption_of_settle (word : String) (attached : Option String) :
    settled.longOption form word attached = reading.longOption form word attached := by
  unfold longOption
  simp only [option_of_settle settles]

theorem shortOptions_of_settle (letter : Char) (letters : List Char) :
    settled.shortOptions form (letter :: letters) = reading.shortOptions form (letter :: letters) := by
  unfold shortOptions
  simp only [option_of_settle settles]

theorem argument_of_settle (word : String) :
    settled.argument form escaped word = reading.argument form escaped word := by
  obtain ⟨closed, same⟩ := closed_of_settle settles
  unfold argument
  rw [same, settles, settle_of_closed closed]

theorem word_of_settle (complete : reading.awaitsValue = false) (word : String) :
    settled.word form escaped word = reading.word form escaped word := by
  have settledComplete : settled.awaitsValue = false := by
    rw [awaitsValue, (closed_of_settle settles).1]
  rw [word_of_complete complete, word_of_complete settledComplete]
  simp only [longOption_of_settle settles, shortOptions_of_settle settles, argument_of_settle settles]

end Early

theorem settles_of_option {attached : Option String}
    (read : reading.option name attached = .ok next) : ∃ settled, reading.settle = .ok settled := by
  obtain ⟨settled, settles, -⟩ := bind_eq_ok.1 read
  exact ⟨settled, settles⟩

theorem settles_of_longOption {word : String} {attached : Option String}
    (read : reading.longOption form word attached = .ok next) :
    ∃ settled, reading.settle = .ok settled := by
  unfold longOption at read
  split at read
  · contradiction
  · split at read
    · contradiction
    · exact settles_of_option read

theorem settles_of_shortOptions {letter : Char} {letters : List Char}
    (read : reading.shortOptions form (letter :: letters) = .ok next) :
    ∃ settled, reading.settle = .ok settled := by
  unfold shortOptions at read
  split at read
  · contradiction
  · split at read
    · split at read <;> exact settles_of_option read
    · obtain ⟨between, first, -⟩ := bind_eq_ok.1 read
      exact settles_of_option first

theorem settles_of_argument {word : String} (read : reading.argument form escaped word = .ok next) :
    ∃ settled, reading.settle = .ok settled := by
  unfold argument at read
  split at read
  · obtain ⟨settled, settles, -⟩ := bind_eq_ok.1 read
    exact ⟨settled, settles⟩
  · split at read <;> contradiction

theorem settles_of_word {word : String} (complete : reading.awaitsValue = false)
    (read : reading.word form escaped word = .ok next) : ∃ settled, reading.settle = .ok settled := by
  rw [word_of_complete complete] at read
  split at read
  · exact settles_of_argument read
  · split at read
    · exact settles_of_longOption read
    · exact settles_of_shortOptions read
    · exact settles_of_argument read

/-- Words read one part after another, unless a double dash or a subcommand's name ends the first part. -/
theorem words_append {first second : List String} (unescaped : "--" ∉ first) :
    Reading.words form reading false (first ++ second) =
      Reading.words form reading false first >>= fun (middle, following) =>
        match following with
        | none => Reading.words form middle false second
        | some (name, rest) => .ok (middle, some (name, rest ++ second)) := by
  induction first generalizing reading with
  | nil => rfl
  | cons word first ih =>
    obtain ⟨here, later⟩ := not_or.1 (mt List.mem_cons.2 unescaped)
    rw [List.cons_append, Reading.words, Reading.words]
    split
    · rfl
    · rw [if_neg (by simpa using Ne.symm here), if_neg (by simpa using Ne.symm here), bind_assoc]
      congr 1
      funext next
      exact ih later

section Lines

/-! A command without subcommands reads all words. -/

variable (leaf : form.subcommands = [])
include leaf

theorem words_cons (word : String) (rest : List String) :
    Reading.words form reading escaped (word :: rest) =
      if !escaped && word = "--" then Reading.words form reading true rest
      else
        reading.word form escaped word >>= fun next => Reading.words form next escaped rest := by
  rw [Reading.words, leaf]
  simp

theorem accepts_of_settle (settles : reading.settle = .ok settled)
    (complete : reading.awaitsValue = false) {result : Reading} :
    Accepts form settled escaped words result ↔ Accepts form reading escaped words result := by
  induction words generalizing escaped with
  | nil =>
    have again := settle_of_closed (closed_of_settle settles).1
    simp [Accepts, Reading.words, settles, again]
  | cons word rest ih =>
    unfold Accepts
    rw [words_cons leaf, words_cons leaf, word_of_settle settles complete]
    split
    · exact ih
    · rfl

theorem settles_of_accepts {result : Reading} (complete : reading.awaitsValue = false)
    (accepts : Accepts form reading escaped words result) :
    ∃ settled, reading.settle = .ok settled := by
  obtain ⟨last, read, settles⟩ := accepts
  induction words generalizing escaped with
  | nil =>
    cases read
    exact ⟨result, settles⟩
  | cons word rest ih =>
    rw [words_cons leaf] at read
    split at read
    · exact ih read
    · obtain ⟨next, first, -⟩ := bind_eq_ok.1 read
      exact settles_of_word complete first

theorem none_of_words {last : Reading} {following : Option (String × List String)}
    (read : Reading.words form reading escaped words = .ok (last, following)) : following = none := by
  induction words generalizing reading escaped with
  | nil =>
    cases read
    rfl
  | cons word rest ih =>
    rw [words_cons leaf] at read
    split at read
    · exact ih read
    · obtain ⟨next, -, later⟩ := bind_eq_ok.1 read
      exact ih later

theorem accepts_cons {word : String} (unescaped : word ≠ "--") {result : Reading} :
    Accepts form reading false (word :: rest) result ↔
      ∃ next, reading.word form false word = .ok next ∧ Accepts form next false rest result := by
  have here : ¬(!false && decide (word = "--")) = true := by simpa using unescaped
  simp only [Accepts, words_cons leaf, if_neg here, bind_eq_ok]
  constructor
  · rintro ⟨last, ⟨next, read, later⟩, settles⟩
    exact ⟨next, read, last, later, settles⟩
  · rintro ⟨next, read, last, later, settles⟩
    exact ⟨last, ⟨next, read, later⟩, settles⟩

theorem accepts_append {first second : List String} (unescaped : "--" ∉ first) {result : Reading} :
    Accepts form reading false (first ++ second) result ↔
      ∃ middle, Reading.words form reading false first = .ok (middle, none) ∧
        Accepts form middle false second result := by
  unfold Accepts
  rw [words_append unescaped]
  constructor
  · rintro ⟨last, read, settles⟩
    obtain ⟨⟨middle, following⟩, begins, ends⟩ := bind_eq_ok.1 read
    cases none_of_words leaf begins
    exact ⟨middle, begins, last, ends, settles⟩
  · rintro ⟨middle, begins, last, ends, settles⟩
    exact ⟨last, bind_eq_ok.2 ⟨(middle, none), begins, ends⟩, settles⟩

theorem accepts_iff_settles (complete : reading.awaitsValue = false) {result : Reading} :
    Accepts form reading escaped words result ↔
      ∃ settled, reading.settle = .ok settled ∧ Accepts form settled escaped words result := by
  constructor
  · intro accepts
    obtain ⟨settled, settles⟩ := settles_of_accepts leaf complete accepts
    exact ⟨settled, settles, (accepts_of_settle leaf settles complete).2 accepts⟩
  · rintro ⟨settled, settles, accepts⟩
    exact (accepts_of_settle leaf settles complete).1 accepts

/-- Where no value is due, what comes before is settled and the rest is read from there. -/
theorem accepts_at {first : List String} (unescaped : "--" ∉ first)
    (complete : ∀ middle, Reading.words form reading false first = .ok (middle, none) →
      middle.awaitsValue = false) {result : Reading} :
    Accepts form reading false (first ++ rest) result ↔
      ∃ middle settled, Reading.words form reading false first = .ok (middle, none) ∧
        middle.settle = .ok settled ∧ Accepts form settled false rest result := by
  rw [accepts_append leaf unescaped]
  constructor
  · rintro ⟨middle, read, accepts⟩
    obtain ⟨settled, settles, accepts⟩ := (accepts_iff_settles leaf (complete middle read)).1 accepts
    exact ⟨middle, settled, read, settles, accepts⟩
  · rintro ⟨middle, settled, read, settles, accepts⟩
    exact ⟨middle, read, (accepts_iff_settles leaf (complete middle read)).2 ⟨settled, settles, accepts⟩⟩

end Lines

section Spelling

theorem long_inj {name other : OptionName} : name.long = other.long ↔ name = other := by
  cases name <;> cases other <;> decide

theorem short?_inj {name other : OptionName} {letter : Char} (h : name.short? = some letter) :
    other.short? = some letter ↔ other = name := by
  cases name <;> cases other <;> simp_all [OptionName.short?] <;> subst h <;> decide

theorem letter_ne_dash {letter : Char} (h : name.short? = some letter) : letter ≠ '-' := by
  rintro rfl
  cases name <;> simp [OptionName.short?] at h

theorem equals_not_mem_long (name : OptionName) : '=' ∉ name.long.toList := by
  cases name <;> decide

theorem find?_of_unique {options : List OptionName} {p : OptionName → Bool} (mem : name ∈ options)
    (holds : p name = true) (unique : ∀ other, p other = true → other = name) :
    options.find? p = some name := by
  cases known : options.find? p with
  | none => exact absurd holds (List.find?_eq_none.1 known name mem)
  | some other => exact congrArg some (unique other (List.find?_some known))

theorem all_ne_of_not_mem {c : Char} {text : List Char} (absent : c ∉ text) :
    ∀ d ∈ text, decide (d ≠ c) = true := fun _ mem =>
  decide_eq_true fun same => absent (same ▸ mem)

theorem splitLong_eq (name : List Char) (absent : '=' ∉ name) (value : List Char) :
    splitLong name = (String.ofList name, none) ∧
      splitLong (name ++ '=' :: value) = (String.ofList name, some (String.ofList value)) := by
  have within := all_ne_of_not_mem absent
  constructor
  · rw [splitLong, List.dropWhile_eq_nil_iff.2 within]
  · rw [splitLong, List.dropWhile_append_of_pos within, List.takeWhile_append_of_pos within]
    simp

variable (offered : name ∈ form.options) (valued : name.takesValue = true)
include offered valued

theorem longOption_name (attached : Option String) :
    reading.longOption form name.long attached = reading.option name attached := by
  have found : form.options.find? (·.long == name.long) = some name :=
    find?_of_unique offered (beq_self_eq_true _) fun other same => long_inj.1 (eq_of_beq same)
  rw [longOption, found]
  simp [valued]

theorem shortOptions_letter {letter : Char} (letters : name.short? = some letter) (value : List Char) :
    reading.shortOptions form [letter] = reading.option name none ∧
      reading.shortOptions form (letter :: '=' :: value) =
        reading.option name (some (String.ofList value)) ∧
      ∀ c, c ≠ '=' → reading.shortOptions form (letter :: c :: value) =
        reading.option name (some (String.ofList (c :: value))) := by
  have found : form.options.find? (·.short? == some letter) = some name :=
    find?_of_unique offered (by simp [letters]) fun other same =>
      (short?_inj letters).1 (eq_of_beq same)
  refine ⟨?_, ?_, ?_⟩
  · simp [shortOptions, found, valued]
  · simp [shortOptions, found, valued]
  · intro c other
    simp [shortOptions, found, valued, other]

omit offered in
theorem option_of_closed (closed : reading.open? = none) :
    reading.option name none = .ok { reading with open? := some (name, none) } ∧
      ∀ value, reading.option name (some value) = reading.take name value := by
  constructor
  · simp [Reading.option, settle_of_closed closed, valued, bind, Except.bind, pure, Except.pure]
  · intro value
    simp [Reading.option, settle_of_closed closed, bind, Except.bind]

variable (leaf : form.subcommands = []) (closed : reading.open? = none)
include leaf closed

omit offered in
/-- An option with its value behind it is checked with the next word, which makes no difference. -/
theorem accepts_apart {word : String} {result : Reading} (unescaped : word ≠ "--")
    (read : reading.word form false word = reading.option name none)
    (plain : ∀ c rest, value.toList ≠ '-' :: c :: rest) :
    Accepts form reading false (word :: value :: rest) result ↔
      ∃ taken, reading.take name value = .ok taken ∧ Accepts form taken false rest result := by
  have noDashes : value ≠ "--" := by
    rintro rfl
    exact plain '-' [] rfl
  have filled : Reading.word form { reading with open? := some (name, none) } false value =
      .ok { reading with open? := some (name, some value) } := by
    unfold Reading.word
    rw [if_neg Bool.false_ne_true]
    split <;> simp_all
  have settles : Reading.settle { reading with open? := some (name, some value) } =
      reading.take name value := by
    rw [settle, ← closed]
  rw [accepts_cons leaf unescaped, read, (option_of_closed valued closed).1]
  simp only [Except.ok.injEq, exists_eq_left']
  rw [accepts_cons leaf noDashes, filled]
  simp only [Except.ok.injEq, exists_eq_left']
  rw [accepts_iff_settles leaf rfl, settles]

omit offered valued leaf in
theorem word_dashes (text : String) :
    reading.word form false ("--" ++ text) =
      reading.longOption form (splitLong text.toList).1 (splitLong text.toList).2 := by
  rw [word_of_complete (by rw [awaitsValue, closed])]
  simp

omit offered valued leaf in
theorem word_dash {letter : Char} (other : letter ≠ '-') (letters : List Char) :
    reading.word form false (String.ofList ('-' :: letter :: letters)) =
      reading.shortOptions form (letter :: letters) := by
  rw [word_of_complete (by rw [awaitsValue, closed])]
  simp

/-- A spelled option is taken with its value. -/
theorem accepts_spelled {result : Reading} (spells : Spells name value words) :
    Accepts form reading false (words ++ rest) result ↔
      ∃ taken, reading.take name value = .ok taken ∧ Accepts form taken false rest result := by
  have takes := (option_of_closed valued closed).2 value
  have named := splitLong_eq name.long.toList (equals_not_mem_long name) value.toList
  have long (text : String) : "--" ++ (name.long ++ text) ≠ "--" := by
    cases name <;> simp [OptionName.long, ← String.toList_inj]
  have short {letter : Char} (letters : name.short? = some letter) (text : List Char) :
      String.ofList ('-' :: letter :: text) ≠ "--" := by
    simp [← String.toList_inj, letter_ne_dash letters]
  have attached {word : String} (unescaped : word ≠ "--")
      (read : reading.word form false word = reading.option name (some value)) :
      Accepts form reading false (word :: rest) result ↔
        ∃ taken, reading.take name value = .ok taken ∧ Accepts form taken false rest result := by
    rw [accepts_cons leaf unescaped, read, takes]
  cases spells with
  | long plain =>
    have read : reading.word form false ("--" ++ name.long) = reading.option name none := by
      rw [word_dashes closed, named.1, String.ofList_toList, longOption_name offered valued]
    exact accepts_apart valued leaf closed (by simpa using long "") read plain
  | longAttached =>
    apply attached
    · rw [String.append_assoc, String.append_assoc]
      exact long _
    · rw [String.append_assoc, String.append_assoc, word_dashes closed]
      simp [named.2, longOption_name offered valued]
  | @short letter letters plain =>
    have read : reading.word form false (String.ofList ['-', letter]) = reading.option name none := by
      rw [word_dash closed (letter_ne_dash letters)]
      exact (shortOptions_letter offered valued letters []).1
    exact accepts_apart valued leaf closed (short letters []) read plain
  | @shortAttached letter c after letters begins other =>
    apply attached (short letters _)
    rw [word_dash closed (letter_ne_dash letters), begins,
      (shortOptions_letter offered valued letters after).2.2 c other, ← begins, String.ofList_toList]
  | shortEquals letters =>
    apply attached (short letters _)
    rw [word_dash closed (letter_ne_dash letters),
      (shortOptions_letter offered valued letters value.toList).2.1, String.ofList_toList]

end Spelling

/-- Another reading has a certain flag in addition. -/
structure AddsFlag (key : String) (reading other : Reading) : Prop where
  others : other.given.filter (·.1 ≠ .flag) = reading.given.filter (·.1 ≠ .flag)
  flags : ∀ k, (.flag, k) ∈ other.given ↔ k = key ∨ (.flag, k) ∈ reading.given
  open? : other.open? = reading.open?
  arguments : other.arguments = reading.arguments

namespace AddsFlag

variable {key : String} {other : Reading} (adds : AddsFlag key reading other)
include adds

theorem values (name : OptionName) (unlike : name ≠ .flag) : other.values name = reading.values name := by
  have within (given : List (OptionName × String)) :
      given.filter (·.1 == name) = (given.filter (·.1 ≠ .flag)).filter (·.1 == name) := by
    rw [List.filter_filter]
    apply List.filter_congr
    intro option _
    by_cases same : option.1 = name
    · simp [same, unlike]
    · simp [same]
  rw [Reading.values, Reading.values, within, within reading.given, adds.others]

theorem has (name : OptionName) (unlike : name ≠ .flag) : other.has name = reading.has name := by
  have within (reading : Reading) : reading.has name = !(reading.values name).isEmpty := by
    rw [Bool.eq_iff_iff]
    simp [Reading.has, Reading.values, List.filter_eq_nil_iff]
  rw [within, within reading, adds.values name unlike]

theorem take (name : OptionName) (value : String) :
    Corresponds (AddsFlag key) (reading.take name value) (other.take name value) := by
  have repeated : (other.has name && !name.repeats) = (reading.has name && !name.repeats) := by
    by_cases flag : name = .flag
    · subst flag
      simp [OptionName.repeats]
    · rw [adds.has name flag]
  have longer : AddsFlag key { reading with given := reading.given ++ [(name, value)] }
      { other with given := other.given ++ [(name, value)] } := by
    refine ⟨?_, ?_, adds.open?, adds.arguments⟩
    · rw [List.filter_append, List.filter_append, adds.others]
    · intro k
      rw [List.mem_append, List.mem_append, adds.flags, or_assoc]
  simp only [Reading.take, repeated]
  split_ifs
  · exact .error _
  · exact .error _
  · exact .error _
  · exact .error _
  · cases readLabel value with
    | error error => exact .error error
    | ok => exact .ok longer
  · exact .ok longer

theorem settle : Corresponds (AddsFlag key) reading.settle other.settle := by
  have closed : AddsFlag key { reading with open? := none } { other with open? := none } :=
    ⟨adds.others, adds.flags, rfl, adds.arguments⟩
  unfold Reading.settle
  rw [adds.open?]
  split
  · exact .ok adds
  · exact .error _
  · exact closed.take _ _

theorem option (name : OptionName) (attached : Option String) :
    Corresponds (AddsFlag key) (reading.option name attached) (other.option name attached) := by
  refine adds.settle.bind fun reading other adds => ?_
  cases attached with
  | some value => exact adds.take name value
  | none =>
    dsimp only
    split
    · exact .ok ⟨adds.others, adds.flags, rfl, adds.arguments⟩
    · exact adds.take name ""

theorem longOption (word : String) (attached : Option String) :
    Corresponds (AddsFlag key) (reading.longOption form word attached)
      (other.longOption form word attached) := by
  unfold Reading.longOption
  split
  · exact .error _
  · split
    · exact .error _
    · exact adds.option _ _

theorem shortOptions (letters : List Char) :
    Corresponds (AddsFlag key) (reading.shortOptions form letters)
      (other.shortOptions form letters) := by
  induction letters generalizing reading other with
  | nil => exact .ok adds
  | cons letter letters ih =>
    unfold Reading.shortOptions
    split
    · exact .error _
    · split
      · split <;> exact adds.option _ _
      · exact (adds.option _ _).bind fun _ _ adds => ih adds

theorem argument (word : String) :
    Corresponds (AddsFlag key) (reading.argument form escaped word)
      (other.argument form escaped word) := by
  unfold Reading.argument
  rw [adds.arguments]
  split
  · refine adds.settle.bind fun reading other adds => ?_
    exact .ok ⟨adds.others, adds.flags, adds.open?, by rw [adds.arguments]⟩
  · split <;> exact .error _

theorem word (word : String) :
    Corresponds (AddsFlag key) (reading.word form escaped word) (other.word form escaped word) := by
  unfold Reading.word
  rw [adds.open?]
  split
  · exact adds.argument word
  · split
    · exact adds.longOption _ _
    · exact adds.shortOptions _
    · exact .ok ⟨adds.others, adds.flags, rfl, adds.arguments⟩
    · exact adds.argument word

theorem reads (words : List String) :
    Corresponds (fun one two => AddsFlag key one.1 two.1 ∧ two.2 = one.2)
      (Reading.words form reading escaped words) (Reading.words form other escaped words) := by
  induction words generalizing reading other escaped with
  | nil => exact .ok ⟨adds, rfl⟩
  | cons word rest ih =>
    have waits : other.awaitsValue = reading.awaitsValue := by
      rw [awaitsValue, awaitsValue, adds.open?]
    rw [Reading.words, Reading.words, waits]
    split
    · exact .ok ⟨adds, rfl⟩
    · split
      · exact ih adds
      · exact (adds.word word).bind fun _ _ adds => ih adds

theorem accepts_longer {result : Reading} (accepts : Accepts form reading escaped words result) :
    ∃ result', Accepts form other escaped words result' ∧ AddsFlag key result result' := by
  obtain ⟨last, read, settles⟩ := accepts
  obtain ⟨⟨last', _⟩, read', both, rfl⟩ := (adds.reads words).of_left_ok read
  obtain ⟨result', settles', both⟩ := both.settle.of_left_ok settles
  exact ⟨result', ⟨last', read', settles'⟩, both⟩

theorem accepts_shorter {result' : Reading} (accepts : Accepts form other escaped words result') :
    ∃ result, Accepts form reading escaped words result ∧ AddsFlag key result result' := by
  obtain ⟨last', read', settles'⟩ := accepts
  obtain ⟨⟨last, _⟩, read, both, rfl⟩ := (adds.reads words).of_right_ok read'
  obtain ⟨result, settles, both⟩ := both.settle.of_right_ok settles'
  exact ⟨result, ⟨last, read, settles⟩, both⟩

end AddsFlag

theorem take_label {text : String} : reading.take .label text = .ok next ↔
    (∃ label, readLabel text = .ok label) ∧
      next = { reading with given := reading.given ++ [(.label, text)] } := by
  have checked : reading.take .label text =
      (readLabel text).map fun _ => { reading with given := reading.given ++ [(.label, text)] } := by
    simp [Reading.take, OptionName.repeats, OptionName.takesPath]
  rw [checked, map_eq_ok]
  constructor
  · rintro ⟨label, read, rfl⟩
    exact ⟨⟨label, read⟩, rfl⟩
  · rintro ⟨⟨label, read⟩, rfl⟩
    exact ⟨label, read, rfl⟩

/-- A flag is always taken. -/
theorem take_flag (reading : Reading) (key : String) :
    reading.take .flag key = .ok { reading with given := reading.given ++ [(.flag, key)] } := by
  simp [Reading.take, OptionName.repeats, OptionName.takesPath]

theorem addsFlag_take (reading : Reading) (key : String) :
    AddsFlag key reading { reading with given := reading.given ++ [(.flag, key)] } := by
  refine ⟨?_, ?_, rfl, rfl⟩
  · simp
  · intro k
    simp [or_comm]

end Reading

end LabelQuery
