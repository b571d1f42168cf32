import LabelQuery.Proofs.Entity.Document
import LabelQuery.Proofs.Filter.Comparison

/-!
Labels that are truth values. Documents give labels as texts and filters compare them with answers, and
both spell a truth value alike. Main statement: a label that a document gives as true or false equals
a compound expression exactly if it is that expression's answer, and one that has another text or is not
there equals none.
-/
namespace LabelQuery.Entity

/-- The value of a field, if this is an object that has it. -/
def member? (name : String) : Json → Option Json
  | .obj fields => Json.field? fields name
  | _ => none

/-- The labels as a document gives them for the entity at some place. -/
def labelsAt? (document : Json) (index : Nat) : Option Json :=
  match document with
  | .arr items => items[index]?.bind (member? "labels")
  | .obj fields => fields[index]?.map (·.2)
  | _ => none

/-- What a document gives for a label of the entity at some place. -/
def labelAt? (document : Json) (index : Nat) (key : String) : Option Json :=
  (labelsAt? document index).bind (member? key)

section Reading

variable {value document : Json} {labels : Dict String} {entities : List Entity} {entity : Entity}
  {index : Nat}

theorem lookup_of_spellsFields {fields : List (String × Json)} {entries : List (String × String)}
    (spells : List.Forall₂ SpellsField fields entries) (key : String) :
    entries.lookup key = (fields.lookup key).bind labelText? := by
  induction spells with
  | nil => rfl
  | @cons field entry fields entries first rest ih =>
    obtain ⟨name, value⟩ := field
    obtain ⟨name', text⟩ := entry
    obtain ⟨same, spells⟩ := first
    cases same
    rw [List.lookup_cons, List.lookup_cons]
    cases key == name with
    | true => exact (labelText?_eq_some.2 spells).symm
    | false => exact ih

theorem get?_of_givesLabels (gives : GivesLabels value labels) (key : String) :
    labels.get? key = (member? key value).bind labelText? := by
  cases gives with
  | null => rfl
  | obj spells => exact lookup_of_spellsFields spells key

theorem get?_of_describes {item : Json} (ordered : item.Ordered) (describes : Describes item entity)
    (key : String) :
    entity.labels.get? key = ((member? "labels" item).bind (member? key)).bind labelText? := by
  obtain ⟨fields, rfl, -⟩ := id describes
  obtain ⟨-, ⟨labels, given, gives⟩ | ⟨absent, empty⟩⟩ := (describes_obj ordered).1 describes
  · rw [member?, given]
    exact get?_of_givesLabels gives key
  · rw [member?, absent, empty]
    rfl

/-- A label of an entity is what the document gives for it, as text. -/
theorem get?_eq_labelAt? (ordered : document.Ordered) (taken : ofJson document = .ok entities)
    (found : entities[index]? = some entity) (key : String) :
    entity.labels.get? key = (labelAt? document index key).bind labelText? := by
  cases document with
  | arr items =>
    have each := Json.ordered_arr.1 ordered
    obtain ⟨item, here, describes⟩ := forall₂_getElem? ((ofItems_eq_ok each).1 taken) found
    rw [labelAt?, labelsAt?, here]
    exact get?_of_describes (each item (List.mem_of_getElem? here)) describes key
  | obj fields =>
    have within := (Json.ordered_obj.1 ordered).2
    obtain ⟨field, here, -, gives⟩ := forall₂_getElem? ((ofFields_eq_ok within).1 taken) found
    rw [labelAt?, labelsAt?, here]
    exact get?_of_givesLabels gives key
  | null | bool | int | float | str => contradiction

theorem answerWord_inj {answer other : Bool} : answerWord answer = answerWord other ↔ answer = other := by
  cases answer <;> cases other <;> decide

theorem eq_bool_of_kind {truth : Bool} (kind : value.kind = "boolean")
    (text : labelText? value = some (answerWord truth)) : value = .bool truth := by
  cases value with
  | bool other => cases other <;> cases truth <;> first | rfl | contradiction
  | null | int | float | str | arr | obj => simp [Json.kind] at kind

theorem eq_str_of_kind {label : String} (kind : value.kind = "string")
    (text : labelText? value = some label) : value = .str label := by
  cases value with
  | str other => exact congrArg Json.str (Option.some.inj text)
  | null | bool | int | float | arr | obj => simp [Json.kind] at kind

theorem labelText?_bool (truth : Bool) : labelText? (.bool truth) = some (answerWord truth) := by
  cases truth <;> rfl

end Reading

/-- For an entity of a document, a label compared with a compound expression `text` in brackets: if the
document gives the label as true or false, the answer is whether `text` has this answer for the entity.
If it gives another text, or does not give the label, the answer is no. -/
theorem judge_truth {source : String} {document : Json} {entities : List Entity}
    (reads : Relaxed.readJson source = .ok document) (taken : parse source = .ok entities)
    {index : Nat} {entity : Entity} (found : entities[index]? = some entity)
    {written key text : String} {e : Expr}
    (leads : LeadsAsOperand written key (written ++ "=(" ++ text ++ ")"))
    (derives : Derives .sequence (tokenize text) e) (explicit : e.isExplicit = true)
    (compound : ∀ word, e ≠ .operand word) :
    let labels := entity.labels.get?
    let compared := Program.judge (tokenize (written ++ "=(" ++ text ++ ")")) labels
    ∃ answer, Program.judge (tokenize text) labels = .ok answer ∧
      (∀ truth, labelAt? document index key = some (.bool truth) →
        compared = .ok (decide (answer = truth))) ∧
      (∀ value, labelAt? document index key = some (.str value) →
        value ≠ "true" → value ≠ "false" → compared = .ok false) ∧
      (labelAt? document index key = none → compared = .ok false) := by
  intro labels compared
  have whole : compared = .ok (labels key == some (answerWord (e.holds labels))) :=
    derives.judge_compared leads explicit compound labels
  have given : labels key = (labelAt? document index key).bind labelText? :=
    get?_eq_labelAt? (Relaxed.ordered_readJson reads) ((parse_of_readJson reads).symm.trans taken) found key
  refine ⟨_, derives.judge_explicit explicit labels, ?_, ?_, ?_⟩
  · intro truth here
    rw [here, Option.bind_some, labelText?_bool] at given
    rw [whole, given]
    congr 1
    apply Bool.eq_iff_iff.2
    rw [beq_iff_eq, decide_eq_true_iff, Option.some.injEq, answerWord_inj, eq_comm]
  · intro value here notTrue notFalse
    have other : value ≠ answerWord (e.holds labels) := by
      cases e.holds labels with
      | true => exact notTrue
      | false => exact notFalse
    rw [here] at given
    rw [whole, given]
    exact congrArg Except.ok (beq_eq_false_iff_ne.2 fun same => other (Option.some.inj same))
  · intro absent
    rw [absent] at given
    rw [whole, given]
    rfl

/-- Neither entity has a rack. The label of `a` is true, and the text `yes` of `b` is no answer. -/
theorem judge_truth_up :
    let source := "\x7ba:\x7bup:true\x7d,b:\x7bup:'yes'\x7d\x7d"
    let a : Entity := ⟨"a", .ofList [("up", "true")]⟩
    let b : Entity := ⟨"b", .ofList [("up", "yes")]⟩
    parse source = .ok [a, b] ∧
      Program.judge (tokenize ("up" ++ "=(" ++ "not rack" ++ ")")) a.labels.get? = .ok true ∧
      Program.judge (tokenize ("up" ++ "=(" ++ "not rack" ++ ")")) b.labels.get? = .ok false := by
  intro source a b
  let shown (value : Json) := (value.kind, labelText? value)
  have read : ((Relaxed.readJson source).toOption.any fun document =>
      (labelAt? document 0 "up").map shown == some ("boolean", some "true") &&
        (labelAt? document 1 "up").map shown == some ("string", some "yes")) = true := by
    decide +kernel
  obtain ⟨document, given, shows⟩ := (Option.any_eq_true _ _).1 read
  have reads : Relaxed.readJson source = .ok document := by
    cases known : Relaxed.readJson source with
    | ok value =>
      rw [known] at given
      exact congrArg Except.ok (Option.some.inj given)
    | error error =>
      rw [known] at given
      contradiction
  rw [Bool.and_eq_true, beq_iff_eq, beq_iff_eq] at shows
  obtain ⟨value, up, first⟩ := Option.map_eq_some_iff.1 shows.1
  obtain ⟨other, yes, second⟩ := Option.map_eq_some_iff.1 shows.2
  have isTrue : value = .bool true :=
    eq_bool_of_kind (congrArg Prod.fst first) (congrArg Prod.snd first)
  have isYes : other = .str "yes" :=
    eq_str_of_kind (congrArg Prod.fst second) (congrArg Prod.snd second)
  rw [isTrue] at up
  rw [isYes] at yes
  have taken : parse source = .ok [a, b] := by decide +kernel
  have tokens : tokenize "not rack" = [⟨.word, "not", 0⟩, ⟨.word, "rack", 4⟩] := by decide +kernel
  have leads : LeadsAsOperand "up" "up" ("up" ++ "=(" ++ "not rack" ++ ")") :=
    ⟨⟨.word, "up", 0⟩, by decide +kernel⟩
  have derives : Derives .sequence (tokenize "not rack") (.not 0 (.operand "rack")) := by
    have rack : Derives .atom [⟨.word, "rack", 4⟩] (.operand "rack") :=
      .operand (show Token.operator? ⟨.word, "rack", 4⟩ = none from rfl)
    have sign : Token.operator? ⟨.word, "not", 0⟩ = some .not := rfl
    rw [tokens]
    exact .alternatives (.requirements (.negation (.not sign (.atom rack))))
  have compound (word : String) : Expr.not 0 (.operand "rack") ≠ .operand word := Expr.noConfusion
  obtain ⟨answer, judged, here, -, -⟩ :=
    judge_truth reads taken (show [a, b][0]? = some a from rfl) leads derives rfl compound
  obtain ⟨-, -, -, other, -⟩ :=
    judge_truth reads taken (show [a, b][1]? = some b from rfl) leads derives rfl compound
  have noRack : Program.judge (tokenize "not rack") a.labels.get? = .ok true := by decide +kernel
  cases judged.symm.trans noRack
  exact ⟨taken, here true up, other "yes" yes (by decide) (by decide)⟩

end LabelQuery.Entity
