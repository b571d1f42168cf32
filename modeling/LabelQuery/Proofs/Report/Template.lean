import LabelQuery.Proofs.Text.Replace
import LabelQuery.Report.Template

/-!
Templates filled in. The placeholders are replaced one after the other, so a text that was put in can
be taken for a placeholder by a later replacement. Main statement: exactly which names and texts of
the entity let that happen, and that without it every template is filled in piece by piece.
-/
namespace LabelQuery.Report

open Text

def isBrace (c : Char) : Bool :=
  c == '\x7b' || c == '\x7d'

def hasBrace (text : List Char) : Bool :=
  text.any isBrace

/-- A text without braces. -/
structure Plain where
  text : String
  plain : hasBrace text.toList = false

/-- A part of a template: text, or the placeholder of a name. -/
inductive Piece
  | literal (text : Plain)
  | field (name : Plain)

/-- What a piece stands for. A placeholder without a value stays as it is written. -/
def Piece.filled (values : List (String × String)) : Piece → List Char
  | literal text => text.text.toList
  | field name =>
    match values.lookup name.text with
    | some value => value.toList
    | none => placeholder name.text

/-- The piece is the placeholder of a name that has no value yet. -/
def Piece.Awaits (earlier : List (String × String)) (name : String) (piece : Piece) : Prop :=
  ∃ other : Plain, piece = field other ∧ other.text = name ∧ earlier.lookup name = none

/-- A template with each placeholder filled in by itself. -/
def filled (values : List (String × String)) (pieces : List Piece) : String :=
  String.ofList (pieces.flatMap (Piece.filled values))

/-- A template as it is written. -/
def written (pieces : List Piece) : String :=
  filled [] pieces

/-- Text that a template can show in place of a placeholder. -/
def Shows (values : List (String × String)) (text : List Char) : Prop :=
  ∃ name : Plain, ∃ value, values.lookup name.text = some value ∧ value.toList = text

/-- Some template reads as if it had the placeholder of a name, which it does not have, once earlier
values stand in it: one of them holds the placeholder, or two of them hold its ends, or the name has
braces itself. -/
inductive Intrudes (earlier : List (String × String)) (name : String) : Prop
  | within {text : List Char} : Shows earlier text → placeholder name <:+: text →
      Intrudes earlier name
  | across {first second start stop : List Char} {middle : Plain} :
      Shows earlier first → '\x7b' :: start <:+ first →
      Shows earlier second → stop ++ ['\x7d'] <+: second →
      name.toList = start ++ middle.text.toList ++ stop → Intrudes earlier name
  | spread {pieces : List Piece} : hasBrace name.toList = true →
      placeholder name <:+: pieces.flatMap (Piece.filled earlier) → Intrudes earlier name

/-- No replacement finds more than the placeholders of the template, unless it puts in what is there
already. -/
def Harmless (values : List (String × String)) : Prop :=
  ∀ earlier name value later, values = earlier ++ (name, value) :: later →
    value.toList = placeholder name ∨ ¬Intrudes earlier name

section Braces

variable {stop front rest : List Char} {c : Char} {name : String} {other : Plain}
  {earlier : List (String × String)}

theorem filled_literal (text : Plain) : (Piece.literal text).filled earlier = text.text.toList := rfl

theorem filled_of_lookup {value : String} (known : earlier.lookup other.text = some value) :
    (Piece.field other).filled earlier = value.toList := by
  rw [Piece.filled, known]

theorem filled_of_none (unknown : earlier.lookup other.text = none) :
    (Piece.field other).filled earlier = placeholder other.text := by
  rw [Piece.filled, unknown]

theorem placeholder_ne_nil (name : String) : placeholder name ≠ [] :=
  List.cons_ne_nil _ _

/-- A text that ends in a certain character, in front of two parts: it is over in the first one, or
the first one is inside. -/
theorem closed_prefix_append (leads : stop ++ [c] <+: front ++ rest) :
    stop ++ [c] <+: front ∨ ∃ stop', stop = front ++ stop' ∧ stop' ++ [c] <+: rest := by
  rcases List.prefix_or_prefix_of_prefix leads (List.prefix_append front rest) with inside | beyond
  · exact .inl inside
  · rcases List.prefix_concat_iff.1 beyond with same | ⟨stop', rfl⟩
    · exact .inl (same ▸ List.prefix_refl _)
    · rw [List.append_assoc] at leads
      exact .inr ⟨stop', rfl, (List.prefix_append_right_inj front).1 leads⟩

theorem hasBrace_append (front rest : List Char) :
    hasBrace (front ++ rest) = (hasBrace front || hasBrace rest) :=
  List.any_append

theorem not_mem_of_plain {text : List Char} (plain : hasBrace text = false) (brace : isBrace c = true) :
    c ∉ text := by
  intro mem
  exact List.any_eq_false.1 plain c mem brace

/-- Where plain text and a closing brace begin what is filled in, the brace is the first one of some
value. -/
theorem shows_of_closing {pieces : List Piece} (plain : hasBrace stop = false)
    (leads : stop ++ ['\x7d'] <+: pieces.flatMap (Piece.filled earlier)) :
    ∃ middle stop' second, stop = middle ++ stop' ∧ Shows earlier second ∧
      stop' ++ ['\x7d'] <+: second := by
  induction pieces generalizing stop with
  | nil => simp at leads
  | cons piece pieces ih =>
    rw [List.flatMap_cons] at leads
    rcases closed_prefix_append leads with inside | ⟨behind, rfl, closes⟩
    · cases piece with
      | literal text =>
        have mem : '\x7d' ∈ text.text.toList := inside.subset (by simp)
        exact absurd mem (not_mem_of_plain text.plain rfl)
      | field other =>
        cases known : earlier.lookup other.text with
        | some value =>
          rw [filled_of_lookup known] at inside
          exact ⟨[], stop, value.toList, rfl, ⟨other, value, known, rfl⟩, inside⟩
        | none =>
          rw [filled_of_none known] at inside
          cases stop with
          | nil => simp [placeholder] at inside
          | cons c stop =>
            have opens : c = '\x7b' := (List.cons_prefix_cons.1 inside).1
            have mem : '\x7b' ∈ c :: stop := by simp [opens]
            exact absurd mem (not_mem_of_plain plain rfl)
    · rw [hasBrace_append, Bool.or_eq_false_iff] at plain
      obtain ⟨middle, stop', second, rfl, shows, ends⟩ := ih plain.2 closes
      exact ⟨piece.filled earlier ++ middle, stop', second, (List.append_assoc ..).symm, shows, ends⟩

theorem eq_of_placeholder_prefix (plain : hasBrace name.toList = false)
    (leads : placeholder name <+: placeholder other.text ++ rest) : name = other.text := by
  have inner : name.toList ++ ['\x7d'] <+: other.text.toList ++ '\x7d' :: rest := by
    simpa [placeholder] using leads
  rcases closed_prefix_append inner with inside | ⟨stop, whole, closes⟩
  · have mem : '\x7d' ∈ other.text.toList := inside.subset (by simp)
    exact absurd mem (not_mem_of_plain other.plain rfl)
  · cases stop with
    | nil => exact String.toList_inj.1 (whole.trans (List.append_nil _))
    | cons c stop =>
      have closing : c = '\x7d' := (List.cons_prefix_cons.1 closes).1
      have mem : '\x7d' ∈ name.toList := by simp [whole, closing]
      exact absurd mem (not_mem_of_plain plain rfl)

/-- A plain name whose placeholder begins in a value intrudes: it ends there too, or in a later value. -/
theorem intrudes_of_shows {text : List Char} {pieces : List Piece}
    (plain : hasBrace name.toList = false) (shows : Shows earlier text)
    (behind : '\x7b' :: front <:+ text)
    (leads : placeholder name <+: '\x7b' :: front ++ pieces.flatMap (Piece.filled earlier)) :
    Intrudes earlier name := by
  have closed : ('\x7b' :: name.toList) ++ ['\x7d'] <+: _ := leads
  rcases closed_prefix_append closed with inside | ⟨stop, whole, closes⟩
  · exact .within shows (inside.isInfix.trans behind.isInfix)
  · have parts : name.toList = front ++ stop := (List.cons.inj whole).2
    rw [parts, hasBrace_append, Bool.or_eq_false_iff] at plain
    obtain ⟨middle, stop, second, rfl, showsSecond, ends⟩ := shows_of_closing plain.2 closes
    have plainMiddle : hasBrace (String.ofList middle).toList = false := by
      rw [String.toList_ofList]
      rw [hasBrace_append, Bool.or_eq_false_iff] at plain
      exact plain.2.1
    let between : Plain := ⟨String.ofList middle, plainMiddle⟩
    have whole : name.toList = front ++ between.text.toList ++ stop := by
      rw [parts, String.toList_ofList, List.append_assoc]
    exact .across shows behind showsSecond ends whole

/-- Without intrusion a placeholder begins nowhere in what a template shows, but where the template has
it. -/
theorem not_prefix_of_suffix (harmless : ¬Intrudes earlier name) {piece : Piece} {pieces : List Piece}
    (elsewhere : ¬piece.Awaits earlier name) {tail : List Char}
    (behind : tail <:+ piece.filled earlier) (nonempty : tail ≠ []) :
    ¬placeholder name <+: tail ++ pieces.flatMap (Piece.filled earlier) := by
  intro leads
  have occurs : placeholder name <:+: (piece :: pieces).flatMap (Piece.filled earlier) := by
    obtain ⟨front, whole⟩ := behind
    rw [List.flatMap_cons, ← whole, List.append_assoc]
    exact leads.isInfix.trans (List.suffix_append front _).isInfix
  have plain : hasBrace name.toList = false :=
    Bool.eq_false_iff.2 fun brace => harmless (.spread brace occurs)
  obtain ⟨c, front, rfl⟩ := List.exists_cons_of_ne_nil nonempty
  have opens : '\x7b' = c := (List.cons_prefix_cons.1 leads).1
  subst opens
  cases piece with
  | literal text => exact not_mem_of_plain text.plain rfl (behind.subset List.mem_cons_self)
  | field other =>
    cases known : earlier.lookup other.text with
    | some value =>
      rw [filled_of_lookup known] at behind
      exact harmless (intrudes_of_shows plain ⟨other, value, known, rfl⟩ behind leads)
    | none =>
      rw [filled_of_none known] at behind
      rcases List.suffix_cons_iff.1 behind with whole | inside
      · rw [whole] at leads
        have same : name = other.text := eq_of_placeholder_prefix plain leads
        exact elsewhere ⟨other, rfl, same.symm, same ▸ known⟩
      · have mem : '\x7b' ∈ other.text.toList := by
          simpa using inside.subset List.mem_cons_self
        exact not_mem_of_plain other.plain rfl mem

end Braces

section Stages

variable {name value : String} {earlier values : List (String × String)} {piece : Piece}

theorem filled_of_awaits (value : String) (awaits : piece.Awaits earlier name) :
    piece.filled earlier = placeholder name ∧
      piece.filled (earlier ++ [(name, value)]) = value.toList := by
  obtain ⟨other, rfl, rfl, unknown⟩ := awaits
  have last : (earlier ++ [(other.text, value)]).lookup other.text = some value := by
    simp [List.lookup_append, unknown]
  exact ⟨filled_of_none unknown, filled_of_lookup last⟩

theorem filled_snoc (elsewhere : ¬piece.Awaits earlier name) :
    piece.filled (earlier ++ [(name, value)]) = piece.filled earlier := by
  cases piece with
  | literal text => rfl
  | field other =>
    have same : (earlier ++ [(name, value)]).lookup other.text = earlier.lookup other.text := by
      cases known : earlier.lookup other.text with
      | some shown => simp [List.lookup_append, known]
      | none =>
        have unlike : other.text ≠ name := fun same => elsewhere ⟨other, rfl, same, same ▸ known⟩
        simp [List.lookup_append, known, List.lookup_cons, beq_eq_false_iff_ne.2 unlike]
    rw [Piece.filled, Piece.filled, same]

/-- Without intrusion a replacement fills in one more name of every template. -/
theorem replaceAll_filled (harmless : ¬Intrudes earlier name) (pieces : List Piece) :
    replaceAll (placeholder name) value.toList (pieces.flatMap (Piece.filled earlier)) =
      pieces.flatMap (Piece.filled (earlier ++ [(name, value)])) := by
  induction pieces with
  | nil => rfl
  | cons piece pieces ih =>
    rw [List.flatMap_cons, List.flatMap_cons]
    by_cases awaits : piece.Awaits earlier name
    · obtain ⟨before, after⟩ := filled_of_awaits value awaits
      rw [before, after, replaceAll_occurrence (placeholder_ne_nil name), ih]
    · rw [filled_snoc awaits, ← ih]
      apply replaceAll_append
      intro tail behind nonempty
      exact not_prefix_of_suffix harmless awaits behind nonempty

theorem not_awaits_of_lookup {other : Plain} {shown : String}
    (known : earlier.lookup other.text = some shown) : ¬(Piece.field other).Awaits earlier name := by
  rintro ⟨_, same, rfl, unknown⟩
  cases same
  rw [known] at unknown
  contradiction

/-- An intrusion comes with a template that shows it, and does not have the placeholder itself. -/
theorem exists_pieces_of_intrudes (intrudes : Intrudes earlier name) :
    ∃ pieces : List Piece, (∀ piece ∈ pieces, ¬piece.Awaits earlier name) ∧
      placeholder name <:+: pieces.flatMap (Piece.filled earlier) := by
  cases intrudes with
  | within shows occurs =>
    obtain ⟨other, shown, known, rfl⟩ := shows
    refine ⟨[.field other], ?_, ?_⟩
    · simpa using not_awaits_of_lookup known
    · simpa [filled_of_lookup known] using occurs
  | @across _ _ start stop middle showsFirst opens showsSecond closes parts =>
    obtain ⟨one, first, known, rfl⟩ := showsFirst
    obtain ⟨two, second, knownSecond, rfl⟩ := showsSecond
    obtain ⟨front, firstParts⟩ := opens
    obtain ⟨back, secondParts⟩ := closes
    have literal : ¬(Piece.literal middle).Awaits earlier name := fun ⟨_, same, _⟩ => nomatch same
    refine ⟨[.field one, .literal middle, .field two], ?_, front, back, ?_⟩
    · simp [not_awaits_of_lookup known, not_awaits_of_lookup knownSecond, literal]
    · simp [filled_of_lookup known, filled_of_lookup knownSecond, ← firstParts, ← secondParts,
        filled_literal, placeholder, parts]
  | @spread pieces brace occurs =>
    refine ⟨pieces, ?_, occurs⟩
    rintro _ - ⟨other, rfl, rfl, -⟩
    rw [other.plain] at brace
    contradiction

theorem replaceAll_filled_iff :
    (∀ pieces : List Piece,
      replaceAll (placeholder name) value.toList (pieces.flatMap (Piece.filled earlier)) =
        pieces.flatMap (Piece.filled (earlier ++ [(name, value)]))) ↔
      value.toList = placeholder name ∨ ¬Intrudes earlier name := by
  constructor
  · intro each
    by_contra! otherwise
    obtain ⟨other, intrudes⟩ := otherwise
    obtain ⟨pieces, elsewhere, occurs⟩ := exists_pieces_of_intrudes intrudes
    have stays : pieces.flatMap (Piece.filled (earlier ++ [(name, value)])) =
        pieces.flatMap (Piece.filled earlier) :=
      List.flatMap_congr fun piece mem => filled_snoc (elsewhere piece mem)
    exact replaceAll_ne (placeholder_ne_nil name) other occurs ((each pieces).trans stays)
  · rintro (same | harmless) pieces
    · rw [same, replaceAll_self (placeholder_ne_nil name)]
      apply List.flatMap_congr
      intro piece _
      by_cases awaits : piece.Awaits earlier name
      · obtain ⟨before, after⟩ := filled_of_awaits value awaits
        rw [before, after, same]
      · exact (filled_snoc awaits).symm
    · exact replaceAll_filled harmless pieces

end Stages

section Filling

variable {values earlier : List (String × String)} {name value : String} {entity : Entity}

theorem fill_snoc (template : String) :
    fill template (earlier ++ [(name, value)]) =
      String.ofList (replaceAll (placeholder name) value.toList (fill template earlier).toList) := by
  simp [fill]

theorem fill_step_iff (before : ∀ pieces, fill (written pieces) earlier = filled earlier pieces) :
    (∀ pieces, fill (written pieces) (earlier ++ [(name, value)]) =
      filled (earlier ++ [(name, value)]) pieces) ↔
      value.toList = placeholder name ∨ ¬Intrudes earlier name := by
  rw [← replaceAll_filled_iff]
  apply forall_congr'
  intro pieces
  rw [fill_snoc, before, filled, filled, String.toList_ofList, String.ofList_inj]

/-- Each replacement finds exactly the placeholders of the template, for all templates, exactly if no
name intrudes. -/
theorem fill_written_iff :
    (∀ done, done <+: values → ∀ pieces, fill (written pieces) done = filled done pieces) ↔
      Harmless values := by
  constructor
  · rintro each earlier name value later rfl
    have before := each earlier (List.prefix_append earlier _)
    have upTo : earlier ++ [(name, value)] <+: earlier ++ (name, value) :: later := by simp
    exact (fill_step_iff before).1 (each _ upTo)
  · intro harmless done
    induction done using List.reverseRecOn with
    | nil => simp [fill, written]
    | append_singleton earlier entry ih =>
      intro upTo
      have before := ih ((List.prefix_append earlier _).trans upTo)
      obtain ⟨later, rfl⟩ := upTo
      exact (fill_step_iff before).2 (harmless earlier entry.1 entry.2 later (by simp))

theorem fieldTexts_texts (entries : List (String × String)) :
    fieldTexts (entries.map fun (key, value) => (key, .str value)) =
      entries.map fun (key, value) => key ++ "=" ++ value := by
  induction entries with
  | nil => rfl
  | cons entry entries ih => simp [fieldTexts, valueText, ih]

/-- The placeholders of an entity in the order of their replacement. -/
theorem placeholders_entityFields (entity : Entity) :
    placeholders (entityFields entity) =
      (entity.labels.entries.map fun (key, value) => ("labels." ++ key, value)) ++
        [("labels", labelPairs entity.labels)] ++ [("name", entity.name)] := by
  simp [placeholders, entityFields, fieldPlaceholders, textFields, valueText, fieldTexts_texts,
    labelPairs]

theorem dotted_inj {key other : String} : "labels." ++ key = "labels." ++ other ↔ key = other := by
  rw [← String.toList_inj, String.toList_append, String.toList_append, List.append_cancel_left_eq,
    String.toList_inj]

theorem lookup_dotted (entries : List (String × String)) (key : String) :
    (entries.map fun (key, value) => ("labels." ++ key, value)).lookup ("labels." ++ key) =
      entries.lookup key := by
  induction entries with
  | nil => rfl
  | cons entry entries ih =>
    obtain ⟨first, value⟩ := entry
    rw [List.map_cons, List.lookup_cons, List.lookup_cons, ih]
    by_cases same : key = first
    · simp [same]
    · have other : "labels." ++ key ≠ "labels." ++ first := fun eq => same (dotted_inj.1 eq)
      rw [beq_eq_false_iff_ne.2 same, beq_eq_false_iff_ne.2 other]

theorem lookup_undotted {name : String} (other : ∀ key, name ≠ "labels." ++ key)
    (entries : List (String × String)) :
    (entries.map fun (key, value) => ("labels." ++ key, value)).lookup name = none := by
  rw [List.lookup_eq_none_iff]
  intro entry mem
  obtain ⟨⟨key, value⟩, -, rfl⟩ := List.mem_map.1 mem
  exact bne_iff_ne.2 (other key)

/-- What each placeholder of an entity stands for. -/
theorem lookup_placeholders (entity : Entity) :
    let values := placeholders (entityFields entity)
    values.lookup "name" = some entity.name ∧
      values.lookup "labels" = some (labelPairs entity.labels) ∧
      ∀ key, values.lookup ("labels." ++ key) = entity.labels.get? key := by
  have unlike (name key : String) (differs : name.toList[6]? ≠ some '.') : name ≠ "labels." ++ key := by
    rintro rfl
    simp at differs
  simp only [placeholders_entityFields, List.lookup_append, lookup_dotted]
  refine ⟨?_, ?_, ?_⟩
  · rw [lookup_undotted fun key => unlike "name" key (by decide)]
    rfl
  · rw [lookup_undotted fun key => unlike "labels" key (by decide)]
    rfl
  · intro key
    have notLabels : ("labels." ++ key == "labels") = false :=
      beq_eq_false_iff_ne.2 (unlike "labels" key (by decide)).symm
    have notName : ("labels." ++ key == "name") = false :=
      beq_eq_false_iff_ne.2 (unlike "name" key (by decide)).symm
    simp [List.lookup_cons, Dict.get?, notLabels, notName]

end Filling

section Harmlessness

variable {earlier : List (String × String)} {name : String} {brace : Char} {entity : Entity}

/-- A plain name does not intrude if one of the braces is in no earlier value. -/
theorem not_intrudes_of_absent (braces : isBrace brace = true)
    (plain : hasBrace name.toList = false) (absent : ∀ entry ∈ earlier, brace ∉ entry.2.toList) :
    ¬Intrudes earlier name := by
  have kind : brace = '\x7b' ∨ brace = '\x7d' := by simpa [isBrace] using braces
  have free {text : List Char} (shows : Shows earlier text) : brace ∉ text := by
    obtain ⟨other, value, known, rfl⟩ := shows
    obtain ⟨front, back, rfl, -⟩ := List.lookup_eq_some_iff.1 known
    exact absent (other.text, value) (by simp)
  intro intrudes
  cases intrudes with
  | within shows occurs =>
    apply free shows
    apply occurs.subset
    rcases kind with rfl | rfl <;> simp [placeholder]
  | across showsFirst opens showsSecond closes =>
    rcases kind with rfl | rfl
    · exact free showsFirst (opens.subset List.mem_cons_self)
    · exact free showsSecond (closes.subset (by simp))
  | spread other =>
    rw [plain] at other
    contradiction

theorem mem_joined {separator : String} {pieces : List String} {c : Char}
    (mem : c ∈ (joined separator pieces).toList) :
    c ∈ separator.toList ∨ ∃ piece ∈ pieces, c ∈ piece.toList := by
  fun_induction joined separator pieces with
  | case1 => simp at mem
  | case2 piece => exact .inr ⟨piece, List.mem_singleton_self _, mem⟩
  | case3 piece pieces nonempty ih =>
    simp only [String.toList_append, List.mem_append] at mem
    rcases mem with (here | between) | later
    · exact .inr ⟨piece, List.mem_cons_self, here⟩
    · exact .inl between
    · rcases ih later with between | ⟨other, inside, here⟩
      · exact .inl between
      · exact .inr ⟨other, List.mem_cons_of_mem _ inside, here⟩

theorem prefix_of_snoc_eq {α : Type} {front earlier later : List α} {last entry : α}
    (whole : front ++ [last] = earlier ++ entry :: later) : earlier <+: front := by
  have lengths := congrArg List.length whole
  simp only [List.length_append, List.length_cons, List.length_nil] at lengths
  have upTo : earlier <+: front ++ [last] := ⟨entry :: later, whole.symm⟩
  exact List.prefix_of_prefix_length_le upTo (List.prefix_append front _) (by omega)

/-- Every template is filled in rightly for an entity without braces in the keys of its labels, and
without one of the braces in their values. Its name may have any. -/
theorem harmless_of_labels (brace : Char) (braces : isBrace brace = true)
    (plain : ∀ entry ∈ entity.labels.entries, hasBrace entry.1.toList = false)
    (absent : ∀ entry ∈ entity.labels.entries, brace ∉ entry.2.toList) :
    Harmless (placeholders (entityFields entity)) := by
  have separators : brace ≠ ',' ∧ brace ≠ '=' := by
    constructor <;> rintro rfl <;> exact absurd braces (by decide)
  have pairs : brace ∉ (labelPairs entity.labels).toList := by
    intro mem
    rcases mem_joined mem with between | ⟨_, inside, here⟩
    · exact separators.1 (List.mem_singleton.1 between)
    · obtain ⟨entry, known, rfl⟩ := List.mem_map.1 inside
      have notKey : brace ∉ entry.1.toList := not_mem_of_plain (plain entry known) braces
      simp [notKey, separators.2, absent entry known] at here
  intro earlier name value later whole
  rw [placeholders_entityFields] at whole
  refine .inr (not_intrudes_of_absent braces ?_ ?_)
  · have mem : (name, value) ∈ earlier ++ (name, value) :: later := by simp
    rw [← whole] at mem
    rcases List.mem_append.1 mem with inner | last
    · rcases List.mem_append.1 inner with dotted | labels
      · obtain ⟨entry, known, same⟩ := List.mem_map.1 dotted
        cases same
        rw [String.toList_append, hasBrace_append, plain entry known]
        rfl
      · cases List.mem_singleton.1 labels
        rfl
    · cases List.mem_singleton.1 last
      rfl
  · -- the name of the entity is put in last, so nothing is replaced in it
    intro entry mem
    rcases List.mem_append.1 ((prefix_of_snoc_eq whole).subset mem) with dotted | last
    · obtain ⟨entry, known, rfl⟩ := List.mem_map.1 dotted
      exact absent entry known
    · cases List.mem_singleton.1 last
      exact pairs

end Harmlessness

/-- Templates for an entity. Its placeholders stand for its name, its labels as on its line, and the
value of each label. Each replacement finds exactly those of the template, whatever the template is,
exactly if no name intrudes, and then the whole template is filled in piece by piece. -/
theorem renderEntity_filled (entity : Entity) :
    let values := placeholders (entityFields entity)
    (values.lookup "name" = some entity.name ∧
      values.lookup "labels" = some (labelPairs entity.labels) ∧
      ∀ key, values.lookup ("labels." ++ key) = entity.labels.get? key) ∧
    ((entity.labels.isEmpty = true → labelPairs entity.labels = "" ∧ entityLine entity = entity.name) ∧
      (entity.labels.isEmpty = false →
        entityLine entity = entity.name ++ "\t" ++ labelPairs entity.labels)) ∧
    ((∀ done, done <+: values → ∀ pieces, fill (written pieces) done = filled done pieces) ↔
      Harmless values) ∧
    (Harmless values → ∀ pieces, renderEntity (written pieces) entity = filled values pieces) := by
  intro values
  refine ⟨lookup_placeholders entity, ⟨?_, ?_⟩, fill_written_iff, ?_⟩
  · intro none
    have noEntries : entity.labels.entries = [] := List.isEmpty_iff.1 none
    exact ⟨by simp [labelPairs, noEntries, joined], if_pos none⟩
  · intro some
    simp [entityLine, some]
  · intro harmless pieces
    exact fill_written_iff.2 harmless values (List.prefix_refl _) pieces

theorem renderEntity_filled_node :
    let node : Entity := ⟨"node-1", .ofList [("role", "controller")]⟩
    Harmless (placeholders (entityFields node)) ∧
      renderEntity "\x7bname\x7d (\x7blabels.role\x7d)" node = "node-1 (controller)" := by
  intro node
  have harmless : Harmless (placeholders (entityFields node)) :=
    harmless_of_labels '\x7b' rfl (List.forall_mem_singleton.2 rfl)
      (List.forall_mem_singleton.2 (by decide))
  let pieces : List Piece :=
    [.field ⟨"name", rfl⟩, .literal ⟨" (", rfl⟩, .field ⟨"labels.role", rfl⟩, .literal ⟨")", rfl⟩]
  have rendered : renderEntity (written pieces) node = filled _ pieces :=
    (renderEntity_filled node).2.2.2 harmless pieces
  have asWritten : written pieces = "\x7bname\x7d (\x7blabels.role\x7d)" := by decide +kernel
  rw [asWritten] at rendered
  exact ⟨harmless, rendered.trans (by decide +kernel)⟩

/-- The value of the label `a` is the placeholder of `b`, and it is filled in again. -/
theorem renderEntity_refilled :
    let entity : Entity := ⟨"n", .ofList [("a", "\x7blabels.b\x7d"), ("b", "x")]⟩
    let pieces : List Piece := [.field ⟨"labels.a", rfl⟩]
    filled (placeholders (entityFields entity)) pieces = "\x7blabels.b\x7d" ∧
      renderEntity (written pieces) entity = "x" := by
  decide +kernel

end LabelQuery.Report
