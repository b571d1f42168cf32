import LabelQuery.Config.Store
import LabelQuery.Proofs.Config.Document
import LabelQuery.Proofs.FileTree

/-!
Configuration files read after they were written. Main statement: a stored configuration is loaded
with the saved filters and the warning setting that it had, unless a name or an expression in it
holds a line separator beyond ASCII. Then the file is malformed.
-/
namespace LabelQuery

open FileTree

theorem FileTree.decode_toUTF8 (text : String) : decode text.toUTF8 = .ok text := by
  have valid : String.fromUTF8? text.toUTF8 = some text := by
    rw [String.fromUTF8?]
    exact dif_pos text.isValidUTF8
  rw [decode, valid]

namespace Config

variable {tree written : FileTree} {path last : String} {config : Config}

theorem read_of_stands (stands : tree.Stands path last config.document.toUTF8)
    (small : config.settings.fuzzyThreshold < counterLimit) :
    read tree path =
      if config.isLegible then .ok config.reread else .error (.malformed path .grammar) := by
  have text : tree.readText path = .ok config.document := by
    rw [readText, stands.located]
    exact decode_toUTF8 config.document
  rw [read, text]
  by_cases legible : config.isLegible = true <;> simp [parse_document small, legible]

theorem store_eq_ok : store tree path config = (written, .ok ()) ↔
    tree.place path config.document.toUTF8 = .ok written := by
  unfold store place
  generalize config.document.toUTF8 = content
  cases tree.makeParents path with
  | mk opened result =>
    cases result with
    | error fault => simp
    | ok made =>
      dsimp only
      cases opened.write path content <;> simp

/-- Storing writes one file, in directories made for it. -/
theorem written_of_store (h : store tree path config = (written, .ok ())) :
    ∃ last, (tree.makeParents path).1.destination path = .ok last ∧
      written = (tree.makeParents path).1.withFile last config.document.toUTF8 := by
  unfold store at h
  split at h
  · cases h
  · next opened makes =>
    rw [makes]
    split at h
    · cases h
    · next after writes =>
      cases h
      unfold write at writes
      cases leads : opened.destination path with
      | error fault =>
        rw [leads] at writes
        cases writes
      | ok last =>
        rw [leads] at writes
        exact ⟨last, rfl, (Except.ok.inj writes).symm⟩

/-- Where storing fails, directories may have been made. -/
theorem opened_of_store {error : StoreError}
    (h : store tree path config = (written, .error error)) :
    written = (tree.makeParents path).1 := by
  unfold store at h
  split at h
  · next opened fault makes =>
    rw [makes]
    exact (congrArg Prod.fst h).symm
  · next opened makes =>
    rw [makes]
    split at h
    · exact (congrArg Prod.fst h).symm
    · cases h

/-- What is stored is what is loaded, but for the threshold. -/
theorem read_of_store (sound : tree.Sound) (small : config.settings.fuzzyThreshold < counterLimit)
    {content : ByteArray} {placed : FileTree} (writable : tree.place path content = .ok placed) :
    ∃ written, store tree path config = (written, .ok ()) ∧
      (config.isLegible = true → ∃ loaded, read written path = .ok loaded ∧
        loaded.filters = config.filters ∧
        loaded.settings.warnUnknownLabels = config.settings.warnUnknownLabels ∧
        loaded.validate = config.validate) ∧
      (config.isLegible = false → read written path = .error (.malformed path .grammar)) := by
  obtain ⟨written, last, again, -, stands⟩ := place_again sound writable config.document.toUTF8
  have reads := read_of_stands stands small
  refine ⟨written, store_eq_ok.2 again, ?_, ?_⟩
  · intro legible
    rw [if_pos legible] at reads
    exact ⟨config.reread, reads, rfl, rfl, rfl⟩
  · intro illegible
    rwa [if_neg (by simp [illegible])] at reads

/-- Quotes, a backslash, controls and a character beyond the first plane come back. -/
theorem read_of_store_quoted :
    let config : Config :=
      ⟨.ofList [("", "\\ \"a\" = '\t\x01\n'"), ("😀", "not (b")], ⟨7, false⟩⟩
    Sound .empty ∧ config.settings.fuzzyThreshold < counterLimit ∧
      (∃ placed, place .empty "d/c.json" .empty = .ok placed) ∧
      ∃ written loaded, store .empty "d/c.json" config = (written, .ok ()) ∧
        read written "d/c.json" = .ok loaded ∧ loaded.filters = config.filters ∧
        loaded.validate = config.validate := by
  intro config
  have sound : Sound .empty := fun _ _ _ => rfl
  have small : config.settings.fuzzyThreshold < counterLimit := by decide
  obtain ⟨placed, writable⟩ : ∃ placed, place .empty "d/c.json" .empty = .ok placed := ⟨_, rfl⟩
  obtain ⟨written, stored, legible, -⟩ := read_of_store sound small writable
  obtain ⟨loaded, reads, filters, -, validate⟩ := legible (by decide +kernel)
  exact ⟨sound, small, ⟨placed, writable⟩, written, loaded, stored, reads, filters, validate⟩

/-- A line separator in an expression is stored and cannot be loaded. -/
theorem read_of_store_separator :
    let config : Config := ⟨.ofList [("a", "x\u2028y")], {}⟩
    ∃ written, store .empty "c.json" config = (written, .ok ()) ∧
      read written "c.json" = .error (.malformed "c.json" .grammar) := by
  intro config
  have sound : Sound .empty := fun _ _ _ => rfl
  have small : config.settings.fuzzyThreshold < counterLimit := by decide
  obtain ⟨placed, writable⟩ : ∃ placed, place .empty "c.json" .empty = .ok placed := ⟨_, rfl⟩
  obtain ⟨written, last, again, -, stands⟩ := place_again sound writable config.document.toUTF8
  have reads := read_of_stands stands small
  rw [if_neg (by decide +kernel)] at reads
  exact ⟨written, store_eq_ok.2 again, reads⟩

end Config

end LabelQuery
