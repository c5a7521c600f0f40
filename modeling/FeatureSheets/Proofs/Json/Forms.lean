import FeatureSheets.Json.Sheet
import FeatureSheets.Proofs.Json.RoundTrip

/-!
# Stored values and back

A value whose stored form keeps its spelling, and gives the value again, is read back from its
stored text (`read?_write_append`). Texts, lists of such values and sheets are stored so.
-/

namespace FeatureSheets.Json

variable {α : Type} [JsonForm α]

/-- Whether the stored form of a value keeps its spelling and gives the value again. -/
structure IsStored (a : α) : Prop where
  /-- Nothing of the form is lost when it is written. -/
  spelled : (toJson a).IsSpelled
  /-- The form gives the value. -/
  to?_toJson : to? α (toJson a) = some a

/-- A stored value is read back from its text, with blanks after it or without. -/
theorem read?_write_append {a : α} (h : IsStored a) {s : Text} (hs : ∀ c ∈ s, isSpace c = true) :
    read? α (write a ++ s) = some a := by
  rw [read?, write, pretty, parse?_writeAt .indented h.spelled hs, Option.bind_some,
    h.to?_toJson]

theorem isStored_text (s : Text) : IsStored s :=
  ⟨trivial, rfl⟩

/-- A list is stored when its items are. -/
theorem isStored_list {l : List α} (h : ∀ a ∈ l, IsStored a) : IsStored l := by
  constructor
  · show AreSpelled (l.map toJson)
    rw [areSpelled_iff, List.forall_mem_map]
    exact fun a ha => (h a ha).spelled
  · show (l.map toJson).mapM (to? α) = some l
    induction l with
    | nil => rfl
    | cons a l ih =>
      rw [List.map_cons, List.mapM_cons, (h a (by simp)).to?_toJson,
        ih fun b hb => h b (by simp [hb])]
      rfl

theorem isStored_sheet (s : Sheet) : IsStored s := by
  have hname := isStored_text s.name
  have hrows : IsStored s.rows :=
    isStored_list fun row _ => isStored_list fun cell _ => isStored_text cell
  constructor
  · show (record _).IsSpelled
    rw [isSpelled_record_iff]
    simp [hname.spelled, hrows.spelled]
  · show ((to? Text (toJson s.name)).bind fun name =>
      (to? (List (List Text)) (toJson s.rows)).bind fun rows => some (Sheet.mk name rows)) = some s
    rw [hname.to?_toJson, hrows.to?_toJson]
    rfl

end FeatureSheets.Json
