import Mathlib.Data.List.Basic
import Mathlib.Data.List.Forall2
import Mathlib.Data.List.TakeWhile

/-!
# Slices

A list cut at the elements that open a slice. A slice holds the element that opens it and
everything up to the next such element; what stands before the first of them is in no slice.
Together the front and the slices are the list again (`takeWhile_append_flatten_slicesAt`), and
there is one slice for each opening element (`length_slicesAt`).
-/

namespace FeatureSheets

variable {α β : Type}

/-- The slices of a list: one from each element of `opens` up to the next, or to the end. -/
def slicesAt (opens : α → Bool) : List α → List (List α)
  | [] => []
  | a :: l =>
    if opens a then (a :: l.takeWhile fun b => !opens b) :: slicesAt opens l
    else slicesAt opens l

theorem slicesAt_cons_of_pos {opens : α → Bool} {a : α} (h : opens a = true) (l : List α) :
    slicesAt opens (a :: l) = (a :: l.takeWhile fun b => !opens b) :: slicesAt opens l := by
  rw [slicesAt, if_pos h]

theorem slicesAt_cons_of_neg {opens : α → Bool} {a : α} (h : opens a = false) (l : List α) :
    slicesAt opens (a :: l) = slicesAt opens l := by
  rw [slicesAt, if_neg (by simp [h])]

/-- Nothing is lost between the slices. -/
theorem takeWhile_append_flatten_slicesAt (opens : α → Bool) (l : List α) :
    (l.takeWhile fun a => !opens a) ++ (slicesAt opens l).flatten = l := by
  induction l with
  | nil => rfl
  | cons a l ih =>
    cases h : opens a with
    | true => rw [slicesAt_cons_of_pos h]; simp [h, ih]
    | false => rw [slicesAt_cons_of_neg h]; simp [h, ih]

/-- There is one slice for each element that opens one. -/
theorem length_slicesAt (opens : α → Bool) (l : List α) :
    (slicesAt opens l).length = l.countP opens := by
  induction l with
  | nil => rfl
  | cons a l ih =>
    cases h : opens a with
    | true => rw [slicesAt_cons_of_pos h, List.countP_cons_of_pos h, List.length_cons, ih]
    | false => rw [slicesAt_cons_of_neg h, List.countP_cons_of_neg (by simp [h]), ih]

/-- The first element of a slice opens it, and no other one does. -/
theorem exists_cons_of_mem_slicesAt {opens : α → Bool} {l slice : List α}
    (h : slice ∈ slicesAt opens l) :
    ∃ first rest, slice = first :: rest ∧ opens first = true ∧
      ∀ a ∈ rest, opens a = false := by
  induction l with
  | nil => cases h
  | cons a l ih =>
    cases ha : opens a with
    | true =>
      rw [slicesAt_cons_of_pos ha] at h
      rcases List.mem_cons.1 h with rfl | h
      · refine ⟨a, _, rfl, ha, fun b hb => ?_⟩
        simpa using List.mem_takeWhile_imp hb
      · exact ih h
    | false =>
      rw [slicesAt_cons_of_neg ha] at h
      exact ih h

/-- A slice holds elements of the list alone. -/
theorem mem_of_mem_slicesAt {opens : α → Bool} {l slice : List α}
    (h : slice ∈ slicesAt opens l) {a : α} (ha : a ∈ slice) : a ∈ l := by
  rw [← takeWhile_append_flatten_slicesAt opens l]
  exact List.mem_append_right _ (List.mem_flatten.2 ⟨slice, h, ha⟩)

/-- A slice holds what stands from the position of its first element up to the next element that
opens one. -/
theorem forall₂_findIdxs_slicesAt (opens : α → Bool) (l : List α) :
    List.Forall₂
      (fun i slice => ∃ a, l[i]? = some a ∧
        slice = a :: (l.drop (i + 1)).takeWhile fun b => !opens b)
      (l.findIdxs opens) (slicesAt opens l) := by
  induction l with
  | nil => exact .nil
  | cons a l ih =>
    -- the positions of the rest are one further on
    have hrest : List.Forall₂
        (fun i slice => ∃ a', (a :: l)[i]? = some a' ∧
          slice = a' :: ((a :: l).drop (i + 1)).takeWhile fun b => !opens b)
        (l.findIdxs opens 1) (slicesAt opens l) := by
      rw [List.findIdxs_start, List.forall₂_map_left_iff]
      exact ih
    cases h : opens a with
    | false =>
      rw [List.findIdxs_cons, h, slicesAt_cons_of_neg h]
      exact hrest
    | true =>
      rw [List.findIdxs_cons, h, slicesAt_cons_of_pos h]
      exact .cons ⟨a, rfl, rfl⟩ hrest

/-- Slices of an image are images of slices. -/
theorem slicesAt_map (opens : β → Bool) (f : α → β) (l : List α) :
    slicesAt opens (l.map f) = (slicesAt (opens ∘ f) l).map (List.map f) := by
  induction l with
  | nil => rfl
  | cons a l ih =>
    cases h : opens (f a) with
    | true =>
      rw [List.map_cons, slicesAt_cons_of_pos h, slicesAt_cons_of_pos (by simpa using h), ih,
        List.map_cons, List.map_cons, List.takeWhile_map]
      rfl
    | false =>
      rw [List.map_cons, slicesAt_cons_of_neg h, slicesAt_cons_of_neg (by simpa using h), ih]

end FeatureSheets
