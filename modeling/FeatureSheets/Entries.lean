import FeatureSheets.Text.Basic

/-!
# Entries

Named texts in the order in which their names first appeared, each name once. `alter` is the one
way to change entries: it changes the value of a name in place, or puts a new name last
(`keys_alter`), and no other value changes (`get?_alter`).
-/

namespace FeatureSheets

/-- Changes the value of `key` in place, or appends the key. -/
def alterEntry (key : Text) (f : Option Text → Text) : List (Text × Text) → List (Text × Text)
  | [] => [(key, f none)]
  | (k, v) :: r => if k = key then (k, f (some v)) :: r else (k, v) :: alterEntry key f r

theorem map_fst_alterEntry (key : Text) (f : Option Text → Text) (l : List (Text × Text)) :
    (alterEntry key f l).map Prod.fst =
      if key ∈ l.map Prod.fst then l.map Prod.fst else l.map Prod.fst ++ [key] := by
  induction l with
  | nil => rfl
  | cons e r ih =>
    obtain ⟨k, v⟩ := e
    by_cases h : k = key
    · simp [alterEntry, h]
    · have h' : ¬ key = k := fun e => h e.symm
      simp only [alterEntry, h, if_false, List.map_cons, ih, List.mem_cons, h', false_or]
      split <;> simp

theorem lookup_alterEntry (key : Text) (f : Option Text → Text) (l : List (Text × Text))
    (k : Text) :
    (alterEntry key f l).lookup k = if k = key then some (f (l.lookup key)) else l.lookup k := by
  induction l with
  | nil =>
    by_cases h : k = key
    · simp [alterEntry, h]
    · simp [alterEntry, List.lookup_cons, h, beq_false_of_ne h]
  | cons e r ih =>
    obtain ⟨k', v⟩ := e
    by_cases hk : k' = key
    · subst hk
      by_cases h : k = k'
      · simp [alterEntry, h]
      · simp [alterEntry, List.lookup_cons, h, beq_false_of_ne h]
    · have hk' : ¬key = k' := fun e => hk e.symm
      by_cases h : k = k'
      · simp [alterEntry, h, hk]
      · simp [alterEntry, List.lookup_cons, hk, beq_false_of_ne h, beq_false_of_ne hk', ih]

/-- Named texts in order of first appearance. -/
structure Entries where
  /-- The entries in order. -/
  toList : List (Text × Text)
  /-- No name appears twice. -/
  nodup_keys : (toList.map Prod.fst).Nodup
  deriving DecidableEq

namespace Entries

/-- No entries. -/
def empty : Entries :=
  ⟨[], List.nodup_nil⟩

instance : Inhabited Entries := ⟨empty⟩

/-- The names in order. -/
def keys (e : Entries) : List Text :=
  e.toList.map Prod.fst

/-- Whether there is no entry. -/
def isEmpty (e : Entries) : Bool :=
  e.toList.isEmpty

/-- The value of a name. -/
def get? (e : Entries) (key : Text) : Option Text :=
  e.toList.lookup key

/-- Gives `key` the value that `f` makes of its present one, in place; a new name comes last. -/
def alter (e : Entries) (key : Text) (f : Option Text → Text) : Entries where
  toList := alterEntry key f e.toList
  nodup_keys := by
    rw [map_fst_alterEntry]
    split
    · exact e.nodup_keys
    · rename_i h
      refine List.nodup_append.2 ⟨e.nodup_keys, by simp, fun a ha b hb => ?_⟩
      rw [List.mem_singleton.1 hb]
      exact fun hab => h (hab ▸ ha)

/-- Gives `key` the value `value`. -/
def insert (e : Entries) (key value : Text) : Entries :=
  e.alter key fun _ => value

/-- The entries that a list of pairs spells out: the last value of a name counts, at the place
where the name came first. -/
def ofList (l : List (Text × Text)) : Entries :=
  l.foldl (fun e p => e.insert p.1 p.2) empty

/-- Altering keeps the names, and adds a new one at the end. -/
theorem keys_alter (e : Entries) (key : Text) (f : Option Text → Text) :
    (e.alter key f).keys = if key ∈ e.keys then e.keys else e.keys ++ [key] :=
  map_fst_alterEntry key f e.toList

/-- Altering changes one value. -/
theorem get?_alter (e : Entries) (key : Text) (f : Option Text → Text) (k : Text) :
    (e.alter key f).get? k = if k = key then some (f (e.get? key)) else e.get? k :=
  lookup_alterEntry key f e.toList k

end Entries

end FeatureSheets
