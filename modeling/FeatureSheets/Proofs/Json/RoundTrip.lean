import FeatureSheets.Proofs.Json.Tokens
import FeatureSheets.Proofs.Text.Fields

/-!
# Values in JSON and back

A written value reads back as the value it was, on one line or over many (`parse?_writeAt`), if
its spelling is kept all through: every string and every key spells a text, and every number is
natural. The proof follows the writer: what is written between the marks of an array or an object
is an item, and after it either a comma and the next item or the closing mark.
-/

namespace FeatureSheets.Json

/-! ## Values whose spelling is kept -/

mutual

/-- Whether the spelling of a value is kept all through. -/
def IsSpelled : Json → Prop
  | .otherNumber | .brokenText => False
  | .null | .bool _ | .natural _ | .text _ => True
  | .array items => AreSpelled items
  | .object members => HaveSpelled members

/-- Whether the spelling of all items is kept. -/
def AreSpelled : List Json → Prop
  | [] => True
  | v :: rest => v.IsSpelled ∧ AreSpelled rest

/-- Whether the spelling of all members is kept. -/
def HaveSpelled : List (Option Text × Json) → Prop
  | [] => True
  | (key, v) :: rest => key.isSome = true ∧ v.IsSpelled ∧ HaveSpelled rest

end

theorem areSpelled_iff {items : List Json} : AreSpelled items ↔ ∀ v ∈ items, v.IsSpelled := by
  induction items with
  | nil => simp [AreSpelled]
  | cons v rest ih => simp [AreSpelled, ih]

theorem haveSpelled_iff {members : List (Option Text × Json)} :
    HaveSpelled members ↔ ∀ m ∈ members, m.1.isSome = true ∧ m.2.IsSpelled := by
  induction members with
  | nil => simp [HaveSpelled]
  | cons m rest ih => simp [HaveSpelled, ih, and_assoc]

theorem isSpelled_record_iff {members : List (Text × Json)} :
    (record members).IsSpelled ↔ ∀ m ∈ members, m.2.IsSpelled := by
  rw [record, IsSpelled, haveSpelled_iff, List.forall_mem_map]
  simp

/-! ## Written values by their kind -/

section

variable (layout : Layout) (depth : Nat)

theorem writeAt_natural (n : Nat) : writeAt layout depth (.natural n) = Text.ofNat n :=
  rfl

theorem writeAt_text (s : Text) : writeAt layout depth (.text s) = quote s :=
  rfl

theorem writeAt_array (items : List Json) :
    writeAt layout depth (.array items) =
      enclose layout depth '[' ']' (writeItems layout (depth + 1) items) :=
  rfl

theorem writeAt_object (members : List (Option Text × Json)) :
    writeAt layout depth (.object members) =
      enclose layout depth '\x7b' '\x7d' (writeMembers layout (depth + 1) members) :=
  rfl

theorem writeItems_nil : writeItems layout depth [] = [] :=
  rfl

theorem writeItems_cons (v : Json) (rest : List Json) :
    writeItems layout depth (v :: rest) =
      writeAt layout depth v :: writeItems layout depth rest :=
  rfl

theorem writeMembers_nil : writeMembers layout depth [] = [] :=
  rfl

/-- What is written of a member. -/
def writeMember (m : Option Text × Json) : Text :=
  writeKey layout m.1 ++ writeAt layout depth m.2

theorem writeMembers_cons (m : Option Text × Json) (rest : List (Option Text × Json)) :
    writeMembers layout depth (m :: rest) =
      writeMember layout depth m :: writeMembers layout depth rest :=
  rfl

end

/-! ## What stands between the marks -/

theorem skip_append {gap : Text} (h : ∀ c ∈ gap, isSpace c = true) (s : Text) :
    skip (gap ++ s) = skip s :=
  List.dropWhile_append_of_pos h

theorem skip_cons {c : Char} (h : isSpace c = false) (s : Text) : skip (c :: s) = c :: s :=
  List.dropWhile_cons_of_neg (by simp [h])

/-- The blanks before what stands on a line of its own. -/
def gapAt : Layout → Nat → Text
  | .compact, _ => []
  | .indented, depth => '\n' :: indent depth

theorem isSpace_of_mem_indent {depth : Nat} {c : Char} (h : c ∈ indent depth) :
    isSpace c = true := by
  rw [List.eq_of_mem_replicate h]
  rfl

theorem isSpace_of_mem_gapAt {layout : Layout} {depth : Nat} {c : Char}
    (h : c ∈ gapAt layout depth) : isSpace c = true := by
  cases layout with
  | compact => cases h
  | indented =>
    rcases List.mem_cons.1 h with rfl | h
    · rfl
    · exact isSpace_of_mem_indent h

/-- What follows an item: the other items, each after a comma, and the closing mark. -/
def afterItem (layout : Layout) (depth : Nat) (last : Char) : List Text → Text
  | [] => gapAt layout depth ++ [last]
  | item :: rest => ',' :: (gapAt layout (depth + 1) ++ (item ++ afterItem layout depth last rest))

theorem joinWith_append_last (depth : Nat) (last : Char) (item : Text) (rest : List Text) :
    Text.joinWith ',' (item :: rest) ++ [last] = item ++ afterItem .compact depth last rest := by
  induction rest generalizing item with
  | nil => rw [Text.joinWith_singleton, afterItem, gapAt, List.nil_append]
  | cons next rest ih =>
    rw [Text.joinWith_cons_cons, List.append_assoc, List.cons_append, ih, afterItem, gapAt,
      List.nil_append]

theorem intercalate_append_last (depth : Nat) (last : Char) (item : Text) (rest : List Text) :
    [',', '\n'].intercalate ((item :: rest).map (indent (depth + 1) ++ ·)) ++
        '\n' :: indent depth ++ [last] =
      indent (depth + 1) ++ (item ++ afterItem .indented depth last rest) := by
  induction rest generalizing item with
  | nil =>
    rw [List.map_singleton, List.intercalate_singleton, afterItem, gapAt]
    simp
  | cons next rest ih =>
    rw [List.map_cons, List.map_cons, List.intercalate_cons_cons, ← List.map_cons, afterItem, gapAt]
    have hnext := ih next
    simp only [List.append_assoc, List.cons_append] at hnext ⊢
    rw [hnext]
    rfl

/-- Between marks there are the first item and what follows it. -/
theorem enclose_cons (layout : Layout) (depth : Nat) (first last : Char) (item : Text)
    (rest : List Text) :
    enclose layout depth first last (item :: rest) =
      first :: (gapAt layout (depth + 1) ++ (item ++ afterItem layout depth last rest)) := by
  cases layout with
  | compact => exact congrArg (first :: ·) (joinWith_append_last depth last item rest)
  | indented =>
    rw [gapAt, List.cons_append, ← intercalate_append_last, enclose]
    · simp
    · simp

theorem skip_afterItem_nil (layout : Layout) (depth : Nat) {last : Char}
    (hlast : isSpace last = false) (s : Text) :
    skip (afterItem layout depth last [] ++ s) = last :: s := by
  rw [afterItem, List.append_assoc, skip_append fun c => isSpace_of_mem_gapAt]
  exact skip_cons hlast s

theorem skip_afterItem_cons (layout : Layout) (depth : Nat) (last : Char) (item : Text)
    (rest : List Text) (s : Text) :
    skip (afterItem layout depth last (item :: rest) ++ s) =
      ',' :: (gapAt layout (depth + 1) ++ (item ++ (afterItem layout depth last rest ++ s))) := by
  rw [afterItem, List.cons_append, skip_cons rfl, List.append_assoc, List.append_assoc]

/-- What follows an item goes on with no number. -/
theorem endsNumber_afterItem (layout : Layout) (depth : Nat) {last : Char}
    (hlast : last = ']' ∨ last = '\x7d') (rest : List Text) (s : Text) :
    EndsNumber (afterItem layout depth last rest ++ s) := by
  have hmark : ∀ c : Char, c = ',' ∨ c = '\n' ∨ c = ']' ∨ c = '\x7d' →
      c.isDigit = false ∧ c ≠ '.' ∧ c ≠ 'e' ∧ c ≠ 'E' := by
    rintro c (rfl | rfl | rfl | rfl) <;> decide
  intro c hc
  apply hmark
  cases rest with
  | cons item rest =>
    cases hc
    simp
  | nil =>
    cases layout with
    | indented =>
      cases hc
      simp
    | compact =>
      cases hc
      simp [hlast]

/-! ## Reading a value by its first character -/

theorem value?_string (fuel : Nat) (text s : Text) :
    value? (fuel + 1) (quote text ++ s) = some (.text text, s) := by
  have hread : ∀ rest, value? (fuel + 1) ('"' :: rest) =
      (string? rest).map fun r => (r.1.elim .brokenText .text, r.2) := fun _ => rfl
  rw [quote, List.cons_append, List.cons_append, List.append_assoc, List.singleton_append, hread,
    string?_escape]
  rfl

theorem cons_ne_cons_of_isDigit {c d : Char} (hc : c.isDigit = true) (hd : d.isDigit = false)
    (s t : Text) : c :: s ≠ d :: t := by
  intro h
  rw [(List.cons.inj h).1, hd] at hc
  cases hc

theorem value?_number (fuel n : Nat) {s : Text} (hs : EndsNumber s) :
    value? (fuel + 1) (Text.ofNat n ++ s) = some (.natural n, s) := by
  obtain ⟨c, digits, hc, hdigit⟩ := Text.exists_cons_ofNat n
  have hnumber := number?_ofNat n hs
  rw [hc, List.cons_append] at hnumber ⊢
  rw [value?, hnumber]
  -- a digit begins no value of another kind
  · exact List.cons_ne_nil c _
  all_goals exact fun rest => cons_ne_cons_of_isDigit hdigit rfl _ _

/-- The first character of a written value is no blank and closes nothing. -/
theorem exists_cons_writeAt (layout : Layout) (depth : Nat) (v : Json) :
    ∃ c s, writeAt layout depth v = c :: s ∧ isSpace c = false ∧ c ≠ ']' := by
  cases v with
  | null | otherNumber | brokenText => exact ⟨'n', _, rfl, rfl, by decide⟩
  | bool b =>
    cases b with
    | true => exact ⟨'t', _, rfl, rfl, by decide⟩
    | false => exact ⟨'f', _, rfl, rfl, by decide⟩
  | text s => exact ⟨'"', _, rfl, rfl, by decide⟩
  | natural n =>
    obtain ⟨c, digits, hc, hdigit⟩ := Text.exists_cons_ofNat n
    refine ⟨c, digits, hc, ?_, ?_⟩
    · cases hspace : isSpace c with
      | false => rfl
      | true =>
        simp only [isSpace, Bool.or_eq_true, beq_iff_eq] at hspace
        rcases hspace with ((rfl | rfl) | rfl) | rfl <;> cases hdigit
    · rintro rfl
      cases hdigit
  | array items =>
    rw [writeAt_array]
    cases writeItems layout (depth + 1) items with
    | nil => exact ⟨'[', _, rfl, rfl, by decide⟩
    | cons item rest => exact ⟨'[', _, enclose_cons .., rfl, by decide⟩
  | object members =>
    rw [writeAt_object]
    cases writeMembers layout (depth + 1) members with
    | nil => exact ⟨'\x7b', _, rfl, rfl, by decide⟩
    | cons item rest => exact ⟨'\x7b', _, enclose_cons .., rfl, by decide⟩

/-- An array that does not close at once is read item by item. -/
theorem value?_array {fuel : Nat} {s t : Text} {c : Char} (hs : skip s = c :: t) (hc : c ≠ ']') :
    value? (fuel + 1) ('[' :: s) = (items? fuel (c :: t)).map fun r => (.array r.1, r.2) := by
  -- reading goes up to what follows the mark
  conv => lhs; whnf
  rw [hs]
  split
  · rename_i heq
    exact absurd (List.cons.inj heq).1 hc
  · rfl

/-- An object that does not close at once is read member by member. -/
theorem value?_object {fuel : Nat} {s t : Text} {c : Char} (hs : skip s = c :: t)
    (hc : c ≠ '\x7d') :
    value? (fuel + 1) ('\x7b' :: s) =
      (members? fuel (c :: t)).map fun r => (.object r.1, r.2) := by
  -- reading goes up to what follows the mark
  conv => lhs; whnf
  rw [hs]
  split
  · rename_i heq
    exact absurd (List.cons.inj heq).1 hc
  · rfl

/-! ## Reading what was written -/

/-- Whether a value that is written on a level reads back, with fuel for its characters, whatever
follows that goes on with no number. -/
def ReadsBack (layout : Layout) (depth : Nat) (v : Json) : Prop :=
  ∀ fuel s, (writeAt layout depth v).length ≤ fuel → EndsNumber s →
    value? fuel (writeAt layout depth v ++ s) = some (v, s)

/-- No value is written with nothing, so there is some fuel. -/
theorem readsBack_of_succ {layout : Layout} {depth : Nat} {v : Json}
    (h : ∀ fuel s, (writeAt layout depth v).length ≤ fuel + 1 → EndsNumber s →
      value? (fuel + 1) (writeAt layout depth v ++ s) = some (v, s)) :
    ReadsBack layout depth v := by
  intro fuel s hfuel hs
  obtain ⟨c, t, hc, -, -⟩ := exists_cons_writeAt layout depth v
  cases fuel with
  | zero =>
    rw [hc] at hfuel
    cases hfuel
  | succ fuel => exact h fuel s hfuel hs

theorem length_afterItem_pos (layout : Layout) (depth : Nat) (last : Char) (rest : List Text) :
    0 < (afterItem layout depth last rest).length := by
  cases rest <;> simp [afterItem]

theorem length_afterItem_cons (layout : Layout) (depth : Nat) (last : Char) (item : Text)
    (rest : List Text) :
    (afterItem layout depth last (item :: rest)).length = 1 + (gapAt layout (depth + 1)).length +
      (item.length + (afterItem layout depth last rest).length) := by
  rw [afterItem, List.length_cons, List.length_append, List.length_append]
  omega

/-- The blanks before an item are passed over. -/
theorem skip_gapAt_writeAt (layout : Layout) (depth : Nat) (v : Json) (s : Text) :
    skip (gapAt layout (depth + 1) ++ (writeAt layout (depth + 1) v ++ s)) =
      writeAt layout (depth + 1) v ++ s := by
  obtain ⟨c, t, hc, hspace, -⟩ := exists_cons_writeAt layout (depth + 1) v
  rw [skip_append fun c => isSpace_of_mem_gapAt, hc, List.cons_append, skip_cons hspace]

/-- Items that read back one by one read back as the items of an array. -/
theorem items?_of_readsBack {layout : Layout} {depth : Nat} {v : Json} {rest : List Json}
    (h : ∀ u ∈ v :: rest, ReadsBack layout (depth + 1) u) {fuel : Nat} (s : Text)
    (hfuel : (writeAt layout (depth + 1) v).length +
      (afterItem layout depth ']' (writeItems layout (depth + 1) rest)).length ≤ fuel) :
    items? fuel (writeAt layout (depth + 1) v ++
      (afterItem layout depth ']' (writeItems layout (depth + 1) rest) ++ s)) =
        some (v :: rest, s) := by
  induction rest generalizing v fuel with
  | nil =>
    have hpos := length_afterItem_pos layout depth ']' (writeItems layout (depth + 1) [])
    obtain ⟨fuel, rfl⟩ : ∃ n, fuel = n + 1 := ⟨fuel - 1, by omega⟩
    rw [items?, h v (by simp) fuel _ (by omega) (endsNumber_afterItem _ _ (.inl rfl) _ _),
      writeItems_nil]
    simp only [skip_afterItem_nil layout depth (show isSpace ']' = false from rfl) s]
  | cons next rest ih =>
    rw [writeItems_cons] at hfuel ⊢
    have hlen := length_afterItem_cons layout depth ']' (writeAt layout (depth + 1) next)
      (writeItems layout (depth + 1) rest)
    obtain ⟨fuel, rfl⟩ : ∃ n, fuel = n + 1 := ⟨fuel - 1, by omega⟩
    rw [items?, h v (by simp) fuel _ (by omega) (endsNumber_afterItem _ _ (.inl rfl) _ _)]
    simp only [skip_afterItem_cons, skip_gapAt_writeAt]
    rw [ih (fun u hu => h u (by simp [hu])) (by omega)]
    rfl

/-- A written member begins with a quote, and goes on with the key, a colon and the value. -/
theorem writeMember_append (layout : Layout) (depth : Nat) (key : Text) (v : Json) (s : Text) :
    ∃ gap, (∀ c ∈ gap, isSpace c = true) ∧
      writeMember layout depth (some key, v) ++ s =
        '"' :: (key.flatMap escapeChar ++ '"' :: ':' :: (gap ++ (writeAt layout depth v ++ s))) := by
  cases layout with
  | compact => exact ⟨[], by simp, by simp [writeMember, writeKey, quote, colon]⟩
  | indented => exact ⟨[' '], by simp [isSpace], by simp [writeMember, writeKey, quote, colon]⟩

/-- The blanks before a member are passed over. -/
theorem skip_gapAt_writeMember (layout : Layout) (depth : Nat) (key : Text) (v : Json)
    (s : Text) :
    skip (gapAt layout (depth + 1) ++ (writeMember layout (depth + 1) (some key, v) ++ s)) =
      writeMember layout (depth + 1) (some key, v) ++ s := by
  obtain ⟨gap, -, hwrite⟩ := writeMember_append layout (depth + 1) key v s
  rw [skip_append fun c => isSpace_of_mem_gapAt, hwrite, skip_cons rfl]

theorem length_writeAt_lt_writeMember (layout : Layout) (depth : Nat) (key : Option Text)
    (v : Json) : (writeAt layout depth v).length < (writeMember layout depth (key, v)).length := by
  rw [writeMember, writeKey, quote, List.length_append, List.length_append, List.length_append]
  simp only [List.length_singleton]
  omega

/-- A member whose value reads back reads back itself, up to what follows it. -/
theorem members?_writeMember {layout : Layout} {depth fuel : Nat} {key : Text} {v : Json}
    {s : Text} (h : ReadsBack layout depth v) (hfuel : (writeAt layout depth v).length ≤ fuel)
    (hs : EndsNumber s) :
    members? (fuel + 1) (writeMember layout depth (some key, v) ++ s) =
      match skip s with
      | ',' :: rest =>
        (members? fuel (skip rest)).map fun r => ((some key, v) :: r.1, r.2)
      | '\x7d' :: rest => some ([(some key, v)], rest)
      | _ => none := by
  obtain ⟨gap, hgap, hwrite⟩ := writeMember_append layout depth key v s
  have hskip : skip (gap ++ (writeAt layout depth v ++ s)) = writeAt layout depth v ++ s := by
    obtain ⟨c, t, hc, hspace, -⟩ := exists_cons_writeAt layout depth v
    rw [skip_append hgap, hc, List.cons_append, skip_cons hspace]
  have hcolon : skip (':' :: (gap ++ (writeAt layout depth v ++ s))) =
      ':' :: (gap ++ (writeAt layout depth v ++ s)) := skip_cons rfl _
  rw [hwrite, members?, string?_escape]
  simp only [hcolon, hskip]
  generalize hread : value? fuel (writeAt layout depth v ++ s) = r
  obtain rfl : some (v, s) = r := (h fuel s hfuel hs).symm.trans hread
  rfl

/-- Members that read back one by one read back as the members of an object. -/
theorem members?_of_readsBack {layout : Layout} {depth : Nat} {key : Text} {v : Json}
    {rest : List (Option Text × Json)} (hv : ReadsBack layout (depth + 1) v)
    (h : ∀ u ∈ rest, u.1.isSome = true ∧ ReadsBack layout (depth + 1) u.2) {fuel : Nat}
    (s : Text)
    (hfuel : (writeMember layout (depth + 1) (some key, v)).length +
      (afterItem layout depth '\x7d' (writeMembers layout (depth + 1) rest)).length ≤ fuel) :
    members? fuel (writeMember layout (depth + 1) (some key, v) ++
      (afterItem layout depth '\x7d' (writeMembers layout (depth + 1) rest) ++ s)) =
        some ((some key, v) :: rest, s) := by
  induction rest generalizing key v fuel with
  | nil =>
    have hlt := length_writeAt_lt_writeMember layout (depth + 1) (some key) v
    obtain ⟨fuel, rfl⟩ : ∃ n, fuel = n + 1 := ⟨fuel - 1, by omega⟩
    rw [members?_writeMember hv (by omega) (endsNumber_afterItem _ _ (.inr rfl) _ _),
      writeMembers_nil]
    simp only [skip_afterItem_nil layout depth (show isSpace '\x7d' = false from rfl) s]
  | cons next rest ih =>
    obtain ⟨nextKey, u⟩ := next
    obtain ⟨hsome, hnext⟩ : nextKey.isSome = true ∧ ReadsBack layout (depth + 1) u :=
      h (nextKey, u) (by simp)
    obtain ⟨nextKey, rfl⟩ := Option.isSome_iff_exists.1 hsome
    have hlt := length_writeAt_lt_writeMember layout (depth + 1) (some key) v
    have hlen := length_afterItem_cons layout depth '\x7d'
      (writeMember layout (depth + 1) (some nextKey, u)) (writeMembers layout (depth + 1) rest)
    rw [writeMembers_cons] at hfuel ⊢
    obtain ⟨fuel, rfl⟩ : ∃ n, fuel = n + 1 := ⟨fuel - 1, by omega⟩
    rw [members?_writeMember hv (by omega) (endsNumber_afterItem _ _ (.inr rfl) _ _)]
    simp only [skip_afterItem_cons, skip_gapAt_writeMember]
    rw [ih hnext (fun u hu => h u (by simp [hu])) (by omega)]
    rfl

/-- Values are made of values: what holds of an array when it holds of its items, and of an object
when it holds of its members, holds of every value. -/
@[elab_as_elim]
theorem inductionOn {P : Json → Prop} (v : Json) (null : P .null) (bool : ∀ b, P (.bool b))
    (natural : ∀ n, P (.natural n)) (otherNumber : P .otherNumber) (text : ∀ s, P (.text s))
    (brokenText : P .brokenText) (array : ∀ items, (∀ u ∈ items, P u) → P (.array items))
    (object : ∀ members, (∀ m ∈ members, P m.2) → P (.object members)) : P v := by
  -- the recursion goes through lists, so the induction is on the size
  have hind : ∀ (n : Nat) (v : Json), sizeOf v < n → P v := by
    intro n
    induction n with
    | zero => exact fun v h => absurd h (Nat.not_lt_zero _)
    | succ n ih =>
      intro v h
      cases v with
      | null => exact null
      | bool b => exact bool b
      | natural n => exact natural n
      | otherNumber => exact otherNumber
      | text s => exact text s
      | brokenText => exact brokenText
      | array items =>
        refine array items fun u hu => ih u ?_
        have hlt := List.sizeOf_lt_of_mem hu
        rw [Json.array.sizeOf_spec] at h
        omega
      | object members =>
        refine object members fun m hm => ih m.2 ?_
        have hlt := List.sizeOf_lt_of_mem hm
        have hpair : sizeOf m = 1 + sizeOf m.1 + sizeOf m.2 := Prod.mk.sizeOf_spec m.1 m.2
        rw [Json.object.sizeOf_spec] at h
        omega
  exact hind _ v (Nat.lt_succ_self _)

/-- A written array of items that read back reads back. -/
theorem readsBack_array {layout : Layout} {depth : Nat} {items : List Json}
    (h : ∀ u ∈ items, ReadsBack layout (depth + 1) u) :
    ReadsBack layout depth (.array items) := by
  apply readsBack_of_succ
  intro fuel s hfuel hs
  cases items with
  | nil =>
    rw [writeAt_array, writeItems_nil]
    rfl
  | cons u rest =>
    have hwrite : writeAt layout depth (.array (u :: rest)) = '[' :: (gapAt layout (depth + 1) ++
        (writeAt layout (depth + 1) u ++
          afterItem layout depth ']' (writeItems layout (depth + 1) rest))) := by
      rw [writeAt_array, writeItems_cons, enclose_cons]
    rw [hwrite, List.length_cons, List.length_append, List.length_append] at hfuel
    obtain ⟨c, t, hc, -, hclose⟩ := exists_cons_writeAt layout (depth + 1) u
    have hskip := skip_gapAt_writeAt layout depth u
      (afterItem layout depth ']' (writeItems layout (depth + 1) rest) ++ s)
    have hitems : items? fuel _ = some (u :: rest, s) := items?_of_readsBack h s (by omega)
    rw [hc, List.cons_append] at hskip hitems
    rw [hwrite, List.cons_append, List.append_assoc, List.append_assoc, hc, List.cons_append,
      value?_array hskip hclose, hitems]
    rfl

/-- A written object of members that read back reads back. -/
theorem readsBack_object {layout : Layout} {depth : Nat} {members : List (Option Text × Json)}
    (h : ∀ m ∈ members, m.1.isSome = true ∧ ReadsBack layout (depth + 1) m.2) :
    ReadsBack layout depth (.object members) := by
  apply readsBack_of_succ
  intro fuel s hfuel hs
  cases members with
  | nil =>
    rw [writeAt_object, writeMembers_nil]
    rfl
  | cons m rest =>
    obtain ⟨key, u⟩ := m
    obtain ⟨hsome, hu⟩ : key.isSome = true ∧ ReadsBack layout (depth + 1) u :=
      h (key, u) (by simp)
    obtain ⟨key, rfl⟩ := Option.isSome_iff_exists.1 hsome
    have hwrite : writeAt layout depth (.object ((some key, u) :: rest)) =
        '\x7b' :: (gapAt layout (depth + 1) ++ (writeMember layout (depth + 1) (some key, u) ++
          afterItem layout depth '\x7d' (writeMembers layout (depth + 1) rest))) := by
      rw [writeAt_object, writeMembers_cons, enclose_cons]
    rw [hwrite, List.length_cons, List.length_append, List.length_append] at hfuel
    have hlen : (writeMember layout (depth + 1) (some key, u)).length +
        (afterItem layout depth '\x7d' (writeMembers layout (depth + 1) rest)).length ≤ fuel := by
      omega
    have hskip := skip_gapAt_writeMember layout depth key u
      (afterItem layout depth '\x7d' (writeMembers layout (depth + 1) rest) ++ s)
    have hmembers := members?_of_readsBack hu
      (fun m hm => h m (List.mem_cons_of_mem _ hm)) s hlen
    obtain ⟨gap, -, hquote⟩ := writeMember_append layout (depth + 1) key u
      (afterItem layout depth '\x7d' (writeMembers layout (depth + 1) rest) ++ s)
    rw [hquote] at hskip hmembers
    rw [hwrite, List.cons_append, List.append_assoc, List.append_assoc, hquote,
      value?_object hskip (by decide), hmembers]
    rfl

/-- A value whose spelling is kept reads back on every level. -/
theorem readsBack_of_isSpelled (layout : Layout) (v : Json) (depth : Nat) (hv : v.IsSpelled) :
    ReadsBack layout depth v := by
  induction v using inductionOn generalizing depth with
  | array items ih =>
    rw [IsSpelled, areSpelled_iff] at hv
    exact readsBack_array fun u hu => ih u hu (depth + 1) (hv u hu)
  | object members ih =>
    rw [IsSpelled, haveSpelled_iff] at hv
    exact readsBack_object fun m hm => ⟨(hv m hm).1, ih m hm (depth + 1) (hv m hm).2⟩
  | otherNumber => exact absurd hv (by simp [IsSpelled])
  | brokenText => exact absurd hv (by simp [IsSpelled])
  | null =>
    apply readsBack_of_succ
    intro fuel s _ _
    rfl
  | bool b =>
    apply readsBack_of_succ
    intro fuel s _ _
    cases b with
    | true => rfl
    | false => rfl
  | natural n =>
    apply readsBack_of_succ
    intro fuel s _ hs
    rw [writeAt_natural]
    exact value?_number fuel n hs
  | text t =>
    apply readsBack_of_succ
    intro fuel s _ _
    rw [writeAt_text]
    exact value?_string fuel t s

/-! ## Whole texts -/

/-- A written value reads back as it was, with blanks around it or without. -/
theorem parse?_writeAt (layout : Layout) {v : Json} (hv : v.IsSpelled) {s : Text}
    (hs : ∀ c ∈ s, isSpace c = true) : parse? (writeAt layout 0 v ++ s) = some v := by
  obtain ⟨c, t, hc, hspace, -⟩ := exists_cons_writeAt layout 0 v
  have hskip : skip (writeAt layout 0 v ++ s) = writeAt layout 0 v ++ s := by
    rw [hc, List.cons_append, skip_cons hspace]
  have hend : EndsNumber s := by
    intro c hc
    have hblank := hs c (List.mem_of_mem_head? hc)
    simp only [isSpace, Bool.or_eq_true, beq_iff_eq] at hblank
    rcases hblank with ((rfl | rfl) | rfl) | rfl <;> decide
  have hrest : skip s = [] := by
    rw [← List.append_nil s, skip_append hs]
    rfl
  have hlen : (writeAt layout 0 v).length ≤ 2 * (writeAt layout 0 v ++ s).length + 2 := by
    rw [List.length_append]
    omega
  rw [parse?, hskip, readsBack_of_isSpelled layout v 0 hv _ s hlen hend]
  simp only [hrest, if_true]

end FeatureSheets.Json
