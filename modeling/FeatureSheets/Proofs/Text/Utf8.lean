import FeatureSheets.Text.Utf8

/-!
# Texts as bytes and back

The bytes of a text spell the text (`decode_encode`), and no other bytes do (`decode_eq_ok_iff`).
Both proofs are one character at a time: the first byte tells how many follow, and the bounds of
the second byte hold of every code point that is a character.
-/

namespace FeatureSheets.Text

/-! ## The number of bytes -/

theorem foldl_byteCount (n : Nat) (s : Text) :
    s.foldl (fun n c => n + c.utf8Size) n = n + byteCount s := by
  induction s generalizing n with
  | nil => rfl
  | cons c s ih =>
    rw [byteCount, List.foldl_cons, List.foldl_cons, ih, ih, Nat.zero_add, Nat.add_assoc]

theorem byteCount_append (s t : Text) : byteCount (s ++ t) = byteCount s + byteCount t := by
  rw [byteCount, List.foldl_append, foldl_byteCount, ← byteCount]

theorem byteCount_pos {s : Text} (h : s ≠ []) : 0 < byteCount s := by
  obtain ⟨c, rest, rfl⟩ := List.exists_cons_of_ne_nil h
  have hc : 0 < c.utf8Size := Char.utf8Size_pos c
  rw [byteCount, List.foldl_cons, foldl_byteCount]
  omega

namespace Utf8

/-! ## Bytes by their numbers -/

/-- The role of the first byte with this number. -/
def leadOf (n : Nat) : Lead :=
  if n < 0x80 then .single
  else if n < 0xC2 then .invalid
  else if n < 0xE0 then .double
  else if n = 0xE0 then .triple 0xA0 0xBF
  else if n = 0xED then .triple 0x80 0x9F
  else if n < 0xF0 then .triple 0x80 0xBF
  else if n = 0xF0 then .quadruple 0x90 0xBF
  else if n < 0xF4 then .quadruple 0x80 0xBF
  else if n = 0xF4 then .quadruple 0x80 0x8F
  else .invalid

theorem lead_eq (a : UInt8) : lead a = leadOf a.toNat := by
  simp only [lead, leadOf, UInt8.lt_iff_toNat_lt, ← UInt8.toNat_inj]
  rfl

theorem lead_ofNat {n : Nat} (h : n < 256) : lead (UInt8.ofNat n) = leadOf n := by
  rw [lead_eq, UInt8.toNat_ofNat_of_lt' h]

theorem isTail_ofNat {n : Nat} (hlow : 0x80 ≤ n) (hhigh : n ≤ 0xBF) :
    isTail (UInt8.ofNat n) = true := by
  have hn : (UInt8.ofNat n).toNat = n := UInt8.toNat_ofNat_of_lt' (show n < 256 by omega)
  simp only [isTail, Bool.and_eq_true, decide_eq_true_eq, UInt8.le_iff_toNat_le, hn]
  exact ⟨hlow, hhigh⟩

theorem le_ofNat_and_le {low high : UInt8} {n : Nat} (h : n < 256) (hlow : low.toNat ≤ n)
    (hhigh : n ≤ high.toNat) : (low ≤ UInt8.ofNat n && UInt8.ofNat n ≤ high) = true := by
  have hn : (UInt8.ofNat n).toNat = n := UInt8.toNat_ofNat_of_lt' h
  simp only [Bool.and_eq_true, decide_eq_true_eq, UInt8.le_iff_toNat_le, hn]
  exact ⟨hlow, hhigh⟩

/-! ## One character -/

variable {i : Nat} {a b c d : UInt8} {low high : UInt8}

theorem decodeFrom_single (h : lead a = .single) (rest : List UInt8) :
    decodeFrom i (a :: rest) = (assemble a.toNat [] :: ·) <$> decodeFrom (i + 1) rest := by
  rw [decodeFrom.eq_def]
  simp only [h]

theorem decodeFrom_double (h : lead a = .double) (hb : isTail b = true) (rest : List UInt8) :
    decodeFrom i (a :: b :: rest) =
      (assemble (a.toNat - 0xC0) [b] :: ·) <$> decodeFrom (i + 2) rest := by
  rw [decodeFrom.eq_def]
  simp only [h, hb, if_true]

theorem decodeFrom_triple (h : lead a = .triple low high) (hb : (low ≤ b && b ≤ high) = true)
    (hc : isTail c = true) (rest : List UInt8) :
    decodeFrom i (a :: b :: c :: rest) =
      (assemble (a.toNat - 0xE0) [b, c] :: ·) <$> decodeFrom (i + 3) rest := by
  rw [decodeFrom.eq_def]
  simp only [h, hb, hc, if_true]

theorem decodeFrom_quadruple (h : lead a = .quadruple low high)
    (hb : (low ≤ b && b ≤ high) = true) (hc : isTail c = true) (hd : isTail d = true)
    (rest : List UInt8) :
    decodeFrom i (a :: b :: c :: d :: rest) =
      (assemble (a.toNat - 0xF0) [b, c, d] :: ·) <$> decodeFrom (i + 4) rest := by
  rw [decodeFrom.eq_def]
  simp only [h, hb, hc, hd, if_true]

/-- The code point of a character is no half of a surrogate pair, and not past the last one. -/
theorem toNat_bounds (c : Char) : c.toNat < 0xD800 ∨ (0xDFFF < c.toNat ∧ c.toNat < 0x110000) :=
  c.valid

/-- A character of three bytes has a first byte that admits its second byte. -/
theorem exists_lead_triple {v : Nat} (hlow : 0x800 ≤ v) (hhigh : v ≤ 0xFFFF)
    (hv : v < 0xD800 ∨ 0xDFFF < v) :
    ∃ low high : UInt8, lead (UInt8.ofNat (v / 4096 % 0x10 + 0xE0)) = .triple low high ∧
      low.toNat ≤ v / 64 % 0x40 + 0x80 ∧ v / 64 % 0x40 + 0x80 ≤ high.toNat := by
  rw [lead_ofNat (by omega), leadOf, if_neg (by omega), if_neg (by omega), if_neg (by omega)]
  by_cases hfirst : v / 4096 = 0
  · rw [if_pos (by omega)]
    refine ⟨0xA0, 0xBF, rfl, ?_, ?_⟩
    · show 160 ≤ v / 64 % 64 + 128
      omega
    · show v / 64 % 64 + 128 ≤ 191
      omega
  · rw [if_neg (by omega)]
    by_cases hsurrogate : v / 4096 = 0xD
    · rw [if_pos (by omega)]
      refine ⟨0x80, 0x9F, rfl, ?_, ?_⟩
      · show 128 ≤ v / 64 % 64 + 128
        omega
      · show v / 64 % 64 + 128 ≤ 159
        omega
    · rw [if_neg (by omega), if_pos (by omega)]
      refine ⟨0x80, 0xBF, rfl, ?_, ?_⟩
      · show 128 ≤ v / 64 % 64 + 128
        omega
      · show v / 64 % 64 + 128 ≤ 191
        omega

/-- A character of four bytes has a first byte that admits its second byte. -/
theorem exists_lead_quadruple {v : Nat} (hlow : 0x10000 ≤ v) (hhigh : v < 0x110000) :
    ∃ low high : UInt8, lead (UInt8.ofNat (v / 262144 % 0x08 + 0xF0)) = .quadruple low high ∧
      low.toNat ≤ v / 4096 % 0x40 + 0x80 ∧ v / 4096 % 0x40 + 0x80 ≤ high.toNat := by
  rw [lead_ofNat (by omega), leadOf, if_neg (by omega), if_neg (by omega), if_neg (by omega),
    if_neg (by omega), if_neg (by omega), if_neg (by omega)]
  by_cases hfirst : v / 262144 = 0
  · rw [if_pos (by omega)]
    refine ⟨0x90, 0xBF, rfl, ?_, ?_⟩
    · show 144 ≤ v / 4096 % 64 + 128
      omega
    · show v / 4096 % 64 + 128 ≤ 191
      omega
  · rw [if_neg (by omega)]
    by_cases hlast : v / 262144 = 4
    · rw [if_neg (by omega), if_pos (by omega)]
      refine ⟨0x80, 0x8F, rfl, ?_, ?_⟩
      · show 128 ≤ v / 4096 % 64 + 128
        omega
      · show v / 4096 % 64 + 128 ≤ 143
        omega
    · rw [if_pos (by omega)]
      refine ⟨0x80, 0xBF, rfl, ?_, ?_⟩
      · show 128 ≤ v / 4096 % 64 + 128
        omega
      · show v / 4096 % 64 + 128 ≤ 191
        omega

/-- The bytes of a character spell it, whatever follows. -/
theorem exists_decodeFrom_encodeChar (i : Nat) (c : Char) (rest : List UInt8) :
    ∃ j, decodeFrom i (String.utf8EncodeChar c ++ rest) = (c :: ·) <$> decodeFrom j rest := by
  have hassemble : ∀ head tails,
      tails.foldl (fun n (b : UInt8) => n * 64 + (b.toNat - 0x80)) head = c.toNat →
        assemble head tails = c := by
    intro head tails h
    rw [assemble, h, Char.ofNat_toNat]
  have hbounds := toNat_bounds c
  rw [String.utf8EncodeChar, show c.val.toNat = c.toNat from rfl]
  -- one case for each number of bytes, which the first byte tells again
  by_cases hone : c.toNat ≤ 0x7f
  · have hlead : lead (UInt8.ofNat c.toNat) = .single := by
      rw [lead_ofNat (by omega), leadOf, if_pos (by omega)]
    refine ⟨i + 1, ?_⟩
    rw [if_pos hone, List.singleton_append, decodeFrom_single hlead, hassemble]
    exact UInt8.toNat_ofNat_of_lt' (show c.toNat < 256 by omega)
  by_cases htwo : c.toNat ≤ 0x7ff
  · have hlead : lead (UInt8.ofNat (c.toNat / 64 % 0x20 + 0xc0)) = .double := by
      rw [lead_ofNat (by omega), leadOf, if_neg (by omega), if_neg (by omega), if_pos (by omega)]
    refine ⟨i + 2, ?_⟩
    rw [if_neg hone, if_pos htwo, List.cons_append, List.singleton_append,
      decodeFrom_double hlead (isTail_ofNat (by omega) (by omega)), hassemble]
    simp only [UInt8.toNat_ofNat', List.foldl_cons, List.foldl_nil]
    omega
  by_cases hthree : c.toNat ≤ 0xffff
  · obtain ⟨low, high, hlead, hlow, hhigh⟩ := exists_lead_triple (by omega) hthree (by omega)
    refine ⟨i + 3, ?_⟩
    rw [if_neg hone, if_neg htwo, if_pos hthree, List.cons_append, List.cons_append,
      List.singleton_append, decodeFrom_triple hlead (le_ofNat_and_le (by omega) hlow hhigh)
        (isTail_ofNat (by omega) (by omega)), hassemble]
    simp only [UInt8.toNat_ofNat', List.foldl_cons, List.foldl_nil]
    omega
  · obtain ⟨low, high, hlead, hlow, hhigh⟩ :=
      exists_lead_quadruple (by omega : 0x10000 ≤ c.toNat) (by omega)
    refine ⟨i + 4, ?_⟩
    rw [if_neg hone, if_neg htwo, if_neg hthree, List.cons_append, List.cons_append,
      List.cons_append, List.singleton_append, decodeFrom_quadruple hlead
        (le_ofNat_and_le (by omega) hlow hhigh) (isTail_ofNat (by omega) (by omega))
        (isTail_ofNat (by omega) (by omega)), hassemble]
    simp only [UInt8.toNat_ofNat', List.foldl_cons, List.foldl_nil]
    omega

/-! ## One character that was read -/

/-- What the role of a first byte says about its number. -/
def Lead.Bounds (n : Nat) : Lead → Prop
  | .single => n < 0x80
  | .double => 0xC2 ≤ n ∧ n < 0xE0
  | .triple low high => 0xE0 ≤ n ∧ n < 0xF0 ∧ 0x80 ≤ low.toNat ∧ high.toNat ≤ 0xBF ∧
      (n = 0xE0 → low.toNat = 0xA0) ∧ (n = 0xED → high.toNat = 0x9F)
  | .quadruple low high => 0xF0 ≤ n ∧ n < 0xF5 ∧ 0x80 ≤ low.toNat ∧ high.toNat ≤ 0xBF ∧
      (n = 0xF0 → low.toNat = 0x90) ∧ (n = 0xF4 → high.toNat = 0x8F)
  | .invalid => True

theorem bounds_lead (a : UInt8) : (lead a).Bounds a.toNat := by
  rw [lead_eq, leadOf]
  repeat' split
  all_goals simp [Lead.Bounds] <;> omega

theorem toNat_of_isTail (h : isTail b = true) : 0x80 ≤ b.toNat ∧ b.toNat ≤ 0xBF := by
  simpa [isTail, UInt8.le_iff_toNat_le] using h

theorem toNat_of_le_and_le (h : (low ≤ b && b ≤ high) = true) :
    low.toNat ≤ b.toNat ∧ b.toNat ≤ high.toNat := by
  simpa [UInt8.le_iff_toNat_le] using h

/-- The bytes of the character with a code point. -/
theorem encodeChar_ofNat {v : Nat} (hv : v < 0xD800 ∨ 0xDFFF < v ∧ v < 0x110000) :
    String.utf8EncodeChar (Char.ofNat v) =
      if v ≤ 0x7f then [UInt8.ofNat v]
      else if v ≤ 0x7ff then [UInt8.ofNat (v / 64 % 0x20 + 0xc0), UInt8.ofNat (v % 0x40 + 0x80)]
      else if v ≤ 0xffff then
        [UInt8.ofNat (v / 4096 % 0x10 + 0xe0), UInt8.ofNat (v / 64 % 0x40 + 0x80),
          UInt8.ofNat (v % 0x40 + 0x80)]
      else
        [UInt8.ofNat (v / 262144 % 0x08 + 0xf0), UInt8.ofNat (v / 4096 % 0x40 + 0x80),
          UInt8.ofNat (v / 64 % 0x40 + 0x80), UInt8.ofNat (v % 0x40 + 0x80)] := by
  have hchar : (Char.ofNat v).val.toNat = v := by
    rw [Char.ofNat, dif_pos hv]
    rfl
  rw [String.utf8EncodeChar, hchar]

theorem eq_ofNat {n : Nat} (h : n = a.toNat) : UInt8.ofNat n = a := by
  rw [h, UInt8.ofNat_toNat]

theorem encodeChar_assemble_single (ha : lead a = .single) :
    String.utf8EncodeChar (assemble a.toNat []) = [a] := by
  have hlead := bounds_lead a
  rw [ha, Lead.Bounds] at hlead
  rw [assemble, List.foldl_nil, encodeChar_ofNat (by omega), if_pos (by omega), UInt8.ofNat_toNat]

theorem encodeChar_assemble_double (ha : lead a = .double) (hb : isTail b = true) :
    String.utf8EncodeChar (assemble (a.toNat - 0xC0) [b]) = [a, b] := by
  have hlead := bounds_lead a
  rw [ha, Lead.Bounds] at hlead
  have hbyte := toNat_of_isTail hb
  rw [assemble, List.foldl_cons, List.foldl_nil, encodeChar_ofNat (by omega), if_neg (by omega),
    if_pos (by omega), eq_ofNat (a := a) (by omega), eq_ofNat (a := b) (by omega)]

theorem encodeChar_assemble_triple (ha : lead a = .triple low high)
    (hb : (low ≤ b && b ≤ high) = true) (hc : isTail c = true) :
    String.utf8EncodeChar (assemble (a.toNat - 0xE0) [b, c]) = [a, b, c] := by
  have hlead := bounds_lead a
  rw [ha, Lead.Bounds] at hlead
  have hbyte := toNat_of_le_and_le hb
  have hbyte' := toNat_of_isTail hc
  rw [assemble, List.foldl_cons, List.foldl_cons, List.foldl_nil, encodeChar_ofNat (by omega),
    if_neg (by omega), if_neg (by omega), if_pos (by omega), eq_ofNat (a := a) (by omega),
    eq_ofNat (a := b) (by omega), eq_ofNat (a := c) (by omega)]

theorem encodeChar_assemble_quadruple (ha : lead a = .quadruple low high)
    (hb : (low ≤ b && b ≤ high) = true) (hc : isTail c = true) (hd : isTail d = true) :
    String.utf8EncodeChar (assemble (a.toNat - 0xF0) [b, c, d]) = [a, b, c, d] := by
  have hlead := bounds_lead a
  rw [ha, Lead.Bounds] at hlead
  have hbyte := toNat_of_le_and_le hb
  have hbyte' := toNat_of_isTail hc
  have hbyte'' := toNat_of_isTail hd
  rw [assemble, List.foldl_cons, List.foldl_cons, List.foldl_cons, List.foldl_nil,
    encodeChar_ofNat (by omega), if_neg (by omega), if_neg (by omega), if_neg (by omega),
    eq_ofNat (a := a) (by omega), eq_ofNat (a := b) (by omega), eq_ofNat (a := c) (by omega),
    eq_ofNat (a := d) (by omega)]

/-! ## Whole texts -/

/-- The bytes of a text spell the text. -/
theorem decode_encode (s : Text) : decode (encode s) = .ok s := by
  have hfrom : ∀ i, decodeFrom i (encode s) = .ok s := by
    induction s with
    | nil => exact fun _ => rfl
    | cons c s ih =>
      intro i
      obtain ⟨j, hj⟩ := exists_decodeFrom_encodeChar i c (encode s)
      rw [encode, List.flatMap_cons, ← encode, hj, ih]
      rfl
  exact hfrom 0

theorem encode_cons (c : Char) (s : Text) : encode (c :: s) = String.utf8EncodeChar c ++ encode s :=
  List.flatMap_cons

/-- A text that is read one character further has the bytes that were read for it in front. -/
theorem encode_of_map_cons {c : Char} {read : Except Fault Text} {bytes rest : List UInt8}
    (hc : String.utf8EncodeChar c = bytes) (hread : ∀ {s}, read = .ok s → encode s = rest)
    {text : Text} (h : (c :: ·) <$> read = .ok text) : encode text = bytes ++ rest := by
  cases read with
  | error fault => cases h
  | ok s =>
    obtain rfl : c :: s = text := Except.ok.inj h
    rw [encode_cons, hc, hread rfl]

/-- What is read is spelled by the bytes. -/
theorem encode_of_decodeFrom {i : Nat} {bytes : List UInt8} {text : Text}
    (h : decodeFrom i bytes = .ok text) : encode text = bytes := by
  fun_induction decodeFrom i bytes generalizing text
  case case1 i =>
    obtain rfl : [] = text := Except.ok.inj h
    rfl
  case case2 i a rest ha ih =>
    exact encode_of_map_cons (encodeChar_assemble_single ha) ih h
  case case5 i a ha b rest hb ih =>
    exact encode_of_map_cons (encodeChar_assemble_double ha hb) ih h
  case case9 i a low high ha b hb c rest hc ih =>
    exact encode_of_map_cons (encodeChar_assemble_triple ha hb hc) ih h
  case case15 i a low high ha b hb c hc d rest hd ih =>
    exact encode_of_map_cons (encodeChar_assemble_quadruple ha hb hc hd) ih h
  all_goals cases h

/-- The bytes that spell a text are the bytes of the text. -/
theorem decode_eq_ok_iff {bytes : List UInt8} {text : Text} :
    decode bytes = .ok text ↔ encode text = bytes := by
  constructor
  · exact encode_of_decodeFrom
  · intro h
    rw [← h, decode_encode]

end Utf8

end FeatureSheets.Text
