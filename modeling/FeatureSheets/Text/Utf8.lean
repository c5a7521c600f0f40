import FeatureSheets.Text.Basic

/-!
# UTF-8

Texts as bytes and bytes as texts. The reader says where the first sequence that is not UTF-8
begins and how many of its bytes belong together: those that could still begin a character. A
sequence that is cut off by the end of the input is told apart from one that went wrong.
-/

namespace FeatureSheets.Text.Utf8

/-- The bytes of a text. -/
def encode (s : Text) : List UInt8 :=
  s.flatMap String.utf8EncodeChar

/-- The first fault of a byte sequence. -/
structure Fault where
  /-- Number of bytes before the faulty sequence. -/
  index : Nat
  /-- Bytes of the faulty sequence; `none` when the input ends within a character. -/
  width : Option Nat
  deriving DecidableEq, Repr

/-- The wording of a fault. -/
def Fault.message (e : Fault) : Text :=
  match e.width with
  | some n => "invalid utf-8 sequence of ".toList ++ Text.ofNat n ++
      " bytes from index ".toList ++ Text.ofNat e.index
  | none => "incomplete utf-8 byte sequence from index ".toList ++ Text.ofNat e.index

/-- What a character's first byte says about the bytes to come: their number, and the bounds of
the second byte, which rule out long forms, surrogates and code points past the last. -/
inductive Lead where
  /-- The byte is a character by itself. -/
  | single
  /-- One byte follows. -/
  | double
  /-- Two bytes follow, the first of them within bounds. -/
  | triple (low high : UInt8)
  /-- Three bytes follow, the first of them within bounds. -/
  | quadruple (low high : UInt8)
  /-- No character begins so. -/
  | invalid
  deriving DecidableEq, Repr

/-- The role of a first byte. -/
def lead (a : UInt8) : Lead :=
  if a < 0x80 then .single
  else if a < 0xC2 then .invalid
  else if a < 0xE0 then .double
  else if a = 0xE0 then .triple 0xA0 0xBF
  else if a = 0xED then .triple 0x80 0x9F
  else if a < 0xF0 then .triple 0x80 0xBF
  else if a = 0xF0 then .quadruple 0x90 0xBF
  else if a < 0xF4 then .quadruple 0x80 0xBF
  else if a = 0xF4 then .quadruple 0x80 0x8F
  else .invalid

/-- Whether a byte may continue a character. -/
def isTail (b : UInt8) : Bool :=
  0x80 ≤ b && b ≤ 0xBF

/-- The character whose bits are split over a first byte and `tails`. -/
def assemble (head : Nat) (tails : List UInt8) : Char :=
  Char.ofNat (tails.foldl (fun n b => n * 64 + (b.toNat - 0x80)) head)

/-- Reads the bytes from position `i` on. -/
def decodeFrom (i : Nat) : List UInt8 → Except Fault Text
  | [] => .ok []
  | a :: r₁ =>
    match lead a with
    | .single => (assemble a.toNat [] :: ·) <$> decodeFrom (i + 1) r₁
    | .invalid => .error ⟨i, some 1⟩
    | .double =>
      match r₁ with
      | [] => .error ⟨i, none⟩
      | b :: r₂ =>
        if isTail b then (assemble (a.toNat - 0xC0) [b] :: ·) <$> decodeFrom (i + 2) r₂
        else .error ⟨i, some 1⟩
    | .triple low high =>
      match r₁ with
      | [] => .error ⟨i, none⟩
      | b :: r₂ =>
        if low ≤ b && b ≤ high then
          match r₂ with
          | [] => .error ⟨i, none⟩
          | c :: r₃ =>
            if isTail c then (assemble (a.toNat - 0xE0) [b, c] :: ·) <$> decodeFrom (i + 3) r₃
            else .error ⟨i, some 2⟩
        else .error ⟨i, some 1⟩
    | .quadruple low high =>
      match r₁ with
      | [] => .error ⟨i, none⟩
      | b :: r₂ =>
        if low ≤ b && b ≤ high then
          match r₂ with
          | [] => .error ⟨i, none⟩
          | c :: r₃ =>
            if isTail c then
              match r₃ with
              | [] => .error ⟨i, none⟩
              | d :: r₄ =>
                if isTail d then
                  (assemble (a.toNat - 0xF0) [b, c, d] :: ·) <$> decodeFrom (i + 4) r₄
                else .error ⟨i, some 3⟩
            else .error ⟨i, some 2⟩
        else .error ⟨i, some 1⟩

/-- The text that the bytes spell, or their first fault. -/
def decode (bytes : List UInt8) : Except Fault Text :=
  decodeFrom 0 bytes

/-- The bytes of a byte-order mark. -/
def markBytes : List UInt8 := [0xEF, 0xBB, 0xBF]

/-- The bytes after a byte-order mark, if they begin with one; else all of them. -/
def dropMark : List UInt8 → List UInt8
  | 0xEF :: 0xBB :: 0xBF :: r => r
  | bytes => bytes

end FeatureSheets.Text.Utf8
