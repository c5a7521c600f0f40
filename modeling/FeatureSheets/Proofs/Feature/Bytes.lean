import FeatureSheets.Proofs.Feature.Layout
import FeatureSheets.Proofs.Session
import FeatureSheets.Proofs.Workbook
import FeatureSheets.Store

/-!
# Documents given in bytes

A document comes in as bytes in a file, as bytes in a memory area, or as a text. One byte-order
mark at the front of a file is taken off before the bytes are read, while the other ways leave it
to the margins of the first line. That comes to the same (`parse_byteOrderMark_cons`), and bytes
are UTF-8 with the mark if and only if they are without it (`encode_eq_markBytes_append_iff`), so
all ways take and refuse the same documents (`conversions_of_bytes_agree`).
-/

namespace FeatureSheets

open Text

/-! ## The mark in bytes -/

namespace Text.Utf8

theorem encodeChar_byteOrderMark : String.utf8EncodeChar byteOrderMark = markBytes := by
  decide

/-- The mark is taken off where it is, and nothing else is. -/
theorem dropMark_cases (bytes : List UInt8) :
    bytes = markBytes ++ dropMark bytes ∨ dropMark bytes = bytes := by
  unfold dropMark
  split
  · exact Or.inl rfl
  · exact Or.inr rfl

/-- Bytes behind a mark spell what they spell without it, behind a byte-order mark. -/
theorem encode_eq_markBytes_append_iff {text : Text} {rest : List UInt8} :
    encode text = markBytes ++ rest ↔
      ∃ text', text = byteOrderMark :: text' ∧ encode text' = rest := by
  constructor
  · intro h
    -- the first three bytes are read as one character
    have hlead : lead 0xEF = .triple 0x80 0xBF := by decide
    have hread : decodeFrom 0 (markBytes ++ rest) =
        (assemble (0xEF - 0xE0) [0xBB, 0xBF] :: ·) <$> decodeFrom 3 rest :=
      decodeFrom_triple hlead (by decide) (by decide) rest
    have htext : decodeFrom 0 (markBytes ++ rest) = .ok text := decode_eq_ok_iff.2 h
    rw [hread] at htext
    cases hrest : decodeFrom 3 rest with
    | error fault =>
      rw [hrest] at htext
      cases htext
    | ok text' =>
      rw [hrest] at htext
      exact ⟨text', (Except.ok.inj htext).symm, encode_of_decodeFrom hrest⟩
  · rintro ⟨text', rfl, rfl⟩
    rw [encode_cons, encodeChar_byteOrderMark]

end Text.Utf8

/-! ## Documents -/

namespace Feature

/-- A byte-order mark in front is a margin of the first line. -/
theorem parse_byteOrderMark_cons (text : Text) : parse (byteOrderMark :: text) = parse text := by
  have hmargin : ∀ c ∈ [byteOrderMark], isMargin c = true ∧ c ≠ '\n' := by
    rw [List.forall_mem_singleton]
    decide
  exact parse_eq_of_spokenLines (spokenLines_margin_append text hmargin)

/-- The bytes of a text are read, and say what the text says. -/
theorem parseBytes_encode (source text : Text) :
    parseBytes source (Utf8.encode text) = .ok (parse text) := by
  have hread : ∀ {text'}, Utf8.encode text' = Utf8.dropMark (Utf8.encode text) →
      parseBytes source (Utf8.encode text) = .ok (parse text') := by
    intro text' h
    rw [parseBytes, decode, Utf8.decode_eq_ok_iff.2 h]
    rfl
  rcases Utf8.dropMark_cases (Utf8.encode text) with hmark | hnone
  · obtain ⟨text', rfl, hrest⟩ := Utf8.encode_eq_markBytes_append_iff.1 hmark
    rw [hread hrest, parse_byteOrderMark_cons]
  · exact hread hnone.symm

/-- Bytes that are those of no text are refused. -/
theorem exists_parseBytes_eq_error (source : Text) {bytes : List UInt8}
    (h : ¬∃ text, Utf8.encode text = bytes) :
    ∃ fault, parseBytes source bytes = .error (.malformedInput source fault) := by
  unfold parseBytes decode
  cases hread : Utf8.decode (Utf8.dropMark bytes) with
  | error fault => exact ⟨fault, rfl⟩
  | ok text' =>
    have hrest : Utf8.encode text' = Utf8.dropMark bytes := Utf8.decode_eq_ok_iff.1 hread
    refine absurd ?_ h
    rcases Utf8.dropMark_cases bytes with hmark | hnone
    · refine ⟨byteOrderMark :: text', ?_⟩
      rw [hmark]
      exact Utf8.encode_eq_markBytes_append_iff.2 ⟨text', rfl, hrest⟩
    · exact ⟨text', hrest.trans hnone⟩

/-- Bytes are refused if and only if they are those of no text. -/
theorem exists_parseBytes_eq_error_iff (source : Text) (bytes : List UInt8) :
    (∃ fault, parseBytes source bytes = .error (.malformedInput source fault)) ↔
      ¬∃ text, Utf8.encode text = bytes := by
  refine ⟨?_, exists_parseBytes_eq_error source⟩
  rintro ⟨fault, hrefused⟩ ⟨text, rfl⟩
  rw [parseBytes_encode] at hrefused
  cases hrefused

end Feature

/-! ## Documents in files -/

theorem Operation.exists_run_sayAll (notes : List Note) (w : World) :
    ∃ w', (sayAll notes : Operation Session Unit).run w = (.ok (), w') := by
  induction notes generalizing w with
  | nil => exact ⟨w, rfl⟩
  | cons n notes ih =>
    obtain ⟨w', hrest⟩ := ih ((Platform.note n : Session Unit) w).2
    exact ⟨w', run_bind_eq_ok_iff.2 ⟨(), _, run_lift_eq_ok_iff.2 rfl, hrest⟩⟩

/-- A document in a file is read as its bytes are. -/
theorem Feature.run_load_fst {w : World} {p : Path} {bytes : List UInt8}
    (h : w.tree.readFile p = .ok bytes) :
    ((Feature.load p : Operation Session Feature).run w).1 = parseBytes p.text bytes := by
  have hbytes : (readBytes p : Operation Session _).run w = (.ok bytes, w) :=
    Operation.run_ask_eq_ok_iff.2 (Session.look_eq_iff.2 ⟨h, rfl⟩)
  unfold Feature.load parseBytes
  generalize hrun : (_ : Operation Session Feature).run w = run
  obtain ⟨r, w'⟩ := run
  rcases Operation.run_bind_eq_iff.1 hrun with ⟨e, hread, -⟩ | ⟨bytes', w₁, hread, hrest⟩
  · cases hbytes.symm.trans hread
  cases hbytes.symm.trans hread
  cases hdecode : Feature.decode p.text bytes with
  | error e =>
    rw [hdecode] at hrest
    exact (congrArg Prod.fst hrest).symm
  | ok text =>
    rw [hdecode] at hrest
    obtain ⟨w₂, hsay⟩ := Operation.exists_run_sayAll (Feature.notes text) w
    rcases Operation.run_bind_eq_iff.1 hrest with ⟨e, hfail, -⟩ | ⟨_, w₃, -, hlast⟩
    · cases hsay.symm.trans hfail
    · exact (congrArg Prod.fst hlast).symm

/-- A document in a file is converted as what its bytes say. -/
theorem Conversion.run_load_fst {w : World} {p : Path} {bytes : List UInt8}
    (h : w.tree.readFile p = .ok bytes) (config : SheetConfig) :
    ((Conversion.load config p : Operation Session Conversion).run w).1 =
      (Feature.parseBytes p.text bytes).map (Conversion.ofFeature config) := by
  rw [← Feature.run_load_fst h]
  unfold Conversion.load
  generalize hrun : (_ : Operation Session Conversion).run w = run
  obtain ⟨r, w'⟩ := run
  rcases Operation.run_bind_eq_iff.1 hrun with ⟨e, hread, rfl⟩ | ⟨feature, w₁, hread, hrest⟩
  · rw [hread]
    rfl
  · rw [hread]
    -- what is said about the sheets never fails
    obtain ⟨w₂, hsay⟩ := Operation.exists_run_sayAll (SheetName.notes config.nameLimit
      (SheetName.slots config.nameLimit
        ((Conversion.ofFeature config feature).rows.map ExportRow.sheetName))) w₁
    rcases Operation.run_bind_eq_iff.1 hrest with ⟨e, hfail, -⟩ | ⟨_, w₃, -, hrest⟩
    · cases hsay.symm.trans hfail
    rcases Operation.run_bind_eq_iff.1 hrest with ⟨e, hfail, -⟩ | ⟨_, w₄, -, hlast⟩
    · cases hfail
    · exact (congrArg Prod.fst hlast).symm

/-! ## All ways into the converter -/

/-- **All ways into the converter agree.** Bytes are refused as malformed if and only if they are
those of no text, and the bytes of a text say what the text says, byte-order marks and all. So a
memory area that holds bytes without a zero byte, a file that holds them and their text become the
same sheets, and the area and the file are refused if and only if there is no such text. -/
theorem conversions_of_bytes_agree (source : Text) (bytes : List UInt8) :
    ((∃ fault, Feature.parseBytes source bytes = .error (.malformedInput source fault)) ↔
      ¬∃ text, Utf8.encode text = bytes) ∧
    (∀ text, Utf8.encode text = bytes →
      Feature.parseBytes source bytes = .ok (Feature.parse text)) ∧
    (0 ∉ bytes → ∀ (rest : List UInt8) (w : World) (p : Path), w.tree.readFile p = .ok bytes →
      (∀ text, Utf8.encode text = bytes →
        (Workbook.ofBytes? (bytes ++ 0 :: rest)).map Workbook.sheets =
          some (convert .standard text).sheets ∧
        ((Conversion.load .standard p : Operation Session Conversion).run w).1 =
          .ok (convert .standard text)) ∧
      (Workbook.ofBytes? (bytes ++ 0 :: rest) = none ↔ ¬∃ text, Utf8.encode text = bytes) ∧
      ((∃ fault, ((Conversion.load .standard p : Operation Session Conversion).run w).1 =
          .error (.malformedInput p.text fault)) ↔ ¬∃ text, Utf8.encode text = bytes)) := by
  refine ⟨Feature.exists_parseBytes_eq_error_iff source bytes, ?_, ?_⟩
  · rintro text rfl
    exact Feature.parseBytes_encode source text
  intro hzero rest w p hfile
  have hload := Conversion.run_load_fst hfile .standard
  refine ⟨?_, ?_, ?_⟩
  · rintro text rfl
    constructor
    · rw [Workbook.ofBytes?_encode hzero]
      rfl
    · rw [hload, Feature.parseBytes_encode]
      rfl
  · exact Workbook.ofBytes?_eq_none_iff hzero rest
  · rw [← Feature.exists_parseBytes_eq_error_iff p.text, hload]
    cases Feature.parseBytes p.text bytes with
    | ok feature => simp [Except.map]
    | error e => simp [Except.map]

/-- A document with two byte-order marks in front and one on a later line. -/
theorem conversions_of_bytes_agree_marks :
    let text : Text := "\uFEFF\uFEFFScenario: A\n\uFEFFGiven x".toList
    let bytes : List UInt8 := Utf8.encode text
    let p : Path := .ofString "a.feature"
    let w : World := ⟨FileTree.empty.insert [] p.text (.file bytes), .epoch, 0, [], []⟩
    0 ∉ bytes ∧ w.tree.readFile p = .ok bytes ∧
      (Feature.parse text).scenarios.map Scenario.steps = [["Given x".toList]] ∧
      Feature.parseBytes p.text bytes = .ok (Feature.parse text) ∧
      (Workbook.ofBytes? (bytes ++ [0])).map Workbook.sheets =
        some (convert .standard text).sheets ∧
      ((Conversion.load .standard p : Operation Session Conversion).run w).1 =
        .ok (convert .standard text) := by
  intro text bytes p w
  have hzero : 0 ∉ bytes := by decide
  have hfile : w.tree.readFile p = .ok bytes := rfl
  obtain ⟨-, hbytes, hsame⟩ := conversions_of_bytes_agree p.text bytes
  obtain ⟨harea, hload⟩ := (hsame hzero [] w p hfile).1 text rfl
  exact ⟨hzero, hfile, by decide, hbytes text rfl, harea, hload⟩

end FeatureSheets
