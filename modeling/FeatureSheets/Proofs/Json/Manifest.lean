import FeatureSheets.Json.Export
import FeatureSheets.Proofs.Json.Forms
import FeatureSheets.Proofs.Time.Timestamp

/-!
# Manifests read back

A manifest that was stored is read back as it was, its moment to the nanosecond
(`isStored_manifest`).
-/

namespace FeatureSheets.Json

theorem isStored_path (p : Path) : IsStored p :=
  ⟨trivial, rfl⟩

theorem isStored_outputFormat (f : OutputFormat) : IsStored f := by
  cases f <;> exact ⟨trivial, rfl⟩

/-- A count is stored as a number that fits. -/
theorem isStored_uInt64 (n : UInt64) : IsStored n := by
  refine ⟨trivial, ?_⟩
  show (if n.toNat < UInt64.size then some (UInt64.ofNat n.toNat) else none) = some n
  rw [if_pos n.toNat_lt_size, UInt64.ofNat_toNat]

theorem isStored_timestamp (t : Timestamp) : IsStored t :=
  ⟨trivial, Timestamp.read?_write t⟩

theorem isStored_manifestEntry (e : ManifestEntry) : IsStored e := by
  have hname := isStored_text e.name
  have hfile := isStored_path e.file
  have hsteps := isStored_uInt64 e.steps
  constructor
  · show (record _).IsSpelled
    rw [isSpelled_record_iff]
    simp [hname.spelled, hfile.spelled, hsteps.spelled]
  · show ((to? Text (toJson e.name)).bind fun name => (to? Path (toJson e.file)).bind fun file =>
      (to? UInt64 (toJson e.steps)).bind fun steps => some (ManifestEntry.mk name file steps)) =
        some e
    rw [hname.to?_toJson, hfile.to?_toJson, hsteps.to?_toJson]
    rfl

/-- The form of a manifest, whether it names its document or not. -/
theorem isStored_manifest (m : Manifest) : IsStored m := by
  have hmoment := isStored_timestamp m.generatedAt
  have hfeature := isStored_text m.feature
  have hformat := isStored_outputFormat m.format
  have hsheets : IsStored m.sheets := isStored_list fun e _ => isStored_manifestEntry e
  obtain ⟨moment, source, feature, format, sheets⟩ := m
  constructor
  · show (record _).IsSpelled
    rw [isSpelled_record_iff]
    cases source with
    | none =>
      simp [optionalMember, hmoment.spelled, hfeature.spelled, hformat.spelled, hsheets.spelled]
    | some p =>
      simp [optionalMember, hmoment.spelled, hfeature.spelled, hformat.spelled, hsheets.spelled,
        (isStored_path p).spelled]
  · cases source <;>
    · show ((to? Timestamp (toJson moment)).bind fun moment => _) = some _
      rw [hmoment.to?_toJson]
      show ((to? Text (toJson feature)).bind fun feature => _) = some _
      rw [hfeature.to?_toJson]
      show ((to? OutputFormat (toJson format)).bind fun format => _) = some _
      rw [hformat.to?_toJson]
      show ((to? (List ManifestEntry) (toJson sheets)).bind fun sheets => _) = some _
      rw [hsheets.to?_toJson]
      rfl

end FeatureSheets.Json
