import FeatureSheets.Proofs.Export.Write
import FeatureSheets.Proofs.Text.Sigma

/-!
# Files on systems without letter case

The files of an export are told apart by their stems in lower case. A file system that knows no
letter case maps each character on its own, and so takes two of them for one only where a capital
sigma ends a word in one stem and another sigma stands for it in the other (`files_apart`). Such
names are not told apart: `files_meet_sigma` has an export of two.
-/

namespace FeatureSheets

/-- Whether two file names are equal up to the case of their characters. -/
def AgreeUpToCase (a b : Text) : Prop :=
  Text.lowerEach a = Text.lowerEach b

/-- Files whose stems differ in lower case agree up to case only for a sigma. -/
theorem sigmaApart_of_agreeUpToCase {s t : Text} (hlower : Text.lower s ≠ Text.lower t)
    (h : AgreeUpToCase (s ++ ".csv".toList) (t ++ ".csv".toList)) :
    Text.SigmaApart s t ∨ Text.SigmaApart t s := by
  rw [AgreeUpToCase, Text.lowerEach_append, Text.lowerEach_append] at h
  exact Text.sigmaApart_of_lowerEach_eq (List.append_cancel_right h) hlower

/-- **Files are apart but for a sigma.** Any two files of an export to tables differ up to the case
of their characters, unless a capital sigma ends a word of one stem where the other has a small
sigma, or a capital one that ends no word. -/
theorem files_apart {w w' : World} {sheets : List Sheet} {dir : Path} {source : ExportSource}
    {result : ExportResult}
    (h : (writeSheets sheets dir .csv source : Operation Session ExportResult).run w =
      (.ok result, w')) :
    ∃ stems : List Text, stems.length = sheets.length ∧
      result.manifest.sheets.map ManifestEntry.file = stems.map (fun s => ⟨s ++ ".csv".toList⟩) ∧
      result.filesWritten =
        stems.map (fun s => dir.join ⟨s ++ ".csv".toList⟩) ++ [dir.join manifestFile] ∧
      stems.Pairwise fun s t => AgreeUpToCase (s ++ ".csv".toList) (t ++ ".csv".toList) →
        Text.SigmaApart s t ∨ Text.SigmaApart t s := by
  obtain ⟨w₁, w₂, paths, -, hfiles, -, hwritten⟩ := exists_of_writeSheets h
  obtain ⟨chosen, rfl, -, hnodup, -, rfl, hentries⟩ := exists_chosen_of_writeFiles hfiles
  refine ⟨chosen.map fun x => x.2.chosen, ?_, ?_, ?_, ?_⟩
  · rw [List.length_map, List.length_map]
  · rw [hentries, List.map_map, List.map_map]
    rfl
  · rw [hwritten, List.map_map]
    rfl
  · rw [List.Nodup, List.pairwise_map] at hnodup
    rw [List.pairwise_map]
    exact hnodup.imp fun hlower => sigmaApart_of_agreeUpToCase hlower

/-- Names that meet in lower case, and meet the name that one of them gets for it. -/
theorem files_apart_meeting :
    ∃ result w', (writeSheets meetingSheets (.ofString "out") .csv ⟨[], none⟩ :
        Operation Session ExportResult).run bareWorld = (.ok result, w') ∧
      result.filesWritten = meetingPaths ∧
      ∃ stems : List Text, stems.length = 3 ∧
        result.manifest.sheets.map ManifestEntry.file =
          stems.map (fun s => ⟨s ++ ".csv".toList⟩) ∧
        stems.Pairwise fun s t => AgreeUpToCase (s ++ ".csv".toList) (t ++ ".csv".toList) →
          Text.SigmaApart s t ∨ Text.SigmaApart t s := by
  obtain ⟨result, w', hrun, hpaths⟩ := run_writeSheets_meeting
  obtain ⟨stems, hlen, hfiles, -, hapart⟩ := files_apart hrun
  exact ⟨result, w', hrun, hpaths, stems, hlen, hfiles, hapart⟩

/-- A document with two scenarios that are called by one word, which ends in a sigma. -/
def sigmaDocument : Text :=
  "Scenario: ΑΣ\nGiven a\nScenario: ασ\nGiven b\n".toList

/-- Both files are written, and a system that knows no letter case takes them for one. -/
theorem files_meet_sigma :
    ∃ result w', (writeSheets (convert .standard sigmaDocument).sheets (.ofString "out") .csv
        ⟨[], none⟩ : Operation Session ExportResult).run bareWorld = (.ok result, w') ∧
      result.manifest.sheets.map ManifestEntry.file =
        [.ofString "ΑΣ.csv", .ofString "ασ.csv"] ∧
      AgreeUpToCase "ΑΣ.csv".toList "ασ.csv".toList := by
  have hfiles : ((writeSheets (convert .standard sigmaDocument).sheets (.ofString "out") .csv
      ⟨[], none⟩ : Operation Session ExportResult).run bareWorld).1.toOption.map
        (fun result => result.manifest.sheets.map ManifestEntry.file) =
          some [.ofString "ΑΣ.csv", .ofString "ασ.csv"] := by decide +kernel
  have hagree : AgreeUpToCase "ΑΣ.csv".toList "ασ.csv".toList := by
    unfold AgreeUpToCase
    decide +kernel
  obtain ⟨result, w', hrun, hfiles⟩ := Operation.exists_run_of_map_toOption hfiles
  exact ⟨result, w', hrun, hfiles, hagree⟩

end FeatureSheets
