import FeatureSheets.FileTree.Access
import FeatureSheets.Log.Plain

/-!
# A modelled platform

A machine as a value: a file tree, a clock that stands still, and what was written to the outputs
so far. `Session` is the platform of actions on a world, so that everything this library does to
files can be run and reasoned about without a machine.
-/

namespace FeatureSheets

/-- The state of a modelled machine. -/
structure World where
  /-- The files. -/
  tree : FileTree
  /-- The present moment. -/
  clock : Timestamp
  /-- How often more notes were asked for. -/
  verbosity : Nat
  /-- What was written to the standard output. -/
  output : Text
  /-- What was written to the standard error output. -/
  errorOutput : Text

/-- Actions on a modelled machine. -/
abbrev Session : Type → Type :=
  StateM World

namespace Session

/-- Looks at the files. -/
def look {α : Type} (f : FileTree → Except FileFault α) : Session (Except FileFault α) :=
  fun w => (f w.tree, w)

/-- Changes the files, unless that is refused. -/
def change (f : FileTree → Except FileFault FileTree) : Session (Except FileFault Unit) :=
  fun w =>
    match f w.tree with
    | .ok tree => (.ok (), { w with tree })
    | .error fault => (.error fault, w)

instance : Platform Session where
  readFile p := look (·.readFile p)
  writeFile p content := change (·.writeFile p content)
  makeDirectory p := change (·.makeDirectory p)
  kind p := look (·.kind p)
  children p := look (·.children p)
  identity p := look (·.identity p)
  now := fun w => (w.clock, w)
  note n := fun w =>
    ((), if n.level.isShown w.verbosity then
        { w with errorOutput := w.errorOutput ++ Log.shown n }
      else w)
  print s := fun w => ((), { w with output := w.output ++ s })
  printError s := fun w => ((), { w with errorOutput := w.errorOutput ++ s })

end Session

end FeatureSheets
