import FeatureSheets.Text.Basic

/-!
# Notes

What the library has to say while it works: one line each, of some weight, from some part of it.
A note is shown when the reader asks for its weight.
-/

namespace FeatureSheets

/-- The weight of a note. -/
inductive Level where
  /-- Something is not as it should be. -/
  | warn
  /-- Something was done. -/
  | info
  /-- Something was seen on the way. -/
  | debug
  deriving DecidableEq, Repr

namespace Level

/-- The name of a weight, five characters wide. -/
def label : Level → Text
  | .warn => "WARN ".toList
  | .info => "INFO ".toList
  | .debug => "DEBUG".toList

/-- Whether a weight is shown to a reader who asked `verbosity` times for more. -/
def isShown (verbosity : Nat) : Level → Bool
  | .warn => true
  | .info => decide (1 ≤ verbosity)
  | .debug => decide (2 ≤ verbosity)

end Level

/-- The part of the library that a note comes from. -/
inductive Origin where
  /-- Reading documents. -/
  | feature
  /-- Building sheets. -/
  | sheet
  /-- Converting files. -/
  | pipeline
  /-- Scanning directories. -/
  | scanner
  /-- Writing sheets. -/
  | writer
  /-- The command line. -/
  | cli
  deriving DecidableEq, Repr

/-- The name that a note gives its origin. -/
def Origin.name : Origin → Text
  | .feature => "alm_core::feature".toList
  | .sheet => "alm_core::sheet".toList
  | .pipeline => "alm_core::pipeline".toList
  | .scanner => "alm_core::scanner".toList
  | .writer => "alm_core::writer".toList
  | .cli => "alm_cli".toList

/-- Something to say. -/
structure Note where
  /-- The weight. -/
  level : Level
  /-- The part of the library that says it. -/
  origin : Origin
  /-- What is said. -/
  message : Text
  deriving DecidableEq, Repr

/-- The lines of a note. What follows a line feed is indented. -/
def Note.lines (n : Note) : Text :=
  '[' :: n.level.label ++ ' ' :: n.origin.name ++ ']' :: ' ' ::
    "\n    ".toList.intercalate n.message.lines ++ ['\n']

end FeatureSheets
