import FeatureSheets.Error
import FeatureSheets.Log.Note
import FeatureSheets.Time.Timestamp

/-!
# Platforms

What an operation of this library asks of the machine it runs on. Operations are written once,
over any platform; a platform may be the machine itself or a model of it. `FileKind` and
`DirectoryEntry` are what it says about what a path leads to and about what a directory holds.
-/

namespace FeatureSheets

/-- What a path leads to, links followed. -/
inductive FileKind where
  /-- A directory. -/
  | directory
  /-- A regular file. -/
  | file
  /-- Neither. -/
  | other
  deriving DecidableEq, Repr

/-- What a directory holds under a name, links not followed. -/
inductive EntryKind where
  /-- A link. -/
  | link
  /-- Something that is no link. -/
  | kind (k : FileKind)
  deriving DecidableEq, Repr

/-- An entry of a directory. -/
structure DirectoryEntry where
  /-- The name. -/
  name : Text
  /-- What stands under the name. -/
  kind : EntryKind
  deriving DecidableEq, Repr

/-- The services of a machine, as actions of `m`. -/
class Platform (m : Type → Type) where
  /-- The content of a file. -/
  readFile : Path → m (Except FileFault (List UInt8))
  /-- Writes a file, new or not. -/
  writeFile : Path → List UInt8 → m (Except FileFault Unit)
  /-- Makes a directory in a directory. -/
  makeDirectory : Path → m (Except FileFault Unit)
  /-- What a path leads to, links followed. -/
  kind : Path → m (Except FileFault FileKind)
  /-- The entries of a directory, in any order. -/
  children : Path → m (Except FileFault (List DirectoryEntry))
  /-- A text that tells what a path leads to from everything else. -/
  identity : Path → m (Except FileFault Text)
  /-- The present moment. -/
  now : m Timestamp
  /-- Says something while working. -/
  note : Note → m Unit
  /-- Writes to the standard output. -/
  print : Text → m Unit
  /-- Writes to the standard error output. -/
  printError : Text → m Unit

/-- An operation that may fail. -/
abbrev Operation (m : Type → Type) : Type → Type :=
  ExceptT Error m

namespace Operation

variable {m : Type → Type} [Monad m]

/-- Asks the platform for something that it may refuse. -/
def ask {α : Type} (fault : FileFault → Error) (x : m (Except FileFault α)) : Operation m α :=
  ExceptT.mk do
    match ← x with
    | .ok a => return .ok a
    | .error f => return .error (fault f)

/-- Says something. -/
def say [Platform m] (level : Level) (origin : Origin) (message : Text) : Operation m Unit :=
  ExceptT.lift (Platform.note ⟨level, origin, message⟩)

/-- Says several things in turn. -/
def sayAll [Platform m] : List Note → Operation m Unit
  | [] => pure ()
  | n :: rest => do
    ExceptT.lift (Platform.note n)
    sayAll rest

/-- Writes a line to the standard output. -/
def printLine [Platform m] (line : Text) : Operation m Unit :=
  ExceptT.lift (Platform.print (line ++ ['\n']))

/-- The result of an action, with its error as a value. -/
def attempt {α : Type} (x : Operation m α) : Operation m (Except Error α) :=
  ExceptT.lift x.run

end Operation

end FeatureSheets
