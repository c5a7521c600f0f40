import FeatureSheets.Cli.Session
import Std.Time.DateTime.Timestamp

/-!
# The program

The machine itself as a platform, and the program that runs on it.
-/

namespace FeatureSheets

/-- Actions on the machine, told how often more notes were asked for. -/
abbrev Machine : Type → Type :=
  ReaderT Nat IO

namespace Machine

/-- The number by which the system names a fault, where it gives one. -/
def faultNumber : IO.Error → UInt32
  | .alreadyExists _ n _ | .otherError n _ | .resourceBusy n _ | .resourceVanished n _
  | .unsupportedOperation n _ | .hardwareFault n _ | .unsatisfiedConstraints n _
  | .illegalOperation n _ | .protocolError n _ | .timeExpired n _ | .interrupted _ n _
  | .noFileOrDirectory _ n _ | .invalidArgument _ n _ | .permissionDenied _ n _
  | .resourceExhausted _ n _ | .inappropriateType _ n _ | .noSuchThing _ n _ => n
  | .unexpectedEof | .userError _ => 0

/-- The fault of a file system that an error of the machine stands for. -/
def faultOf (e : IO.Error) : FileFault :=
  match faultNumber e with
  | 2 => .missing
  | 17 => .occupied
  | 20 => .notDirectory
  | 21 => .isDirectory
  | 36 => .tooLong
  | 40 => .tooManyLinks
  | _ => .other (toString e).toList

/-- Does something with a path, and gives the fault if the system refuses. -/
def withPath {α : Type} (p : Path) (act : String → IO α) : Machine (Except FileFault α) :=
  fun _ => do
    if p.text.contains '\x00' then return .error .nulInPath
    match ← (act (String.ofList p.text)).toBaseIO with
    | .ok a => return .ok a
    | .error e => return .error (faultOf e)

/-- The kind of what a path leads to. -/
def kindOf (p : String) : IO FileKind := do
  match (← (← IO.FS.realPath p).metadata).type with
  | .dir => return .directory
  | .file => return .file
  | _ => return .other

/-- The kind of an entry whose metadata are given. -/
def entryKind (data : IO.FS.Metadata) : EntryKind :=
  match data.type with
  | .dir => .kind .directory
  | .file => .kind .file
  | .symlink => .link
  | .other => .kind .other

/-- The entries of a directory. -/
def entriesIn (p : String) : IO (List DirectoryEntry) := do
  let entries ← (← IO.FS.realPath p).readDir
  entries.toList.mapM fun e => do
    return ⟨e.fileName.toList, entryKind (← e.path.symlinkMetadata)⟩

/-- The present moment. -/
def presentMoment : IO Timestamp := do
  let t ← Std.Time.Timestamp.now
  return (Timestamp.ofSeconds? t.val.second.val t.val.nano.val.toNat).getD .epoch

instance : Platform Machine where
  readFile p := withPath p fun s => return (← IO.FS.readBinFile s).toList
  writeFile p content := withPath p fun s => IO.FS.writeBinFile s content.toByteArray
  makeDirectory p := withPath p fun s => IO.FS.createDir s
  kind p := withPath p kindOf
  children p := withPath p entriesIn
  identity p := withPath p fun s => return (← IO.FS.realPath s).toString.toList
  now := fun _ => presentMoment
  note n := fun verbosity => do
    if n.level.isShown verbosity then IO.eprint (String.ofList (Log.shown n))
  print s := fun _ => IO.print (String.ofList s)
  printError s := fun _ => IO.eprint (String.ofList s)

/-- Runs the command that the arguments ask for, and gives the exit code. -/
def run (args : List String) : IO UInt32 :=
  match Cli.parseArgs (args.map String.toList) with
  | .error s => (Cli.stop s : Machine UInt32) 0
  | .ok i => (Cli.execute i.command : Machine UInt32) i.verbosity

end Machine

end FeatureSheets

/-- The program. -/
def main (args : List String) : IO UInt32 :=
  FeatureSheets.Machine.run args
