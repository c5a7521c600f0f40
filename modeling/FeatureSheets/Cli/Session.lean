import FeatureSheets.Cli.Run
import FeatureSheets.World

/-!
# The program

From the arguments to the exit code and the two outputs. The program carries out the command that
the arguments ask for, on any platform, and ends with the exit code 0, or with 1 and a line that
names the error (`execute`). Run on a modelled machine, it gives what it shows and the machine
after it (`runIn`).
-/

namespace FeatureSheets.Cli

variable {m : Type → Type} [Monad m] [Platform m]

/-- Carries out a command. -/
def Command.run : Command → Operation m Unit
  | .parse file => runParse file
  | .convert file output format config => runConvert file output format config
  | .scan roots detail => runScan roots detail
  | .batch file => runBatch file
  | .initConfig output => runInitConfig output
  | .createBatch output roots exportDir => runCreateBatch output roots exportDir

/-- Carries out a command and gives the exit code of the program. -/
def execute (c : Command) : m UInt32 := do
  match ← (Command.run c : Operation m Unit).run with
  | .ok () => return 0
  | .error e =>
    Platform.printError ("Error: ".toList ++ e.message ++ ['\n'])
    return 1

/-- What the program says about its version. -/
def versionText : Text :=
  "alm-cli 0.1.0\n".toList

/-- What the program says about its use. -/
def usageText : Text :=
  "Usage: alm-cli [-v]... <COMMAND>\n\nCommands:\n".toList ++
  "  parse         --file <FILE>\n".toList ++
  "  convert       --file <FILE> --output <DIR> [--format <FORMAT>] [--config <FILE>]\n".toList ++
  "  scan          --root <DIR>... [--detail]\n".toList ++
  "  batch         --batch <FILE>\n".toList ++
  "  init-config   --output <FILE>\n".toList ++
  "  create-batch  --output <FILE> [--root <DIR>]... --export-dir <DIR>\n".toList

/-- What the program does without running a command, and its exit code. -/
def stop : Stop → m UInt32
  | .usage => do
    Platform.printError usageText
    return 2
  | .help => do
    Platform.print usageText
    return 0
  | .version => do
    Platform.print versionText
    return 0

/-! ## Runs on a modelled machine -/

/-- What a run of the program shows. -/
structure Outcome where
  /-- The exit code. -/
  exitCode : UInt32
  /-- The standard output. -/
  output : Text
  /-- The standard error output. -/
  errorOutput : Text
  deriving DecidableEq, Repr

/-- The action that the arguments ask for, and how much is to be said. -/
def program (args : List Text) : Nat × Session UInt32 :=
  match parseArgs args with
  | .error s => (0, stop s)
  | .ok i => (i.verbosity, execute i.command)

/-- Runs the program. -/
def runIn (w : World) (args : List Text) : Outcome × World :=
  let (verbosity, action) := program args
  let (code, w') := action { w with verbosity, output := [], errorOutput := [] }
  (⟨code, w'.output, w'.errorOutput⟩, w')

end FeatureSheets.Cli
