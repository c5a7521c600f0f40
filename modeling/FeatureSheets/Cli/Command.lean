import FeatureSheets.Cli.Options

/-!
# Commands

What the command line asks for. The arguments are an optional `-v`, the name of a command, and
the options of that command; `parseArgs` reads them.
-/

namespace FeatureSheets.Cli

/-- What is to be done. -/
inductive Command where
  /-- Show the rows of a document. -/
  | parse (file : Path)
  /-- Convert a document. -/
  | convert (file output : Path) (format : Text) (config : Option Path)
  /-- List the documents below directories. -/
  | scan (roots : List Path) (detail : Bool)
  /-- Convert the documents of a batch. -/
  | batch (file : Path)
  /-- Write a configuration to start from. -/
  | initConfig (output : Path)
  /-- Write a batch file to start from. -/
  | createBatch (output : Path) (roots : List Path) (exportDir : Path)
  deriving DecidableEq, Repr

/-- A command and how much is to be said about it. -/
structure Invocation where
  /-- How often more notes were asked for. -/
  verbosity : Nat
  /-- What is to be done. -/
  command : Command
  deriving DecidableEq, Repr

/-- The name of a command. -/
inductive CommandName where
  /-- `parse`. -/
  | parse
  /-- `convert`. -/
  | convert
  /-- `scan`. -/
  | scan
  /-- `batch`. -/
  | batch
  /-- `init-config`. -/
  | initConfig
  /-- `create-batch`. -/
  | createBatch
  deriving DecidableEq, Repr

namespace CommandName

/-- Every command. -/
def all : List CommandName :=
  [.parse, .convert, .scan, .batch, .initConfig, .createBatch]

/-- The word for a command. -/
def word : CommandName → Text
  | .parse => "parse".toList
  | .convert => "convert".toList
  | .scan => "scan".toList
  | .batch => "batch".toList
  | .initConfig => "init-config".toList
  | .createBatch => "create-batch".toList

/-- The command with this word. -/
def ofWord? (w : Text) : Option CommandName :=
  all.find? fun n => n.word == w

/-- The options of a command, next to those that every command has. -/
def options : CommandName → List Opt
  | .parse => [.file]
  | .convert => [.file, .output, .format, .config]
  | .scan => [.root, .detail]
  | .batch => [.batch]
  | .initConfig => [.output]
  | .createBatch => [.output, .root, .exportDir]

end CommandName

/-- The values given for an option. -/
def valuesOf (uses : List Use) (opt : Opt) : List Text :=
  (uses.filter (·.opt == opt)).map Use.value

/-- The path given for an option. -/
def path? (uses : List Use) (opt : Opt) : Option Path :=
  (valuesOf uses opt).head?.map Path.mk

/-- The paths given for an option. -/
def paths (uses : List Use) (opt : Opt) : List Path :=
  (valuesOf uses opt).map Path.mk

/-- The command with this name and these options, if none is missing. -/
def command? (uses : List Use) : CommandName → Option Command
  | .parse => do return .parse (← path? uses .file)
  | .convert => do
    let format := ((valuesOf uses .format).head?).getD "csv".toList
    return .convert (← path? uses .file) (← path? uses .output) format (path? uses .config)
  | .scan =>
    match paths uses .root with
    | [] => none
    | roots => some (.scan roots (!(valuesOf uses .detail).isEmpty))
  | .batch => do return .batch (← path? uses .batch)
  | .initConfig => do return .initConfig (← path? uses .output)
  | .createBatch => do
    return .createBatch (← path? uses .output) (paths uses .root) (← path? uses .exportDir)

/-- How often more notes were asked for: after the command if at all there, else before it. -/
def verbosityOf (before after : List Use) : Nat :=
  match (valuesOf after .verbose).length with
  | 0 => (valuesOf before .verbose).length
  | n => n

/-- Reads the arguments of the program. -/
def parseArgs (args : List Text) : Except Stop Invocation := do
  match ← readOptions [.verbose, .help, .version] [] none args with
  | (_, []) => throw .usage
  | (before, word :: rest) =>
    match CommandName.ofWord? word with
    | none => throw (helpOr word rest)
    | some name =>
      match ← readOptions (name.options ++ [.verbose, .help]) [] none rest with
      | (_, _ :: _) => throw .usage
      | (after, []) =>
        match command? after name with
        | none => throw .usage
        | some command => return ⟨verbosityOf before after, command⟩
where
  /-- The word `help` asks for help, alone or before the word of a command or itself. -/
  helpOr (word : Text) (rest : List Text) : Stop :=
    let isTopic (w : Text) : Bool := w == "help".toList || (CommandName.ofWord? w).isSome
    if word = "help".toList ∧ rest.length ≤ 1 ∧ rest.all isTopic then .help else .usage

end FeatureSheets.Cli
