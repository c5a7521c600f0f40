import FeatureSheets.Path

/-!
# Options of the command line

How options are written: `-f a`, `-fa`, `-f=a`, `--file a` and `--file=a` give a value, and short
options without a value may share a dash. An option that wants a value takes the next argument,
unless that looks like an option; a lone dash does not. Options with a path refuse an empty one,
and only some may be given more than once. Asking for help or for the version ends the reading
there.
-/

namespace FeatureSheets.Cli

/-- An option of any command. -/
inductive Opt where
  /-- Ask for more notes. -/
  | verbose
  /-- Ask for help. -/
  | help
  /-- Ask for the version. -/
  | version
  /-- A document. -/
  | file
  /-- Where to write. -/
  | output
  /-- The output format. -/
  | format
  /-- A configuration. -/
  | config
  /-- A directory to scan. -/
  | root
  /-- Ask for details. -/
  | detail
  /-- A batch file. -/
  | batch
  /-- The output directory of a batch. -/
  | exportDir
  deriving DecidableEq, Repr

namespace Opt

/-- The long name. -/
def long : Opt → Text
  | .verbose => "verbose".toList
  | .help => "help".toList
  | .version => "version".toList
  | .file => "file".toList
  | .output => "output".toList
  | .format => "format".toList
  | .config => "config".toList
  | .root => "root".toList
  | .detail => "detail".toList
  | .batch => "batch".toList
  | .exportDir => "export-dir".toList

/-- The short name, if there is one. -/
def short? : Opt → Option Char
  | .verbose => some 'v'
  | .help => some 'h'
  | .version => some 'V'
  | .file => some 'f'
  | .output => some 'o'
  | .config => some 'c'
  | .root => some 'r'
  | .detail => some 'd'
  | .batch => some 'b'
  | .format | .exportDir => none

/-- Whether a value belongs to the option. -/
def takesValue : Opt → Bool
  | .verbose | .help | .version | .detail => false
  | _ => true

/-- Whether the value may be empty. -/
def allowsEmpty : Opt → Bool
  | .format => true
  | _ => false

/-- Whether the option may be given more than once. -/
def isRepeatable : Opt → Bool
  | .verbose | .root => true
  | _ => false

end Opt

/-- Why the reading of arguments ends early. -/
inductive Stop where
  /-- The arguments make no command. -/
  | usage
  /-- Help is asked for. -/
  | help
  /-- The version is asked for. -/
  | version
  deriving DecidableEq, Repr

/-- An option as given, with its value; one without a value has an empty one. -/
structure Use where
  /-- The option. -/
  opt : Opt
  /-- Its value. -/
  value : Text
  deriving DecidableEq, Repr

/-- Adds a use of an option to those before it. -/
def addUse (uses : List Use) (opt : Opt) (value : Text) : Except Stop (List Use) :=
  match opt with
  | .help => .error .help
  | .version => .error .version
  | opt =>
    if !opt.isRepeatable && uses.any (·.opt == opt) then .error .usage
    else if opt.takesValue && !opt.allowsEmpty && value == [] then .error .usage
    else .ok (uses ++ [⟨opt, value⟩])

/-- The uses so far, and the option that waits for its value. -/
abbrev Progress := List Use × Option Opt

/-- Reads what follows a single dash. -/
def readShort (accepted : List Opt) (uses : List Use) : Text → Except Stop Progress
  | [] => .ok (uses, none)
  | c :: rest =>
    match accepted.find? fun o => o.short? == some c with
    | none => .error .usage
    | some opt =>
      if opt.takesValue then
        match rest with
        | [] => .ok (uses, some opt)
        | '=' :: value | value => do return (← addUse uses opt value, none)
      else do readShort accepted (← addUse uses opt []) rest

/-- Reads what follows two dashes. -/
def readLong (accepted : List Opt) (uses : List Use) (s : Text) : Except Stop Progress :=
  match accepted.find? fun o => o.long == s.takeWhile (· != '=') with
  | none => .error .usage
  | some opt =>
    match opt.takesValue, s.dropWhile (· != '=') with
    | true, [] => .ok (uses, some opt)
    | true, _ :: value => do return (← addUse uses opt value, none)
    | false, [] => do return (← addUse uses opt [], none)
    | false, _ :: _ => .error .usage

/-- Reads arguments up to the first that is no option and no value of one; gives the uses, and
the arguments from there on. -/
def readOptions (accepted : List Opt) (uses : List Use) (waiting : Option Opt) :
    List Text → Except Stop (List Use × List Text)
  | [] => if waiting.isSome then .error .usage else .ok (uses, [])
  | arg :: rest =>
    match arg, waiting with
    | '-' :: _ :: _, some _ => .error .usage
    | value, some opt => do readOptions accepted (← addUse uses opt value) none rest
    | ['-', '-'], none => if rest = [] then .ok (uses, []) else .error .usage
    | '-' :: '-' :: s, none => do
      let (uses, waiting) ← readLong accepted uses s
      readOptions accepted uses waiting rest
    | '-' :: c :: s, none => do
      let (uses, waiting) ← readShort accepted uses (c :: s)
      readOptions accepted uses waiting rest
    | arg, none => .ok (uses, arg :: rest)

end FeatureSheets.Cli
