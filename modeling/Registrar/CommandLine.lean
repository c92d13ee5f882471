import Registrar.Settings.Tree
import Registrar.Path

/-!
# The command line

Arguments are options, short or long, of which some take a value: behind an equals sign, in the same
argument behind a short option, or as the next argument. Short options may share an argument. An
option is given once, except for the one that counts. The first of help and version that is met
decides at once, whatever follows it.
-/

namespace Registrar

/-- What the arguments set. -/
structure Options where
  config : Option Path := none
  feed : Option Path := none
  dryRun : Bool := false
  check : Bool := false
  /-- how often more detail was asked for -/
  verbosity : Nat := 0
  deriving DecidableEq, Repr

/-- What the arguments ask for. -/
inductive Request where
  | help
  | version
  /-- the arguments make no sense -/
  | refused
  | run (options : Options)
  deriving DecidableEq, Repr

namespace CommandLine

/-- An option that takes a value. -/
inductive ValueOption where
  | config
  | feed
  deriving DecidableEq, Repr

/-- An option that takes none. -/
inductive Flag where
  | dryRun
  | check
  | verbose
  | help
  | version
  deriving DecidableEq, Repr

/-- Any option. -/
inductive Switch where
  | value (option : ValueOption)
  | flag (flag : Flag)
  deriving DecidableEq, Repr

/-- The option of a long name. -/
def longSwitch? (name : String) : Option Switch :=
  [("config", .value .config), ("feed", .value .feed), ("dry-run", .flag .dryRun),
    ("check", .flag .check), ("verbose", .flag .verbose), ("help", .flag .help),
    ("version", .flag .version)].lookup name

/-- The option of a letter. -/
def shortSwitch? (c : Char) : Option Switch :=
  [('c', .value .config), ('f', .value .feed), ('v', .flag .verbose), ('h', .flag .help),
    ('V', .flag .version)].lookup c

/-- Sets an option to a value, which must not be empty; once only. -/
def setValue (o : Options) (option : ValueOption) (value : String) : Option Options :=
  if value = "" then none
  else
    match option with
    | .config => if o.config.isSome then none else some { o with config := some ⟨value⟩ }
    | .feed => if o.feed.isSome then none else some { o with feed := some ⟨value⟩ }

/-- What one step through the arguments comes to. -/
inductive Step where
  /-- the arguments so far -/
  | more (options : Options)
  /-- an option waits for its value -/
  | waiting (options : Options) (option : ValueOption)
  | finished (request : Request)

/-- Sets a flag. -/
def setFlag (o : Options) : Flag → Step
  | .dryRun => if o.dryRun then .finished .refused else .more { o with dryRun := true }
  | .check => if o.check then .finished .refused else .more { o with check := true }
  | .verbose => .more { o with verbosity := o.verbosity + 1 }
  | .help => .finished .help
  | .version => .finished .version

/-- Sets an option to a value, or refuses. -/
def stepValue (o : Options) (option : ValueOption) (value : String) : Step :=
  match setValue o option value with
  | some o => .more o
  | none => .finished .refused

/-- Takes a long option, from behind its dashes. -/
def takeLong (o : Options) (cs : List Char) : Step :=
  let name := String.ofList (cs.takeWhile (· != '='))
  match longSwitch? name, cs.dropWhile (· != '=') with
  | some (.value option), [] => .waiting o option
  | some (.value option), _ :: value => stepValue o option (String.ofList value)
  | some (.flag flag), [] => setFlag o flag
  | _, _ => .finished .refused

/-- Takes short options, from behind their dash. Behind an option without a value stands the next
letter, which an equals sign is not. -/
def takeShort (o : Options) : List Char → Step
  | [] => .more o
  | c :: rest =>
    match shortSwitch? c, rest with
    | some (.value option), [] => .waiting o option
    | some (.value option), '=' :: value => stepValue o option (String.ofList value)
    | some (.value option), value => stepValue o option (String.ofList value)
    | some (.flag flag), rest =>
      match setFlag o flag with
      | .more o => takeShort o rest
      | step => step
    | none, _ => .finished .refused

/-- Takes one argument. -/
def takeArgument (o : Options) (arg : String) : Step :=
  match arg.toList with
  | '-' :: '-' :: cs => takeLong o cs
  | '-' :: c :: cs => takeShort o (c :: cs)
  | _ => .finished .refused

/-- What complete arguments ask for: a dry run is no check. -/
def finish (o : Options) : Request :=
  if o.dryRun && o.check then .refused else .run o

/-- Takes arguments to their end. Behind two dashes nothing may follow. -/
def takeArguments (o : Options) (waiting : Option ValueOption) : List String → Request
  | [] => if waiting.isSome then .refused else finish o
  | arg :: rest =>
    match waiting with
    | some option =>
      if arg.toList.head? = some '-' && arg != "-" then .refused
      else
        match setValue o option arg with
        | some o => takeArguments o none rest
        | none => .refused
    | none =>
      if arg = "--" then if rest.isEmpty then finish o else .refused
      else
        match takeArgument o arg with
        | .more o => takeArguments o none rest
        | .waiting o option => takeArguments o (some option) rest
        | .finished request => request

/-- What arguments ask for. -/
def parse (args : List String) : Request :=
  takeArguments {} none args

/-! ## Texts -/

/-- The line of the version. -/
def versionText : String :=
  "annogen 0.1.0\n"

/-- The page of help. -/
def helpText : String :=
  "Generate Go plugin registration code from an annotation feed

Usage: annogen [OPTIONS]

Options:
  -c, --config <FILE>  Configuration file (defaults to `annogen.toml` in the current or user config directory)
  -f, --feed <FILE>    Annotation feed to read (JSON Lines). Reads stdin when omitted
      --dry-run        Print generated files to stdout instead of writing them
      --check          Fail if any generated file on disk is out of date
  -v, --verbose...     Increase log verbosity (-v debug, -vv trace)
  -h, --help           Print help
  -V, --version        Print version
"

/-- The message for arguments that make no sense. -/
def refusalText : String :=
  "error: invalid arguments\n\nUsage: annogen [OPTIONS]\n\nFor more information, try '--help'.\n"

end CommandLine

/-! ## Settings -/

open Settings (Tree)

/-- A table of the entries that are given. -/
def Options.table (entries : List (Option (String × Tree))) : Tree :=
  Settings.tableOf .document (entries.filterMap id)

/-- The settings that the options stand for. The tables of the feed and of the output are there even
when they set nothing. -/
def Options.toTree (o : Options) : Tree :=
  let flag (name : String) (b : Bool) : Option (String × Tree) :=
    if b then some (name, .leaf .document (.bool true)) else none
  let level : Option String :=
    match o.verbosity with
    | 0 => none
    | 1 => some "debug"
    | _ => some "trace"
  Options.table [
    some ("input", Options.table [o.feed.map fun p => ("feed", .leaf .document (.text p.text))]),
    some ("output", Options.table [flag "dry_run" o.dryRun, flag "check" o.check]),
    level.map fun name =>
      ("logging", Options.table [some ("level", .leaf .document (.text name))])]

end Registrar
