/-! # Command-line arguments

The command line names the stylesheet to rebase and, optionally, its source map, where the
results go, the base directory, the configuration file and the report format. Arguments are
read from left to right:

* a long option is written `--name=value` or `--name value`, a short one `-o value`, `-ovalue`
  or `-o=value`; flags take no value, and several short flags may share one `-`;
* an option's value is the next argument unless that one is itself an option (`-` alone is a
  value, `--` is not);
* after `--` every argument is positional;
* an unknown option, an option given twice, a value given to a flag, a second positional
  argument and an unknown report format are refused where they stand, and so is an option
  still waiting for its value when the next option or `--` comes;
* `--help` and `--version` answer at once, and end the reading;
* at the end, an option still waiting for its value, or a missing stylesheet, is refused.

* **`Args`** — the settings of a run.
* **`Setting`** — the options and flags.
* **`Command`**, **`UsageError`** — what the command line asks for, or why it is refused.
* **`parseArgs`** — the command an argument list asks for. -/

namespace StyleRebase.Cli

/-- **The format of the rebase report.** -/
inductive ReportFormat where
  /-- One `raw -> rebased` line per rebased reference. -/
  | human
  /-- A JSON array of records. -/
  | json
  deriving DecidableEq, Repr, Inhabited

/-- **The report format a value names**, if any. -/
def ReportFormat.ofName? : String → Option ReportFormat
  | "human" => some .human
  | "json" => some .json
  | _ => none

/-- **The settings of a run.** -/
structure Args where
  /-- The stylesheet to rebase. -/
  input : String
  /-- Its source map; without one, the map embedded in the stylesheet. -/
  map : Option String := none
  /-- Where the rebased stylesheet goes; without one, standard output. -/
  output : Option String := none
  /-- Where the source map of the rebased stylesheet goes. -/
  mapOutput : Option String := none
  /-- The directory absolute source paths are made relative to. -/
  baseDir : Option String := none
  /-- The configuration file; without one, `css-rebase.json` of the working directory. -/
  config : Option String := none
  /-- The format of the report. -/
  report : ReportFormat := .human
  /-- Whether to log the steps of the run. -/
  verbose : Bool := false
  deriving DecidableEq, Repr, Inhabited

/-- **An option or flag of the command line.** -/
inductive Setting where
  | map
  | output
  | mapOutput
  | baseDir
  | config
  | report
  | verbose
  | help
  | version
  deriving DecidableEq, Repr, Inhabited

namespace Setting

/-- **Every option and flag.** -/
def all : List Setting := [.map, .output, .mapOutput, .baseDir, .config, .report, .verbose,
  .help, .version]

/-- **The long name.** -/
def long : Setting → String
  | .map => "map"
  | .output => "output"
  | .mapOutput => "map-output"
  | .baseDir => "base-dir"
  | .config => "config"
  | .report => "report"
  | .verbose => "verbose"
  | .help => "help"
  | .version => "version"

/-- **The short name**, for those that have one. -/
def short? : Setting → Option Char
  | .output => some 'o'
  | .config => some 'c'
  | .verbose => some 'v'
  | .help => some 'h'
  | .version => some 'V'
  | _ => none

/-- **Whether it takes a value**, or is a flag. -/
def takesValue : Setting → Bool
  | .verbose | .help | .version => false
  | _ => true

/-- **The option or flag of a long name.** -/
def ofLong? (name : String) : Option Setting := all.find? (·.long == name)

/-- **The option or flag of a short name.** -/
def ofShort? (c : Char) : Option Setting := all.find? (·.short? == some c)

end Setting

/-- **Why a command line is refused.** -/
inductive UsageError where
  /-- An option that does not exist. -/
  | unknownArgument (arg : String)
  /-- An option without its value. -/
  | missingValue (s : Setting)
  /-- A flag given a value. -/
  | unexpectedValue (s : Setting) (value : String)
  /-- An option or flag given twice. -/
  | repeated (s : Setting)
  /-- A positional argument after the stylesheet. -/
  | unexpectedArgument (arg : String)
  /-- A report format that does not exist. -/
  | invalidReport (value : String)
  /-- No stylesheet. -/
  | missingInput
  deriving DecidableEq, Repr

/-- **The message of a refused command line.** -/
def UsageError.message : UsageError → String
  | .unknownArgument a => "unexpected argument '" ++ a ++ "' found"
  | .missingValue s => "a value is required for '--" ++ s.long ++ "' but none was supplied"
  | .unexpectedValue s v =>
    "unexpected value '" ++ v ++ "' for '--" ++ s.long ++ "' found; no more were expected"
  | .repeated s => "the argument '--" ++ s.long ++ "' cannot be used multiple times"
  | .unexpectedArgument a => "unexpected argument '" ++ a ++ "' found"
  | .invalidReport v =>
    "invalid value '" ++ v ++ "' for '--report <REPORT>'\n  [possible values: human, json]"
  | .missingInput => "the following required arguments were not provided:\n  <INPUT>"

/-- **What a command line asks for.** -/
inductive Command where
  /-- A rebase with these settings. -/
  | run (args : Args)
  /-- The help text. -/
  | help
  /-- The version. -/
  | version
  deriving DecidableEq, Repr

/-- **How reading a command line stops early**: refused, or answered by `--help` or
`--version`. -/
inductive Stop where
  | usage (e : UsageError)
  | help
  | version
  deriving DecidableEq, Repr

/-- **A command line read so far.** -/
structure Reading where
  input : Option String := none
  map : Option String := none
  output : Option String := none
  mapOutput : Option String := none
  baseDir : Option String := none
  config : Option String := none
  report : Option ReportFormat := none
  verbose : Bool := false
  /-- The option whose value is the next argument. -/
  pending : Option Setting := none
  /-- Whether `--` was read: every further argument is positional. -/
  escaped : Bool := false
  deriving DecidableEq, Repr, Inhabited

namespace Reading

/-- **Whether an option or flag was already given.** -/
def given (r : Reading) : Setting → Bool
  | .map => r.map.isSome
  | .output => r.output.isSome
  | .mapOutput => r.mapOutput.isSome
  | .baseDir => r.baseDir.isSome
  | .config => r.config.isSome
  | .report => r.report.isSome
  | .verbose => r.verbose
  | .help | .version => false

/-- **Give an option its value.** -/
def assign (r : Reading) (s : Setting) (value : String) : Except Stop Reading := do
  if r.given s then throw (.usage (.repeated s))
  match s with
  | .map => pure { r with map := some value }
  | .output => pure { r with output := some value }
  | .mapOutput => pure { r with mapOutput := some value }
  | .baseDir => pure { r with baseDir := some value }
  | .config => pure { r with config := some value }
  | .report =>
    match ReportFormat.ofName? value with
    | some f => pure { r with report := some f }
    | none => throw (.usage (.invalidReport value))
  | _ => pure r

/-- **Raise a flag**; `--help` and `--version` stop the reading. -/
def raise (r : Reading) (s : Setting) : Except Stop Reading := do
  match s with
  | .help => throw .help
  | .version => throw .version
  | _ =>
    if r.given s then throw (.usage (.repeated s))
    pure { r with verbose := true }

/-- **Refuse to go on while an option waits for its value.** -/
def settled (r : Reading) : Except Stop Reading :=
  match r.pending with
  | some s => throw (.usage (.missingValue s))
  | none => pure r

/-- **A positional argument.** -/
def positional (r : Reading) (arg : String) : Except Stop Reading :=
  match r.input with
  | none => pure { r with input := some arg }
  | some _ => throw (.usage (.unexpectedArgument arg))

/-- **A long option**, with the value written after `=` if any. -/
def readLong (r : Reading) (name : String) (attached : Option String) : Except Stop Reading := do
  let r ← r.settled
  match Setting.ofLong? name with
  | none => throw (.usage (.unknownArgument ("--" ++ name)))
  | some s =>
    if s.takesValue then
      match attached with
      | some v => r.assign s v
      | none => pure { r with pending := some s }
    else
      match attached with
      | some v => throw (.usage (.unexpectedValue s v))
      | none => r.raise s

/-- **A group of short flags** after `-`; an option among them takes the rest of the group as
its value (without a leading `=`), or the next argument when nothing follows it. -/
def readShorts (r : Reading) : List Char → Except Stop Reading
  | [] => pure r
  | c :: rest => do
    match Setting.ofShort? c with
    | none => throw (.usage (.unknownArgument ("-" ++ String.singleton c)))
    | some s =>
      if s.takesValue then
        match rest with
        | [] => pure { r with pending := some s }
        | '=' :: v => r.assign s (String.ofList v)
        | v => r.assign s (String.ofList v)
      else
        let r ← r.raise s
        readShorts r rest

/-- **Read one argument.** -/
def step (r : Reading) (arg : String) : Except Stop Reading := do
  if r.escaped then
    let r ← r.settled
    r.positional arg
  else if arg == "--" then
    let r ← r.settled
    pure { r with escaped := true }
  else if "--".isPrefixOf arg then
    let body := (arg.toList.drop 2)
    match body.idxOf? '=' with
    | some i => r.readLong (String.ofList (body.take i)) (some (String.ofList (body.drop (i + 1))))
    | none => r.readLong (String.ofList body) none
  else if "-".isPrefixOf arg && arg != "-" then
    let r ← r.settled
    r.readShorts (arg.toList.drop 1)
  else
    match r.pending with
    | some s => r.assign s arg >>= fun r => pure { r with pending := none }
    | none => r.positional arg

/-- **The settings read**, once every argument is. -/
def finish (r : Reading) : Except Stop Args := do
  let r ← r.settled
  match r.input with
  | none => throw (.usage .missingInput)
  | some input =>
    pure { input, map := r.map, output := r.output, mapOutput := r.mapOutput,
           baseDir := r.baseDir, config := r.config, report := r.report.getD .human,
           verbose := r.verbose }

end Reading

/-- **The command an argument list asks for** (the program's name not included). -/
def parseArgs (args : List String) : Except UsageError Command :=
  match args.foldlM Reading.step {} >>= Reading.finish with
  | .ok a => pure (.run a)
  | .error (.usage e) => throw e
  | .error .help => pure .help
  | .error .version => pure .version

/-- **The version line.** -/
def versionText : String := "css-rebaser 0.3.0\n"

/-- **The help text.** -/
def helpText : String :=
  "Rebase url() references in compiled CSS using its source map\n\n" ++
  "Usage: css-rebaser [OPTIONS] <INPUT>\n\n" ++
  "Arguments:\n" ++
  "  <INPUT>  Compiled stylesheet to rebase\n\n" ++
  "Options:\n" ++
  "      --map <MAP>                Source map of the input (defaults to a map embedded in " ++
  "the stylesheet)\n" ++
  "  -o, --output <OUTPUT>          Where to write the rebased stylesheet (defaults to " ++
  "stdout)\n" ++
  "      --map-output <MAP_OUTPUT>  Where to write the projected source map\n" ++
  "      --base-dir <BASE_DIR>      Directory that absolute source paths are made relative " ++
  "to\n" ++
  "  -c, --config <CONFIG>          Config file (defaults to css-rebase.json in the working " ++
  "directory)\n" ++
  "      --report <REPORT>          Format of the rebase report written to stderr [default: " ++
  "human] [possible values: human, json]\n" ++
  "  -v, --verbose                  Enable debug logging\n" ++
  "  -h, --help                     Print help\n" ++
  "  -V, --version                  Print version\n"

end StyleRebase.Cli
