import StyleRebase.Cli.Args
import StyleRebase.Cli.Config
import StyleRebase.Cli.FsPath
import StyleRebase.Cli.Report
import StyleRebase.Json.Write
import StyleRebase.Rebase.Engine
import StyleRebase.SourceMap.Encode
import StyleRebase.Text.Utf8Codec

/-! # A run of the command line

A run reads the configuration, the stylesheet and its source map, rebases the stylesheet, and
writes the results. Nothing is written unless every output can be: each output is first
staged in its directory, then the stylesheet is put in place (or written to standard output),
then the source map. The report goes to standard error last.

The run is written against `Effects`, what it needs from the system it runs on, so that one
description serves the program and any model of a file system.

In order:
1. the configuration: the file given, else `css-rebase.json` of the working directory when it
   is a file; a relative `baseDir` in it is read against the file's directory;
2. the stylesheet, which must be text;
3. where the source map goes: `--map-output`, else, when the configuration asks for a map,
   the stylesheet's output with `.map` added (with no output, a warning says no map is
   written);
4. the base directory: `--base-dir`, else the configuration's, else the working directory;
5. the rules of the configuration; then the source map given with `--map`;
6. the rebase; a syntax error of the stylesheet has its own failure;
7. the outputs, staged, then put in place; then the report.

* **`Effects`** — reading files, staging and placing outputs, writing to the standard streams.
* **`CliError`**, **`Exit`** — how a run ends.
* **`execute`** — a run of the settings; **`invoke`** — a run of an argument list. -/

namespace StyleRebase.Cli

/-- **What a run needs from the system it runs on.** -/
structure Effects (m : Type → Type) where
  /-- The bytes of a file, or `none` when it cannot be read. -/
  readFile : String → m (Option (List UInt8))
  /-- Whether a path names a regular file. -/
  isFile : String → m Bool
  /-- Whether a new file can be made in a directory. -/
  canStage : String → m Bool
  /-- Put a file in place with these bytes, replacing the file there; `false` on failure. -/
  place : String → List UInt8 → m Bool
  /-- Write to standard output. -/
  out : String → m Unit
  /-- Write to standard error. -/
  err : String → m Unit
  /-- Log a warning. -/
  warn : String → m Unit

/-- **Why a run failed.** -/
inductive CliError where
  /-- A file could not be read. -/
  | read (path : String)
  /-- An output could not be written. -/
  | write (path : String)
  /-- The configuration file is not valid. -/
  | config (path : String)
  /-- The stylesheet has a syntax error. -/
  | malformed (path : String) (message : String)
  /-- The rebase failed. -/
  | rebase (e : Rebase.RebaseError)

/-- **The diagnostic code of a failure.** -/
def CliError.code : CliError → String
  | .read _ => "css_rebaser::read"
  | .write _ => "css_rebaser::write"
  | .config _ => "css_rebaser::config"
  | .malformed _ _ => "css_rebaser::syntax"
  | .rebase _ => "css_rebaser::rebase"

/-- **The message of a failure.** -/
def CliError.message : CliError → String
  | .read p => "failed to read " ++ p
  | .write p => "failed to write " ++ p
  | .config p => "invalid config file " ++ p
  | .malformed _ m => m
  | .rebase e => e.message

/-- **How a run ends.** -/
inductive Exit where
  /-- The run did its work, or answered `--help` or `--version`. -/
  | success
  /-- The command line was refused. -/
  | usage (e : UsageError)
  /-- The run failed. -/
  | failure (e : CliError)
  /-- The source map of the result could not be written out. -/
  | crash

/-- **The exit code of an ending.** -/
def Exit.code : Exit → Nat
  | .success => 0
  | .usage _ => 2
  | .failure _ => 1
  | .crash => 101

/-- **What a run can stop with**: a failure, or a crash. -/
inductive Halt where
  | failure (e : CliError)
  | crash

variable {m : Type → Type} [Monad m]

/-- **Stop with a failure.** -/
def fail {α : Type} (e : CliError) : ExceptT Halt m α := throw (.failure e)

/-- **The configuration of a run**, with a relative `baseDir` read against the file's
directory. -/
def loadConfig (fx : Effects m) (explicit : Option String) (cwd : String) :
    ExceptT Halt m Config := do
  let path ← match explicit with
    | some p => pure (some (FsPath.join cwd p))
    | none =>
      let p := FsPath.join cwd "css-rebase.json"
      if ← fx.isFile p then pure (some p) else pure none
  match path with
  | none => pure {}
  | some path =>
    let some bytes ← fx.readFile path | fail (.read path)
    let some text := (utf8Decode? bytes).map String.ofList | fail (.read path)
    let some config := Config.read? text | fail (.config path)
    match config.baseDir, FsPath.parent? path with
    | some dir, some parent =>
      if dir.startsWith "/" then pure config
      else pure { config with baseDir := some (FsPath.join parent dir) }
    | _, _ => pure config

/-- **Where the source map of the result goes**, with the warning given when none is
written though the configuration asks for one. -/
def mapOutput (args : Args) (config : Config) (cwd : String) : Option String × Option String :=
  match args.mapOutput, args.output with
  | some p, _ => (some (FsPath.join cwd p), none)
  | none, some o =>
    if config.emitMap == some true then (some (FsPath.join cwd (o ++ ".map")), none)
    else (none, none)
  | none, none =>
    if config.emitMap == some true then
      (none, some "emitMap is set but the stylesheet goes to stdout; no map written")
    else (none, none)

/-- **Check that an output can be staged** in the directory of its path. -/
def stage (fx : Effects m) (path : String) : ExceptT Halt m Unit := do
  let dir := match FsPath.parent? path with
    | some d => if d.isEmpty then "." else d
    | none => "."
  if !(← fx.canStage dir) then fail (.write path)

/-- **Put a staged output in place.** -/
def commit (fx : Effects m) (path : String) (bytes : List UInt8) : ExceptT Halt m Unit := do
  if !(← fx.place path bytes) then fail (.write path)

/-- **Rebase the stylesheet the settings name, and write the results.** -/
def execute (fx : Effects m) (args : Args) (cwd : String) : ExceptT Halt m Unit := do
  let config ← loadConfig fx args.config cwd
  let input := FsPath.join cwd args.input
  let some cssBytes ← fx.readFile input | fail (.read input)
  let some css := (utf8Decode? cssBytes).map String.ofList | fail (.read input)
  let (mapPath, warning) := mapOutput args config cwd
  if let some w := warning then fx.warn w
  let baseDir := (args.baseDir.map (FsPath.join cwd)).getD (config.baseDir.getD cwd)
  let options : Rebase.Options := { emitMap := mapPath.isSome, baseDir := some baseDir.toList }
  let rules ← match config.policy with
    | .ok r => pure r
    | .error e => fail (.rebase (.policy e))
  let given ← match args.map with
    | none => pure none
    | some p =>
      let path := FsPath.join cwd p
      let some bytes ← fx.readFile path | fail (.read path)
      match SourceMap.ofBytes bytes with
      | .ok map => pure (some map)
      | .error e => fail (.rebase (.sourceMap e))
  let result ← match (Rebase.run css given rules.policy options).result with
    | .ok r => pure r
    | .error (.parse e) =>
      fail (.malformed input ("failed to parse stylesheet: " ++ e.message))
    | .error e => fail (.rebase e)
  let mapText ← match mapPath, result.map with
    | some _, some map =>
      match SourceMap.toJson map with
      | some doc => pure (some doc.compact)
      | none => throw .crash
    | _, _ => pure none
  let cssText := String.ofList result.css
  if let (some path, some _) := (mapPath, mapText) then stage fx path
  if let some o := args.output then stage fx (FsPath.join cwd o)
  match args.output with
  | some o => commit fx (FsPath.join cwd o) cssText.toUTF8.toList
  | none => fx.out cssText
  if let (some path, some text) := (mapPath, mapText) then commit fx path text.toUTF8.toList
  fx.err (Report.render result.rebases args.report)

/-- **A run of an argument list** (the program's name not included) from a working
directory. -/
def invoke (fx : Effects m) (argv : List String) (cwd : String) : m Exit := do
  match parseArgs argv with
  | .error e =>
    fx.err ("error: " ++ e.message ++ "\n")
    pure (.usage e)
  | .ok .help =>
    fx.out helpText
    pure .success
  | .ok .version =>
    fx.out versionText
    pure .success
  | .ok (.run args) =>
    match ← (execute fx args cwd).run with
    | .ok () => pure .success
    | .error (.failure e) =>
      fx.err ("Error: " ++ e.code ++ "\n\n  × " ++ e.message ++ "\n")
      pure (.failure e)
    | .error .crash =>
      fx.err "the source map of the result could not be written\n"
      pure .crash

end StyleRebase.Cli
