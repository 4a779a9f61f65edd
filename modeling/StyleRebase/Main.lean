import StyleRebase.Cli.Run

/-! # The `css-rebaser` program

The command line on the real file system: files are read whole, an output is staged by
writing it to a new file in its directory and put in place by renaming that file onto its
path, and the exit code is the run's. -/

namespace StyleRebase.Cli

/-- **A fresh name for a staged file** in a directory. -/
def stagedName (dir : String) : IO String := do
  let stamp ← IO.monoNanosNow
  pure (FsPath.join dir (".css-rebaser-" ++ toString stamp ++ ".tmp"))

/-- **Whether an action succeeds.** -/
def attempt (action : IO Unit) : IO Bool := do
  try
    action
    pure true
  catch _ => pure false

/-- **The effects of a run on the real file system.** -/
def systemEffects : Effects IO where
  readFile path := do
    try
      let bytes ← IO.FS.readBinFile path
      pure (some bytes.toList)
    catch _ => pure none
  isFile path := attempt do
    let _ ← IO.FS.readBinFile path
  canStage dir := do
    let probe ← stagedName dir
    attempt do
      IO.FS.writeBinFile probe ByteArray.empty
      IO.FS.removeFile probe
  place path bytes := do
    let dir := match FsPath.parent? path with
      | some d => if d.isEmpty then "." else d
      | none => "."
    let staged ← stagedName dir
    let written ← attempt (IO.FS.writeBinFile staged (ByteArray.mk bytes.toArray))
    if !written then return false
    let renamed ← attempt (IO.FS.rename staged path)
    if !renamed then
      let _ ← attempt (IO.FS.removeFile staged)
    pure renamed
  out s := do
    let stdout ← IO.getStdout
    stdout.putStr s
    stdout.flush
  err s := IO.eprint s
  warn s := IO.eprintln ("WARN " ++ s)

end StyleRebase.Cli

/-- **Run the command line** in the working directory. -/
def main (argv : List String) : IO UInt32 := do
  let cwd := (← IO.currentDir).toString
  let exit ← StyleRebase.Cli.invoke StyleRebase.Cli.systemEffects argv cwd
  pure (UInt32.ofNat exit.code)
