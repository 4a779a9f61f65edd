import StyleRebase.Text.Trim

/-! # Paths of the file system, as text

The paths a run reads and writes are built from the working directory and the names it is
given, as text: nothing here looks at the file system.

* **`FsPath.join`** — a path read against a directory: an absolute path stands for itself,
  a relative one goes after the directory and a `/`.
* **`FsPath.parent?`** — the path without its last component (trailing `/` and `.` components
  do not count); `none` for the root and for a path without components. -/

namespace StyleRebase.Cli.FsPath

/-- **A path read against a directory.** -/
def join (dir path : String) : String :=
  if path.startsWith "/" then path
  else if dir.isEmpty || dir.endsWith "/" then dir ++ path
  else dir ++ "/" ++ path

/-- **Drop trailing separators and `.` components**, keeping a lone root `/`. -/
def trimTrailing : List Char → Nat → List Char
  | cs, 0 => cs
  | cs, fuel + 1 =>
    match cs.reverse with
    | '/' :: rest@(_ :: _) => trimTrailing rest.reverse fuel
    | '.' :: '/' :: rest => trimTrailing ('/' :: rest).reverse fuel
    | _ => cs

/-- **The path without its last component.** -/
def parent? (path : String) : Option String :=
  let cs := trimTrailing path.toList path.length
  let dir := cs.reverse.dropWhile (· != '/') |>.reverse
  if cs.isEmpty || cs == ['/'] then none
  else if dir.isEmpty then some ""
  else some (String.ofList (trimTrailing dir dir.length))

end StyleRebase.Cli.FsPath
