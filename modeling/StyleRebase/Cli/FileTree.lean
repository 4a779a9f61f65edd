import StyleRebase.Cli.Run

/-! # A file system held in memory

A model of the file system a run works on: directories and files, each named by the list of
its components from the root, and the text written to the standard streams. Paths are looked
up the way the system does it: component by component from the root (or from the working
directory for a relative path), where every component but the last must be a directory,
`.` stays and `..` goes up (the root's parent is the root itself), and a path that ends in
`/`, `.` or `..` must name a directory.

An output is put in place by renaming a staged file onto its path: the path's directory must
exist, and the path must not name a directory.

* **`FileTree`** — directories and files.
* **`FileTree.resolve?`** — where a path leads.
* **`Console`** — a file tree with the standard streams; **`Console.effects`** — a run's
  effects on it. -/

namespace StyleRebase.Cli

/-- **Directories and files**, each named by its components from the root. The root is always
a directory. -/
structure FileTree where
  dirs : List (List String) := []
  files : List (List String × List UInt8) := []
  deriving Inhabited

/-- **What a path names.** -/
inductive Node where
  | dir
  | file (bytes : List UInt8)

namespace FileTree

/-- **What the components name**, if anything. -/
def node? (t : FileTree) (p : List String) : Option Node :=
  if p.isEmpty || t.dirs.contains p then some .dir
  else (t.files.lookup p).map .file

/-- **Whether the components name a directory.** -/
def isDir (t : FileTree) (p : List String) : Bool :=
  match t.node? p with
  | some .dir => true
  | _ => false

/-- **Walk the parts of a path** from a directory: every part is read inside a directory;
`none` when one is not. -/
def walk (t : FileTree) : List String → List String → Option (List String)
  | cur, [] => some cur
  | cur, part :: parts =>
    if !t.isDir cur then none
    else
      let next :=
        if part.isEmpty || part == "." then cur
        else if part == ".." then cur.dropLast
        else cur ++ [part]
      walk t next parts

/-- **The parts of a path**, and where the walk starts: the root for an absolute path, the
working directory otherwise. -/
def start (cwd : List String) (path : String) : List String × List String :=
  match path.splitOn "/" with
  | "" :: parts => ([], parts)
  | parts => (cwd, parts)

/-- **Where a path leads**, if it can be walked. -/
def resolve? (t : FileTree) (cwd : List String) (path : String) : Option (List String) :=
  let (origin, parts) := start cwd path
  t.walk origin parts

/-- **The bytes of the file a path names.** -/
def read? (t : FileTree) (cwd : List String) (path : String) : Option (List UInt8) := do
  match t.node? (← t.resolve? cwd path) with
  | some (.file bytes) => some bytes
  | _ => none

/-- **Whether a path names a file.** -/
def isFileAt (t : FileTree) (cwd : List String) (path : String) : Bool :=
  (t.read? cwd path).isSome

/-- **Whether a path names a directory.** -/
def isDirAt (t : FileTree) (cwd : List String) (path : String) : Bool :=
  match t.resolve? cwd path with
  | some p => t.isDir p
  | none => false

/-- **Add a directory**, with every directory above it. -/
def addDir (t : FileTree) (p : List String) : FileTree :=
  let prefixes := (List.range p.length).map fun i => p.take (i + 1)
  { t with dirs := t.dirs ++ prefixes.filter fun q => !t.dirs.contains q }

/-- **Set the bytes of a file**, replacing the file there. -/
def setFile (t : FileTree) (p : List String) (bytes : List UInt8) : FileTree :=
  if t.files.any (·.1 == p) then
    { t with files := t.files.map fun (q, b) => if q == p then (q, bytes) else (q, b) }
  else { t with files := t.files ++ [(p, bytes)] }

/-- **Put a file in place at a path**, as a rename onto it does: the path's directory must
exist and the path must not name a directory. -/
def place? (t : FileTree) (cwd : List String) (path : String) (bytes : List UInt8) :
    Option FileTree := do
  let (origin, parts) := start cwd path
  let name ← parts.getLast?
  if name.isEmpty || name == "." || name == ".." then none
  let dir ← t.walk origin parts.dropLast
  if !t.isDir dir then none
  let target := dir ++ [name]
  if t.isDir target then none
  pure (t.setFile target bytes)

/-- **The components of an absolute path.** -/
def components (path : String) : List String :=
  (path.splitOn "/").filter fun s => !s.isEmpty

end FileTree

/-- **A file tree with the text written to the standard streams.** -/
structure Console where
  tree : FileTree
  stdout : String := ""
  stderr : String := ""
  deriving Inhabited

/-- **The effects of a run on a console**, with the working directory. -/
def Console.effects (cwd : String) : Effects (StateM Console) :=
  let home := FileTree.components cwd
  { readFile := fun path => do pure ((← get).tree.read? home path)
    isFile := fun path => do pure ((← get).tree.isFileAt home path)
    canStage := fun dir => do pure ((← get).tree.isDirAt home dir)
    place := fun path bytes => do
      let c ← get
      match c.tree.place? home path bytes with
      | some t =>
        set { c with tree := t }
        pure true
      | none => pure false
    out := fun s => modify fun c => { c with stdout := c.stdout ++ s }
    err := fun s => modify fun c => { c with stderr := c.stderr ++ s }
    warn := fun s => modify fun c => { c with stderr := c.stderr ++ "WARN " ++ s ++ "\n" } }

end StyleRebase.Cli
