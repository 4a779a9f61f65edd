import StyleRebase.Url.Parse

/-! # Slash-separated paths

The path arithmetic of rebasing, on text with `/` as the only separator and no filesystem behind
it.

* **`splitSuffix`** — a reference splits at its first `?` or `#` into the path and the query or
  fragment that rides along unchanged.
* **`dirname`** — the directory part of a path (`.` when there is none).
* **`normalize`** — `.` segments and empty segments dropped, `..` cancelling the segment before
  it (and dropped at the root of an absolute path), a trailing slash kept.
* **`join`**, **`resolve`** — a path read against a directory, and a reference read against the
  file that holds it.
* **`relativeTo`** — the path that leads from one directory to a path.
* **`normalizeSource`** — how a source named by a source map is shown: a `file` URL becomes its
  path, and an absolute path is made relative to the base directory when one is given. -/

namespace StyleRebase.Rebase.Path

/-- **Path and suffix of a reference**: split before the first `?` or `#`. -/
def splitSuffix (raw : List Char) : List Char × List Char :=
  let inPath := fun c => !(c == '?' || c == '#')
  (raw.takeWhile inPath, raw.dropWhile inPath)

@[simp] theorem splitSuffix_append (raw : List Char) :
    (splitSuffix raw).1 ++ (splitSuffix raw).2 = raw := by
  simp [splitSuffix, List.takeWhile_append_dropWhile]

/-- **Drop trailing slashes.** -/
def trimSlashes (cs : List Char) : List Char := trimEndBy (· == '/') cs

/-- **The directory of a path**: what comes before its last name, trailing slashes ignored; `/`
for a name at the root, `.` for a bare name. -/
def dirname (path : List Char) : List Char :=
  let trimmed := trimSlashes path
  if trimmed.isEmpty then
    if path.head? == some '/' then ['/'] else ['.']
  else
    let name := trimmed.reverse.takeWhile (· != '/')
    if name.length == trimmed.length then ['.']
    else
      let dir := trimmed.take (trimmed.length - name.length - 1)
      if dir.isEmpty then ['/'] else trimSlashes dir

/-- **One segment added to a normalized segment list**: `..` cancels a segment before it that is
not itself `..`; with nothing to cancel it is kept in a relative path and dropped in an absolute
one. -/
def pushSegment (absolute : Bool) (segs : List (List Char)) (seg : List Char) :
    List (List Char) :=
  if seg.isEmpty || seg == ['.'] then segs
  else if seg == ['.', '.'] then
    match segs.getLast? with
    | some last => if last != ['.', '.'] then segs.dropLast
                   else if absolute then segs else segs ++ [seg]
    | none => if absolute then segs else segs ++ [seg]
  else segs ++ [seg]

/-- **Segments joined by `/`.** -/
def joinSegments (segs : List (List Char)) : List Char := List.intercalate ['/'] segs

/-- **Normalize a path**: resolve `.`, `..` and empty segments; keep the leading slash of an
absolute path and the trailing slash of a directory; `.` for nothing left. -/
def normalize (path : List Char) : List Char :=
  let absolute := path.head? == some '/'
  let segs := (path.splitOn '/').foldl (pushSegment absolute) []
  let joined := joinSegments segs
  let withRoot := if absolute then '/' :: joined else joined
  if withRoot.isEmpty then ['.']
  else if path.getLast? == some '/' && withRoot.getLast? != some '/' then withRoot ++ ['/']
  else withRoot

/-- **A path read against a directory** (an empty directory reads it as it is). -/
def join (base path : List Char) : List Char :=
  if base.isEmpty then normalize path else normalize (base ++ '/' :: path)

/-- **A reference read against the file that holds it**: its path joined to the file's
directory, its suffix kept. -/
def resolve (source raw : List Char) : List Char :=
  let (path, suffix) := splitSuffix raw
  join (dirname source) path ++ suffix

/-- **The named segments of a normalized path** (neither empty nor `.`). -/
def namedSegments (path : List Char) : List (List Char) :=
  (normalize path).splitOn '/' |>.filter fun s => !(s.isEmpty || s == ['.'])

/-- **Length of the common prefix of two lists.** -/
def commonPrefixLength : List (List Char) → List (List Char) → Nat
  | a :: as, b :: bs => if a == b then commonPrefixLength as bs + 1 else 0
  | _, _ => 0

/-- **The path from a directory to a path**: `..` for each segment of the directory past their
common prefix, then the rest of the path; `.` when they coincide. Both are taken as normalized
and neither needs to be absolute. -/
def relativeTo (path base : List Char) : List Char :=
  let ps := namedSegments path
  let bs := namedSegments base
  let common := commonPrefixLength ps bs
  let segs := List.replicate (bs.length - common) ['.', '.'] ++ ps.drop common
  if segs.isEmpty then ['.'] else joinSegments segs

/-- **Backslashes turned into slashes.** -/
def forwardSlashes (cs : List Char) : List Char := cs.map fun c => if c == '\\' then '/' else c

/-- **How a source of a source map is shown**: a `file` URL that names a local path becomes that
path (with forward slashes); then an absolute path is made relative to the base directory when
one is given. -/
def normalizeSource (source : List Char) (baseDir : Option (List Char)) : List Char :=
  let source' :=
    if "file:".toList.isPrefixOf source then
      match (Url.parse? source).bind Url.toFilePath? with
      | some p => forwardSlashes p
      | none => source
    else source
  match baseDir with
  | some base => if source'.head? == some '/' then relativeTo source' (forwardSlashes base)
                 else source'
  | none => source'

end StyleRebase.Rebase.Path
