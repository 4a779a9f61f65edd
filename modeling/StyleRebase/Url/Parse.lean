import StyleRebase.Url.Host
import StyleRebase.Text.Trim

/-! # Reading URLs

A reader for absolute URLs after the URL standard, in phases instead of one character at a
time: clean the text, read the scheme, then the authority (credentials, host, port) when the
scheme has one, then the path. Only what the rest of the library needs is kept: whether the text
is a URL at all, its scheme, its host and its path segments.

* **`Url`** — scheme, host, path segments, and whether the path is opaque.
* **`Url.parse?`** — the URL a text spells, or `none` when it is not one (no scheme, a bad
  host, a bad port, a missing host where the scheme needs one).
* **`Url.parsePath`** — the path of a hierarchical URL, built as text: `.` and `..` segments
  resolved, Windows drive letters kept at the root of `file` URLs, and the host of a `file`
  URL dropped when its path starts with one.
* **`Url.toFilePath?`** — the filesystem path of a `file` URL without a remote host: each
  segment percent-decoded, joined by `/`, invalid UTF-8 replaced by U+FFFD. -/

namespace StyleRebase

/-- **A URL**, as far as this library reads one. -/
structure Url where
  /-- The scheme, lowered. -/
  scheme : List Char
  /-- The host, when the URL has one that is not empty. -/
  host : Option Url.Host
  /-- The path segments of a hierarchical URL, as written. -/
  path : List (List Char)
  /-- Whether the URL has an opaque path (`mailto:x`, `data:...`) and so no segments. -/
  pathless : Bool
  deriving Inhabited

end StyleRebase

namespace StyleRebase.Url

/-- **Schemes with special meaning**: `ftp`, `file`, `http`, `https`, `ws` and `wss`. -/
def isSpecialScheme (s : List Char) : Bool :=
  s == "ftp".toList || s == "file".toList || s == "http".toList || s == "https".toList ||
    s == "ws".toList || s == "wss".toList

/-- **C0 controls and space**, which are trimmed from both ends of a URL. -/
def isC0OrSpace (c : Char) : Bool := c.toNat ≤ 0x20

/-- **Clean the text of a URL**: trim C0 controls and spaces, drop every tab, LF and CR. -/
def clean (cs : List Char) : List Char :=
  (trimBy isC0OrSpace cs).filter fun c => !(c == '\t' || c == '\n' || c == '\r')

/-- **Characters of a scheme after its first letter.** -/
def isSchemeChar (c : Char) : Bool := c.isAlphanum || c == '+' || c == '-' || c == '.'

/-- **Scheme and rest**: an ASCII letter, scheme characters, then `:`. -/
def splitScheme? : List Char → Option (List Char × List Char)
  | c :: rest =>
    if c.isAlpha then
      let body := rest.takeWhile isSchemeChar
      match rest.drop body.length with
      | ':' :: after => some ((c :: body).map Char.toLower, after)
      | _ => none
    else none
  | [] => none

/-! ## Paths -/

/-- **A single-dot segment**: `.` or `%2e`. -/
def isSingleDot (seg : List Char) : Bool :=
  seg == ['.'] || seg.map Char.toLower == "%2e".toList

/-- **A double-dot segment**: `..` with either dot possibly written `%2e`. -/
def isDoubleDot (seg : List Char) : Bool :=
  let s := seg.map Char.toLower
  s == "..".toList || s == ".%2e".toList || s == "%2e.".toList || s == "%2e%2e".toList

/-- **A Windows drive letter**: an ASCII letter, then `:` or `|`. -/
def isDriveLetter : List Char → Bool
  | [a, b] => a.isAlpha && (b == ':' || b == '|')
  | _ => false

/-- **A normalized Windows drive letter**: an ASCII letter, then `:`. -/
def isNormalizedDriveLetter : List Char → Bool
  | [a, ':'] => a.isAlpha
  | _ => false

/-- **Whether a text starts with a drive letter**: a letter and `:` or `|`, then nothing or a
`/`, `\`, `?` or `#`. -/
def startsWithDriveLetter : List Char → Bool
  | a :: b :: rest =>
    a.isAlpha && (b == ':' || b == '|') &&
      match rest with
      | [] => true
      | c :: _ => c == '/' || c == '\\' || c == '?' || c == '#'
  | _ => false

/-- **Split path text into segments**, each with whether a separator (`/`, and `\` for special
schemes) ends it. -/
def splitSegments (special : Bool) (cs : List Char) : List (List Char × Bool) :=
  let parts := cs.splitOnP fun c => c == '/' || (special && c == '\\')
  parts.zipIdx.map fun (p, i) => (p, i + 1 < parts.length)

/-- **Add the characters of a segment to a path**, given where the segment starts. In a `file`
URL whose path so far is a normalized drive letter, a further character first closes it with a
`/`, and the segment is counted from one place later, so that it never reads as a dot segment
or a drive letter. -/
def appendChars (isFile : Bool) : List Char → Nat → List Char → List Char × Nat
  | out, start, [] => (out, start)
  | out, start, c :: cs =>
    if isFile && isNormalizedDriveLetter (out.drop 1) then
      appendChars isFile (out ++ ['/', c]) (start + 1) cs
    else appendChars isFile (out ++ [c]) start cs

/-- **The position of the last `/`** of a text. -/
def lastSlash? (cs : List Char) : Option Nat :=
  (cs.zipIdx.filter fun (c, _) => c == '/').getLast?.map (·.2)

/-- **Go up one segment**, for `..`, from a path that ends in `/`: that `/` is dropped unless it
is the root or ends a segment that is a drive letter, then the last segment is dropped unless it
is a normalized drive letter of a `file` URL. -/
def goUp (isFile : Bool) (out : List Char) : List Char :=
  let body := out.dropLast
  let out := match lastSlash? body with
    | some i => if startsWithDriveLetter (out.drop (i + 1)) then out else body
    | none => out
  match lastSlash? out with
  | some i =>
    if isFile && isNormalizedDriveLetter (out.drop (i + 1)) then out else out.take (i + 1)
  | none => out

/-- **Add one segment to a path**, with whether the URL still has a host: `..` goes up (and
leaves a `/` when a separator followed it), `.` adds nothing, and in a `file` URL with a host a
drive letter as the first segment is written with `:` and the host is dropped. -/
def addSegment (isFile : Bool) (st : List Char × Bool) (piece : List Char × Bool) :
    List Char × Bool :=
  let (out0, hasHost) := st
  let (text, slash) := piece
  let (out1, start) := appendChars isFile out0 out0.length text
  let seg := out1.drop start
  let out := if slash then out1 ++ ['/'] else out1
  if isDoubleDot seg then
    let up := goUp isFile (out.take start)
    (if slash && up.getLast? != some '/' then up ++ ['/'] else up, hasHost)
  else if isSingleDot seg then (out.take start, hasHost)
  else
    match seg with
    | [a, _] =>
      if isFile && start == 1 && isDriveLetter seg && hasHost then
        (out.take start ++ [a, ':'] ++ (if slash then ['/'] else []), false)
      else (out, hasHost)
    | _ => (out, hasHost)

/-- **The path of a hierarchical URL** from the text after its authority (or after the slash
that starts it), up to `?` or `#`, as segments, with whether the URL still has a host. A `file`
path keeps one leading slash. -/
def parsePath (special isFile hasHost : Bool) (cs : List Char) : List (List Char) × Bool :=
  let body := cs.takeWhile fun c => !(c == '?' || c == '#')
  let (out, host) := (splitSegments special body).foldl (addSegment isFile) (['/'], hasHost)
  let out := if isFile then '/' :: out.dropWhile (· == '/') else out
  ((out.drop 1).splitOn '/', host)

/-- **The path after an authority**: one leading slash (or backslash for special schemes)
belongs to no segment. -/
def pathAfterAuthority (special isFile hasHost : Bool) : List Char → List (List Char) × Bool
  | c :: rest =>
    if c == '/' || (special && c == '\\') then parsePath special isFile hasHost rest
    else parsePath special isFile hasHost (c :: rest)
  | [] => parsePath special isFile hasHost []

/-! ## Authority -/

/-- **Host text and port text** of an authority without credentials: split at the first `:`
outside brackets. -/
def splitHostPort : Bool → List Char → List Char × Option (List Char)
  | _, [] => ([], none)
  | inside, c :: rest =>
    if c == ':' && !inside then ([], some rest)
    else
      let inside' := if c == '[' then true else if c == ']' then false else inside
      let (h, p) := splitHostPort inside' rest
      (c :: h, p)

/-- **Whether a port text is acceptable**: digits only, and below 65536 when present. -/
def validPort (p : List Char) : Bool :=
  p.all Char.isDigit && (p.isEmpty || (readRadix 10 p).getD 65536 < 65536)

/-- **The host of an authority** and the text after it. The authority runs to the first `/`,
`?` or `#` (or `\` for special schemes); credentials end at its last `@`, after which a host
must follow. A port also ends at a `\`, which then starts the path. -/
def authority? (special : Bool) (cs : List Char) : Option (Option Host × List Char) := do
  let isEnd := fun c => c == '/' || c == '?' || c == '#' || (special && c == '\\')
  let auth := cs.takeWhile fun c => !isEnd c
  let after := cs.drop auth.length
  let hostPort := (auth.reverse.takeWhile (· != '@')).reverse
  let sawAt := auth.contains '@'
  if sawAt && hostPort.isEmpty then none
  let (hostText, port?) := splitHostPort false hostPort
  let (port?, extra) := match port? with
    | some p => let digits := p.takeWhile (· != '\\'); (some digits, p.drop digits.length)
    | none => (none, [])
  if port?.isSome && hostText.isEmpty then none
  if special && hostText.isEmpty then none
  let host ← if special then parseHost? hostText else parseOpaqueHost? hostText
  match port? with
  | some p => if validPort p then some () else none
  | none => some ()
  let host' := match host with
    | .unqualified [] => none
    | h => some h
  pure (host', extra ++ after)

/-- **The rest of a `file` URL** after `file:`: an optional host after two slashes
(`localhost` counts as none; a drive letter there belongs to the path), then the path. A host
is dropped when the path starts with a drive letter. -/
def fileRest? (rest : List Char) : Option Url :=
  let isSlash := fun c => c == '/' || c == '\\'
  let file := "file".toList
  let build := fun (host : Option Host) (cs : List Char) =>
    let (path, kept) := pathAfterAuthority true true host.isSome cs
    (⟨file, if kept then host else none, path, false⟩ : Url)
  match rest with
  | s1 :: s2 :: r =>
    if isSlash s1 && isSlash s2 then
      let hostText := r.takeWhile fun c => !(isSlash c || c == '?' || c == '#')
      let after := r.drop hostText.length
      if isDriveLetter hostText then some (build none r)
      else if hostText.isEmpty then some (build none after)
      else do
        let host ← parseHost? hostText
        let host' := if host == .domain "localhost".toList then none else some host
        pure (build host' after)
    else if isSlash s1 then some (build none (s2 :: r))
    else some (build none rest)
  | [s1] => if isSlash s1 then some (build none []) else some (build none rest)
  | [] => some (build none [])

/-- **The URL a text spells**, or `none`. -/
def parse? (input : List Char) : Option Url := do
  let cs := clean input
  let (scheme, rest) ← splitScheme? cs
  if scheme == "file".toList then fileRest? rest
  else if isSpecialScheme scheme then
    let rest' := rest.dropWhile fun c => c == '/' || c == '\\'
    let (host, after) ← authority? true rest'
    pure ⟨scheme, host, (pathAfterAuthority true false false after).1, false⟩
  else
    match rest with
    | '/' :: '/' :: r =>
      let (host, after) ← authority? false r
      pure ⟨scheme, host, (pathAfterAuthority false false false after).1, false⟩
    | '/' :: r => pure ⟨scheme, none, (parsePath false false false r).1, false⟩
    | _ => pure ⟨scheme, none, [], true⟩

/-- **The filesystem path of a `file` URL** without a remote host: `/` before each
percent-decoded segment, a `/` after a path that ends in a drive letter, and invalid UTF-8
replaced by U+FFFD. -/
def toFilePath? (u : Url) : Option (List Char) :=
  if u.host.isSome || u.pathless then none
  else
    let bytes := u.path.flatMap fun seg => 0x2F :: Encoding.percentDecode (utf8Encode seg)
    let n := bytes.length
    let bytes' :=
      match bytes.drop (n - 2) with
      | [a, b] =>
        if n > 2 && (Char.ofNat a.toNat).isAlpha && (b == 0x3A || b == 0x7C) then bytes ++ [0x2F]
        else bytes
      | _ => bytes
    some (utf8DecodeLossy bytes')

end StyleRebase.Url
