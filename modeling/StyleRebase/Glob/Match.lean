import StyleRebase.Glob.Pattern
import StyleRebase.Text.Utf8Codec

/-! # Matching paths against glob patterns

A pattern matches a path when its tokens, read in order, can consume the path's UTF-8 bytes
exactly. Matching works on bytes: `?`, `*` and a class each consume single bytes, so `?` does
not match a character of two bytes. A class is a set of bytes: each character of a range's end
points stands for its bytes, and a range joins the last byte of its lower end to the first byte
of its upper end.

The matcher follows the set of positions in the path that the tokens read so far can reach.

* **`Glob.Token.advance`** — the positions a token can reach from a set of positions.
* **`Glob.decidedByFileName`** — whether a pattern is decided by a path's file name, which a
  path ending in `..` lacks.
* **`Glob.accepts`** — whether a pattern matches a path (a lone `**` matches every path).
* **`Glob.PatternSet`** — several patterns; a path matches the set when it matches one of them. -/

namespace StyleRebase.Glob

/-- **A member of a byte class**: one byte or a range of bytes. -/
inductive ByteItem where
  | byte (b : UInt8)
  | range (lo hi : UInt8)

/-- **The bytes a character range stands for in a class.** -/
def rangeItems (r : Char × Char) : List ByteItem :=
  let lo := charUtf8 r.1
  let hi := charUtf8 r.2
  if r.1 == r.2 then lo.map .byte
  else
    match lo.getLast?, hi.head? with
    | some l, some h => lo.dropLast.map .byte ++ [.range l h] ++ hi.tail.map .byte
    | _, _ => []

/-- **Whether a byte belongs to a class member.** -/
def ByteItem.contains (b : UInt8) : ByteItem → Bool
  | .byte x => b == x
  | .range lo hi => lo ≤ b && b ≤ hi

/-- **Whether a byte belongs to a class.** -/
def classContains (negated : Bool) (ranges : List (Char × Char)) (b : UInt8) : Bool :=
  let inside := (ranges.flatMap rangeItems).any (·.contains b)
  if negated then !inside else inside

/-- **Positions reached by reading the bytes `bs` at each position.** -/
def readBytes (path : Array UInt8) (bs : List UInt8) (ps : List Nat) : List Nat :=
  ps.filterMap fun p =>
    if (bs.zipIdx.all fun (b, i) => path[p + i]? == some b) then some (p + bs.length) else none

/-- **Positions after one byte satisfying `ok`.** -/
def readByte (path : Array UInt8) (ok : UInt8 → Bool) (ps : List Nat) : List Nat :=
  ps.filterMap fun p => match path[p]? with
    | some b => if ok b then some (p + 1) else none
    | none => none

/-- **Every position from each position to the end.** -/
def anyRun (path : Array UInt8) (ps : List Nat) : List Nat :=
  ps.flatMap fun p => (List.range (path.size + 1 - p)).map (p + ·)

/-- **Positions just after each `/` at or after each position.** -/
def throughSlash (path : Array UInt8) (ps : List Nat) : List Nat :=
  (anyRun path ps).filterMap fun q => if path[q]? == some 0x2F then some (q + 1) else none

/-- **The positions, each once**, in increasing order. -/
def normalizePositions (ps : List Nat) : List Nat := (ps.mergeSort (· ≤ ·)).eraseDups

/-- **Whether a branch list holds only empty branches.** -/
def allEmpty (bs : List (List Token)) : Bool := bs.all List.isEmpty

mutual

/-- **The positions a token can reach** from a set of positions. Alternatives that are empty
are left out; when all are, the positions stay as they are. -/
def Token.advance (path : Array UInt8) : Token → List Nat → List Nat
  | .literal c, ps => readBytes path (charUtf8 c) ps
  | .any, ps => readByte path (fun _ => true) ps
  | .zeroOrMore, ps => anyRun path ps
  | .recursivePrefix, ps =>
    normalizePositions (ps ++ readByte path (· == 0x2F) ps ++ throughSlash path ps)
  | .recursiveSuffix, ps => anyRun path (readByte path (· == 0x2F) ps)
  | .recursiveZeroOrMore, ps =>
    let afterSlash := readByte path (· == 0x2F) ps
    normalizePositions (afterSlash ++ throughSlash path afterSlash)
  | .charClass negated ranges, ps => readByte path (classContains negated ranges) ps
  | .alternates branches, ps =>
    if allEmpty branches then ps else branchesUnion path branches ps

/-- **The positions a sequence of tokens can reach.** -/
def advanceAll (path : Array UInt8) : List Token → List Nat → List Nat
  | [], ps => ps
  | t :: ts, ps => advanceAll path ts (normalizePositions (t.advance path ps))

/-- **The union of the positions the non-empty branches reach.** -/
def branchesUnion (path : Array UInt8) : List (List Token) → List Nat → List Nat
  | [], _ => []
  | [] :: bs, ps => branchesUnion path bs ps
  | (t :: ts) :: bs, ps => advanceAll path (t :: ts) ps ++ branchesUnion path bs ps

end

/-! ## Patterns decided by the file name

A pattern of one of three shapes is decided by the path's file name, its last component: a
literal name after `**/`, `*` (after an optional `**/`) and an extension, and any pattern ending
in an extension. A path whose last component is `..` has no file name, and such a pattern does
not match it. -/

/-- **The literal characters of tokens**, when they are all literal and none is refused. -/
def literalChars (refuse : Char → Bool) (ts : List Token) : Option (List Char) :=
  ts.mapM fun t =>
    match t with
    | .literal c => if refuse c then none else some c
    | _ => none

/-- **Whether a pattern is a literal name after `**/`.** -/
def isNameLiteral : List Token → Bool
  | .recursivePrefix :: rest@(_ :: _) => (literalChars (· == '/') rest).isSome
  | _ => false

/-- **Whether a pattern is all literal.** -/
def isLiteral (ts : List Token) : Bool := (literalChars (fun _ => false) ts).isSome

/-- **Whether a pattern is `*` and an extension**, after an optional `**/`. -/
def isExtension (ts : List Token) : Bool :=
  let rest := match ts with
    | .recursivePrefix :: r => r
    | r => r
  match rest with
  | .zeroOrMore :: .literal '.' :: more => (literalChars (fun c => c == '.' || c == '/') more).isSome
  | _ => false

/-- **Whether a pattern is a literal followed by `*` or `/**`**: a nonempty literal before a
`*`, any literal before a `/**`. -/
def isPrefix (ts : List Token) : Bool :=
  match ts.getLast? with
  | some .zeroOrMore => ((literalChars (fun _ => false) ts.dropLast).map (!·.isEmpty)).getD false
  | some .recursiveSuffix => (literalChars (fun _ => false) ts.dropLast).isSome
  | _ => false

/-- **Whether a pattern is a literal after `*` or `**/`**, other than a lone `/`. -/
def isSuffix (ts : List Token) : Bool :=
  let (lead, rest) : List Char × List Token := match ts with
    | .recursivePrefix :: r@(.literal _ :: _) => (['/'], r)
    | .recursivePrefix :: r => ([], r)
    | r => ([], r)
  let rest := match rest with
    | .zeroOrMore :: r => r
    | r => r
  match literalChars (fun _ => false) rest with
  | some cs => let lit := lead ++ cs; !lit.isEmpty && lit != ['/']
  | none => false

/-- **Whether a pattern ends in an extension**: literals from its last `.` on, none a `/`. -/
def endsInExtension (ts : List Token) : Bool :=
  let rec scan : List Token → Bool
    | [] => false
    | .literal c :: more => if c == '/' then false else if c == '.' then true else scan more
    | _ :: _ => false
  scan ts.reverse

/-- **Whether a pattern is decided by the file name**: the first shape it has, in the order
name literal, literal, extension, prefix, suffix, ending extension, is one of the three. -/
def decidedByFileName (ts : List Token) : Bool :=
  if isNameLiteral ts then true
  else if isLiteral ts then false
  else if isExtension ts then true
  else if isPrefix ts || isSuffix ts then false
  else endsInExtension ts

/-- **Whether a path has a file name**: it is not empty and its last component is not `..`. -/
def hasFileName (path : String) : Bool :=
  !path.isEmpty && (path.splitOn "/").getLast? != some ".."

/-- **Whether a pattern's tokens match a path.** -/
def accepts (tokens : List Token) (path : String) : Bool :=
  match tokens with
  | [.recursivePrefix] => true
  | _ =>
    let bytes := (utf8Encode path.toList).toArray
    (advanceAll bytes tokens [0]).contains bytes.size &&
      (!decidedByFileName tokens || hasFileName path)

/-- **Several patterns.** -/
abbrev PatternSet := List (List Token)

/-- **The set of some patterns**, or the first pattern refused. -/
def PatternSet.build (globs : List String) : Except Error PatternSet := globs.mapM parse

/-- **Whether a path matches one of the patterns.** -/
def PatternSet.isMatch (s : PatternSet) (path : String) : Bool := s.any (accepts · path)

end StyleRebase.Glob
