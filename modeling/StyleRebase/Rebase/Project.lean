import StyleRebase.SourceMap.Builder
import StyleRebase.Text.OffsetMap
import StyleRebase.Text.LineIndex

/-! # Carrying a source map through a rebase

A stylesheet that came with a source map has its references rebased; the map must then describe the new text.
Every mapping is moved from its place in the old text to the matching place in the new one, and
each replaced stretch gets the mappings in force at its two ends, so that lookups around a
rebased reference keep their source locations.

* **`inputOffset`** — the byte offset of a generated position in the old text; a column past the
  end of its line goes to the line's end, and the excess is kept to be added back (columns are
  32-bit and wrap around).
* **`Rank`** — how a moved mapping was obtained: moved exactly, placed at a boundary of a
  replacement, or collapsed to the start of a replacement it fell inside. Where several land on
  one position, the best rank wins, and of equal ranks the first.
* **`projectBy`** — the new map: the old map's file, sources with contents, and names, and the
  moved mappings ordered by position, the stretches of the splice found by a given search;
  `project` finds them by bisection.

Columns and offsets are natural numbers, the new column reduced modulo 2^32 as a 32-bit sum
wraps; the texts are those shorter than 2^32 bytes, whose offsets are 32-bit numbers. -/

namespace StyleRebase.Rebase

/-- **How a moved mapping was obtained**, best first. -/
inductive Rank where
  | exact
  | boundary
  | collapsed
  deriving DecidableEq, Repr, Inhabited

/-- **The order of ranks.** -/
def Rank.index : Rank → Nat
  | .exact => 0
  | .boundary => 1
  | .collapsed => 2

/-- **A mapping at its new position.** -/
structure Placed where
  dst : LineCol
  rank : Rank
  token : SourceMap.Token
  deriving Repr, Inhabited

/-- **Order of placed mappings**: by position, then by rank. -/
def Placed.le (a b : Placed) : Bool :=
  a.dst.line < b.dst.line ||
    (a.dst.line == b.dst.line && (a.dst.col < b.dst.col ||
      (a.dst.col == b.dst.col && a.rank.index ≤ b.rank.index)))

/-- **Keep the first of each run of mappings at the same position.** -/
def firstPerPosition : List Placed → List Placed
  | [] => []
  | p :: ps =>
    match firstPerPosition ps with
    | q :: qs => if q.dst == p.dst then p :: qs else p :: q :: qs
    | [] => [p]

/-- **The byte offset of a generated position in a text**, with the columns past the end of its
line. -/
def inputOffset (index : LineIndex) (pos : LineCol) : Option (Nat × Nat) :=
  match index.offsetUtf16 pos with
  | some o => some (o, 0)
  | none => do
    let len ← index.lineLenUtf16 pos.line
    if pos.col > len then (index.lineEnd pos.line).map fun e => (e, pos.col - len) else none

/-- **A mapping of the old map moved into the new text**, the stretches of the splice found by
`search`. -/
def moveTokenBy (search : Bisect.Search Segment) (inputIndex outputIndex : LineIndex)
    (offsets : OffsetMap) (t : SourceMap.Token) : Option Placed := do
  let (offset, overflow) ← inputOffset inputIndex ⟨t.dstLine, t.dstCol⟩
  let rank := match offsets.segmentAtBy? search offset with
    | some seg => if seg.kind == .replaced && seg.input.start != offset then .collapsed else .exact
    | none => .exact
  let moved ← offsets.outputOffsetBy? search offset
  let dst ← outputIndex.lineColUtf16 moved
  pure ⟨⟨dst.line, (dst.col + overflow) % Nat.pow 2 32⟩, rank, t⟩

/-- **A mapping of the old map moved into the new text**, the stretches found by bisection. -/
def moveToken (inputIndex outputIndex : LineIndex) (offsets : OffsetMap) (t : SourceMap.Token) :
    Option Placed :=
  moveTokenBy Bisect.bisect inputIndex outputIndex offsets t

/-- **The mappings in force at the two ends of a replaced stretch**, placed at the ends of its
replacement. -/
def boundaryTokens (map : SourceMap) (inputIndex outputIndex : LineIndex) (seg : Segment) :
    List Placed :=
  [(seg.input.start, seg.output.start), (seg.input.stop, seg.output.stop)].filterMap
    fun (old, new) => do
      let pos ← inputIndex.lineColUtf16 old
      let t ← map.tokenAt pos
      let dst ← outputIndex.lineColUtf16 new
      pure ⟨dst, .boundary, t⟩

/-- **The source map of a rebased text**, from the map of the old text and the offset map of
the splice, the stretches of the splice found by `search`. -/
def projectBy (search : Bisect.Search Segment) (map : SourceMap) (input output : List Char)
    (offsets : OffsetMap) : SourceMap :=
  let inputIndex := LineIndex.ofChars input
  let outputIndex := LineIndex.ofChars output
  let moved := map.tokens.filterMap (moveTokenBy search inputIndex outputIndex offsets)
  let bounds := offsets.replacements.flatMap (boundaryTokens map inputIndex outputIndex)
  let placed := firstPerPosition ((moved ++ bounds).mergeSort Placed.le)
  let b : SourceMap.Builder := { file := map.file }
  let b := (List.range map.sources.size).foldl (fun b i =>
    match map.sources[i]? with
    | some s =>
      let (b', id) := b.addSource s
      match map.contentsOf i with
      | some c => b'.setContents id (some c)
      | none => b'
    | none => b) b
  let b := map.names.foldl (fun b n => (b.addName n).1) b
  let b := placed.foldl (fun b p =>
    b.addMapping p.dst.line p.dst.col p.token.srcLine p.token.srcCol p.token.source p.token.name
      p.token.isRange) b
  b.build

/-- **The source map of a rebased text**, the stretches of the splice found by bisection. -/
def project (map : SourceMap) (input output : List Char) (offsets : OffsetMap) : SourceMap :=
  projectBy Bisect.bisect map input output offsets

end StyleRebase.Rebase
