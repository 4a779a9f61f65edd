import StyleRebase.Search.Bisect
import StyleRebase.Text.LineIndex

/-! # Source maps

A source map ties positions of a generated text to positions of the files it was made from.
Each **mapping** starts at a generated line and column and names a source file, line and
column (and possibly a name); a **range** mapping stands for every column after its start, each
shifted by the same distance in the source.

* **`Mapping`** — one mapping as stored: indices into the lists of sources and names.
* **`SourceMap`** — the mappings in the order they were written, the sources with their
  contents, the names, and a lookup index of the mappings ordered by generated position.
* **`SourceMap.lookup`** — the mapping in force at a generated position: the last one at or
  before it (of several at the very position, the first written).
* **`SourceMap.tokenAt`**, **`SourceMap.resolve`** — the mapping in force on the same generated
  line, and the source location it gives. -/

namespace StyleRebase

namespace SourceMap

/-- **One mapping** as stored. -/
structure Mapping where
  dstLine : Nat
  dstCol : Nat
  srcLine : Nat
  srcCol : Nat
  /-- Index of the source, if the mapping has one. -/
  source : Option Nat
  /-- Index of the name, if the mapping has one. -/
  name : Option Nat
  isRange : Bool
  deriving DecidableEq, Repr, Inhabited

/-- **A mapping as read back**: source and name spelled out, and for a looked-up range mapping
the source column already moved by the distance from the mapping's start. -/
structure Token where
  dstLine : Nat
  dstCol : Nat
  srcLine : Nat
  srcCol : Nat
  source : Option String
  name : Option String
  isRange : Bool
  deriving DecidableEq, Repr, Inhabited

/-- **A source location**: where a generated position came from. -/
structure SourceLocation where
  source : String
  line : Nat
  col : Nat
  name : Option String
  deriving DecidableEq, Repr, Inhabited

/-- **Ordering of lookup keys**: generated line, then column, then the mapping's index. -/
def keyLe (a b : Nat × Nat × Nat) : Bool :=
  a.1 < b.1 || (a.1 == b.1 && (a.2.1 < b.2.1 || (a.2.1 == b.2.1 && a.2.2 ≤ b.2.2)))

/-- **The lookup index of mappings**: each mapping's generated position and index, ordered. -/
def lookupIndex (mappings : Array Mapping) : Array (Nat × Nat × Nat) :=
  ((mappings.toList.zipIdx.map fun (m, i) => (m.dstLine, m.dstCol, i)).mergeSort keyLe).toArray

end SourceMap

/-- **A source map.** -/
structure SourceMap where
  file : Option String
  mappings : Array SourceMap.Mapping
  sources : Array String
  /-- Contents of the sources by index; may be shorter than `sources`. -/
  contents : Array (Option String)
  names : Array String
  /-- The mappings' positions and indices, ordered by `keyLe`. -/
  index : Array (Nat × Nat × Nat) := SourceMap.lookupIndex mappings
  deriving Repr, Inhabited

namespace SourceMap

/-- **A source map from its parts**, with its lookup index. -/
def make (file : Option String) (mappings : Array Mapping) (sources : Array String)
    (contents : Array (Option String)) (names : Array String) : SourceMap :=
  { file, mappings, sources, contents, names }

/-- **The contents of a source**, if known. -/
def contentsOf (m : SourceMap) (i : Nat) : Option String := (m.contents[i]?).getD none

/-- **A mapping read back**, with the source column moved by `offset`, saturating at 2^32 - 1. -/
def tokenOf (m : SourceMap) (t : Mapping) (offset : Nat) : Token :=
  { dstLine := t.dstLine, dstCol := t.dstCol, srcLine := t.srcLine
    srcCol := min (t.srcCol + offset) (Nat.pow 2 32 - 1)
    source := t.source.bind (m.sources[·]?)
    name := t.name.bind (m.names[·]?)
    isRange := t.isRange }

/-- **The mappings read back**, in the order they were written. -/
def tokens (m : SourceMap) : List Token := m.mappings.toList.map (m.tokenOf · 0)

/-- **Step back over index entries at the same position**, to the first of them. -/
def firstAtSamePosition (ix : Array (Nat × Nat × Nat)) (line col : Nat) : Nat → Nat
  | 0 => 0
  | i + 1 =>
    match ix[i]? with
    | some (l, c, _) => if l == line && c == col then firstAtSamePosition ix line col i else i + 1
    | none => i + 1

/-- **The mapping in force at a generated position**: the last one at or before it in the
lookup order, and of several at the position itself the first written. A range mapping gives
its source column moved by the distance from its start (modulo 2^32). -/
def lookup (m : SourceMap) (line col : Nat) : Option Token := do
  let cmp := fun (k : Nat × Nat × Nat) => (compare k.1 line).then (compare k.2.1 col)
  let pos ← match Bisect.bisect cmp m.index with
    | .found i => some (firstAtSamePosition m.index line col i)
    | .insertAt 0 => none
    | .insertAt (i + 1) => some i
  let (_, _, idx) ← m.index[pos]?
  let t ← m.mappings[idx]?
  let offset := if t.isRange then (col + Nat.pow 2 32 - t.dstCol) % Nat.pow 2 32 else 0
  pure (m.tokenOf t offset)

/-- **The mapping in force at a generated position**, if it starts on the same line. -/
def tokenAt (m : SourceMap) (pos : LineCol) : Option Token :=
  (m.lookup pos.line pos.col).filter (·.dstLine == pos.line)

/-- **Where a generated position came from**, when its mapping names a source. -/
def resolve (m : SourceMap) (pos : LineCol) : Option SourceLocation := do
  let t ← m.tokenAt pos
  let source ← t.source
  pure ⟨source, t.srcLine, t.srcCol, t.name⟩

end SourceMap

end StyleRebase
