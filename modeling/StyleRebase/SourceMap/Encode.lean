import StyleRebase.SourceMap.Basic
import StyleRebase.SourceMap.Vlq
import StyleRebase.Json.Write

/-! # Writing source maps

A source map is written as a version 3 JSON document with members in the order `version`,
`file` (when known), `sources`, `sourcesContent` (when some source has contents, one entry per
source), `names`, `rangeMappings` (when some mapping is a range) and `mappings`.

* **`mappingsText`** — the mappings in written order: `;` for each new generated line, `,`
  between segments of a line, each segment the VLQ deltas of generated column, source, source
  line, source column and name (the source part only for a mapping with a source, the name
  only with a name). A mapping equal to the one just before it on its line is left out.
* **`rangeMappingsText`** — for each generated line, the bits marking range mappings by their
  place among the mappings counted from the first mapping of the line, six bits per base64
  character, least significant first, trailing zero bits dropped. A range mapping is marked
  before the line advance it causes is written, so a range mapping that opens a line is counted
  on the line before. A mark past the room reserved for the line (sixteen bits per range mapping
  so far) cannot be written.
* **`SourceMap.toJson`** — the document. -/

namespace StyleRebase.SourceMap

/-- **The VLQ text of the difference of two 32-bit numbers.** -/
def delta (a b : Nat) : List Char := Vlq.encode ((a : Int) - (b : Int))

/-- **Running values of the mappings writer**: previous generated line and column, source,
source line and column, name, and the previous mapping. -/
structure WriteState where
  line : Nat := 0
  col : Nat := 0
  source : Nat := 0
  srcLine : Nat := 0
  srcCol : Nat := 0
  name : Nat := 0
  previous : Option Mapping := none
  out : List (List Char) := []

/-- **Write one mapping.** -/
def WriteState.push (st : WriteState) (m : Mapping) : WriteState :=
  if m.dstLine == st.line && st.previous == some m then st
  else
    let (sep, col) :=
      if m.dstLine != st.line then (List.replicate (m.dstLine - st.line) ';', 0)
      else if st.previous.isSome then ([','], st.col)
      else ([], st.col)
    let dst := delta m.dstCol col
    let (src, st') := match m.source with
      | some s =>
        let base := delta s st.source ++ delta m.srcLine st.srcLine ++ delta m.srcCol st.srcCol
        let (nm, name) := match m.name with
          | some n => (delta n st.name, n)
          | none => ([], st.name)
        (base ++ nm, { st with source := s, srcLine := m.srcLine, srcCol := m.srcCol, name })
      | none => ([], st)
    { st' with line := m.dstLine, col := m.dstCol, previous := some m
               out := (sep ++ dst ++ src) :: st.out }

/-- **The mappings of a source map as text.** -/
def mappingsText (ms : List Mapping) : String :=
  String.ofList (ms.foldl WriteState.push {}).out.reverse.flatten

/-- **The base64 characters of marked bits**, six per character, least significant first, up
to the last marked bit. -/
def rangeChars (bits : List Nat) : List Char :=
  match bits.max? with
  | none => []
  | some top =>
    (List.range (top / 6 + 1)).map fun k =>
      Vlq.digitChar ((List.range 6).foldl (fun acc j =>
        if bits.contains (6 * k + j) then acc + Nat.pow 2 j else acc) 0)

/-- **Running values of the range writer**: the line reached, the index of its first mapping,
whether a mark is pending, the marked bits and the room reserved for them. -/
structure RangeState where
  line : Nat := 0
  first : Nat := 0
  pending : Bool := false
  bits : List Nat := []
  room : Nat := 0
  out : List Char := []

/-- **Mark one mapping and advance to its line**; `none` when the mark has no room. -/
def RangeState.push (st : RangeState) (m : Mapping × Nat) : Option RangeState := do
  let (t, idx) := m
  let st ← if t.isRange then
      let room := st.room + 16
      let bit := idx - st.first
      if bit < room then pure { st with pending := true, bits := bit :: st.bits, room }
      else none
    else pure st
  if t.dstLine == st.line then pure st
  else
    let flushed := if st.pending then st.out ++ rangeChars st.bits else st.out
    pure { line := t.dstLine, first := idx, pending := false
           bits := if st.pending then [] else st.bits
           room := if st.pending then 0 else st.room
           out := flushed ++ List.replicate (t.dstLine - st.line) ';' }

/-- **The range mappings of a source map as text**: `none` when no mapping is a range, and
`some none` when a mark has no room. -/
def rangeMappingsText (ms : List Mapping) : Option (Option String) :=
  if !ms.any (·.isRange) then none
  else
    some <| (ms.zipIdx.foldlM RangeState.push {}).map fun st =>
      String.ofList (if st.pending then st.out ++ rangeChars st.bits else st.out)

/-- **The document of a source map**, or `none` when its range mappings cannot be written. -/
def toJson (m : SourceMap) : Option Json.Value := do
  let contents := (List.range m.sources.size).map m.contentsOf
  let ranges ← match rangeMappingsText m.mappings.toList with
    | none => some none
    | some (some r) => some (some r)
    | some none => none
  let members : List (String × Json.Value) :=
    [("version", .number (Json.Number.ofNat 3))] ++
    (m.file.map fun f => [("file", Json.Value.str f)]).getD [] ++
    [("sources", .array (m.sources.toList.map Json.Value.str))] ++
    (if contents.any Option.isSome then
      [("sourcesContent", .array (contents.map fun c => (c.map Json.Value.str).getD .null))]
     else []) ++
    [("names", .array (m.names.toList.map Json.Value.str))] ++
    (ranges.map fun r => [("rangeMappings", Json.Value.str r)]).getD [] ++
    [("mappings", Json.Value.str (mappingsText m.mappings.toList))]
  pure (Json.Value.record members)

end StyleRebase.SourceMap
