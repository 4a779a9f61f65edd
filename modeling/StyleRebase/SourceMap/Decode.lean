import StyleRebase.Json.Read
import StyleRebase.Json.Typed
import StyleRebase.SourceMap.Builder
import StyleRebase.SourceMap.DebugId
import StyleRebase.SourceMap.Vlq
import StyleRebase.Text.Trim

/-! # Reading source maps

A source map document (version 3) is read in two steps. First the JSON is read into the fields
of a document, each with its expected type; a field may appear at most once, and a field of the
wrong type refuses the whole document. Then the mappings are decoded.

* A **regular** document lists `sources`, `names` and `mappings`: lines separated by `;`,
  segments by `,`, each segment 1, 4 or 5 VLQ numbers (generated column, source, source line,
  source column, name), all but the generated line relative to the previous segment.
  `sourceRoot` is put before each relative source; `rangeMappings` marks segments as ranges.
* An **index** document lists `sections`, each a map placed at a line and column offset
  (the column offset only applies to the map's first line). It is made flat: sections in order
  of their offsets, and of their sources and names those the mappings use, in order of first
  use.

* **`Document`**, **`Section`** — the fields as read.
* **`Document.read?`** — the document a JSON value spells, if any.
* **`decodeRegular`**, **`checkDocument`**, **`flattenAt`** — the decoding steps: every map
  decoded in written order (the first failure wins), then the document made flat (a section
  without a map fails, in order of offsets).
* **`SourceMap.decode`** — a source map from the bytes of a document. -/

namespace StyleRebase.SourceMap

/-! ## Documents -/

/-- **The plain fields of a source map document**, absent lists read as empty. -/
structure Fields where
  file : Option Json.Value
  sources : List (Option String)
  sourceRoot : Option String
  sourcesContent : List (Option String)
  names : List Json.Value
  rangeMappings : String
  mappings : String
  deriving Repr, Inhabited

mutual

/-- **A source map document as read.** -/
inductive Document where
  | regular (fields : Fields)
  | index (fields : Fields) (sections : List Section)
  deriving Repr, Inhabited

/-- **A section of an index document**: its offset, and its map or the URL of one. -/
inductive Section where
  | mk (line column : Nat) (url : Option String) (map : Option Document)
  deriving Repr, Inhabited

end

/-- **The scope mapping of a function** in the `x_facebook_sources` extension: names and
mappings, both required. -/
def scopeMapping : Json.Reader Unit := fun d v => do
  let r ← Json.Reader.record d v
  let _ ← r.required ["names"] (Json.Reader.list Json.Reader.text)
  let _ ← r.required ["mappings"] Json.Reader.text
  pure ()

/-- **A debug identifier.** -/
def debugId : Json.Reader DebugId := fun d v => (Json.Reader.text d v).bind DebugId.parse?

/-- **The plain fields of a document**, each checked against its type, with the extension
fields that are checked but not used. -/
def readFields (r : Json.Record) : Option Fields := do
  let _ ← r.optional ["version"] Json.Reader.u32
  let file ← r.optional ["file"] Json.Reader.value
  let sources ← r.optional ["sources"]
    (Json.Reader.list (Json.Reader.nullable Json.Reader.text))
  let sourceRoot ← r.optional ["sourceRoot"] Json.Reader.text
  let sourcesContent ← r.optional ["sourcesContent"]
    (Json.Reader.list (Json.Reader.nullable Json.Reader.text))
  let names ← r.optional ["names"] (Json.Reader.list Json.Reader.value)
  let rangeMappings ← r.optional ["rangeMappings"] Json.Reader.text
  let mappings ← r.optional ["mappings"] Json.Reader.text
  let _ ← r.optional ["x_facebook_offsets"]
    (Json.Reader.list (Json.Reader.nullable Json.Reader.u32))
  let _ ← r.optional ["x_metro_module_paths"] (Json.Reader.list Json.Reader.text)
  let _ ← r.optional ["x_facebook_sources"]
    (Json.Reader.list (Json.Reader.nullable (Json.Reader.list scopeMapping)))
  let _ ← r.optional ["debug_id"] debugId
  pure { file, sources := sources.getD [], sourceRoot
         sourcesContent := sourcesContent.getD [], names := names.getD []
         rangeMappings := rangeMappings.getD "", mappings := mappings.getD "" }

mutual

/-- **The document a JSON value spells**, `depth` arrays and objects down, reading nested maps
at most `fuel` levels down. -/
def readDocument : Nat → Json.Reader Document
  | 0, _, _ => none
  | fuel + 1, depth, v => do
    let r ← Json.Reader.record depth v
    let fields ← readFields r
    match ← r.field? ["sections"] with
    | none | some .null => pure (.regular fields)
    | some (.array items) => do
      if r.depth ≥ Json.maxDepth then none
      let sections ← readSections fuel (r.depth + 1) items
      pure (.index fields sections)
    | some _ => none

/-- **The sections of an index document**, `depth` arrays and objects down. -/
def readSections : Nat → Nat → List Json.Value → Option (List Section)
  | 0, _, _ => none
  | _, _, [] => some []
  | fuel + 1, depth, v :: vs => do
    let r ← Json.Reader.record depth v
    let offset ← r.required ["offset"] Json.Reader.record
    let line ← offset.required ["line"] Json.Reader.u32
    let column ← offset.required ["column"] Json.Reader.u32
    let url ← r.optional ["url"] Json.Reader.text
    let map ← match ← r.field? ["map"] with
      | none | some .null => pure none
      | some m => (readDocument fuel r.depth m).map some
    let rest ← readSections (fuel + 1) depth vs
    pure (.mk line column url map :: rest)

end

/-- **The document a JSON value spells.** Documents nest no deeper than JSON values do. -/
def Document.read? (v : Json.Value) : Option Document := readDocument (2 * Json.maxDepth) 0 v

/-! ## Regular maps -/

/-- **Text of a file field**: a string as it is, anything else as `<invalid>`. -/
def fileText : Json.Value → String
  | .string (some s) => s
  | _ => "<invalid>"

/-- **Text of a name**: a string as it is, a number as its value is written, anything else
empty. -/
def nameText : Json.Value → String
  | .string (some s) => s
  | .number n => (n.value?.map Json.Numeric.text).getD ""
  | _ => ""

/-- **A source as shown**: after the source root and a `/` (a root that ends in `/` already has
it), unless the root is empty or the source is absolute (`/`, `http:`, `https:`). -/
def withRoot (root : Option String) (source : String) : String :=
  match root with
  | some r =>
    if r.isEmpty then source
    else if !source.isEmpty && (source.startsWith "/" || source.startsWith "http:" ||
        source.startsWith "https:") then source
    else if r.endsWith "/" then r ++ source
    else r ++ "/" ++ source
  | none => source

/-- **Decoding state**: the running source, source line and column and name, and the mappings
decoded so far (in reverse). -/
structure Running where
  source : Nat := 0
  srcLine : Nat := 0
  srcCol : Nat := 0
  name : Nat := 0
  mappings : List Mapping := []

/-- **Decode one segment** of generated line `line`, at position `pos` among the line's pieces,
after the generated column `col`. -/
def decodeSegment (sources names : Nat) (ranges : List Bool) (line : Nat)
    (st : Running × Nat) (piece : List UInt8 × Nat) : Except DecodeError (Running × Nat) := do
  let (r, col) := st
  let (seg, pos) := piece
  if seg.isEmpty then return st
  let nums ← Vlq.decodeSegment seg
  let col' := (col + nums.headD 0) % Vlq.word
  let isRange := ranges.getD pos false
  match nums with
  | [_] =>
    let m : Mapping := ⟨line, col', r.srcLine, r.srcCol, none, none, isRange⟩
    pure ({ r with mappings := m :: r.mappings }, col')
  | _ :: s :: l :: c :: rest =>
    if rest.length > 1 then throw (.badSegmentSize nums.length)
    let source := (r.source + s) % Vlq.word
    if source ≥ sources then throw (.badSourceReference source)
    let srcLine := (r.srcLine + l) % Vlq.word
    let srcCol := (r.srcCol + c) % Vlq.word
    match rest with
    | [n] =>
      let name := (r.name + n) % Vlq.word
      if name ≥ names then throw (.badNameReference name)
      let m : Mapping := ⟨line, col', srcLine, srcCol, some source, some name, isRange⟩
      let r' : Running := { source, srcLine, srcCol, name, mappings := m :: r.mappings }
      pure (r', col')
    | _ =>
      let m : Mapping := ⟨line, col', srcLine, srcCol, some source, none, isRange⟩
      let r' : Running := { r with source, srcLine, srcCol, mappings := m :: r.mappings }
      pure (r', col')
  | _ => throw (.badSegmentSize nums.length)

/-- **Decode one generated line**; an empty line changes nothing, otherwise the column starts
again at zero and the line's range marks are read first. -/
def decodeLine (sources names : Nat) (rangeLines : List (List UInt8)) (r : Running)
    (piece : List UInt8 × Nat) : Except DecodeError Running := do
  let (text, line) := piece
  if text.isEmpty then return r
  let ranges ← Vlq.decodeRangeBits (rangeLines.getD line [])
  let segs := (text.splitOn 0x2C).zipIdx
  let (r', _) ← segs.foldlM (decodeSegment sources names ranges line) (r, 0)
  pure r'

/-- **Decode a regular document.** -/
def decodeRegular (f : Fields) : Except DecodeError SourceMap := do
  let names := f.names.map nameText
  let sources := f.sources.map (·.getD "")
  let rangeLines := (utf8Encode f.rangeMappings.toList).splitOn 0x3B
  let lines := ((utf8Encode f.mappings.toList).splitOn 0x3B).zipIdx
  let r ← lines.foldlM (decodeLine sources.length names.length rangeLines) {}
  pure (SourceMap.make (f.file.map fileText) r.mappings.reverse.toArray
    (sources.map (withRoot f.sourceRoot)).toArray f.sourcesContent.toArray names.toArray)

/-! ## Index maps -/

/-- **The offset of a section.** -/
def Section.offset : Section → Nat × Nat
  | .mk line column _ _ => (line, column)

/-- **Sections ordered by offset**, keeping the written order of equal offsets. -/
def sortSections (ss : List Section) : List Section :=
  ss.mergeSort fun a b => a.offset.1 < b.offset.1 ||
    (a.offset.1 == b.offset.1 && a.offset.2 ≤ b.offset.2)

/-- **Add a map to a flattening**, placed at an offset: its mappings are moved (the column only
on the map's first line), and the sources and names they use are added as they come, each
source with the contents first known for it. -/
def placeMap (b : Builder) (line column : Nat) (m : SourceMap) : Builder :=
  m.mappings.toList.foldl (fun b t =>
    let dstCol := if t.dstLine == 0 then (t.dstCol + column) % Vlq.word else t.dstCol
    let source := t.source.bind (m.sources[·]?)
    let b := b.addMapping ((t.dstLine + line) % Vlq.word) dstCol t.srcLine t.srcCol source
      (t.name.bind (m.names[·]?)) t.isRange
    match source, t.source with
    | some s, some i =>
      let (b, id) := b.addSource s
      if b.hasContents id then b else b.setContents id (m.contentsOf i)
    | _, _ => b)
    b

mutual

/-- **Decode every map of a document** in written order, for the first decoding failure. -/
def checkDocument : Document → Except DecodeError Unit
  | .regular f => do let _ ← decodeRegular f; pure ()
  | .index _ ss => checkSections ss

/-- **Decode the maps of sections** in written order. -/
def checkSections : List Section → Except DecodeError Unit
  | [] => pure ()
  | .mk _ _ _ none :: ss => checkSections ss
  | .mk _ _ _ (some d) :: ss => do checkDocument d; checkSections ss

end

/-- **The maps of sections**, in order, or the URL of the first section without one. -/
def sectionMaps (flat : Document → Except DecodeError SourceMap) :
    List Section → Except DecodeError (List (Nat × Nat × SourceMap))
  | [] => pure []
  | .mk _ _ url none :: _ =>
    throw (.cannotFlatten ("Section has an unresolved sourcemap: " ++ url.getD "<unknown url>"))
  | .mk line column _ (some d) :: ss => do
    let m ← flat d
    let rest ← sectionMaps flat ss
    pure ((line, column, m) :: rest)

/-- **A document as one regular map**: an index document's sections are placed in order of
their offsets. Nested index documents are made flat first, at most `depth` levels down. -/
def flattenAt : Nat → Document → Except DecodeError SourceMap
  | _, .regular f => decodeRegular f
  | 0, .index _ _ => throw .badJson
  | depth + 1, .index f ss => do
    let maps ← sectionMaps (flattenAt depth) (sortSections ss)
    let b := maps.foldl (fun b (line, column, m) => placeMap b line column m)
      ({ file := f.file.map fileText } : Builder)
    pure b.build

/-- **Whether a byte opens a junk header**: one of `)]}'`. -/
def isJunk (b : UInt8) : Bool := b == 0x29 || b == 0x5D || b == 0x7D || b == 0x27

/-- **The text after a junk header**: from the header's first line feed on, or nothing when it
has none; a carriage return in the header must be followed by a line feed. -/
def afterHeader : List UInt8 → Except DecodeError (List UInt8)
  | [] => pure []
  | b :: rest =>
    if b == 0x0A then pure (b :: rest)
    else if b == 0x0D then
      match rest with
      | [] => pure []
      | c :: more => if c == 0x0A then pure (c :: more) else throw .missingNewline
    else afterHeader rest

/-- **Skip a junk header**: text starting with one of `)]}'` is read after its first line. -/
def stripJunkHeader : List UInt8 → Except DecodeError (List UInt8)
  | [] => pure []
  | b :: rest => if isJunk b then afterHeader (b :: rest) else pure (b :: rest)

/-- **A source map from the bytes of a document**: a junk header is skipped, then the document
is read, its maps decoded and made flat. -/
def decode (bytes : List UInt8) : Except DecodeError SourceMap := do
  let text ← stripJunkHeader bytes
  let v ← (Json.parse? text).elim (throw .badJson) pure
  let d ← (Document.read? v).elim (throw .badJson) pure
  checkDocument d
  flattenAt (2 * Json.maxDepth) d

end StyleRebase.SourceMap
