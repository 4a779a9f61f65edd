import StyleRebase.SourceMap.Basic

/-! # Building source maps

A source map is assembled one mapping at a time. Sources and names are kept once each: adding
one that is already present gives back its index.

* **`SourceMap.Builder`** — the parts gathered so far.
* **`Builder.addSource`**, **`Builder.addName`** — the index of a source or name, added if new.
* **`Builder.hasContents`**, **`Builder.setContents`** — the contents of a source; the contents list grows to the number
  of sources when it is shorter.
* **`Builder.addMapping`** — a mapping whose source and name are given by text.
* **`Builder.build`** — the finished map. -/

namespace StyleRebase.SourceMap

/-- **The parts of a source map being assembled.** -/
structure Builder where
  file : Option String
  mappings : Array Mapping := #[]
  sources : Array String := #[]
  contents : Array (Option String) := #[]
  names : Array String := #[]
  deriving Repr, Inhabited

namespace Builder

/-- **The index of a source**, added at the end if it is new. -/
def addSource (b : Builder) (source : String) : Builder × Nat :=
  match b.sources.idxOf? source with
  | some i => (b, i)
  | none => ({ b with sources := b.sources.push source }, b.sources.size)

/-- **The index of a name**, added at the end if it is new. -/
def addName (b : Builder) (name : String) : Builder × Nat :=
  match b.names.idxOf? name with
  | some i => (b, i)
  | none => ({ b with names := b.names.push name }, b.names.size)

/-- **Set the contents of a source**, first growing the contents to the number of sources. -/
def setContents (b : Builder) (i : Nat) (contents : Option String) : Builder :=
  let grown :=
    if b.sources.size > b.contents.size then
      b.contents ++ Array.replicate (b.sources.size - b.contents.size) none
    else b.contents
  { b with contents := grown.setIfInBounds i contents }

/-- **Whether contents are known for a source.** -/
def hasContents (b : Builder) (i : Nat) : Bool := (b.contents[i]?).getD none |>.isSome

/-- **Add a mapping as stored.** -/
def addRaw (b : Builder) (m : Mapping) : Builder := { b with mappings := b.mappings.push m }

/-- **Add a mapping** whose source and name are given by text (each added if new). -/
def addMapping (b : Builder) (dstLine dstCol srcLine srcCol : Nat) (source name : Option String)
    (isRange : Bool) : Builder :=
  let (b, src) := match source with
    | some s => let (b', i) := b.addSource s; (b', some i)
    | none => (b, none)
  let (b, nm) := match name with
    | some n => let (b', i) := b.addName n; (b', some i)
    | none => (b, none)
  b.addRaw ⟨dstLine, dstCol, srcLine, srcCol, src, nm, isRange⟩

/-- **The finished source map.** -/
def build (b : Builder) : SourceMap :=
  SourceMap.make b.file b.mappings b.sources b.contents b.names

end Builder

end StyleRebase.SourceMap
