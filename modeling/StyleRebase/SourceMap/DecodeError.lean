/-! # Why a source map is refused

* **`DecodeError`** — the causes: a junk header with a carriage return alone, text that is not
  a source map document, a segment of the
  wrong size, a reference to a source or name that does not exist, a malformed VLQ number, a
  range-mapping character outside base64, and an index map with a section that names its map
  only by URL.
* **`DecodeError.message`** — the sentence describing each cause. -/

namespace StyleRebase.SourceMap

/-- **Why a source map is refused.** -/
inductive DecodeError where
  /-- A junk header has a carriage return that no line feed follows. -/
  | missingNewline
  /-- The text is not JSON, or not JSON of the shape of a source map. -/
  | badJson
  /-- A segment has neither 1, 4 nor 5 values; it had this many. -/
  | badSegmentSize (values : Nat)
  /-- A segment refers to a source index past the list of sources. -/
  | badSourceReference (index : Nat)
  /-- A segment refers to a name index past the list of names. -/
  | badNameReference (index : Nat)
  /-- A segment ends inside a VLQ number. -/
  | vlqLeftover
  /-- A segment holds no VLQ number. -/
  | vlqNoValues
  /-- A VLQ number runs past 64 bits. -/
  | vlqOverflow
  /-- A range-mapping line holds a character outside base64. -/
  | invalidBase64 (c : Char)
  /-- An index map cannot be made flat; the reason is given. -/
  | cannotFlatten (reason : String)
  deriving DecidableEq, Repr

/-- **The sentence describing a cause.** -/
def DecodeError.message : DecodeError → String
  | .missingNewline => "expected newline"
  | .badJson => "bad json"
  | .badSegmentSize n => s!"got {n} segments, expected 4 or 5"
  | .badSourceReference i => s!"bad reference to source #{i}"
  | .badNameReference i => s!"bad reference to name #{i}"
  | .vlqLeftover => "leftover cur/shift in vlq decode"
  | .vlqNoValues => "vlq decode did not produce any values"
  | .vlqOverflow => "vlq decode caused an overflow"
  | .invalidBase64 c => "invalid base64 character: " ++ String.singleton c
  | .cannotFlatten reason => "cannot flatten the indexed sourcemap: " ++ reason

end StyleRebase.SourceMap
