import StyleRebase.SourceMap.Decode
import StyleRebase.SourceMap.DataUrl

/-! # Loading a source map

A source map comes as the bytes of a JSON document, or embedded in a stylesheet as a data URL.

* **`LoadError`** — the document was refused, or the data URL was.
* **`LoadError.message`** — `invalid source map: ...` or `invalid source map data URL: ...`.
* **`SourceMap.ofBytes`**, **`SourceMap.ofDataUrl`** — the map. -/

namespace StyleRebase.SourceMap

/-- **Why no source map could be loaded.** -/
inductive LoadError where
  | decode (e : DecodeError)
  | invalidDataUrl (e : DataUrlError)
  deriving DecidableEq, Repr

/-- **The message of a loading failure.** -/
def LoadError.message : LoadError → String
  | .decode e => "invalid source map: " ++ e.message
  | .invalidDataUrl e => e.message

/-- **A source map from the bytes of its document.** -/
def ofBytes (bytes : List UInt8) : Except LoadError SourceMap :=
  (decode bytes).mapError .decode

/-- **A source map embedded in a data URL.** -/
def ofDataUrl (url : List Char) : Except LoadError SourceMap := do
  let bytes ← (decodeDataUrl url).mapError .invalidDataUrl
  ofBytes bytes

end StyleRebase.SourceMap
