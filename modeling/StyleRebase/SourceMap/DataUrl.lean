import StyleRebase.Encoding.Base64
import StyleRebase.Encoding.Percent
import StyleRebase.Text.Utf8Codec
import StyleRebase.Text.Trim

/-! # Source maps embedded as data URLs

A stylesheet may carry its source map inline: `data:application/json;base64,<payload>` or with a
percent-encoded payload. The media type must be JSON (`application/json` or `text/json`, any
case); a later parameter `base64` (any case, white space around it ignored) selects base64, and
then the payload, trimmed of white space, must be canonical base64.

* **`DataUrlError`** — why a reference is not an embedded JSON document, with the reason's text
  and the message built on it.
* **`decodeDataUrl`** — the bytes of the document. -/

namespace StyleRebase.SourceMap

/-- **Why a reference is not an embedded JSON document.** -/
inductive DataUrlError where
  /-- It does not start with `data:`. -/
  | notDataUrl
  /-- There is no `,` before the payload. -/
  | missingSeparator
  /-- The media type, as written, is not JSON. -/
  | unsupportedMediaType (mediaType : List Char)
  /-- The base64 payload does not decode. -/
  | badBase64 (e : Encoding.Base64.DecodeError)
  deriving DecidableEq, Repr

/-- **The reason's text.** -/
def DataUrlError.reason : DataUrlError → String
  | .notDataUrl => "not a data URL"
  | .missingSeparator => "missing payload separator"
  | .unsupportedMediaType t => "unsupported media type " ++ "`" ++ String.ofList t ++ "`"
  | .badBase64 e => e.message

/-- **The message of a failure**, as reported to the user. -/
def DataUrlError.message (e : DataUrlError) : String :=
  "invalid source map data URL: " ++ e.reason

/-- **Whether a media type names JSON**: `application/json` or `text/json`, in any case. -/
def isJsonMediaType (t : List Char) : Bool :=
  eqIgnoreAsciiCase t "application/json".toList || eqIgnoreAsciiCase t "text/json".toList

/-- **The bytes a data URL carries**, when it holds a JSON document. -/
def decodeDataUrl (url : List Char) : Except DataUrlError (List UInt8) := do
  let scheme := url.take 5
  if !(scheme.length == 5 && eqIgnoreAsciiCase scheme "data:".toList) then throw .notDataUrl
  let rest := url.drop 5
  let header := rest.takeWhile (· != ',')
  if header.length == rest.length then throw .missingSeparator
  let payload := rest.drop (header.length + 1)
  let params := header.splitOn ';'
  let mediaType := trimWhite (params.headD [])
  if !isJsonMediaType mediaType then throw (.unsupportedMediaType mediaType)
  if params.tail.any fun p => eqIgnoreAsciiCase (trimWhite p) "base64".toList then
    match Encoding.Base64.decode (utf8Encode (trimWhite payload)) with
    | .ok bytes => pure bytes
    | .error e => throw (.badBase64 e)
  else pure (Encoding.percentDecode (utf8Encode payload))

end StyleRebase.SourceMap
