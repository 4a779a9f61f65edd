import StyleRebase.Css.Token

/-! # Errors recorded while parsing a stylesheet

Parsing never stops at an error: each one is recorded with the span it concerns, and the parse
goes on.

* **`ParseErrorKind`** — what went wrong.
* **`ParseError`** — a kind and a span, with `ParseError.message`, the text of the error. -/

namespace StyleRebase.Css

/-- **What went wrong** while parsing. -/
inductive ParseErrorKind where
  /-- A token that cannot stand here; `found` describes it. -/
  | unexpectedToken (expected found : String)
  /-- The text ended where something else was expected. -/
  | unexpectedEof (expected : String)
  /-- A closing bracket that does not close the innermost open one. -/
  | mismatchedBracket (expected found : Char)
  /-- A string broken by a newline or by the end of the text. -/
  | unterminatedString
  /-- A comment without its closing `*/`. -/
  | unterminatedComment
  /-- A malformed unquoted reference; the message quotes it. -/
  | badUrl (message : String)
  /-- Any other error, with its message. -/
  | syntaxError (message : String)
  deriving DecidableEq, Repr, Inhabited

/-- **A recorded error**: its kind and the span of the token it concerns. -/
structure ParseError where
  /-- What went wrong. -/
  kind : ParseErrorKind
  /-- Where. -/
  span : Span
  deriving DecidableEq, Repr, Inhabited

/-- **The text of an error kind.** -/
def ParseErrorKind.message : ParseErrorKind → String
  | .unexpectedToken e f => "unexpected token: expected " ++ e ++ ", found " ++ f
  | .unexpectedEof e => "unexpected end of file: expected " ++ e
  | .mismatchedBracket e f =>
    "mismatched bracket: expected '" ++ e.toString ++ "', found '" ++ f.toString ++ "'"
  | .unterminatedString => "unterminated string"
  | .unterminatedComment => "unterminated comment"
  | .badUrl m => "malformed url: " ++ m
  | .syntaxError m => m

/-- **The text of an error.** -/
def ParseError.message (e : ParseError) : String := e.kind.message

end StyleRebase.Css
