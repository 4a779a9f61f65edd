import StyleRebase.Text.Span

/-! # Stylesheet tokens

The token set is a reduced form of the CSS syntax: brackets and separators, comments, quoted
strings, unquoted `url(...)` references, function names, at-keywords, identifiers, hashes,
numbers and single-character delimiters, plus the malformed variants the scanner reports
instead of failing.

* **`TokenKind`** — the kinds, with `TokenKind.describe`, the phrase error messages use.
* **`Token`** — a kind, its byte span and its text. -/

namespace StyleRebase.Css

/-- **The kind of a token.** -/
inductive TokenKind where
  | lbrace | rbrace | lparen | rparen | lbracket | rbracket
  | colon | semicolon | comma
  | comment | unterminatedComment
  | string | badString
  | url | badUrl
  | function | atKeyword | ident | hash | number | delim
  | eof | error
  deriving DecidableEq, Repr, Inhabited

namespace TokenKind

/-- **How a kind is named in error messages**: brackets and separators in single quotes, the
rest by a plain phrase. -/
def describe : TokenKind → String
  | lbrace => "'\x7b'"
  | rbrace => "'\x7d'"
  | lparen => "'('"
  | rparen => "')'"
  | lbracket => "'['"
  | rbracket => "']'"
  | colon => "':'"
  | semicolon => "';'"
  | comma => "','"
  | comment => "comment"
  | unterminatedComment => "unterminated comment"
  | string => "string"
  | badString => "unterminated string"
  | url => "url"
  | badUrl => "malformed url"
  | function => "function"
  | atKeyword => "at-keyword"
  | ident => "identifier"
  | hash => "hash"
  | number => "number"
  | delim => "delimiter"
  | eof => "end of file"
  | error => "invalid token"

/-- **Whether a kind closes a bracket**: `)`, `]` or `}`. -/
def isClosing : TokenKind → Bool
  | rparen | rbracket | rbrace => true
  | _ => false

end TokenKind

/-- **A token**: its kind, its byte span in the text and the text the span covers. -/
structure Token where
  /-- What the token is. -/
  kind : TokenKind
  /-- Where it is. -/
  span : Span
  /-- The characters it covers. -/
  text : List Char
  deriving DecidableEq, Repr, Inhabited

end StyleRebase.Css
