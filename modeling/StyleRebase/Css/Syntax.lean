import StyleRebase.Css.Token
import StyleRebase.SourceMap.Directive

/-! # The syntax tree of a stylesheet

* **`Quote`** — how a `url(...)` reference is quoted.
* **`UrlValue`** — a reference: the whole `url(...)` span, the span of the value with its
  quotes, the quote and the value without quotes.
* **`ComponentValue`** — a reference, a function with its arguments, a bracketed block, or a
  token kept as it is.
* **`Declaration`**, **`Rule`**, **`Block`**, **`BlockItem`** — declarations and the at-rules and
  qualified rules that hold them, nested to any depth.
* **`Stylesheet`** — the rules, the comments and the span of the whole text, with
  `Stylesheet.sourceMappingUrl`, the reference of the last comment that carries one. -/

namespace StyleRebase.Css

/-- **How a reference is quoted.** -/
inductive Quote where
  | double | single | none
  deriving DecidableEq, Repr, Inhabited

/-- **The quote characters** written around a value: `"`, `'` or nothing. -/
def Quote.mark : Quote → List Char
  | .double => ['"']
  | .single => ['\'']
  | .none => []

/-- **A `url(...)` reference.** -/
structure UrlValue where
  /-- The whole reference, from `url(` to `)`. -/
  span : Span
  /-- The value, with its quotes when quoted. -/
  valueSpan : Span
  /-- The quote around the value. -/
  quote : Quote
  /-- The value without quotes (and without surrounding whitespace when unquoted). -/
  value : List Char
  deriving DecidableEq, Repr, Inhabited

/-- **A component value**: a reference, a function with its arguments, a block opened by `(`,
`[` or `{` with its values, or a token kept as it is. -/
inductive ComponentValue where
  | url (u : UrlValue)
  | function (name : List Char) (arguments : List ComponentValue) (span : Span)
  | block (opener : Char) (values : List ComponentValue) (span : Span)
  | token (t : Token)
  deriving Inhabited

/-- **Span of a component value.** -/
def ComponentValue.span : ComponentValue → Span
  | .url u => u.span
  | .function _ _ s => s
  | .block _ _ s => s
  | .token t => t.span

/-- **A declaration** `name: value [!important]`. -/
structure Declaration where
  /-- The property name. -/
  name : List Char
  /-- The value, without a trailing `!important`. -/
  value : List ComponentValue
  /-- Whether `!important` ended the value. -/
  important : Bool
  /-- From the name to the end of the value (or of the colon). -/
  span : Span
  deriving Inhabited

mutual

/-- **A rule**: an at-rule with an optional block, or a qualified rule with a block. -/
inductive Rule where
  | atRule (name : List Char) (prelude : List ComponentValue) (body : Option Block) (span : Span)
  | qualified (prelude : List ComponentValue) (body : Block) (span : Span)

/-- **A `{ ... }` block** of declarations and nested rules. -/
inductive Block where
  | mk (items : List BlockItem) (span : Span)

/-- **An item of a block.** -/
inductive BlockItem where
  | declaration (d : Declaration)
  | rule (r : Rule)

end

instance : Inhabited Block := ⟨.mk [] default⟩

/-- **Span of a block.** -/
def Block.span : Block → Span
  | .mk _ s => s

/-- **Items of a block.** -/
def Block.items : Block → List BlockItem
  | .mk items _ => items

/-- **Span of a rule.** -/
def Rule.span : Rule → Span
  | .atRule _ _ _ s => s
  | .qualified _ _ s => s

/-- **A comment**: its span and its text, delimiters included. -/
structure Comment where
  /-- Where it is. -/
  span : Span
  /-- Its characters. -/
  text : List Char
  deriving DecidableEq, Repr, Inhabited

/-- **A stylesheet**: its rules, its comments in text order, and the span of the whole text. -/
structure Stylesheet where
  /-- Top-level rules. -/
  rules : List Rule
  /-- Every comment, terminated or not. -/
  comments : List Comment
  /-- `[0, length)`. -/
  span : Span

/-- **The source map reference of a stylesheet**: the directive of the last comment that
carries one. -/
def Stylesheet.sourceMappingUrl (s : Stylesheet) : Option (List Char) :=
  s.comments.reverse.findSome? fun c => SourceMap.mappingUrl? c.text

end StyleRebase.Css
