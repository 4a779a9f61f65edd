import StyleRebase.Css.Parser
import StyleRebase.Text.LineIndex

/-! # Finding the references of a stylesheet

* **`Css.ComponentValue.urls`**, **`Css.Rule.urls`** and their list forms — every reference of
  a value or a rule, in document order: a rule's prelude before its block, a function's
  arguments and a block's values in order, nested rules in place.
* **`Occurrence`** — a reference as the rebaser sees it: the raw value, its quote, the span of
  the value with its quotes (the unit that rebasing replaces) and the UTF-16 position of its `url(`.
* **`locate`** — the occurrences of a stylesheet, by increasing span start. -/

namespace StyleRebase

namespace Css

mutual

/-- **References inside a component value.** -/
def ComponentValue.urls : ComponentValue → List UrlValue
  | .url u => [u]
  | .function _ args _ => valuesUrls args
  | .block _ vals _ => valuesUrls vals
  | .token _ => []

/-- **References inside a list of component values**, in order. -/
def valuesUrls : List ComponentValue → List UrlValue
  | [] => []
  | v :: vs => v.urls ++ valuesUrls vs

end

mutual

/-- **References inside a rule**: its prelude, then its block. -/
def Rule.urls : Rule → List UrlValue
  | .atRule _ prelude body _ => valuesUrls prelude ++ optionBlockUrls body
  | .qualified prelude body _ => valuesUrls prelude ++ body.urls

/-- **References inside a block that may be missing.** -/
def optionBlockUrls : Option Block → List UrlValue
  | some b => b.urls
  | none => []

/-- **References inside a block**: those of its items in order. -/
def Block.urls : Block → List UrlValue
  | .mk items _ => itemsUrls items

/-- **References inside a list of block items**, in order. -/
def itemsUrls : List BlockItem → List UrlValue
  | [] => []
  | i :: is => i.urls ++ itemsUrls is

/-- **References inside a block item**: a declaration's value or a nested rule's. -/
def BlockItem.urls : BlockItem → List UrlValue
  | .declaration d => valuesUrls d.value
  | .rule r => r.urls

end

/-- **References of a stylesheet** in document order. -/
def Stylesheet.urls (s : Stylesheet) : List UrlValue := s.rules.flatMap Rule.urls

end Css

namespace Rebase

/-- **A reference found in the stylesheet.** -/
structure Occurrence where
  /-- The value as written, without quotes. -/
  raw : List Char
  /-- The quote around it, written back unchanged when rebased. -/
  quote : Css.Quote
  /-- The value with its quotes: what rebasing replaces. -/
  span : Span
  /-- Line and UTF-16 column of the `url(` of the reference. -/
  position : LineCol
  deriving DecidableEq, Repr, Inhabited

/-- **Every reference of a stylesheet**, ordered by the start of its value (stably); a reference
whose `url(` has no UTF-16 position in the text is left out. -/
def locate (sheet : Css.Stylesheet) (index : LineIndex) : List Occurrence :=
  let found := sheet.urls.filterMap fun u =>
    (index.lineColUtf16 u.span.start).map fun position =>
      { raw := u.value, quote := u.quote, span := u.valueSpan, position }
  found.mergeSort fun a b => a.span.start ≤ b.span.start

end Rebase

end StyleRebase
