import StyleRebase.Text.Trim

/-! # The `sourceMappingURL` directive of a comment

Compilers append `/*# sourceMappingURL=<reference> */` to their output; `/*@ ...` is the older
spelling. The reference is the first word after `sourceMappingURL=`.

* **`mappingUrl?`** — the reference a comment carries, if any. -/

namespace StyleRebase.SourceMap

/-- **The reference a comment's directive names.** The comment must open with `/*`; a closing
`*/` is dropped if present, white space is trimmed, a `#` or `@` marker must follow, then
optional white space, then `sourceMappingURL=` and the first word after it. -/
def mappingUrl? (comment : List Char) : Option (List Char) := do
  let body ← dropPrefix? "/*".toList comment
  let body := match dropPrefix? "/*".toList body.reverse with
    | some rev => rev.reverse
    | none => body
  let body := trimWhite body
  let body ← (dropPrefix? ['#'] body).orElse fun _ => dropPrefix? ['@'] body
  let body := trimStartBy isWhiteSpace body
  let url ← dropPrefix? "sourceMappingURL=".toList body
  firstWord url

end StyleRebase.SourceMap
