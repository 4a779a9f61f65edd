import StyleRebase.Css.Lexer
import StyleRebase.Css.Syntax
import StyleRebase.Css.ParseError

/-! # Parsing a stylesheet

A recursive-descent parser over the significant tokens (comments are set aside first). It never
stops at an error: it records it and carries on, so every text has a stylesheet.

Every parsing function takes the remaining tokens and returns what it built, the tokens left
over (as a subtype no longer than its input) and the errors it recorded, in the order it met
them. Functions that always consume a token say so in their type, and the loops recurse on the
shorter rest, so the whole parser is well-founded on the number of tokens; a call on the same
tokens (a block loop handing its head to a rule) goes to a function of lower rank. The measure
is a number, the tokens counted two or three times over plus the rank, so that the recursion
also runs in the kernel and small parses can be checked by `decide`.

* **`Parser.componentValue`**, **`Parser.nested`** — one value; the values up to a closing
  bracket (a different closing bracket ends them with an error and is left in place).
* **`Parser.values`** — values up to one of a set of stop tokens.
* **`Parser.declaration`**, **`Parser.atRule`**, **`Parser.qualifiedRule`**, **`Parser.block`**,
  **`Parser.blockItems`** — the rule level.
* **`parse`** — the stylesheet and the errors of a text. -/

namespace StyleRebase.Css

/-- **The result of parsing**: a stylesheet and every error recorded on the way. -/
structure ParseResult where
  /-- What was built. -/
  stylesheet : Stylesheet
  /-- The errors, lexing errors (unterminated comments) first. -/
  errors : List ParseError

namespace Parser

/-- **Tokens left over** by a parser that started on `ts`. -/
abbrev Rest (ts : List Token) := { r : List Token // r.length ≤ ts.length }

/-- **The error for an unexpected token** at the head of `ts` (the end of the text, at byte
`size`, when `ts` is empty). -/
def unexpected (size : Nat) (expected : String) : List Token → ParseError
  | [] => ⟨.unexpectedEof expected, Span.empty size⟩
  | t :: _ => ⟨.unexpectedToken expected t.kind.describe, t.span⟩

/-- **The value of an unquoted reference token** `url( value )`: the text between `url(` and
`)` with CSS whitespace trimmed, and its span. -/
def unquotedUrl (t : Token) : UrlValue :=
  let inner := (t.text.drop 4).dropLast
  let lead := (inner.takeWhile isCssSpace).length
  let value := trimBy isCssSpace inner
  let start := t.span.start + 4 + lead
  { span := t.span, valueSpan := ⟨start, start + utf8Length value⟩, quote := .none, value }

/-- **A function value**, read as a quoted reference when the name is `url` in any ASCII case
and the first argument is a string. -/
def functionValue (name : List Char) (args : List ComponentValue) (span : Span) : ComponentValue :=
  if eqIgnoreAsciiCase name "url".toList then
    match args with
    | .token a :: _ =>
      if a.kind == .string then
        .url { span, valueSpan := a.span,
               quote := if a.text.head? == some '\'' then .single else .double,
               value := (a.text.drop 1).dropLast }
      else .function name args span
    | _ => .function name args span
  else .function name args span

/-- **The closing kind and character** of a block opened by a token kind. -/
def closerOf : TokenKind → TokenKind × Char
  | .lbracket => (.rbracket, ']')
  | .lbrace => (.rbrace, '}')
  | _ => (.rparen, ')')

/-- **The opening character** of a block opened by a token kind. -/
def openerOf : TokenKind → Char
  | .lbracket => '['
  | .lbrace => '{'
  | _ => '('

mutual

/-- **One component value** starting with token `t`; it always consumes `t`. Closing brackets,
malformed strings and references and invalid tokens are recorded as errors and give no value. -/
def componentValue (size : Nat) (t : Token) (ts : List Token) :
    Option ComponentValue × { r : List Token // r.length < (t :: ts).length } × List ParseError :=
  match t.kind with
  | .url => (some (.url (unquotedUrl t)), ⟨ts, by simp⟩, [])
  | .function =>
    let (args, stop, rest, errs) := nested size .rparen ')' ts
    (some (functionValue t.text.dropLast args ⟨t.span.start, stop⟩),
      ⟨rest.1, by have := rest.2; simp only [List.length_cons]; omega⟩, errs)
  | .lparen | .lbracket | .lbrace =>
    let (close, closeChar) := closerOf t.kind
    let (vals, stop, rest, errs) := nested size close closeChar ts
    (some (.block (openerOf t.kind) vals ⟨t.span.start, stop⟩),
      ⟨rest.1, by have := rest.2; simp only [List.length_cons]; omega⟩, errs)
  | .rparen | .rbracket | .rbrace =>
    (none, ⟨ts, by simp⟩, [⟨.unexpectedToken "value" t.kind.describe, t.span⟩])
  | .badString => (none, ⟨ts, by simp⟩, [⟨.unterminatedString, t.span⟩])
  | .badUrl =>
    (none, ⟨ts, by simp⟩, [⟨.badUrl ("`" ++ String.ofList t.text ++ "`"), t.span⟩])
  | .error =>
    (none, ⟨ts, by simp⟩,
      [⟨.syntaxError ("invalid token `" ++ String.ofList t.text ++ "`"), t.span⟩])
  | _ => (some (.token t), ⟨ts, by simp⟩, [])
termination_by 2 * ts.length + 2

/-- **Values up to the closing bracket `close`**, and the byte where the block ends: after
`close`, which is consumed; at the end of the text; or before a different closing bracket,
which is recorded as mismatched and left for the enclosing construct. -/
def nested (size : Nat) (close : TokenKind) (closeChar : Char) (ts : List Token) :
    List ComponentValue × Nat × Rest ts × List ParseError :=
  match ts with
  | [] => ([], size, ⟨[], by simp⟩, [⟨.unexpectedEof close.describe, Span.empty size⟩])
  | t :: rest =>
    if t.kind == close then ([], t.span.stop, ⟨rest, by simp⟩, [])
    else if t.kind.isClosing then
      ([], t.span.start, ⟨t :: rest, by simp⟩,
        [⟨.mismatchedBracket closeChar (t.text.headD closeChar), t.span⟩])
    else
      let (v, r, errs) := componentValue size t rest
      let (vs, stop, r', errs') := nested size close closeChar r.1
      (v.toList ++ vs, stop, ⟨r'.1, by have := r.2; have := r'.2; omega⟩, errs ++ errs')
termination_by 2 * ts.length + 1
decreasing_by
  all_goals simp_wf
  · omega
  · have := r.2
    simp only [List.length_cons] at this
    omega

end

/-- **Values up to a stop token** (or the end of the text); the stop token is not consumed. -/
def values (size : Nat) (stop : TokenKind → Bool) (ts : List Token) :
    List ComponentValue × Rest ts × List ParseError :=
  match ts with
  | [] => ([], ⟨[], by simp⟩, [])
  | t :: rest =>
    if stop t.kind then ([], ⟨t :: rest, by simp⟩, [])
    else
      let (v, r, errs) := componentValue size t rest
      let (vs, r', errs') := values size stop r.1
      (v.toList ++ vs, ⟨r'.1, by have := r.2; have := r'.2; omega⟩, errs ++ errs')
termination_by ts.length
decreasing_by
  have := r.2
  simpa using this

/-- **Whether an identifier starts a declaration** rather than a nested rule: custom properties
(`--name`) always do; otherwise it does unless a `{` comes, outside brackets, before the next
`;` or `}` at that level. -/
def startsDeclaration (t : Token) (ts : List Token) : Bool :=
  match t.text with
  | '-' :: '-' :: _ => true
  | _ => scan 0 (t :: ts)
where
  /-- The bracket-depth scan over the tokens from the identifier on. -/
  scan (depth : Nat) : List Token → Bool
    | [] => true
    | u :: us =>
      match u.kind with
      | .function | .lparen | .lbracket => scan (depth + 1) us
      | .rparen | .rbracket => scan (depth - 1) us
      | .lbrace => if depth == 0 then false else scan depth us
      | .semicolon | .rbrace => if depth == 0 then true else scan depth us
      | _ => scan depth us

/-- **A trailing `! important`** (a `!` delimiter, then `important` in any ASCII case) removed
from a declaration value, and whether it was there. -/
def stripImportant (vals : List ComponentValue) : List ComponentValue × Bool :=
  match vals.reverse with
  | .token i :: .token b :: before =>
    if b.kind == .delim && b.text == ['!'] && i.kind == .ident &&
        eqIgnoreAsciiCase i.text "important".toList then
      (before.reverse, true)
    else (vals, false)
  | _ => (vals, false)

/-- **Stop tokens of a declaration value**: `;` and `}`. -/
def declarationStop (k : TokenKind) : Bool := k == .semicolon || k == .rbrace

/-- **A declaration** starting with the identifier `t`. Without a colon after the name the
error is recorded, the value is skipped and there is no declaration. -/
def declaration (size : Nat) (t : Token) (ts : List Token) :
    Option Declaration × { r : List Token // r.length < (t :: ts).length } × List ParseError :=
  match ts with
  | c :: rest =>
    if c.kind == .colon then
      let (vals, r, errs) := values size declarationStop rest
      let stop := match vals.getLast? with
        | some v => v.span.stop
        | none => max t.span.stop c.span.stop
      let (vals', important) := stripImportant vals
      (some { name := t.text, value := vals', important, span := ⟨t.span.start, stop⟩ },
        ⟨r.1, by have := r.2; simp only [List.length_cons]; omega⟩, errs)
    else
      let err := unexpected size (TokenKind.colon.describe) (c :: rest)
      let (_, r, errs) := values size declarationStop (c :: rest)
      (none, ⟨r.1, by have := r.2; simp only [List.length_cons] at *; omega⟩, err :: errs)
  | [] =>
    (none, ⟨[], by simp⟩, [unexpected size (TokenKind.colon.describe) []])

/-- **Stop tokens of an at-rule prelude**: `;`, `{` and `}`. -/
def atPreludeStop (k : TokenKind) : Bool := k == .semicolon || k == .lbrace || k == .rbrace

/-- **Stop tokens of a qualified-rule prelude**: `{`, `;` and `}`. -/
def qualifiedPreludeStop (k : TokenKind) : Bool := k == .lbrace || k == .semicolon || k == .rbrace

mutual

/-- **An at-rule** starting with the at-keyword `t`: its prelude, then `;`, a block, or nothing
(before `}` or the end of the text). -/
def atRule (size : Nat) (t : Token) (ts : List Token) :
    Rule × { r : List Token // r.length < (t :: ts).length } × List ParseError :=
  let name := t.text.drop 1
  let (prelude, r1, e1) := values size atPreludeStop ts
  let stop := match prelude.getLast? with
    | some v => v.span.stop
    | none => t.span.stop
  match h : r1.1 with
  | s :: r2 =>
    if s.kind == .semicolon then
      (.atRule name prelude none ⟨t.span.start, s.span.stop⟩,
        ⟨r2, by have := r1.2; rw [h] at this; simp only [List.length_cons] at *; omega⟩, e1)
    else if s.kind == .lbrace then
      let (b, r3, e2) := block size s r2
      (.atRule name prelude (some b) ⟨t.span.start, b.span.stop⟩,
        ⟨r3.1, by have := r1.2; have := r3.2; rw [h] at *; simp only [List.length_cons] at *; omega⟩,
        e1 ++ e2)
    else
      (.atRule name prelude none ⟨t.span.start, stop⟩,
        ⟨s :: r2, by have := r1.2; rw [h] at this; simp only [List.length_cons] at *; omega⟩, e1)
  | [] => (.atRule name prelude none ⟨t.span.start, stop⟩, ⟨[], by simp⟩, e1)
termination_by 3 * ts.length + 4
decreasing_by
  have := r1.2
  rw [h] at this
  simp only [List.length_cons] at *
  omega

/-- **A qualified rule**: a prelude, then a block. Without `{` after the prelude the error is
recorded, a `;` there is skipped, and there is no rule. -/
def qualifiedRule (size : Nat) (ts : List Token) :
    Option Rule × Rest ts × List ParseError :=
  let start := match ts with
    | t :: _ => t.span.start
    | [] => size
  let (prelude, r1, e1) := values size qualifiedPreludeStop ts
  match h : r1.1 with
  | s :: r2 =>
    if s.kind == .lbrace then
      let (b, r3, e2) := block size s r2
      (some (.qualified prelude b ⟨start, b.span.stop⟩),
        ⟨r3.1, by have := r1.2; have := r3.2; rw [h] at *; simp only [List.length_cons] at *; omega⟩,
        e1 ++ e2)
    else
      let err := unexpected size (TokenKind.lbrace.describe) (s :: r2)
      if s.kind == .semicolon then
        (none, ⟨r2, by have := r1.2; rw [h] at this; simp only [List.length_cons] at *; omega⟩,
          e1 ++ [err])
      else
        (none, ⟨s :: r2, by have := r1.2; rw [h] at this; exact this⟩, e1 ++ [err])
  | [] => (none, ⟨[], by simp⟩, e1 ++ [unexpected size (TokenKind.lbrace.describe) []])
termination_by 3 * ts.length + 1
decreasing_by
  have := r1.2
  rw [h] at this
  simp only [List.length_cons] at *
  omega

/-- **A block** starting with the `{` token `t`: its items up to the matching `}` (or the end of
the text). -/
def block (size : Nat) (t : Token) (ts : List Token) :
    Block × { r : List Token // r.length < (t :: ts).length } × List ParseError :=
  let (items, stop, r, errs) := blockItems size ts
  (.mk items ⟨t.span.start, stop⟩, ⟨r.1, by have := r.2; simp only [List.length_cons]; omega⟩, errs)
termination_by 3 * ts.length + 3
decreasing_by
  omega

/-- **The items of a block** up to its `}`, and the byte where the block ends. Stray `;` are
skipped; an identifier starts a declaration when `startsDeclaration` says so, any other token
a nested rule. -/
def blockItems (size : Nat) (ts : List Token) :
    List BlockItem × Nat × Rest ts × List ParseError :=
  match ts with
  | [] => ([], size, ⟨[], by simp⟩, [unexpected size (TokenKind.rbrace.describe) []])
  | t :: rest =>
    match t.kind with
    | .rbrace => ([], t.span.stop, ⟨rest, by simp⟩, [])
    | .semicolon =>
      let (items, stop, r, errs) := blockItems size rest
      (items, stop, ⟨r.1, by have := r.2; simp only [List.length_cons]; omega⟩, errs)
    | .atKeyword =>
      let (rule, r, e1) := atRule size t rest
      let (items, stop, r', e2) := blockItems size r.1
      (.rule rule :: items, stop, ⟨r'.1, by have := r.2; have := r'.2; omega⟩, e1 ++ e2)
    | kind =>
      if kind == .ident && startsDeclaration t rest then
        let (d, r, e1) := declaration size t rest
        let (items, stop, r', e2) := blockItems size r.1
        ((d.map .declaration).toList ++ items, stop, ⟨r'.1, by have := r.2; have := r'.2; omega⟩,
          e1 ++ e2)
      else
        let (rule, r, e1) := qualifiedRule size (t :: rest)
        if hr : r.1.length < (t :: rest).length then
          let (items, stop, r', e2) := blockItems size r.1
          ((rule.map .rule).toList ++ items, stop, ⟨r'.1, by have := r'.2; omega⟩, e1 ++ e2)
        else
          -- unreachable: a qualified rule always consumes a token here
          ((rule.map .rule).toList, size, r, e1)
termination_by 3 * ts.length + 2
decreasing_by
  all_goals simp_wf
  all_goals first
    | omega
    | (have h := r.2; simp only [List.length_cons] at *; omega)

end

/-- **The top-level rules** of a token list. Stray `}` and `;` are recorded as errors and
skipped. -/
def rules (size : Nat) (ts : List Token) : List Rule × List ParseError :=
  match ts with
  | [] => ([], [])
  | t :: rest =>
    match t.kind with
    | .atKeyword =>
      let (rule, r, e1) := atRule size t rest
      let (rs, e2) := rules size r.1
      (rule :: rs, e1 ++ e2)
    | .rbrace | .semicolon =>
      let (rs, e2) := rules size rest
      (rs, ⟨.unexpectedToken "rule" t.kind.describe, t.span⟩ :: e2)
    | _ =>
      let (rule, r, e1) := qualifiedRule size (t :: rest)
      if _hr : r.1.length < (t :: rest).length then
        let (rs, e2) := rules size r.1
        (rule.toList ++ rs, e1 ++ e2)
      else (rule.toList, e1)
termination_by ts.length
decreasing_by
  all_goals simp_wf
  all_goals first
    | omega
    | (have h := r.2; simp only [List.length_cons] at *; omega)

end Parser

/-- **Whether a token takes part in parsing**: comments and the end-of-file token do not. -/
def Token.isSignificant (t : Token) : Bool :=
  match t.kind with
  | .comment | .unterminatedComment | .eof => false
  | _ => true

/-- **Parse a stylesheet.** Comments are collected first (an unterminated one is also an error,
recorded before any other), then the significant tokens are parsed into rules. -/
def parse (s : String) : ParseResult :=
  let size := s.utf8ByteSize
  let toks := tokenize s
  let comments := toks.filterMap fun t =>
    match t.kind with
    | .comment | .unterminatedComment => some ⟨t.span, t.text⟩
    | _ => none
  let lexErrors := toks.filterMap fun t =>
    if t.kind == .unterminatedComment then some ⟨.unterminatedComment, t.span⟩ else none
  let (rs, errs) := Parser.rules size (toks.filter Token.isSignificant)
  { stylesheet := { rules := rs, comments, span := ⟨0, size⟩ }, errors := lexErrors ++ errs }

end StyleRebase.Css
