import StyleRebase.Css.Token
import StyleRebase.Text.CharClass

/-! # Scanning a stylesheet into tokens

The scanner skips CSS whitespace and then takes the **longest** token that starts at the current
character; when two kinds match equally long text, the kind of higher priority wins (`url(` 20;
brackets, separators, comments and strings 10; functions and at-keywords 5; identifiers, hashes
and numbers 4; a single delimiter character 0). A delimiter matches any character, so the scanner
never gets stuck and never produces `TokenKind.error`.

Four kinds run past the text that selected them:

* a comment runs to the first `*/` after its `/*`, or to the end as an unterminated comment;
* a string runs to its closing quote; a backslash takes the next character (and a `\r\n` pair
  after it) along, a raw newline or the end of the text leaves a malformed string;
* `url(` not followed by a quote (after whitespace) is an unquoted reference that runs to `)`;
  whitespace inside it, a quote, `(`, a bad escape or a control character makes it malformed, and
  a malformed reference runs to the next `)` whatever it escapes;
* `url(` followed by a quote is an ordinary function name of four bytes.

* **`Lexer.step`** — kind and length (in characters) of the token at the head of the text.
* **`Css.tokenize`** — every token of a text, then an end-of-file token at its length. -/

namespace StyleRebase.Css

namespace Lexer

/-! ## (1) Pieces of names -/

/-- **Characters that may start a name** once its dashes are taken: ASCII letters, `_` and every
non-ASCII character. -/
def isNameStart (c : Char) : Bool :=
  c.isAlpha || c == '_' || decide (0x80 ≤ c.toNat)

/-- **Characters that may continue a name**: a name start, an ASCII digit or `-`. -/
def isNameChar (c : Char) : Bool :=
  isNameStart c || c.isDigit || c == '-'

/-- **Length of the run of name units** at the head of the text, in characters. A unit is a
name character, or a backslash followed by any character that is not a CSS newline. -/
def nameRun : List Char → Nat
  | [] => 0
  | c :: rest =>
    if isNameChar c then 1 + nameRun rest
    else if c == '\\' then
      match rest with
      | d :: rest' => if isCssNewline d then 0 else 2 + nameRun rest'
      | [] => 0
    else 0

/-- **Length of the name unit that starts a name**: one name-start character, or an escape. -/
def startUnit : List Char → Nat
  | c :: rest =>
    if isNameStart c then 1
    else if c == '\\' then
      match rest with
      | d :: _ => if isCssNewline d then 0 else 2
      | [] => 0
    else 0
  | [] => 0

/-- **Length of the identifier** at the head of the text (zero when there is none): up to two
dashes, a start unit, then a run of name units. A third dash can never be a start unit, so the
dashes are taken greedily. -/
def identLen (cs : List Char) : Nat :=
  let (dashes, rest) : Nat × List Char :=
    match cs with
    | '-' :: '-' :: r => (2, r)
    | '-' :: r => (1, r)
    | r => (0, r)
  let s := startUnit rest
  if s = 0 then 0 else dashes + s + nameRun (rest.drop s)

/-- **Length of a function name** with its `(`, or zero. -/
def functionLen (cs : List Char) : Nat :=
  let n := identLen cs
  if n = 0 then 0 else
    match cs.drop n with
    | '(' :: _ => n + 1
    | _ => 0

/-- **Length of an at-keyword**: `@` and an identifier, or zero. -/
def atKeywordLen : List Char → Nat
  | '@' :: rest => let n := identLen rest; if n = 0 then 0 else n + 1
  | _ => 0

/-- **Length of a hash**: `#` and a non-empty run of name units, or zero. -/
def hashLen : List Char → Nat
  | '#' :: rest => let n := nameRun rest; if n = 0 then 0 else n + 1
  | _ => 0

/-! ## (2) Numbers -/

/-- **Number of ASCII digits** at the head of the text. -/
def digitRun : List Char → Nat
  | c :: rest => if c.isDigit then 1 + digitRun rest else 0
  | [] => 0

/-- **Characters of an ASCII unit name**: letters, digits, `_` and `-`. -/
def isUnitChar (c : Char) : Bool := c.isAlphanum || c == '_' || c == '-'

/-- **Number of ASCII unit-name characters** at the head of the text. -/
def unitRun : List Char → Nat
  | c :: rest => if isUnitChar c then 1 + unitRun rest else 0
  | [] => 0

/-- **Length of a unit after a number**: `%`, or an optional `-`, an ASCII letter or `_`, and
ASCII unit-name characters. Zero when there is none. -/
def unitLen : List Char → Nat
  | '%' :: _ => 1
  | '-' :: c :: rest => if c.isAlpha || c == '_' then 2 + unitRun rest else 0
  | c :: rest => if c.isAlpha || c == '_' then 1 + unitRun rest else 0
  | [] => 0

/-- **Length of an exponent** `e`/`E`, an optional sign and at least one digit, or zero. -/
def exponentLen : List Char → Nat
  | e :: rest =>
    if e == 'e' || e == 'E' then
      let (sign, r) : Nat × List Char :=
        match rest with
        | '+' :: r => (1, r)
        | '-' :: r => (1, r)
        | r => (0, r)
      let d := digitRun r
      if d = 0 then 0 else 1 + sign + d
    else 0
  | [] => 0

/-- **Length of the number** at the head of the text, or zero: an optional sign, digits with an
optional fraction (or a fraction alone), an optional exponent and an optional unit. Taking the
exponent or reading its letter as the start of a unit are both allowed; the longer reading
counts. -/
def numberLen (cs : List Char) : Nat :=
  let (sign, r) : Nat × List Char :=
    match cs with
    | '+' :: r => (1, r)
    | '-' :: r => (1, r)
    | r => (0, r)
  let whole := digitRun r
  let frac :=
    match r.drop whole with
    | '.' :: r' => let f := digitRun r'; if f = 0 then 0 else 1 + f
    | _ => 0
  let mantissa := whole + frac
  if mantissa = 0 then 0 else
    let tail := r.drop mantissa
    let e := exponentLen tail
    sign + mantissa + max (e + unitLen (tail.drop e)) (unitLen tail)

/-! ## (3) Tokens that run past their pattern -/

/-- **Characters up to and including the first `*/`**, if there is one. -/
def commentRest : List Char → Option Nat
  | '*' :: '/' :: _ => some 2
  | _ :: rest => (commentRest rest).map (· + 1)
  | [] => none

/-- **Scanning the body of a string** after its opening quote `q`: the number of characters
taken and whether the closing quote was found. A backslash takes the next character along (and a
line feed after an escaped carriage return); a raw newline stops the string before it. -/
def stringRest (q : Char) : List Char → Nat × Bool
  | [] => (0, false)
  | c :: rest =>
    if c == q then (1, true)
    else if c == '\\' then
      match rest with
      | [] => (1, false)
      | '\r' :: '\n' :: r => let (n, ok) := stringRest q r; (n + 3, ok)
      | _ :: r => let (n, ok) := stringRest q r; (n + 2, ok)
    else if isCssNewline c then (0, false)
    else let (n, ok) := stringRest q rest; (n + 1, ok)

/-- **Characters up to and including the first `)`**, or all of them. -/
def throughParen : List Char → Nat
  | ')' :: _ => 1
  | _ :: rest => throughParen rest + 1
  | [] => 0

/-- **Number of leading CSS whitespace characters.** -/
def spaceRun : List Char → Nat
  | c :: rest => if isCssSpace c then 1 + spaceRun rest else 0
  | [] => 0

/-- **Scanning an unquoted reference body** after `url(`: `some n` when it closes with `)` after
`n` characters (the `)` included), `none` when it is malformed. `lead` is the number of leading
whitespace characters and `i` the index of the head; whitespace after the first other character
may only be followed by `)`. -/
def urlRest (lead : Nat) : Nat → Bool → List Char → Option Nat
  | _, _, [] => none
  | i, trailing, c :: rest =>
    if c == ')' then some (i + 1)
    else if isCssSpace c then urlRest lead (i + 1) (trailing || decide (lead ≤ i)) rest
    else if trailing then none
    else if c == '"' || c == '\'' || c == '(' then none
    else if c == '\\' then
      match rest with
      | d :: r => if isCssNewline d then none else urlRest lead (i + 2) trailing r
      | [] => none
    else if isControlChar c then none
    else urlRest lead (i + 1) trailing rest

/-- **The token after `url(`** (given the text after it): a four-character function name when
a quote follows the whitespace, an unquoted reference when the body closes, a malformed reference
through the next `)` otherwise. Lengths count the `url(` too. -/
def afterUrl (rest : List Char) : TokenKind × Nat :=
  let lead := spaceRun rest
  match rest.drop lead with
  | '"' :: _ | '\'' :: _ => (.function, 4)
  | _ =>
    match urlRest lead 0 false rest with
    | some n => (.url, 4 + n)
    | none => (.badUrl, 4 + throughParen rest)

/-- **Whether the text starts with `url(`** in any ASCII case. -/
def startsWithUrl : List Char → Bool
  | u :: r :: l :: '(' :: _ => u.toLower == 'u' && r.toLower == 'r' && l.toLower == 'l'
  | _ => false

/-! ## (4) One token -/

/-- **The best of the pattern candidates**: the longest, then the one of highest priority, then
the first. Each candidate is a kind, a length and a priority. -/
def best : List (TokenKind × Nat × Nat) → TokenKind × Nat × Nat
  | [] => (.delim, 1, 0)
  | [c] => c
  | c :: cs =>
    let b := best cs
    if b.2.1 > c.2.1 || (b.2.1 = c.2.1 && b.2.2 > c.2.2) then b else c

/-- **Kind and length (in characters) of the token at the head of the text**, which starts with
a character that is not CSS whitespace. -/
def step (cs : List Char) : TokenKind × Nat :=
  match cs with
  | '{' :: _ => (.lbrace, 1)
  | '}' :: _ => (.rbrace, 1)
  | '(' :: _ => (.lparen, 1)
  | ')' :: _ => (.rparen, 1)
  | '[' :: _ => (.lbracket, 1)
  | ']' :: _ => (.rbracket, 1)
  | ':' :: _ => (.colon, 1)
  | ';' :: _ => (.semicolon, 1)
  | ',' :: _ => (.comma, 1)
  | '/' :: '*' :: rest =>
    match commentRest rest with
    | some n => (.comment, n + 2)
    | none => (.unterminatedComment, rest.length + 2)
  | '"' :: rest =>
    let (n, ok) := stringRest '"' rest
    (if ok then .string else .badString, n + 1)
  | '\'' :: rest =>
    let (n, ok) := stringRest '\'' rest
    (if ok then .string else .badString, n + 1)
  | _ =>
    if startsWithUrl cs then afterUrl (cs.drop 4)
    else
      let b := best [(.function, functionLen cs, 5), (.atKeyword, atKeywordLen cs, 5),
        (.ident, identLen cs, 4), (.hash, hashLen cs, 4), (.number, numberLen cs, 4),
        (.delim, 1, 0)]
      (b.1, b.2.1)

/-! ## (5) The whole text -/

/-- **Tokens of the text `cs`**, which starts at byte `pos`, followed by the end-of-file token at
byte `size`. Whitespace is skipped; each step takes at least one character. -/
def tokensFrom (size : Nat) (cs : List Char) (pos : Nat) : List Token :=
  match cs with
  | [] => [⟨.eof, Span.empty size, []⟩]
  | c :: rest =>
    if isCssSpace c then tokensFrom size rest (pos + 1)
    else
      let (kind, n) := step (c :: rest)
      let taken := (c :: rest).take (max 1 n)
      let stop := pos + utf8Length taken
      ⟨kind, ⟨pos, stop⟩, taken⟩ :: tokensFrom size ((c :: rest).drop (max 1 n)) stop
termination_by cs.length
decreasing_by
  all_goals
    simp only [List.length_cons, List.length_drop]
    omega

end Lexer

/-- **Every token of a stylesheet text**, ending with the end-of-file token `[len, len)`. -/
def tokenize (s : String) : List Token :=
  Lexer.tokensFrom s.utf8ByteSize s.toList 0

end StyleRebase.Css
