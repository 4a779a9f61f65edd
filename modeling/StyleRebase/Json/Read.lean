import StyleRebase.Json.Value
import StyleRebase.Text.Utf8Codec

/-! # Reading JSON documents

A strict reader of JSON text given as bytes, in two passes: the bytes are cut into tokens, then
a stack of open arrays and objects assembles the tokens into a value.

* Tokens follow the JSON grammar exactly: white space is space, tab, LF and CR; numbers have no
  leading zeros or `+`, and a `.` or an exponent needs digits after it; strings hold no raw
  control characters and only the escapes `\" \\ \/ \b \f \n \r \t \uXXXX`.
* The content of a string or key is its text when its bytes are UTF-8 and every surrogate
  escape is part of a pair; otherwise it is read without content.
* Nothing but white space may follow the value. How deep arrays and objects nest is left to
  the readers of values (`Json.Reader`).

* **`Json.parse?`** — the value of a document, or `none`. -/

namespace StyleRebase.Json

/-- **A token of JSON text.** -/
inductive Token where
  | openObject | closeObject | openArray | closeArray | colon | comma
  /-- A number, string or literal. -/
  | scalar (v : Value)
  deriving Repr, Inhabited

/-- **JSON white space**: space, tab, LF, CR. -/
def isSpace (b : UInt8) : Bool := b == 0x20 || b == 0x09 || b == 0x0A || b == 0x0D

/-- **An ASCII digit.** -/
def isDigitByte (b : UInt8) : Bool := 0x30 ≤ b && b ≤ 0x39

/-- **Digits after a `.` or an exponent mark**: at least one is needed. -/
def requiredDigits (bs : List UInt8) : Option (List UInt8 × List UInt8) :=
  let ds := bs.takeWhile isDigitByte
  if ds.isEmpty then none else some (ds, bs.drop ds.length)

/-- **The values of digit bytes.** -/
def digitValues (ds : List UInt8) : List Nat := ds.map fun d => d.toNat - 0x30

/-- **A number at the start of the bytes**, and the bytes after it. -/
def readNumber (bs : List UInt8) : Option (Number × List UInt8) := do
  let (negative, r1) := match bs with
    | 0x2D :: r => (true, r)
    | r => (false, r)
  let (integer, r2) ← match r1 with
    | 0x30 :: r => if (r.head?.map isDigitByte).getD false then none else some ([0x30], r)
    | d :: r =>
      if isDigitByte d then
        let ds := r.takeWhile isDigitByte
        some (d :: ds, r.drop ds.length)
      else none
    | [] => none
  let (fraction, r3) ← match r2 with
    | 0x2E :: r => requiredDigits r
    | r => some ([], r)
  let (exponent, r4) ← match r3 with
    | e :: r =>
      if e == 0x65 || e == 0x45 then
        let (expNegative, r') := match r with
          | s :: r'' => if s == 0x2B then (false, r'') else if s == 0x2D then (true, r'')
            else (false, s :: r'')
          | [] => (false, [])
        (requiredDigits r').map fun (ds, r'') => (some (expNegative, digitValues ds), r'')
      else some (none, e :: r)
    | [] => some (none, [])
  pure ({ negative, integer := digitValues integer, fraction := digitValues fraction, exponent },
    r4)

/-- **A piece of string content**: a raw byte, or the 16-bit unit of an escape. -/
inductive Piece where
  | byte (b : UInt8)
  | unit (u : Nat)

/-- **The value of a hexadecimal digit byte.** -/
def hexByteValue (b : UInt8) : Option Nat :=
  if isDigitByte b then some (b.toNat - 0x30)
  else if 0x61 ≤ b && b ≤ 0x66 then some (b.toNat - 0x61 + 10)
  else if 0x41 ≤ b && b ≤ 0x46 then some (b.toNat - 0x41 + 10)
  else none

/-- **The unit of a one-letter escape.** -/
def simpleEscape (e : UInt8) : Option Nat :=
  if e == 0x22 || e == 0x5C || e == 0x2F then some e.toNat
  else if e == 0x62 then some 0x08
  else if e == 0x66 then some 0x0C
  else if e == 0x6E then some 0x0A
  else if e == 0x72 then some 0x0D
  else if e == 0x74 then some 0x09
  else none

/-- **The pieces of a string body** up to its closing quote, and the bytes after it; `none` on
a raw control character, a bad escape or a missing closing quote. -/
def readPieces : List UInt8 → List Piece → Option (List Piece × List UInt8)
  | [], _ => none
  | b :: rest, acc =>
    if b == 0x22 then some (acc.reverse, rest)
    else if b == 0x5C then
      match rest with
      | 0x75 :: h1 :: h2 :: h3 :: h4 :: rest' =>
        match hexByteValue h1, hexByteValue h2, hexByteValue h3, hexByteValue h4 with
        | some a, some b', some c, some d =>
          readPieces rest' (.unit (((a * 16 + b') * 16 + c) * 16 + d) :: acc)
        | _, _, _, _ => none
      | e :: rest' =>
        match simpleEscape e with
        | some u => readPieces rest' (.unit u :: acc)
        | none => none
      | [] => none
    else if b < 0x20 then none
    else readPieces rest (.byte b :: acc)

/-- **The UTF-8 bytes of string pieces**, with surrogate escapes joined in pairs; `none` on a
surrogate escape outside a pair. -/
def piecesBytes : List Piece → Option (List UInt8)
  | [] => some []
  | .byte b :: ps => (piecesBytes ps).map (b :: ·)
  | .unit u :: ps =>
    if 0xD800 ≤ u ∧ u ≤ 0xDBFF then
      match ps with
      | .unit l :: ps' =>
        if 0xDC00 ≤ l ∧ l ≤ 0xDFFF then
          let c := Char.ofNat (0x10000 + (u - 0xD800) * 0x400 + (l - 0xDC00))
          (piecesBytes ps').map (charUtf8 c ++ ·)
        else none
      | _ => none
    else if 0xDC00 ≤ u ∧ u ≤ 0xDFFF then none
    else (piecesBytes ps).map (charUtf8 (Char.ofNat u) ++ ·)

/-- **The text of string pieces**, when they spell text. -/
def piecesText (ps : List Piece) : Option String :=
  (piecesBytes ps).bind fun bs => (utf8Decode? bs).map String.ofList

/-- **A literal word** (`true`, `false`, `null`) at the start of the bytes. -/
def readWord (word : List UInt8) (v : Value) (bs : List UInt8) : Option (Value × List UInt8) :=
  if word.isPrefixOf bs then some (v, bs.drop word.length) else none

/-- **The token at the start of the bytes** (white space skipped before it), and the bytes after
it. -/
def readToken (b : UInt8) (rest : List UInt8) : Option (Token × List UInt8) :=
  if b == 0x7B then some (.openObject, rest)
  else if b == 0x7D then some (.closeObject, rest)
  else if b == 0x5B then some (.openArray, rest)
  else if b == 0x5D then some (.closeArray, rest)
  else if b == 0x3A then some (.colon, rest)
  else if b == 0x2C then some (.comma, rest)
  else if b == 0x22 then
    (readPieces rest []).map fun (ps, r) => (.scalar (.string (piecesText ps)), r)
  else if b == 0x74 then
    (readWord [0x72, 0x75, 0x65] (.bool true) rest).map fun (v, r) => (.scalar v, r)
  else if b == 0x66 then
    (readWord [0x61, 0x6C, 0x73, 0x65] (.bool false) rest).map fun (v, r) => (.scalar v, r)
  else if b == 0x6E then
    (readWord [0x75, 0x6C, 0x6C] .null rest).map fun (v, r) => (.scalar v, r)
  else if b == 0x2D || isDigitByte b then
    (readNumber (b :: rest)).map fun (n, r) => (.scalar (.number n), r)
  else none

/-- **The tokens of JSON text**, or `none` on bytes that start no token. A step that would not
shorten the text is never taken: every token takes at least one byte. -/
def tokenize : List UInt8 → Option (List Token)
  | [] => some []
  | b :: rest =>
    if isSpace b then tokenize rest
    else
      match readToken b rest with
      | some (t, r) =>
        if r.length < (b :: rest).length then (tokenize r).map (t :: ·) else none
      | none => none
termination_by bs => bs.length
decreasing_by
  all_goals simp_wf
  all_goals ((try simp only [List.length_cons] at *); omega)

/-- **An open array or object**, with what it holds so far (in reverse) and, for an object, the
key waiting for its value. -/
inductive Frame where
  | array (items : List Value)
  | object (members : List (Option String × Value)) (key : Option String)

/-- **What the next token must be.** -/
inductive Expect where
  /-- A value. -/
  | value
  /-- A value or `]`, right after `[`. -/
  | firstItem
  /-- A key or `}`, right after `{`. -/
  | firstKey
  /-- A key, after `,` in an object. -/
  | key
  /-- `:` after a key. -/
  | colon
  /-- `,` or the closing bracket, after a value in an array or object. -/
  | separator
  /-- Nothing: the document's value is complete. -/
  | done (v : Value)

/-- **Hand a complete value to the innermost open array or object**, or finish the document. -/
def deliver (v : Value) : List Frame → List Frame × Expect
  | [] => ([], .done v)
  | .array items :: fs => (.array (v :: items) :: fs, .separator)
  | .object members k :: fs => (.object ((k, v) :: members) k :: fs, .separator)

/-- **Open an array or object.** -/
def openFrame (f : Frame) (next : Expect) (stack : List Frame) : List Frame × Expect :=
  (f :: stack, next)

/-- **Read one token** against what is expected. -/
def step (stack : List Frame) (e : Expect) (t : Token) : Option (List Frame × Expect) :=
  match e, t with
  | .value, .scalar v | .firstItem, .scalar v => some (deliver v stack)
  | .value, .openArray | .firstItem, .openArray => some (openFrame (.array []) .firstItem stack)
  | .value, .openObject | .firstItem, .openObject =>
    some (openFrame (.object [] none) .firstKey stack)
  | .firstItem, .closeArray =>
    match stack with
    | .array _ :: fs => some (deliver (.array []) fs)
    | _ => none
  | .firstKey, .closeObject =>
    match stack with
    | .object _ _ :: fs => some (deliver (.object []) fs)
    | _ => none
  | .firstKey, .scalar (.string k) | .key, .scalar (.string k) =>
    match stack with
    | .object members _ :: fs => some (.object members k :: fs, .colon)
    | _ => none
  | .colon, .colon => some (stack, .value)
  | .separator, .comma =>
    match stack with
    | .array _ :: _ => some (stack, .value)
    | .object _ _ :: _ => some (stack, .key)
    | [] => none
  | .separator, .closeArray =>
    match stack with
    | .array items :: fs => some (deliver (.array items.reverse) fs)
    | _ => none
  | .separator, .closeObject =>
    match stack with
    | .object members _ :: fs => some (deliver (.object members.reverse) fs)
    | _ => none
  | _, _ => none

/-- **Assemble tokens into the document's value.** -/
def assemble (stack : List Frame) (e : Expect) : List Token → Option Value
  | [] => match e with
    | .done v => some v
    | _ => none
  | t :: ts => (step stack e t).bind fun (stack', e') => assemble stack' e' ts

/-- **The value of a JSON document**, or `none` when the text is not one. -/
def parse? (bs : List UInt8) : Option Value :=
  (tokenize bs).bind (assemble [] .value)

end StyleRebase.Json
