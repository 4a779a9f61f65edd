import StyleRebase.Json.Value

/-! # Writing JSON documents

* **`Json.quote`** — a string as a JSON string literal: `"` and `\` escaped, the control
  characters below U+0020 written as `\b \t \n \f \r` or `\u00xx` (lowercase hexadecimal), all
  else as it is.
* **`Json.Value.compact`** — a value with no white space.
* **`Json.Value.pretty`** — a value with each member and item on its own line, indented by two
  spaces per level, `": "` after keys, and `[]` / `{}` for empty containers.

Numbers are written as they were spelled; a string or key without content is written as the
empty string. -/

namespace StyleRebase.Json

/-- **A hexadecimal digit**, lowercase. -/
def hexDigitChar (n : Nat) : Char :=
  if n < 10 then Char.ofNat (0x30 + n) else Char.ofNat (0x61 + n - 10)

/-- **A character as it stands inside a JSON string literal.** -/
def escapeChar (c : Char) : List Char :=
  if c == '"' then ['\\', '"']
  else if c == '\\' then ['\\', '\\']
  else if c.toNat < 0x20 then
    if c == '\x08' then ['\\', 'b']
    else if c == '\t' then ['\\', 't']
    else if c == '\n' then ['\\', 'n']
    else if c == '\x0c' then ['\\', 'f']
    else if c == '\r' then ['\\', 'r']
    else ['\\', 'u', '0', '0', hexDigitChar (c.toNat / 16), hexDigitChar (c.toNat % 16)]
  else [c]

/-- **A string as a JSON string literal.** -/
def quote (s : String) : String :=
  String.ofList ('"' :: s.toList.flatMap escapeChar ++ ['"'])

/-- **Decimal digits as text.** -/
def digitsText (ds : List Nat) : String := String.ofList (ds.map fun d => Char.ofNat (48 + d))

/-- **The text of a number**, as it was written. -/
def Number.render (n : Number) : String :=
  let exponent := match n.exponent with
    | some (negative, ds) => "e" ++ (if negative then "-" else "") ++ digitsText ds
    | none => ""
  (if n.negative then "-" else "") ++ digitsText n.integer ++
    (if n.fraction.isEmpty then "" else "." ++ digitsText n.fraction) ++ exponent

/-- **A scalar's text**; arrays and objects are left to the writers below. -/
def scalarText : Value → String
  | .null => "null"
  | .bool b => if b then "true" else "false"
  | .number n => n.render
  | .string s => quote (s.getD "")
  | .array _ => "[]"
  | .object _ => "\x7b\x7d"

mutual

/-- **A value with no white space.** -/
def Value.compact : Value → String
  | .array items => "[" ++ String.intercalate "," (compactItems items) ++ "]"
  | .object members => "\x7b" ++ String.intercalate "," (compactMembers members) ++ "\x7d"
  | v => scalarText v

/-- **The compact texts of a list of values.** -/
def compactItems : List Value → List String
  | [] => []
  | v :: vs => v.compact :: compactItems vs

/-- **The compact texts of object members.** -/
def compactMembers : List (Option String × Value) → List String
  | [] => []
  | (k, v) :: ms => (quote (k.getD "") ++ ":" ++ v.compact) :: compactMembers ms

end

/-- **Indentation for a nesting level.** -/
def indent (level : Nat) : String := String.ofList (List.replicate (2 * level) ' ')

mutual

/-- **A value written over several lines**, its nested lines indented past `level`. -/
def Value.prettyAt (level : Nat) : Value → String
  | .array [] => "[]"
  | .object [] => "\x7b\x7d"
  | .array items =>
    "[\n" ++ String.intercalate ",\n" (prettyItems (level + 1) items) ++ "\n" ++ indent level ++ "]"
  | .object members =>
    "\x7b\n" ++ String.intercalate ",\n" (prettyMembers (level + 1) members) ++ "\n" ++
      indent level ++ "\x7d"
  | v => scalarText v

/-- **Items on their own lines.** -/
def prettyItems (level : Nat) : List Value → List String
  | [] => []
  | v :: vs => (indent level ++ v.prettyAt level) :: prettyItems level vs

/-- **Members on their own lines.** -/
def prettyMembers (level : Nat) : List (Option String × Value) → List String
  | [] => []
  | (k, v) :: ms => (indent level ++ quote (k.getD "") ++ ": " ++ v.prettyAt level) :: prettyMembers level ms

end

/-- **A value written over several lines.** -/
def Value.pretty (v : Value) : String := v.prettyAt 0

end StyleRebase.Json
