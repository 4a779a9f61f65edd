/-! # JSON documents

The syntax tree of a JSON document as it was written: object members keep their order and may
repeat a key, numbers keep their spelling, and a string or key whose escapes or bytes do not
spell text (a lone surrogate escape, invalid UTF-8) is kept without content. What a reader
accepts of this is decided where a document is read into a record (`Json.Reader`): a value it
reads must be well formed, a value it passes over need only be well written.

* **`Json.Number`** — sign, digits before and after the point, and exponent, as written.
* **`Json.Value`** — null, booleans, numbers, strings, arrays and objects. -/

namespace StyleRebase.Json

/-- **A JSON number as written**: `-`, the digits before the point, the digits after it (none
without a point), and the exponent's sign (`true` for `-`) and digits, if an exponent is
written. Digits are the values `0` to `9`, most significant first. -/
structure Number where
  negative : Bool
  integer : List Nat
  fraction : List Nat := []
  exponent : Option (Bool × List Nat) := none
  deriving DecidableEq, Repr, Inhabited

/-- **A natural number written in decimal.** -/
def Number.ofNat (n : Nat) : Number :=
  { negative := false, integer := (Nat.toDigits 10 n).map fun c => c.toNat - 48 }

/-- **A JSON value.** -/
inductive Value where
  | null
  | bool (b : Bool)
  | number (n : Number)
  /-- A string; `none` when its escapes or bytes do not spell text. -/
  | string (s : Option String)
  | array (items : List Value)
  /-- An object's members in document order, repeated keys included; a key is `none` when it
  does not spell text. -/
  | object (members : List (Option String × Value))
  deriving Repr, Inhabited

/-- **A text string.** -/
def Value.str (s : String) : Value := .string (some s)

/-- **An object of text keys.** -/
def Value.record (members : List (String × Value)) : Value :=
  .object (members.map fun (k, v) => (some k, v))

end StyleRebase.Json
