import StyleRebase.Search.Bisect

/-! # Tables of code point ranges

A property of code points given by ranges: a table lists the first code point of each range
with the range's value, in increasing order, and a range runs up to the start of the next. Such
a table is written as text in lines, read once: entries separated by `;` (a line ends between
two), the fields of an entry by spaces, the first field the start of the range in hexadecimal.

* **`RangeTable`** — the starts and the values.
* **`RangeTable.ofText`** — the table a text spells, each entry's other fields decoded.
* **`RangeTable.find`** — the value at a code point. -/

namespace StyleRebase.Unicode

/-- **A table of code point ranges**: the first code point of each range, increasing, and the
range's value. -/
structure RangeTable (α : Type) where
  starts : Array Nat
  values : Array α

/-- **The value of a hexadecimal digit.** -/
def hexDigit? (c : Char) : Option Nat :=
  if '0' ≤ c && c ≤ '9' then some (c.toNat - 48)
  else if 'A' ≤ c && c ≤ 'F' then some (c.toNat - 55)
  else if 'a' ≤ c && c ≤ 'f' then some (c.toNat - 87)
  else none

/-- **The value of a hexadecimal number**, at least one digit. -/
def hexValue? (s : String) : Option Nat :=
  if s.isEmpty then none
  else s.toList.foldlM (fun acc c => (hexDigit? c).map (acc * 16 + ·)) 0

/-- **The entries of a table's lines**: the start and the other fields of each. -/
def entries (text : List String) : List (Nat × List String) :=
  (text.flatMap (·.splitOn ";")).filterMap fun e =>
    match e.splitOn " " with
    | start :: fields => (hexValue? start).map (·, fields)
    | [] => none

/-- **The table some lines spell**, each entry's fields after the start decoded by `decode`;
an entry that does not decode is left out. -/
def RangeTable.ofText {α : Type} (decode : List String → Option α) (text : List String) :
    RangeTable α :=
  let es := (entries text).filterMap fun (s, fields) => (decode fields).map (s, ·)
  ⟨(es.map (·.1)).toArray, (es.map (·.2)).toArray⟩

/-- **The value at a code point**: that of the last range starting at or below it, `fallback`
below the first. -/
def RangeTable.find {α : Type} (t : RangeTable α) (fallback : α) (cp : Nat) : α :=
  match (Bisect.bisect (fun s => compare s cp) t.starts).lastNotAbove? with
  | some i => t.values.getD i fallback
  | none => fallback

end StyleRebase.Unicode
