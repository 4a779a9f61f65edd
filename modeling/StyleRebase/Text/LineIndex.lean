import StyleRebase.Text.Utf8

/-! # Lines and columns of a text

Source maps address text by line and column, columns counted in UTF-16 code units; the rest of
the library counts bytes. A `LineIndex` holds a text cut into lines at every line feed (`\n`
only: carriage returns and form feeds are ordinary characters here) and converts between the two.
Offsets, lines and columns are natural numbers where the reader of a text keeps 32-bit ones, cut
from machine-sized counts; they agree on texts shorter than 2^32 bytes, the texts this index is
about.

* **`LineCol`** — a zero-based line and column.
* **`LineIndex.ofChars`** — the index of a text.
* **`LineIndex.lineCol`** / **`LineIndex.offset`** — byte offset to and from line and byte column.
* **`LineIndex.lineColUtf16`** / **`LineIndex.offsetUtf16`** — the same with UTF-16 columns;
  both refuse positions inside a character.
* **`LineIndex.lineStart`**, **`LineIndex.lineEnd`**, **`LineIndex.lineLenUtf16`**. -/

namespace StyleRebase

/-- **A zero-based line and column.** Which unit the column counts is said where one is used. -/
structure LineCol where
  /-- The line. -/
  line : Nat
  /-- The column. -/
  col : Nat
  deriving DecidableEq, Repr, Inhabited

namespace LineCol

/-- **Lexicographic order** of positions: by line, then by column. -/
def before (a b : LineCol) : Bool :=
  a.line < b.line || (a.line == b.line && a.col < b.col)

end LineCol

/-- **The lines of a text**: where each starts, its characters without the line feed, and the
byte length of the whole text. -/
structure LineIndex where
  /-- Byte offset of the first character of each line. -/
  starts : Array Nat
  /-- The characters of each line, without its line feed. -/
  lines : Array (List Char)
  /-- Byte length of the text. -/
  size : Nat
  deriving Inhabited

namespace LineIndex

/-- **Start offsets of consecutive lines**, the first starting at `s`; each later line starts
one byte (the line feed) after the end of the one before. -/
def startsFrom : Nat → List (List Char) → List Nat
  | _, [] => []
  | s, l :: ls => s :: startsFrom (s + utf8Length l + 1) ls

/-- **The index of a text** given as characters. -/
def ofChars (cs : List Char) : LineIndex :=
  let ls := cs.splitOn '\n'
  { starts := (startsFrom 0 ls).toArray, lines := ls.toArray, size := utf8Length cs }

/-- **The index of a text.** -/
def ofString (s : String) : LineIndex := ofChars s.toList

/-- **Number of lines**: one more than the number of line feeds. -/
def lineCount (ix : LineIndex) : Nat := ix.starts.size

/-- **Byte offset where a line starts**, if the line exists. -/
def lineStart (ix : LineIndex) (line : Nat) : Option Nat := ix.starts[line]?

/-- **Byte offset where a line ends**, before its line feed, if the line exists. -/
def lineEnd (ix : LineIndex) (line : Nat) : Option Nat :=
  if line < ix.lineCount then
    match ix.starts[line + 1]? with
    | some next => some (next - 1)
    | none => some ix.size
  else none

/-- **Line and byte column of an offset**, or `none` past the end of the text. The line is the
last one starting at or before the offset. -/
def lineCol (ix : LineIndex) (o : Nat) : Option LineCol :=
  if o > ix.size then none
  else
    let line := (ix.starts.toList.filter (· ≤ o)).length - 1
    some ⟨line, o - ix.starts[line]?.getD 0⟩

/-- **Offset of a line and byte column**, if the line exists; the column is not checked. -/
def offset (ix : LineIndex) (lc : LineCol) : Option Nat :=
  (ix.lineStart lc.line).map (· + lc.col)

/-- **Line and UTF-16 column of an offset**, or `none` past the end of the text or inside a
character. -/
def lineColUtf16 (ix : LineIndex) (o : Nat) : Option LineCol := do
  let lc ← ix.lineCol o
  let (before, _) ← splitAtByte (ix.lines[lc.line]?.getD []) lc.col
  pure ⟨lc.line, utf16Length before⟩

/-- **Byte length of the first `units` UTF-16 units** of a line, or `none` when that count
falls inside a character or past the end. -/
def bytesOfUnits : List Char → Nat → Option Nat
  | _, 0 => some 0
  | [], _ + 1 => none
  | c :: cs, n + 1 =>
    if utf16Len c ≤ n + 1 then (bytesOfUnits cs (n + 1 - utf16Len c)).map (· + c.utf8Size)
    else none

/-- **Offset of a line and UTF-16 column**, or `none` when the line does not exist, the column
lies past the end of the line, or it points between the two units of a surrogate pair. The end
of the line itself is allowed. -/
def offsetUtf16 (ix : LineIndex) (lc : LineCol) : Option Nat := do
  let start ← ix.lineStart lc.line
  let chars ← ix.lines[lc.line]?
  let n ← bytesOfUnits chars lc.col
  pure (start + n)

/-- **UTF-16 length of a line**, without its line feed, if the line exists. -/
def lineLenUtf16 (ix : LineIndex) (line : Nat) : Option Nat :=
  ix.lines[line]?.map utf16Length

end LineIndex

end StyleRebase
