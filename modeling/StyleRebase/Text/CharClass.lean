/-! # Character classes

The classes of characters that the stylesheet syntax, path handling and trimming look at.

* **`isCssSpace`**, **`isCssNewline`** — the five whitespace characters of CSS and
  the three that end a line inside a string.
* **`isWhiteSpace`** — the Unicode `White_Space` property (25 code points), which is what
  trimming of raw references uses.
* **`isControlChar`** — general category `Cc`: U+0000–U+001F and U+007F–U+009F.
* **`utf16Len`** — how many UTF-16 code units a character takes (1 or 2).
* `isWhiteSpace_of_isCssSpace` — every CSS whitespace character is Unicode white space. -/

namespace StyleRebase

/-- **CSS whitespace**: space, tab, carriage return, line feed and form feed. -/
def isCssSpace (c : Char) : Bool :=
  c == ' ' || c == '\t' || c == '\r' || c == '\n' || c == '\x0c'

/-- **CSS newline characters**: carriage return, line feed and form feed. An escape may not be
followed by one, and a string may not contain one unescaped. -/
def isCssNewline (c : Char) : Bool :=
  c == '\r' || c == '\n' || c == '\x0c'

/-- **Unicode `White_Space`**: U+0009–U+000D, U+0020, U+0085, U+00A0, U+1680, U+2000–U+200A,
U+2028, U+2029, U+202F, U+205F and U+3000. -/
def isWhiteSpace (c : Char) : Bool :=
  let n := c.toNat
  (0x09 ≤ n && n ≤ 0x0D) || n == 0x20 || n == 0x85 || n == 0xA0 || n == 0x1680 ||
    (0x2000 ≤ n && n ≤ 0x200A) || n == 0x2028 || n == 0x2029 || n == 0x202F ||
    n == 0x205F || n == 0x3000

/-- **Control characters** (general category `Cc`): U+0000–U+001F and U+007F–U+009F. -/
def isControlChar (c : Char) : Bool :=
  let n := c.toNat
  n ≤ 0x1F || (0x7F ≤ n && n ≤ 0x9F)

/-- **UTF-16 length** of a character: two code units above the Basic Multilingual Plane. -/
def utf16Len (c : Char) : Nat := if c.toNat < 0x10000 then 1 else 2

/-- **UTF-16 length** of a character list. -/
def utf16Length : List Char → Nat
  | [] => 0
  | c :: cs => utf16Len c + utf16Length cs

/-- **UTF-8 length in bytes** of a character list. -/
def utf8Length : List Char → Nat
  | [] => 0
  | c :: cs => c.utf8Size + utf8Length cs

@[simp] theorem utf8Length_nil : utf8Length [] = 0 := rfl

@[simp] theorem utf8Length_cons (c : Char) (cs : List Char) :
    utf8Length (c :: cs) = c.utf8Size + utf8Length cs := rfl

@[simp] theorem utf8Length_append (xs ys : List Char) :
    utf8Length (xs ++ ys) = utf8Length xs + utf8Length ys := by
  induction xs with
  | nil => simp
  | cons c cs ih => simp [ih, Nat.add_assoc]

@[simp] theorem utf16Length_nil : utf16Length [] = 0 := rfl

@[simp] theorem utf16Length_cons (c : Char) (cs : List Char) :
    utf16Length (c :: cs) = utf16Len c + utf16Length cs := rfl

@[simp] theorem utf16Length_append (xs ys : List Char) :
    utf16Length (xs ++ ys) = utf16Length xs + utf16Length ys := by
  induction xs with
  | nil => simp
  | cons c cs ih => simp [ih, Nat.add_assoc]

/-- Every CSS whitespace character is Unicode white space. -/
theorem isWhiteSpace_of_isCssSpace (c : Char) (h : isCssSpace c = true) :
    isWhiteSpace c = true := by
  simp only [isCssSpace, Bool.or_eq_true, beq_iff_eq] at h
  rcases h with (((h | h) | h) | h) | h <;> subst h <;> decide

end StyleRebase
