import StyleRebase.Text.CharClass

/-! # Trimming, prefixes and case-blind comparison of character lists

* **`trimStartBy p`**, **`trimEndBy p`**, **`trimBy p`** — drop the characters satisfying `p`
  from the front, the back or both ends.
* **`trimWhite`** — trimming by Unicode `White_Space`.
* **`dropPrefix? pre cs`** — the rest of `cs` after `pre`, when `cs` starts with it.
* **`eqIgnoreAsciiCase`** — equality up to the case of ASCII letters (other characters must
  match exactly).
* **`firstWord`** — the first maximal run of non-white-space characters. -/

namespace StyleRebase

/-- **Drop leading characters** that satisfy `p`. -/
def trimStartBy (p : Char → Bool) (cs : List Char) : List Char := cs.dropWhile p

/-- **Drop trailing characters** that satisfy `p`. -/
def trimEndBy (p : Char → Bool) (cs : List Char) : List Char := (cs.reverse.dropWhile p).reverse

/-- **Drop leading and trailing characters** that satisfy `p`. -/
def trimBy (p : Char → Bool) (cs : List Char) : List Char := trimEndBy p (trimStartBy p cs)

/-- **Trim Unicode white space** from both ends. -/
def trimWhite (cs : List Char) : List Char := trimBy isWhiteSpace cs

/-- **The rest after a prefix**, when the list starts with it. -/
def dropPrefix? : List Char → List Char → Option (List Char)
  | [], cs => some cs
  | _ :: _, [] => none
  | p :: ps, c :: cs => if p == c then dropPrefix? ps cs else none

/-- **Equality up to ASCII case**: same length, and each pair of characters equal once ASCII
letters are lowered. -/
def eqIgnoreAsciiCase (a b : List Char) : Bool :=
  a.length == b.length && (a.zip b).all fun (x, y) => x.toLower == y.toLower

/-- **The first word**: skip white space, then take the characters up to the next white space;
`none` when nothing but white space is left. -/
def firstWord (cs : List Char) : Option (List Char) :=
  match cs.dropWhile isWhiteSpace with
  | [] => none
  | rest => some (rest.takeWhile fun c => !isWhiteSpace c)

@[simp] theorem dropPrefix?_append (pre cs : List Char) : dropPrefix? pre (pre ++ cs) = some cs := by
  induction pre with
  | nil => rfl
  | cons p ps ih => simp [dropPrefix?, ih]

end StyleRebase
