import StyleRebase.Text.CharClass

/-! # Cutting character lists at byte offsets

Texts are held as character lists, positions as UTF-8 byte offsets. An offset is a **char
boundary** when it falls between two characters (or at either end); cutting anywhere else is
refused.

* **`splitAtByte cs n`** — the characters before and from byte `n`, when `n` is a boundary.
* **`sliceBytes cs lo hi`** — the characters of `[lo, hi)`, when both are boundaries and
  `lo ≤ hi`.
* `splitAtByte_append` — splitting `xs ++ ys` at the byte length of `xs` gives back `xs` and
  `ys`. -/

namespace StyleRebase

/-- **Split a character list at byte offset `n`**: the characters covering the first `n` bytes
and the rest, or `none` when `n` is past the end or inside a character. -/
def splitAtByte : List Char → Nat → Option (List Char × List Char)
  | cs, 0 => some ([], cs)
  | [], _ + 1 => none
  | c :: cs, n + 1 =>
    if c.utf8Size ≤ n + 1 then
      (splitAtByte cs (n + 1 - c.utf8Size)).map fun (a, b) => (c :: a, b)
    else none

/-- **The characters of the byte range `[lo, hi)`**, or `none` when the range is reversed,
runs past the end or cuts a character. -/
def sliceBytes (cs : List Char) (lo hi : Nat) : Option (List Char) := do
  let (_, rest) ← splitAtByte cs lo
  if lo ≤ hi then
    let (mid, _) ← splitAtByte rest (hi - lo)
    pure mid
  else none

theorem utf8Size_pos (c : Char) : 0 < c.utf8Size := by
  have := c.utf8Size_pos
  omega

/-- Splitting `xs ++ ys` at the byte length of `xs` gives back `xs` and `ys`. -/
theorem splitAtByte_append (xs ys : List Char) :
    splitAtByte (xs ++ ys) (utf8Length xs) = some (xs, ys) := by
  induction xs with
  | nil => simp [splitAtByte]
  | cons c cs ih =>
    have hc := utf8Size_pos c
    obtain ⟨k, hk⟩ : ∃ k, c.utf8Size + utf8Length cs = k + 1 := ⟨_, (Nat.succ_pred_eq_of_pos
      (Nat.lt_of_lt_of_le hc (Nat.le_add_right _ _))).symm⟩
    simp only [List.cons_append, utf8Length_cons, hk, splitAtByte]
    have h1 : c.utf8Size ≤ k + 1 := by omega
    have h2 : k + 1 - c.utf8Size = utf8Length cs := by omega
    simp [h1, h2, ih]

end StyleRebase
