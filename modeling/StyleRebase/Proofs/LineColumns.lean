import StyleRebase.Proofs.LinePositions
import StyleRebase.Proofs.SyntaxSpans

/-! # UTF-16 columns and byte offsets convert into each other

A `LineIndex` cuts its text at every line feed. Each line sits in the text after the text before
it, and starts at that text's byte length; a position inside a line is the line's start plus the
bytes of the part of the line before it. Both conversions read a line that way: `lineColUtf16`
finds the line by its start and counts the UTF-16 units of the part before the offset,
`offsetUtf16` walks the line until the units are spent and adds the bytes walked to the line's
start. So they undo each other, and each refuses exactly what has no counterpart: an offset
past the end or inside a character, and a column past the end of its line or between the two
units of a surrogate pair.

* **`splitAtByte_eq_some`**, **`bytesOfUnits_eq_some`**, **`bytesOfUnits_eq_none`** — what a
  cut at a byte offset or at a UTF-16 column of a line gives, and when it is refused.
* **`LineIndex.ofChars_line`** — a line of the index between the text before and after it.
* **`LineIndex.lineColUtf16_within`**, **`LineIndex.offsetUtf16_within`** — both conversions at
  a position inside a line.
* **`LineIndex.utf16_positions_inverse`** — the two conversions are inverse, and each fails
  exactly where it should. -/

namespace StyleRebase

/-! ## (1) Cuts of a line -/

theorem utf16Len_pos (c : Char) : 0 < utf16Len c := by
  unfold utf16Len
  split <;> omega

/-- **A cut at a byte offset** splits the list into a prefix of that many bytes and the rest. -/
theorem splitAtByte_eq_some {cs a b : List Char} {n : Nat} (h : splitAtByte cs n = some (a, b)) :
    cs = a ++ b ∧ utf8Length a = n := by
  induction cs generalizing n a b with
  | nil =>
    cases n with
    | zero =>
      simp only [splitAtByte, Option.some.injEq, Prod.mk.injEq] at h
      obtain ⟨rfl, rfl⟩ := h
      simp
    | succ n => simp [splitAtByte] at h
  | cons c cs ih =>
    cases n with
    | zero =>
      simp only [splitAtByte, Option.some.injEq, Prod.mk.injEq] at h
      obtain ⟨rfl, rfl⟩ := h
      simp
    | succ n =>
      rw [splitAtByte] at h
      split at h
      · obtain ⟨⟨a', b'⟩, hs, he⟩ := Option.map_eq_some_iff.mp h
        simp only [Prod.mk.injEq] at he
        obtain ⟨rfl, rfl⟩ := he
        obtain ⟨rfl, hlen⟩ := ih hs
        refine ⟨rfl, ?_⟩
        rw [utf8Length_cons]
        omega
      · cases h

/-- Of two prefixes of one text with as many bytes, each is the other. -/
theorem eq_of_prefix_of_utf8Length_eq {a b text : List Char} (ha : a <+: text) (hb : b <+: text)
    (h : utf8Length a = utf8Length b) : a = b := by
  have hab : a <+: b := prefix_of_utf8Length_le ha hb (Nat.le_of_eq h)
  have hba : b <+: a := prefix_of_utf8Length_le hb ha (Nat.le_of_eq h.symm)
  exact hab.eq_of_length (Nat.le_antisymm hab.length_le hba.length_le)

namespace LineIndex

/-- **A walk over the first `units` UTF-16 units** of a line stops between characters: the
bytes it walked are those of a prefix with that many units. -/
theorem bytesOfUnits_eq_some {line : List Char} {units n : Nat}
    (h : bytesOfUnits line units = some n) :
    ∃ p q, line = p ++ q ∧ utf16Length p = units ∧ utf8Length p = n := by
  induction line generalizing units n with
  | nil =>
    cases units with
    | zero =>
      simp only [bytesOfUnits, Option.some.injEq] at h
      exact ⟨[], [], rfl, rfl, h⟩
    | succ u => simp [bytesOfUnits] at h
  | cons c cs ih =>
    cases units with
    | zero =>
      simp only [bytesOfUnits, Option.some.injEq] at h
      exact ⟨[], c :: cs, rfl, rfl, h⟩
    | succ u =>
      rw [bytesOfUnits] at h
      split at h
      · obtain ⟨m, hm, rfl⟩ := Option.map_eq_some_iff.mp h
        obtain ⟨p, q, rfl, hunits, hbytes⟩ := ih hm
        refine ⟨c :: p, q, rfl, ?_, ?_⟩
        · rw [utf16Length_cons]
          omega
        · rw [utf8Length_cons]
          omega
      · cases h

/-- **A walk over the units of a prefix** stops right after it. -/
theorem bytesOfUnits_append (p q : List Char) :
    bytesOfUnits (p ++ q) (utf16Length p) = some (utf8Length p) := by
  induction p with
  | nil => cases q <;> rfl
  | cons c p ih =>
    obtain ⟨k, hk⟩ : ∃ k, utf16Length (c :: p) = k + 1 :=
      ⟨utf16Length (c :: p) - 1, by have := utf16Len_pos c; simp only [utf16Length_cons]; omega⟩
    have hfits : utf16Len c ≤ k + 1 := by rw [← hk, utf16Length_cons]; omega
    have hrest : k + 1 - utf16Len c = utf16Length p := by rw [← hk, utf16Length_cons]; omega
    rw [List.cons_append, hk, bytesOfUnits, if_pos hfits, hrest, ih]
    simp [Nat.add_comm]

/-- **A UTF-16 column between the two units of a surrogate pair** of a line: just after the first
unit of a character that takes two. -/
def SplitsPair (line : List Char) (col : Nat) : Prop :=
  ∃ pre c post, line = pre ++ c :: post ∧ utf16Len c = 2 ∧ col = utf16Length pre + 1

theorem SplitsPair.pos {line : List Char} {col : Nat} (h : SplitsPair line col) : 0 < col := by
  obtain ⟨pre, c, post, -, -, rfl⟩ := h
  omega

/-- A column splits a pair of `c :: cs` in `c` itself, or in `cs`, counted after `c`. -/
theorem splitsPair_cons {c : Char} {cs : List Char} {col : Nat} :
    SplitsPair (c :: cs) col ↔
      (utf16Len c = 2 ∧ col = 1) ∨ (utf16Len c < col ∧ SplitsPair cs (col - utf16Len c)) := by
  constructor
  · rintro ⟨_ | ⟨d, pre⟩, e, post, hline, he, rfl⟩
    · simp only [List.nil_append, List.cons.injEq] at hline
      obtain ⟨rfl, rfl⟩ := hline
      exact .inl ⟨he, rfl⟩
    · simp only [List.cons_append, List.cons.injEq] at hline
      obtain ⟨rfl, rfl⟩ := hline
      refine .inr ⟨by rw [utf16Length_cons]; omega, pre, e, post, rfl, he, ?_⟩
      rw [utf16Length_cons]
      omega
  · rintro (⟨he, rfl⟩ | ⟨hlt, pre, e, post, rfl, he, hcol⟩)
    · exact ⟨[], c, cs, rfl, he, rfl⟩
    · exact ⟨c :: pre, e, post, rfl, he, by rw [utf16Length_cons]; omega⟩

/-- **A walk over a line's UTF-16 units is refused** exactly when the column lies past the end of
the line or between the two units of a surrogate pair. -/
theorem bytesOfUnits_eq_none {line : List Char} {units : Nat} :
    bytesOfUnits line units = none ↔ utf16Length line < units ∨ SplitsPair line units := by
  induction line generalizing units with
  | nil =>
    cases units with
    | zero =>
      simp only [bytesOfUnits, reduceCtorEq, utf16Length_nil, Nat.lt_irrefl, false_or, false_iff]
      rintro ⟨pre, c, post, h, -, -⟩
      simp at h
    | succ u => simp [bytesOfUnits]
  | cons c cs ih =>
    cases units with
    | zero =>
      simp only [bytesOfUnits, reduceCtorEq, Nat.not_lt_zero, false_or, false_iff]
      intro h
      exact absurd h.pos (Nat.lt_irrefl 0)
    | succ u =>
      rw [bytesOfUnits, splitsPair_cons, utf16Length_cons]
      split
      · -- the first character fits: the walk goes on in the rest of the line
        rename_i hfits
        rw [Option.map_eq_none_iff, ih]
        constructor
        · rintro (h | h)
          · exact .inl (by omega)
          · exact .inr (.inr ⟨by have := h.pos; omega, h⟩)
        · rintro (h | ⟨h2, h1⟩ | ⟨-, h⟩)
          · exact .inl (by omega)
          · omega
          · exact .inr h
      · -- the first character is a surrogate pair and the column stops inside it
        rename_i hbig
        have h2 : utf16Len c = 2 := by unfold utf16Len at hbig ⊢; split <;> simp_all
        simp only [true_iff]
        exact .inr (.inl ⟨h2, by omega⟩)

/-! ## (2) Lines in their text -/

@[simp] theorem length_startsFrom (b : Nat) :
    ∀ ls : List (List Char), (startsFrom b ls).length = ls.length
  | [] => rfl
  | _ :: ls => by rw [startsFrom, List.length_cons, length_startsFrom _ ls, List.length_cons]

/-- **Where a line sits in the text joined from the lines**: after the text before it, which is
as long in bytes as the line's start lies past `b`; only the last line has nothing after it, and
after any other comes a line feed. -/
theorem intercalate_at (b : Nat) : ∀ (ls : List (List Char)) (l : Nat) (line : List Char),
    ls[l]? = some line →
    ∃ before after, ['\n'].intercalate ls = before ++ line ++ after ∧
      (startsFrom b ls)[l]? = some (b + utf8Length before) ∧ (l + 1 = ls.length → after = []) ∧
      (after = [] ∨ after.head? = some '\n')
  | [], _, _, h => by simp at h
  | [x], 0, line, h => by
    obtain rfl : x = line := by simpa using h
    exact ⟨[], [], by simp, by simp [startsFrom], fun _ => rfl, .inl rfl⟩
  | x :: y :: ys, 0, line, h => by
    obtain rfl : x = line := by simpa using h
    refine ⟨[], '\n' :: ['\n'].intercalate (y :: ys), ?_, by simp [startsFrom], ?_, .inr rfl⟩
    · rw [List.intercalate_cons_cons]
      simp
    · simp
  | [_], l + 1, _, h => by simp at h
  | x :: y :: ys, l + 1, line, h => by
    rw [List.getElem?_cons_succ] at h
    obtain ⟨before, after, hjoin, hstart, hlast, hfeed⟩ :=
      intercalate_at (b + utf8Length x + 1) _ l line h
    refine ⟨x ++ '\n' :: before, after, ?_, ?_, ?_, hfeed⟩
    · rw [List.intercalate_cons_cons, hjoin]
      simp
    · rw [startsFrom, List.getElem?_cons_succ, hstart]
      have : '\n'.utf8Size = 1 := rfl
      simp only [utf8Length_append, utf8Length_cons, this, Option.some.injEq]
      omega
    · intro hl
      exact hlast (by simp only [List.length_cons] at hl ⊢; omega)

/-- The next line starts one byte after the end of a line. -/
theorem startsFrom_succ : ∀ (b : Nat) (ls : List (List Char)) (l s : Nat) (line : List Char),
    ls[l]? = some line → (startsFrom b ls)[l]? = some s → l + 1 < ls.length →
    (startsFrom b ls)[l + 1]? = some (s + utf8Length line + 1)
  | _, [], _, _, _, h, _, _ => by simp at h
  | b, x :: xs, 0, s, line, h, hs, hl => by
    obtain rfl : x = line := by simpa using h
    obtain rfl : b = s := by simpa [startsFrom] using hs
    cases xs with
    | nil => simp at hl
    | cons y ys => simp [startsFrom]
  | b, x :: xs, l + 1, s, line, h, hs, hl => by
    rw [startsFrom, List.getElem?_cons_succ] at hs ⊢
    rw [List.getElem?_cons_succ] at h
    exact startsFrom_succ _ xs l s line h hs (by simpa using hl)

theorem ofChars_lines (cs : List Char) : (ofChars cs).lines = (cs.splitOn '\n').toArray :=
  rfl

theorem ofChars_starts (cs : List Char) :
    (ofChars cs).starts = (startsFrom 0 (cs.splitOn '\n')).toArray := rfl

theorem ofChars_size (cs : List Char) : (ofChars cs).size = utf8Length cs := rfl

/-- The index has as many line starts as lines. -/
theorem lineCount_ofChars (cs : List Char) : (ofChars cs).lineCount = (ofChars cs).lines.size := by
  simp [lineCount, ofChars_starts, ofChars_lines]

/-- **A line of the index in its text**: the text is the text before the line, the line, and the
text after it; the line starts at the byte length of the text before it and ends, before its
line feed, after the bytes of the line; what follows it is nothing or a line feed. -/
theorem ofChars_line {cs line : List Char} {l : Nat} (h : (ofChars cs).lines[l]? = some line) :
    ∃ before after, cs = before ++ line ++ after ∧
      (ofChars cs).lineStart l = some (utf8Length before) ∧
      (ofChars cs).lineEnd l = some (utf8Length before + utf8Length line) ∧
      (after = [] ∨ after.head? = some '\n') := by
  rw [ofChars_lines, List.getElem?_toArray] at h
  obtain ⟨before, after, hjoin, hstart, hlast, hfeed⟩ := intercalate_at 0 _ l line h
  rw [List.intercalate_splitOn] at hjoin
  rw [Nat.zero_add] at hstart
  have hl : l < (cs.splitOn '\n').length := (List.getElem?_eq_some_iff.mp h).1
  refine ⟨before, after, hjoin, by simp [lineStart, ofChars_starts, hstart], ?_, hfeed⟩
  have hcount : l < (ofChars cs).lineCount := by simpa [lineCount, ofChars_starts] using hl
  rw [lineEnd, if_pos hcount, ofChars_starts, List.getElem?_toArray]
  by_cases hnext : l + 1 < (cs.splitOn '\n').length
  · rw [startsFrom_succ 0 _ l _ line h hstart hnext]
    simp
  · -- the last line runs to the end of the text
    have hend : (startsFrom 0 (cs.splitOn '\n'))[l + 1]? = none := by simp; omega
    obtain rfl := hlast (by omega)
    rw [hend]
    simp [hjoin, ofChars_size]

/-- **A line of the index at its start**: the text before the line is as many bytes long as the
line's start. -/
theorem ofChars_line_start {cs line : List Char} {l s : Nat}
    (h : (ofChars cs).lines[l]? = some line) (hs : (ofChars cs).lineStart l = some s) :
    ∃ before after, cs = before ++ line ++ after ∧ utf8Length before = s ∧
      (ofChars cs).lineEnd l = some (s + utf8Length line) ∧
      (after = [] ∨ after.head? = some '\n') := by
  obtain ⟨before, after, htext, hs', hend, hfeed⟩ := ofChars_line h
  obtain rfl : s = utf8Length before := Option.some.inj (hs.symm.trans hs')
  exact ⟨before, after, htext, rfl, hend, hfeed⟩

/-- Of the pieces a list is split into, none holds a separator. -/
theorem forall_mem_splitOnP {α : Type} (p : α → Bool) :
    ∀ (xs : List α), ∀ piece ∈ xs.splitOnP p, ∀ x ∈ piece, p x = false
  | [] => by simp
  | x :: xs => by
    intro piece hpiece y hy
    rw [List.splitOnP_cons_eq_if_modifyHead] at hpiece
    split at hpiece
    · rcases List.mem_cons.mp hpiece with rfl | hpiece
      · cases hy
      · exact forall_mem_splitOnP p xs piece hpiece y hy
    · -- `x` joins the first piece of the rest
      rename_i hx
      obtain ⟨first, rest, hsplit⟩ := List.exists_cons_of_ne_nil (List.splitOnP_ne_nil p xs)
      rw [hsplit, List.modifyHead_cons] at hpiece
      have hrest := forall_mem_splitOnP p xs
      rw [hsplit] at hrest
      rcases List.mem_cons.mp hpiece with rfl | hpiece
      · rcases List.mem_cons.mp hy with rfl | hy
        · simpa using hx
        · exact hrest first List.mem_cons_self y hy
      · exact hrest piece (List.mem_cons_of_mem first hpiece) y hy

/-- **No line of the index holds a line feed.** -/
theorem newline_not_mem_line {cs line : List Char} {l : Nat}
    (h : (ofChars cs).lines[l]? = some line) : '\n' ∉ line := by
  rw [ofChars_lines, List.getElem?_toArray] at h
  intro hmem
  have := forall_mem_splitOnP (· == '\n') cs line (List.mem_of_getElem? h) '\n' hmem
  simp at this

/-! ## (3) Positions inside a line -/

/-- Of the lines starting from `b`, those starting at or before a position inside line `l` are
the first `l + 1`. -/
theorem filter_startsFrom_within : ∀ (b : Nat) (ls : List (List Char)) (l s k : Nat)
    (line : List Char), ls[l]? = some line → (startsFrom b ls)[l]? = some s →
    k ≤ utf8Length line → ((startsFrom b ls).filter (· ≤ s + k)).length = l + 1
  | _, [], _, _, _, _, h, _, _ => by simp at h
  | b, x :: xs, 0, s, k, line, h, hs, hk => by
    obtain rfl : x = line := by simpa using h
    obtain rfl : b = s := by simpa [startsFrom] using hs
    rw [filter_startsFrom_first (Nat.le_add_right b k) (by omega)]
    rfl
  | b, x :: xs, l + 1, s, k, line, h, hs, hk => by
    rw [startsFrom, List.getElem?_cons_succ] at hs
    rw [List.getElem?_cons_succ] at h
    have hb : b + utf8Length x + 1 ≤ s := le_of_mem_startsFrom (List.mem_of_getElem? hs)
    rw [startsFrom, List.filter_cons_of_pos (by simp only [decide_eq_true_eq]; omega),
      List.length_cons, filter_startsFrom_within _ xs l s k line h hs hk]

/-- The last line starting at or before an offset: the `k`-th, when `k + 1` lines do. -/
theorem filter_startsFrom_last : ∀ (b : Nat) (ls : List (List Char)) (o k : Nat),
    ((startsFrom b ls).filter (· ≤ o)).length = k + 1 →
    ∃ s, (startsFrom b ls)[k]? = some s ∧ s ≤ o
  | _, [], _, _, h => by simp [startsFrom] at h
  | b, x :: xs, o, k, h => by
    rw [startsFrom] at h ⊢
    by_cases hb : b ≤ o
    · rw [List.filter_cons_of_pos (by simpa using hb), List.length_cons] at h
      cases k with
      | zero => exact ⟨b, rfl, hb⟩
      | succ k =>
        rw [List.getElem?_cons_succ]
        exact filter_startsFrom_last _ xs o k (by omega)
    · -- no later line starts at or before `o` either
      rw [List.filter_cons_of_neg (by simpa using hb), List.filter_eq_nil_iff.mpr] at h
      · simp at h
      · intro y hy
        have := le_of_mem_startsFrom hy
        simp only [decide_eq_true_eq]
        omega

/-- **The line and byte column of a position inside a line.** -/
theorem lineCol_within {cs line : List Char} {l s k : Nat}
    (hline : (ofChars cs).lines[l]? = some line) (hs : (ofChars cs).lineStart l = some s)
    (hk : k ≤ utf8Length line) : (ofChars cs).lineCol (s + k) = some ⟨l, k⟩ := by
  obtain ⟨before, after, htext, rfl, -⟩ := ofChars_line_start hline hs
  have hsize : ¬utf8Length before + k > (ofChars cs).size := by
    rw [ofChars_size, htext]
    simp only [utf8Length_append]
    omega
  rw [ofChars_lines, List.getElem?_toArray] at hline
  have hs0 : (startsFrom 0 (cs.splitOn '\n'))[l]? = some (utf8Length before) := by
    simpa [lineStart, ofChars_starts] using hs
  have hcount := filter_startsFrom_within 0 _ l _ k line hline hs0 hk
  simp only [lineCol, if_neg hsize, ofChars_starts, List.toList_toArray, hcount,
    Nat.add_sub_cancel, List.getElem?_toArray, hs0, Option.getD_some, Nat.add_sub_cancel_left]

/-- **The line and UTF-16 column of a boundary inside a line**: the units of the part before it. -/
theorem lineColUtf16_within {cs line p q : List Char} {l s : Nat}
    (hline : (ofChars cs).lines[l]? = some line) (hs : (ofChars cs).lineStart l = some s)
    (hpq : line = p ++ q) :
    (ofChars cs).lineColUtf16 (s + utf8Length p) = some ⟨l, utf16Length p⟩ := by
  have hk : utf8Length p ≤ utf8Length line := by rw [hpq, utf8Length_append]; omega
  rw [lineColUtf16, lineCol_within hline hs hk]
  simp [hline, hpq, splitAtByte_append]

/-- **The offset of a UTF-16 column inside a line**: the line's start and the bytes of the part
before the column. -/
theorem offsetUtf16_within {cs line p q : List Char} {l s : Nat}
    (hline : (ofChars cs).lines[l]? = some line) (hs : (ofChars cs).lineStart l = some s)
    (hpq : line = p ++ q) : (ofChars cs).offsetUtf16 ⟨l, utf16Length p⟩ = some (s + utf8Length p) := by
  simp [offsetUtf16, hs, hline, hpq, bytesOfUnits_append]

/-- **Every character boundary lies inside a line**, at a boundary of the line. -/
theorem boundary_within {cs : List Char} {o : Nat} (h : Css.Boundary cs o) :
    ∃ l s line p q, (ofChars cs).lines[l]? = some line ∧ (ofChars cs).lineStart l = some s ∧
      line = p ++ q ∧ o = s + utf8Length p := by
  obtain ⟨pre, rest, htext, rfl⟩ := h
  obtain ⟨j, p, q, -, hline, hstart⟩ := startsFrom_line 0 (cs.splitOn '\n') pre rest
    (List.splitOn_ne_nil _ _) (by rw [List.intercalate_splitOn, htext])
  have hj : j < (startsFrom 0 (cs.splitOn '\n')).length := by
    rw [length_startsFrom]
    exact (List.getElem?_eq_some_iff.mp hline).1
  obtain ⟨s, hs⟩ : ∃ s, (startsFrom 0 (cs.splitOn '\n'))[j]? = some s :=
    ⟨_, List.getElem?_eq_getElem hj⟩
  rw [hs, Option.getD_some] at hstart
  exact ⟨j, s, p ++ q, p, q, by simpa [ofChars_lines] using hline,
    by simpa [lineStart, ofChars_starts] using hs, rfl, by omega⟩

/-- **A position inside a line is a character boundary of the text.** -/
theorem boundary_of_within {cs line p q : List Char} {l s : Nat}
    (hline : (ofChars cs).lines[l]? = some line) (hs : (ofChars cs).lineStart l = some s)
    (hpq : line = p ++ q) : Css.Boundary cs (s + utf8Length p) := by
  obtain ⟨before, after, htext, rfl, -⟩ := ofChars_line_start hline hs
  exact ⟨before ++ p, q ++ after, by rw [htext, hpq]; simp, by rw [utf8Length_append]⟩

/-- **What a UTF-16 position read off an offset says**: the offset lies inside the line, at the
boundary after a part with that many units. -/
theorem lineColUtf16_eq_some {cs : List Char} {o : Nat} {lc : LineCol}
    (h : (ofChars cs).lineColUtf16 o = some lc) :
    ∃ s line p q, (ofChars cs).lines[lc.line]? = some line ∧ (ofChars cs).lineStart lc.line = some s ∧
      line = p ++ q ∧ o = s + utf8Length p ∧ lc.col = utf16Length p := by
  simp only [lineColUtf16, lineCol, Option.bind_eq_bind] at h
  split at h
  · cases h
  rename_i hsize
  -- the first line starts at 0, so some line starts at or before `o`
  obtain ⟨k, hk⟩ : ∃ k, ((startsFrom 0 (cs.splitOn '\n')).filter (· ≤ o)).length = k + 1 := by
    obtain ⟨x, xs, hls⟩ := List.exists_cons_of_ne_nil (List.splitOn_ne_nil '\n' cs)
    rw [hls, startsFrom, List.filter_cons_of_pos (by simp)]
    exact ⟨_, List.length_cons⟩
  obtain ⟨s, hs, hso⟩ := filter_startsFrom_last 0 _ o k hk
  have hkl : k < (cs.splitOn '\n').length := by
    rw [← length_startsFrom 0]
    exact (List.getElem?_eq_some_iff.mp hs).1
  obtain ⟨line, hline⟩ : ∃ line, (cs.splitOn '\n')[k]? = some line :=
    ⟨_, List.getElem?_eq_getElem hkl⟩
  simp only [ofChars_starts, List.toList_toArray, hk, Nat.add_sub_cancel, List.getElem?_toArray,
    hs, Option.getD_some, ofChars_lines, hline, Option.bind_some] at h
  obtain ⟨⟨p, q⟩, hsplit, hlc⟩ := Option.bind_eq_some_iff.mp h
  obtain ⟨rfl, hp⟩ := splitAtByte_eq_some hsplit
  simp only [Option.pure_def, Option.some.injEq] at hlc
  subst hlc
  exact ⟨s, p ++ q, p, q, by simpa [ofChars_lines] using hline,
    by simpa [lineStart, ofChars_starts] using hs, rfl, by omega, rfl⟩

/-- **The end of a line has the line's length as its column**: a boundary followed by a line
feed, or at the end of the text, ends its line. -/
theorem lineColUtf16_line_end {cs a b : List Char} (hab : cs = a ++ b)
    (hb : b = [] ∨ b.head? = some '\n') :
    ∃ l line, (ofChars cs).lines[l]? = some line ∧
      (ofChars cs).lineColUtf16 (utf8Length a) = some ⟨l, utf16Length line⟩ := by
  obtain ⟨l, s, line, p, q, hline, hs, hpq, ho⟩ := boundary_within ⟨a, b, hab, rfl⟩
  obtain ⟨before, after, htext, rfl, -⟩ := ofChars_line_start hline hs
  -- the text up to the boundary is the text before the line and `p`, so `b` is `q` and the rest
  have ha : a = before ++ p :=
    eq_of_prefix_of_utf8Length_eq ⟨b, hab.symm⟩ ⟨q ++ after, by rw [htext, hpq]; simp⟩
      (by rw [utf8Length_append]; omega)
  have hb' : b = q ++ after := by
    have h := hab.symm.trans htext
    rw [ha, hpq] at h
    simpa using h
  -- a line holds no line feed, so the boundary is the line's end
  have hq : q = [] := by
    cases q with
    | nil => rfl
    | cons c q =>
      have hc : c = '\n' := by
        rcases hb with hb | hb <;> rw [hb'] at hb
        · cases hb
        · simpa using hb
      exact absurd (by rw [hpq, hc]; simp) (newline_not_mem_line hline)
  subst hq
  rw [List.append_nil] at hpq
  subst hpq
  exact ⟨l, line, hline, by rw [ho]; exact lineColUtf16_within hline hs (List.append_nil line).symm⟩

/-- **The offset of a column of an existing line**: the line's start and the bytes walked over
the line, when the walk succeeds. -/
theorem offsetUtf16_of_line {ix : LineIndex} {lc : LineCol} {s : Nat} {line : List Char}
    (hs : ix.lineStart lc.line = some s) (hline : ix.lines[lc.line]? = some line) :
    ix.offsetUtf16 lc = (bytesOfUnits line lc.col).map (s + ·) := by
  simp only [offsetUtf16, hs, hline, Option.bind_eq_bind, Option.bind_some]
  cases bytesOfUnits line lc.col <;> rfl

/-! ## (4) The two conversions are inverse -/

/-- **UTF-16 line/column conversions are mutually inverse.** For every text, cut into lines at
line feeds: every character boundary has a line and UTF-16 column, which converts back to it;
every line and column that converts to an offset is that offset's line and column; a line and
column is refused exactly when the line does not exist, the column lies past the end of the line,
or it falls between the two units of a surrogate pair; and an offset is refused exactly when it
lies past the end of the text or inside a character. -/
theorem utf16_positions_inverse (cs : List Char) :
    (∀ o, Css.Boundary cs o →
      ∃ lc, (ofChars cs).lineColUtf16 o = some lc ∧ (ofChars cs).offsetUtf16 lc = some o) ∧
    (∀ lc o, (ofChars cs).offsetUtf16 lc = some o → (ofChars cs).lineColUtf16 o = some lc) ∧
    (∀ lc, (ofChars cs).offsetUtf16 lc = none ↔
      (ofChars cs).lineCount ≤ lc.line ∨
      (∃ len, (ofChars cs).lineLenUtf16 lc.line = some len ∧ len < lc.col) ∨
      ∃ line, (ofChars cs).lines[lc.line]? = some line ∧ SplitsPair line lc.col) ∧
    (∀ o, (ofChars cs).lineColUtf16 o = none ↔ utf8Length cs < o ∨ ¬Css.Boundary cs o) := by
  refine ⟨fun o ho => ?_, fun lc o h => ?_, fun lc => ?_, fun o => ?_⟩
  · obtain ⟨l, s, line, p, q, hline, hs, hpq, rfl⟩ := boundary_within ho
    exact ⟨_, lineColUtf16_within hline hs hpq, offsetUtf16_within hline hs hpq⟩
  · obtain ⟨l, c⟩ := lc
    simp only [offsetUtf16, Option.bind_eq_bind, Option.bind_eq_some_iff, Option.pure_def,
      Option.some.injEq] at h
    obtain ⟨s, hs, line, hline, n, hn, rfl⟩ := h
    obtain ⟨p, q, hpq, rfl, rfl⟩ := bytesOfUnits_eq_some hn
    exact lineColUtf16_within hline hs hpq
  · by_cases hl : lc.line < (ofChars cs).lineCount
    · -- the line exists: the walk over it decides
      obtain ⟨line, hline⟩ : ∃ line, (ofChars cs).lines[lc.line]? = some line :=
        ⟨_, Array.getElem?_eq_getElem (by rw [← lineCount_ofChars]; exact hl)⟩
      obtain ⟨s, hs⟩ : ∃ s, (ofChars cs).lineStart lc.line = some s :=
        ⟨_, Array.getElem?_eq_getElem hl⟩
      have hlen : (ofChars cs).lineLenUtf16 lc.line = some (utf16Length line) := by
        simp [lineLenUtf16, hline]
      rw [offsetUtf16_of_line hs hline, Option.map_eq_none_iff, bytesOfUnits_eq_none, hlen]
      simp [hline, Nat.not_le.mpr hl]
    · have hnone : (ofChars cs).lineStart lc.line = none :=
        Array.getElem?_eq_none (by simpa [lineCount] using hl)
      simp [offsetUtf16, hnone, Nat.not_lt.mp hl]
  · constructor
    · intro h
      by_contra hin
      rw [not_or, Nat.not_lt, Classical.not_not] at hin
      obtain ⟨l, s, line, p, q, hline, hs, hpq, rfl⟩ := boundary_within hin.2
      rw [lineColUtf16_within hline hs hpq] at h
      cases h
    · intro h
      cases hsome : (ofChars cs).lineColUtf16 o with
      | none => rfl
      | some lc =>
        obtain ⟨s, line, p, q, hline, hs, hpq, ho, -⟩ := lineColUtf16_eq_some hsome
        have hb : Css.Boundary cs o := ho ▸ boundary_of_within hline hs hpq
        rcases h with h | h
        · exact absurd hb.le_length (by omega)
        · exact absurd hb h

end LineIndex

end StyleRebase
