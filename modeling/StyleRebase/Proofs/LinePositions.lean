import StyleRebase.Text.LineIndex

/-! # Every character boundary has a line and column

A `LineIndex` finds the line of a byte offset by counting the line starts at or before it, and
the UTF-16 column by cutting that line at the offset. At every boundary between characters of
the text both succeed: the offset falls in the last line starting at or before it, at a boundary
between that line's characters.

* **`LineIndex.startsFrom_line`** — in a text joined from lines, the line of an offset and the
  part of it before the offset.
* **`LineIndex.lineColUtf16_isSome`** — every character boundary of a text has a line and a
  UTF-16 column. -/

namespace StyleRebase.LineIndex

/-- Every line starts at or after the first. -/
theorem le_of_mem_startsFrom : ∀ {b x : Nat} {ls : List (List Char)}, x ∈ startsFrom b ls → b ≤ x
  | _, _, [], h => by simp [startsFrom] at h
  | b, x, l :: ls, h => by
    rw [startsFrom, List.mem_cons] at h
    rcases h with rfl | h
    · exact Nat.le_refl _
    · have := le_of_mem_startsFrom h
      omega

/-- An offset within the first line: only that line starts at or before it. -/
theorem filter_startsFrom_first {b o : Nat} {l : List Char} {ls : List (List Char)}
    (hb : b ≤ o) (ho : o < b + utf8Length l + 1) :
    (startsFrom b (l :: ls)).filter (· ≤ o) = [b] := by
  rw [startsFrom, List.filter_cons_of_pos (by simpa using hb), List.filter_eq_nil_iff.mpr]
  intro x hx
  have := le_of_mem_startsFrom hx
  simp only [decide_eq_true_eq]
  omega

/-- **The line of an offset** in a text joined from lines at line feeds: of the lines starting at
or before the offset, the last is the `j`-th, and it begins with the part `p` of the text between
its start and the offset. The induction runs over the lines; an offset past the first line feed
falls in the text joined from the other lines. -/
theorem startsFrom_line (b : Nat) : ∀ (ls : List (List Char)) (pre rest : List Char), ls ≠ [] →
    ['\n'].intercalate ls = pre ++ rest →
    ∃ j p q, ((startsFrom b ls).filter (· ≤ b + utf8Length pre)).length = j + 1 ∧
      ls[j]? = some (p ++ q) ∧ ((startsFrom b ls)[j]?).getD 0 + utf8Length p = b + utf8Length pre
  | [], _, _, h, _ => absurd rfl h
  | [l], pre, rest, _, h => by
    -- the last line holds the rest of the text
    have hl : l = pre ++ rest := by simpa using h
    have ho : b + utf8Length pre < b + utf8Length l + 1 := by
      rw [hl, utf8Length_append]
      omega
    refine ⟨0, pre, rest, ?_, by rw [hl]; rfl, rfl⟩
    rw [filter_startsFrom_first (Nat.le_add_right b _) ho]
    rfl
  | l :: l' :: ls, pre, rest, _, h => by
    rw [List.intercalate_cons_cons, List.append_assoc] at h
    rcases List.append_eq_append_iff.mp h with ⟨as, hpre, has⟩ | ⟨bs, hl, -⟩
    · rcases as with _ | ⟨a, as⟩
      · -- the offset is the end of the first line
        rw [List.append_nil] at hpre
        rw [hpre]
        refine ⟨0, l, [], ?_, by rw [List.append_nil]; rfl, rfl⟩
        rw [filter_startsFrom_first (Nat.le_add_right b _) (by omega)]
        rfl
      · -- the offset lies past the first line feed
        simp only [List.cons_append, List.cons.injEq] at has
        obtain ⟨rfl, has⟩ := has
        obtain ⟨j, p, q, hlen, hline, hstart⟩ :=
          startsFrom_line (b + utf8Length l + 1) (l' :: ls) as rest (List.cons_ne_nil _ _) has
        have ho : b + utf8Length pre = b + utf8Length l + 1 + utf8Length as := by
          rw [hpre, utf8Length_append, utf8Length_cons]
          have : '\n'.utf8Size = 1 := rfl
          omega
        refine ⟨j + 1, p, q, ?_, hline, ?_⟩
        · rw [startsFrom, List.filter_cons_of_pos (by simp), List.length_cons, ho, hlen]
        · rw [startsFrom, List.getElem?_cons_succ, ho, hstart]
    · -- the offset lies within the first line
      subst hl
      refine ⟨0, pre, bs, ?_, rfl, rfl⟩
      rw [filter_startsFrom_first (Nat.le_add_right b _) (by rw [utf8Length_append]; omega)]
      rfl

/-- **Every character boundary of a text has a line and a UTF-16 column.** -/
theorem lineColUtf16_isSome {cs pre rest : List Char} (h : cs = pre ++ rest) :
    ((ofChars cs).lineColUtf16 (utf8Length pre)).isSome := by
  obtain ⟨j, p, q, hlen, hline, hstart⟩ := startsFrom_line 0 (cs.splitOn '\n') pre rest
    (List.splitOn_ne_nil _ _) (by rw [List.intercalate_splitOn, h])
  rw [Nat.zero_add] at hlen hstart
  have hsize : ¬utf8Length pre > utf8Length cs := by
    rw [h, utf8Length_append]
    omega
  have hcol : utf8Length pre - ((startsFrom 0 (cs.splitOn '\n'))[j]?).getD 0 = utf8Length p := by
    omega
  simp only [lineColUtf16, lineCol, ofChars, if_neg hsize, List.getElem?_toArray, hlen,
    Nat.add_sub_cancel, hcol]
  simp [hline, splitAtByte_append]

end StyleRebase.LineIndex
