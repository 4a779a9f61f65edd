import StyleRebase.Proofs.ProjectedMappings

/-! # The line and column at a cut of a text

Reading a text from its start, a line feed starts the next line and any other character moves the
column by its UTF-16 units; `endPosition` is where a text ends. A line index gives each boundary
between characters the position at the end of the text before it, so positions and cuts of a text
correspond: one cut is on the line of another, at or before its column, exactly when the text
between them holds no line feed.

* **`endPosition_le_iff`** — two cuts of one text are on one line in order exactly when no line
  feed stands between them.
* **`LineIndex.lineColUtf16_prefix`** — the line and UTF-16 column of a character boundary are
  those at the end of the text before it.
* **`LineIndex.cut_of_column`** — a column at a boundary of its line addresses the cut there. -/

namespace StyleRebase

/-! ## (1) Reading a text -/

namespace LineCol

/-- **The position after a character**: a line feed starts the next line, any other character
moves the column by its UTF-16 units. -/
def advance (pos : LineCol) (c : Char) : LineCol :=
  if c = '\n' then ⟨pos.line + 1, 0⟩ else ⟨pos.line, pos.col + utf16Len c⟩

/-- Reading characters other than line feeds moves the column by their UTF-16 units. -/
theorem foldl_advance_of_no_newline :
    ∀ (d : List Char) (pos : LineCol), '\n' ∉ d →
      d.foldl advance pos = ⟨pos.line, pos.col + utf16Length d⟩
  | [], pos, _ => rfl
  | c :: d, pos, h => by
    have hc : c ≠ '\n' := fun hc => h (hc ▸ List.mem_cons_self)
    rw [List.foldl_cons, foldl_advance_of_no_newline d _ (fun hd => h (List.mem_cons_of_mem c hd))]
    simp only [advance, hc, if_false, utf16Length_cons, LineCol.mk.injEq, true_and]
    omega

/-- Reading never moves back a line. -/
theorem line_le_foldl_advance :
    ∀ (d : List Char) (pos : LineCol), pos.line ≤ (d.foldl advance pos).line
  | [], _ => Nat.le_refl _
  | c :: d, pos => by
    rw [List.foldl_cons]
    refine Nat.le_trans ?_ (line_le_foldl_advance d _)
    unfold advance
    split <;> simp

/-- **Reading a line feed moves to a later line.** -/
theorem line_lt_foldl_advance :
    ∀ (d : List Char) (pos : LineCol), '\n' ∈ d → pos.line < (d.foldl advance pos).line
  | [], _, h => absurd h List.not_mem_nil
  | c :: d, pos, h => by
    rw [List.foldl_cons]
    by_cases hc : c = '\n'
    · have := line_le_foldl_advance d (advance pos c)
      simp only [advance, hc, if_true] at this ⊢
      omega
    · have hd : '\n' ∈ d := by
        rcases List.mem_cons.mp h with h | h
        · exact absurd h.symm hc
        · exact h
      refine Nat.lt_of_le_of_lt ?_ (line_lt_foldl_advance d _ hd)
      simp [advance, hc]

end LineCol

/-- **The line and UTF-16 column at the end of a text**, read from its start. -/
def endPosition (cs : List Char) : LineCol := cs.foldl LineCol.advance ⟨0, 0⟩

theorem endPosition_append (a d : List Char) :
    endPosition (a ++ d) = d.foldl LineCol.advance (endPosition a) := by
  simp [endPosition, List.foldl_append]

/-- **Text without a line feed stays on the line**, moving the column by its UTF-16 units. -/
theorem endPosition_append_of_no_newline {a d : List Char} (h : '\n' ∉ d) :
    endPosition (a ++ d) = ⟨(endPosition a).line, (endPosition a).col + utf16Length d⟩ := by
  rw [endPosition_append, LineCol.foldl_advance_of_no_newline d _ h]

theorem endPosition_line_lt {a d : List Char} (h : '\n' ∈ d) :
    (endPosition a).line < (endPosition (a ++ d)).line := by
  rw [endPosition_append]
  exact LineCol.line_lt_foldl_advance d _ h

theorem utf16Length_pos {d : List Char} (h : d ≠ []) : 0 < utf16Length d := by
  obtain ⟨c, d, rfl⟩ := List.exists_cons_of_ne_nil h
  have := utf16Len_pos c
  simp only [utf16Length_cons]
  omega

/-- Reading moves the column by at most the units read. -/
theorem LineCol.col_foldl_advance_le :
    ∀ (d : List Char) (pos : LineCol), (d.foldl advance pos).col ≤ pos.col + utf16Length d
  | [], _ => Nat.le_refl _
  | c :: d, pos => by
    rw [List.foldl_cons, utf16Length_cons]
    have := col_foldl_advance_le d (advance pos c)
    have hstep : (advance pos c).col ≤ pos.col + utf16Len c := by
      unfold advance
      split <;> simp
    omega

/-- The column at the end of a text is at most its UTF-16 length. -/
theorem endPosition_col_le (a : List Char) : (endPosition a).col ≤ utf16Length a := by
  have := LineCol.col_foldl_advance_le a ⟨0, 0⟩
  simpa [endPosition] using this

/-! ## (2) Cuts on one line -/

/-- **Two cuts of one text in position order on one line**: the first is on the line of the
second, at or before its column, exactly when the text between them holds no line feed. -/
theorem endPosition_le_iff {a b u v : List Char} (h : a ++ u = b ++ v) :
    ((endPosition a).line = (endPosition b).line ∧ (endPosition a).col ≤ (endPosition b).col) ↔
      ∃ w, b = a ++ w ∧ '\n' ∉ w := by
  constructor
  · rintro ⟨hline, hcol⟩
    rcases List.prefix_or_prefix_of_prefix (List.prefix_append a u) (h ▸ List.prefix_append b v)
      with ⟨w, rfl⟩ | ⟨w, rfl⟩
    · refine ⟨w, rfl, fun hw => ?_⟩
      have := endPosition_line_lt (a := a) hw
      omega
    · -- `a` runs past `b` by `w`, which moves the line or the column forward unless empty
      by_cases hw : '\n' ∈ w
      · have := endPosition_line_lt (a := b) hw
        omega
      · rw [endPosition_append_of_no_newline hw] at hcol
        cases w with
        | nil => exact ⟨[], by simp, by simp⟩
        | cons c w =>
          have := utf16Length_pos (List.cons_ne_nil c w)
          simp only at hcol
          omega
  · rintro ⟨w, rfl, hw⟩
    rw [endPosition_append_of_no_newline hw]
    simp

/-- Two cuts of one text at one position are one. -/
theorem eq_of_endPosition_eq {a b u v : List Char} (h : a ++ u = b ++ v)
    (hpos : endPosition a = endPosition b) : a = b := by
  obtain ⟨w, rfl, -⟩ := (endPosition_le_iff h).mp
    ⟨congrArg LineCol.line hpos, Nat.le_of_eq (congrArg LineCol.col hpos)⟩
  obtain ⟨w', hw', -⟩ := (endPosition_le_iff h.symm).mp
    ⟨congrArg LineCol.line hpos.symm, Nat.le_of_eq (congrArg LineCol.col hpos.symm)⟩
  have := congrArg List.length hw'
  simp only [List.length_append] at this
  obtain rfl : w = [] := List.eq_nil_of_length_eq_zero (by omega)
  simp

/-! ## (3) Positions of a line index at cuts -/

namespace LineIndex

/-- **The text before a line ends at a line's start**: it holds one line feed for each line
before, the last at its end. The induction steps from the line before, whose line feed ends the
text before this one. -/
theorem endPosition_before_line {cs : List Char} :
    ∀ (l : Nat) {line before after : List Char}, (ofChars cs).lines[l]? = some line →
      cs = before ++ line ++ after → (ofChars cs).lineStart l = some (utf8Length before) →
      endPosition before = ⟨l, 0⟩
  | 0, line, before, after, hline, htext, hs => by
    have h0 : (ofChars cs).lineStart 0 = some 0 := by
      obtain ⟨x, xs, hls⟩ := List.exists_cons_of_ne_nil (List.splitOn_ne_nil '\n' cs)
      simp [lineStart, ofChars_starts, hls, startsFrom]
    rw [h0] at hs
    obtain rfl := eq_nil_of_utf8Length_eq_zero (Option.some.inj hs).symm
    rfl
  | l + 1, line, before, after, hline, htext, hs => by
    have hl : l + 1 < (cs.splitOn '\n').length := by
      rw [ofChars_lines, List.getElem?_toArray] at hline
      exact (List.getElem?_eq_some_iff.mp hline).1
    obtain ⟨line₀, hline₀⟩ : ∃ line₀, (ofChars cs).lines[l]? = some line₀ :=
      ⟨_, by rw [ofChars_lines, List.getElem?_toArray]; exact List.getElem?_eq_getElem (by omega)⟩
    obtain ⟨before₀, after₀, htext₀, hs₀, -, hfeed⟩ := ofChars_line hline₀
    have ih := endPosition_before_line l hline₀ htext₀ hs₀
    -- the line starts one byte past the end of the line before
    have hnext : (ofChars cs).lineStart (l + 1) =
        some (utf8Length before₀ + utf8Length line₀ + 1) := by
      have h := LineIndex.startsFrom_succ 0 (cs.splitOn '\n') l _ line₀
        (by rw [ofChars_lines, List.getElem?_toArray] at hline₀; exact hline₀)
        (by simpa [lineStart, ofChars_starts] using hs₀) hl
      simpa [lineStart, ofChars_starts] using h
    rw [hnext, Option.some.injEq] at hs
    -- so a line feed follows the line before, and ends the text before this line
    have hpre : before <+: cs := ⟨line ++ after, by rw [htext, List.append_assoc]⟩
    have hle : utf8Length before ≤ utf8Length cs := by
      rw [htext, List.append_assoc, utf8Length_append]
      omega
    obtain ⟨rest, rfl⟩ : ∃ rest, after₀ = '\n' :: rest := by
      rcases hfeed with rfl | hfeed
      · rw [htext₀] at hle
        simp only [utf8Length_append, utf8Length_nil] at hle
        omega
      · cases after₀ with
        | nil => cases hfeed
        | cons c rest =>
          obtain rfl : c = '\n' := by simpa using hfeed
          exact ⟨rest, rfl⟩
    have hbefore : before = before₀ ++ line₀ ++ ['\n'] :=
      eq_of_prefix_of_utf8Length_eq hpre ⟨rest, by rw [htext₀]; simp⟩
        (by simp only [utf8Length_append]; rw [← hs]; rfl)
    rw [hbefore, endPosition_append, endPosition_append_of_no_newline (newline_not_mem_line hline₀),
      ih]
    rfl

/-- **The line and UTF-16 column of a character boundary** are those at the end of the text
before it. -/
theorem lineColUtf16_prefix (a b : List Char) :
    (ofChars (a ++ b)).lineColUtf16 (utf8Length a) = some (endPosition a) := by
  obtain ⟨l, s, line, p, q, hline, hs, hpq, ho⟩ := boundary_within ⟨a, b, rfl, rfl⟩
  obtain ⟨before, after, htext, rfl, -⟩ := ofChars_line_start hline hs
  have ha : a = before ++ p :=
    eq_of_prefix_of_utf8Length_eq ⟨b, rfl⟩ ⟨q ++ after, by rw [htext, hpq]; simp⟩
      (by rw [utf8Length_append]; omega)
  have hp : '\n' ∉ p := fun h =>
    newline_not_mem_line hline (by rw [hpq]; exact List.mem_append_left q h)
  rw [ho, lineColUtf16_within hline hs hpq, ha, endPosition_append_of_no_newline hp,
    endPosition_before_line l hline htext hs]
  simp

/-- **A line and column read off an offset is the position at the end of the text before it.** -/
theorem cut_of_lineColUtf16 {cs : List Char} {o : Nat} {pos : LineCol}
    (h : (ofChars cs).lineColUtf16 o = some pos) :
    ∃ a b, cs = a ++ b ∧ utf8Length a = o ∧ endPosition a = pos := by
  obtain ⟨s, line, p, q, hline, hs, hpq, rfl, -⟩ := lineColUtf16_eq_some h
  obtain ⟨a, b, hab, ha⟩ := boundary_of_within hline hs hpq
  refine ⟨a, b, hab, ha, ?_⟩
  have h' := lineColUtf16_prefix a b
  rw [← hab, ha, h] at h'
  exact (Option.some.inj h').symm

/-- **A column at a boundary of its line addresses the cut there.** -/
theorem cut_of_column {cs line p q : List Char} (pos : LineCol)
    (hline : (ofChars cs).lines[pos.line]? = some line) (hpq : line = p ++ q)
    (hcol : pos.col = utf16Length p) :
    ∃ a b, cs = a ++ b ∧ endPosition a = pos ∧
      Rebase.inputOffset (ofChars cs) pos = some (utf8Length a, 0) := by
  obtain ⟨s, hs⟩ : ∃ s, (ofChars cs).lineStart pos.line = some s := by
    obtain ⟨before, after, -, hs, -⟩ := ofChars_line hline
    exact ⟨_, hs⟩
  obtain ⟨a, b, hab, ha⟩ := boundary_of_within hline hs hpq
  have hwithin := lineColUtf16_within hline hs hpq
  have hprefix := lineColUtf16_prefix a b
  rw [← hab, ha, hwithin, ← hcol] at hprefix
  refine ⟨a, b, hab, (Option.some.inj hprefix).symm, ?_⟩
  rw [ha]
  exact Rebase.inputOffset_of_addresses ⟨line, s, hline, hs, .inl ⟨p, q, hpq, hcol, rfl, rfl⟩⟩

/-- **A position on no line of the text addresses no offset.** -/
theorem inputOffset_of_no_line {cs : List Char} (pos : LineCol)
    (h : (ofChars cs).lines[pos.line]? = none) : Rebase.inputOffset (ofChars cs) pos = none := by
  simp [Rebase.inputOffset, offsetUtf16, lineLenUtf16, h]

end LineIndex

end StyleRebase
