import StyleRebase.Proofs.LineColumns
import StyleRebase.Text.Utf8Codec

/-! # Byte lines and columns

The byte-column conversions of a `LineIndex`: `lineCol` finds the line of an offset by counting
the line starts at or before it, and `offset` adds a column to a line's start. Every offset up to
the end of the text has a line and column, the line being the number of line feeds before the
offset, and they convert back to it; every column up to the end of a line converts to an offset
that reads back as that line and column. Offsets need not fall between characters here: a byte
column may point inside one.

* **`count_newline_charUtf8`**, **`count_newline_utf8Encode`** — the byte 10 stands in UTF-8
  only for a line feed.
* **`filter_startsFrom_count`** — the lines starting at or before an offset are one more than
  the line feeds before it.
* **`byte_positions_inverse`** — the two conversions are inverse. -/

namespace StyleRebase

/-! ## (1) Line feeds among the bytes -/

/-- Every character lies below `0x110000`. -/
theorem toNat_lt_char_limit (c : Char) : c.toNat < 0x110000 := by
  have hv : c.val.toNat = c.toNat := rfl
  rcases c.valid with h | ⟨-, h⟩ <;> omega

/-- A byte `k.toUInt8` is 10 only when `k` is 10 modulo 256. -/
theorem mod_eq_ten_of_toUInt8 {k : Nat} (h : (10 : UInt8) = k.toUInt8) : k % 256 = 10 := by
  have := congrArg UInt8.toNat h
  simpa using this.symm

/-- **The byte 10 stands in the UTF-8 bytes of a character only for a line feed**, once: the one
byte of an ASCII character is its code, and every byte of a longer sequence is at least `0x80`. -/
theorem count_newline_charUtf8 (c : Char) :
    (charUtf8 c).count 10 = if c = '\n' then 1 else 0 := by
  by_cases hc : c = '\n'
  · subst hc
    rfl
  · rw [if_neg hc, List.count_eq_zero]
    have hlt := toNat_lt_char_limit c
    have hne : c.toNat ≠ 10 := fun h => hc (Char.ext (UInt32.toNat_inj.mp (by simpa using h)))
    intro hmem
    unfold charUtf8 at hmem
    dsimp only at hmem
    -- one case per length of the sequence; each byte equal to 10 contradicts its range
    by_cases h1 : c.toNat < 0x80
    · rw [if_pos h1, List.mem_singleton] at hmem
      have := mod_eq_ten_of_toUInt8 hmem
      omega
    rw [if_neg h1] at hmem
    by_cases h2 : c.toNat < 0x800
    · rw [if_pos h2] at hmem
      simp only [List.mem_cons, List.not_mem_nil, or_false] at hmem
      rcases hmem with h | h <;> have := mod_eq_ten_of_toUInt8 h <;> omega
    rw [if_neg h2] at hmem
    by_cases h3 : c.toNat < 0x10000
    · rw [if_pos h3] at hmem
      simp only [List.mem_cons, List.not_mem_nil, or_false] at hmem
      rcases hmem with h | h | h <;> have := mod_eq_ten_of_toUInt8 h <;> omega
    · rw [if_neg h3] at hmem
      simp only [List.mem_cons, List.not_mem_nil, or_false] at hmem
      rcases hmem with h | h | h | h <;> have := mod_eq_ten_of_toUInt8 h <;> omega

/-- **The UTF-8 bytes of a text hold as many bytes 10 as the text holds line feeds.** -/
theorem count_newline_utf8Encode (cs : List Char) : (utf8Encode cs).count 10 = cs.count '\n' := by
  induction cs with
  | nil => rfl
  | cons c cs ih =>
    rw [show utf8Encode (c :: cs) = charUtf8 c ++ utf8Encode cs from List.flatMap_cons,
      List.count_append, ih, count_newline_charUtf8, List.count_cons]
    by_cases hc : c = '\n' <;> simp [hc, Nat.add_comm]

/-- A text without line feeds has no byte 10 among any of its first bytes. -/
theorem count_newline_take_eq_zero {l : List Char} (hl : '\n' ∉ l) (k : Nat) :
    ((utf8Encode l).take k).count 10 = 0 := by
  have hle := (List.take_sublist k (utf8Encode l)).count_le 10
  rw [count_newline_utf8Encode, List.count_eq_zero_of_not_mem hl] at hle
  omega

namespace LineIndex

/-! ## (2) The line of an offset -/

/-- **The lines starting at or before an offset are one more than the line feeds before it**, in
the text joined from the lines at line feeds. The induction runs over the lines: an offset within
the first line sees no line feed, and one past it counts that line feed and falls in the text
joined from the other lines. -/
theorem filter_startsFrom_count (b : Nat) : ∀ (ls : List (List Char)) (o : Nat), ls ≠ [] →
    (∀ l ∈ ls, '\n' ∉ l) → b ≤ o →
    ((startsFrom b ls).filter (· ≤ o)).length =
      ((utf8Encode (['\n'].intercalate ls)).take (o - b)).count 10 + 1
  | [], _, h, _, _ => absurd rfl h
  | [l], o, _, hl, hb => by
    rw [startsFrom, startsFrom, List.filter_cons_of_pos (by simpa using hb), List.filter_nil,
      List.intercalate_singleton, count_newline_take_eq_zero (hl l List.mem_cons_self)]
    rfl
  | l :: l' :: ls, o, _, hl, hb => by
    have hfirst : '\n' ∉ l := hl l List.mem_cons_self
    have hbytes : utf8Encode (['\n'].intercalate (l :: l' :: ls)) =
        utf8Encode l ++ 10 :: utf8Encode (['\n'].intercalate (l' :: ls)) := by
      rw [List.intercalate_cons_cons, utf8Encode_append, utf8Encode_append,
        show utf8Encode ['\n'] = [10] by decide, List.append_assoc, List.singleton_append]
    rw [startsFrom, List.filter_cons_of_pos (by simpa using hb), List.length_cons, hbytes,
      List.take_append, utf8Encode_length, List.count_append,
      count_newline_take_eq_zero hfirst]
    by_cases ho : o < b + utf8Length l + 1
    · -- the offset lies within the first line: no later line starts at or before it
      rw [List.filter_eq_nil_iff.mpr fun x hx => by
          have := le_of_mem_startsFrom hx
          simp only [decide_eq_true_eq]
          omega,
        show o - b - utf8Length l = 0 by omega]
      rfl
    · -- past the first line feed: count it, and the rest by induction
      rw [filter_startsFrom_count (b + utf8Length l + 1) (l' :: ls) o (List.cons_ne_nil _ _)
          (fun m hm => hl m (List.mem_cons_of_mem _ hm)) (by omega),
        show o - b - utf8Length l = (o - (b + utf8Length l + 1)) + 1 by omega, List.take_succ_cons,
        List.count_cons_self]
      omega

/-- No line of a text holds a line feed. -/
theorem newline_not_mem_piece {cs l : List Char} (h : l ∈ cs.splitOn '\n') : '\n' ∉ l := by
  intro hmem
  rw [List.splitOn_eq_splitOnP] at h
  have := forall_mem_splitOnP (· == '\n') cs l h '\n' hmem
  simp at this

/-- **The line and byte column of an offset**: the line is the number of line feeds before the
offset, and the column its distance from that line's start. -/
theorem lineCol_of_le {cs : List Char} {o : Nat} (ho : o ≤ utf8Length cs) :
    ∃ s, (ofChars cs).lineStart (((utf8Encode cs).take o).count 10) = some s ∧ s ≤ o ∧
      (ofChars cs).lineCol o = some ⟨((utf8Encode cs).take o).count 10, o - s⟩ := by
  have hcount := filter_startsFrom_count 0 (cs.splitOn '\n') o (List.splitOn_ne_nil _ _)
    (fun _ hl => newline_not_mem_piece hl) (Nat.zero_le o)
  rw [List.intercalate_splitOn, Nat.sub_zero] at hcount
  obtain ⟨s, hs, hso⟩ := filter_startsFrom_last 0 _ o _ hcount
  have hsize : ¬o > (ofChars cs).size := by
    rw [ofChars_size]
    omega
  refine ⟨s, by simpa [lineStart, ofChars_starts] using hs, hso, ?_⟩
  simp only [lineCol, if_neg hsize, ofChars_starts, List.toList_toArray, hcount,
    Nat.add_sub_cancel, List.getElem?_toArray, hs, Option.getD_some]

/-! ## (3) The two conversions are inverse -/

/-- **Byte line/column conversions are mutually inverse.** For every text: every offset up to
its end has a line and byte column — the line is the number of line feeds before the offset and
the column its distance from the line's start — which converts back to the offset; every column
of an existing line, up to the line's end, converts to an offset that reads back as that line
and column; and an offset has no line and column exactly when it lies past the end of the
text. -/
theorem byte_positions_inverse (cs : List Char) :
    (∀ o ≤ utf8Length cs, ∃ l c, (ofChars cs).lineCol o = some ⟨l, c⟩ ∧
        l = ((utf8Encode cs).take o).count 10 ∧
        (∃ s, (ofChars cs).lineStart l = some s ∧ s + c = o) ∧
        (ofChars cs).offset ⟨l, c⟩ = some o) ∧
    (∀ l < (ofChars cs).lineCount, ∃ s e, (ofChars cs).lineStart l = some s ∧
        (ofChars cs).lineEnd l = some e ∧
        ∀ c ≤ e - s, ∃ o, (ofChars cs).offset ⟨l, c⟩ = some o ∧
          (ofChars cs).lineCol o = some ⟨l, c⟩) ∧
    (∀ o, (ofChars cs).lineCol o = none ↔ utf8Length cs < o) := by
  refine ⟨fun o ho => ?_, fun l hl => ?_, fun o => ?_⟩
  · obtain ⟨s, hs, hso, hlc⟩ := lineCol_of_le ho
    refine ⟨_, o - s, hlc, rfl, ⟨s, hs, by omega⟩, ?_⟩
    simp only [offset, hs, Option.map_some]
    congr 1
    omega
  · -- an existing line runs from its start over its bytes
    obtain ⟨line, hline⟩ : ∃ line, (ofChars cs).lines[l]? = some line :=
      ⟨_, Array.getElem?_eq_getElem (by rw [← lineCount_ofChars]; exact hl)⟩
    obtain ⟨s, hs⟩ : ∃ s, (ofChars cs).lineStart l = some s := ⟨_, Array.getElem?_eq_getElem hl⟩
    obtain ⟨-, -, -, -, hend, -⟩ := ofChars_line_start hline hs
    refine ⟨s, s + utf8Length line, hs, hend, fun c hc => ⟨s + c, ?_, ?_⟩⟩
    · simp [offset, hs]
    · exact lineCol_within hline hs (by omega)
  · rw [lineCol, ofChars_size]
    split <;> simp_all

-- a byte column may point inside a character: `é` takes two bytes
example : (ofChars "é\nab".toList).lineCol 1 = some ⟨0, 1⟩ ∧
    (ofChars "é\nab".toList).lineCol 4 = some ⟨1, 1⟩ ∧
    (ofChars "é\nab".toList).lineCol 6 = none := by
  decide +kernel

end LineIndex

end StyleRebase
