import StyleRebase.Encoding.Base64

/-! # Base64 text reads back

The decoder accepts only the canonical padded form of base64, so the first thing it must do is
read back what the standard encoder writes: every group of three bytes as four symbols, a last
group of one or two bytes as two or three symbols completed by `=`, the missing bits zero.

* **`symbol`** — the symbol of a six-bit value.
* **`groupSymbols`** — the four symbols of three bytes.
* **`encode`** — the padded base64 text of a byte string.
* **`decode_encode`** — decoding the text of any byte string gives the bytes back. -/

namespace StyleRebase.Encoding.Base64

/-! ## (1) Writing base64 -/

/-- **The symbol of a six-bit value**: `A-Z` for 0 to 25, `a-z` for 26 to 51, `0-9` for 52 to 61,
then `+` and `/`. -/
def symbol (v : Nat) : UInt8 :=
  if v < 26 then (65 + v).toUInt8
  else if v < 52 then (97 + (v - 26)).toUInt8
  else if v < 62 then (48 + (v - 52)).toUInt8
  else if v = 62 then 43
  else 47

/-- **The six-bit values of three bytes**, most significant first. -/
def groupValues (a b c : UInt8) : List Nat :=
  let n := a.toNat * 65536 + b.toNat * 256 + c.toNat
  [n / 262144, n / 4096 % 64, n / 64 % 64, n % 64]

/-- **The four symbols of three bytes.** -/
def groupSymbols (a b c : UInt8) : List UInt8 := (groupValues a b c).map symbol

/-- **The padded base64 text of a byte string**: each group of three bytes gives four symbols; a
last group of one or two bytes is read with zero bytes after it, and its two or three symbols
are followed by `=` up to a whole quad. -/
def encode : List UInt8 → List UInt8
  | a :: b :: c :: rest => groupSymbols a b c ++ encode rest
  | [a, b] => (groupSymbols a b 0).take 3 ++ [pad]
  | [a] => (groupSymbols a 0 0).take 2 ++ [pad, pad]
  | [] => []

example : encode [0x7B, 0x7D] = [0x65, 0x33, 0x30, 0x3D] := by decide

theorem encode_cons₃ (a b c : UInt8) (rest : List UInt8) :
    encode (a :: b :: c :: rest) = groupSymbols a b c ++ encode rest := rfl

/-! ## (2) Symbols read back -/

theorem symbolValue?_symbol : ∀ v < 64, symbolValue? (symbol v) = some v := by decide

theorem symbol_ne_pad : ∀ v < 64, symbol v ≠ pad := by decide

theorem groupValues_lt (a b c : UInt8) : ∀ v ∈ groupValues a b c, v < 64 := by
  have ha := a.toNat_lt
  have hb := b.toNat_lt
  have hc := c.toNat_lt
  simp only [groupValues, List.mem_cons, List.not_mem_nil, or_false]
  rintro v (rfl | rfl | rfl | rfl) <;> omega

/-- **The bytes of a full quad** are the three bytes its values were cut from. -/
theorem quadBytes_groupValues (a b c : UInt8) :
    quadBytes ((a.toNat * 65536 + b.toNat * 256 + c.toNat) / 262144)
      ((a.toNat * 65536 + b.toNat * 256 + c.toNat) / 4096 % 64)
      ((a.toNat * 65536 + b.toNat * 256 + c.toNat) / 64 % 64)
      ((a.toNat * 65536 + b.toNat * 256 + c.toNat) % 64) = [a, b, c] := by
  have ha := a.toNat_lt
  have hb := b.toNat_lt
  have hc := c.toNat_lt
  simp only [quadBytes, List.cons.injEq, and_true]
  refine ⟨?_, ?_, ?_⟩ <;> apply UInt8.toNat.inj <;> simp [Nat.pow] <;> omega

/-- **Every byte of base64 text** is a symbol or `=`. -/
theorem encode_mem (bs : List UInt8) :
    ∀ b ∈ encode bs, b = pad ∨ ∃ v < 64, b = symbol v := by
  -- the symbols of a group, or of the part of one before the padding
  have hsym : ∀ a b c n, ∀ x ∈ (groupSymbols a b c).take n, ∃ v < 64, x = symbol v := by
    intro a b c n x hx
    obtain ⟨v, hv, rfl⟩ := List.mem_map.mp (List.mem_of_mem_take hx)
    exact ⟨v, groupValues_lt a b c v hv, rfl⟩
  induction bs using encode.induct with
  | case1 a b c bs ih =>
    intro x hx
    rw [encode_cons₃, List.mem_append] at hx
    rcases hx with hx | hx
    · exact .inr (hsym a b c 4 x (by simpa [groupSymbols, groupValues] using hx))
    · exact ih x hx
  | case2 a b =>
    intro x hx
    rcases List.mem_append.mp hx with hx | hx
    · exact .inr (hsym a b 0 3 x hx)
    · exact .inl (List.mem_singleton.mp hx)
  | case3 a =>
    intro x hx
    rcases List.mem_append.mp hx with hx | hx
    · exact .inr (hsym a 0 0 2 x hx)
    · simp only [List.mem_cons, List.not_mem_nil, or_false, or_self] at hx
      exact .inl hx
  | case4 => exact fun _ h => by cases h

/-! ## (3) The quads before the last -/

/-- **Symbols read as their values**: the body reader takes a run of symbols and goes on after
them. -/
theorem bodyValues_symbols (start : Nat) (vs : List Nat) (hv : ∀ v ∈ vs, v < 64)
    (rest : List UInt8) {ws : List Nat} (h : bodyValues (start + vs.length) rest = .ok ws) :
    bodyValues start (vs.map symbol ++ rest) = .ok (vs ++ ws) := by
  induction vs generalizing start with
  | nil => simpa using h
  | cons v vs ih =>
    have hv' : ∀ w ∈ vs, w < 64 := fun w hw => hv w (List.mem_cons_of_mem v hw)
    have hrest := ih (start + 1) hv' (by simpa [Nat.add_assoc, Nat.add_comm 1] using h)
    simp only [List.map_cons, List.cons_append, bodyValues,
      symbolValue?_symbol v (hv v List.mem_cons_self), hrest]
    rfl

/-- **Whole groups are written one after another.** -/
theorem encode_append {bs : List UInt8} (h : bs.length % 3 = 0) (rest : List UInt8) :
    encode (bs ++ rest) = encode bs ++ encode rest := by
  induction bs using encode.induct with
  | case1 a b c bs ih =>
    simp only [List.length_cons] at h
    rw [List.cons_append, List.cons_append, List.cons_append, encode_cons₃, encode_cons₃,
      ih (by omega), List.append_assoc]
  | case2 | case3 => simp at h
  | case4 => rfl

/-- **The body of whole groups reads back**: its values are the groups' values, and they give
the bytes back. -/
theorem bodyValues_encode (start : Nat) {bs : List UInt8} (h : bs.length % 3 = 0) :
    ∃ vs, bodyValues start (encode bs) = .ok vs ∧ quadsBytes vs = bs := by
  induction bs using encode.induct generalizing start with
  | case1 a b c bs ih =>
    simp only [List.length_cons] at h
    obtain ⟨vs, hvs, hbytes⟩ := ih (start + 4) (by omega)
    refine ⟨groupValues a b c ++ vs, ?_, ?_⟩
    · rw [encode_cons₃]
      exact bodyValues_symbols start _ (groupValues_lt a b c) _ hvs
    · simp only [groupValues, List.cons_append, List.nil_append, quadsBytes,
        quadBytes_groupValues, hbytes]
  | case2 | case3 => simp at h
  | case4 => exact ⟨[], rfl, rfl⟩

/-! ## (4) The last quad -/

/-- **Symbols of the last quad** are taken as values while no `=` has been seen. -/
theorem pushAll_symbols (start : Nat) (t : Tail) (ht : t.pads = 0) (i : Nat) (vs : List Nat)
    (hv : ∀ v ∈ vs, v < 64) (rest : List UInt8) :
    ∃ ls, Tail.pushAll start t i (vs.map symbol ++ rest) =
      Tail.pushAll start { t with values := t.values ++ vs, lastSymbol := ls } (i + vs.length)
        rest := by
  induction vs generalizing t i with
  | nil => exact ⟨t.lastSymbol, by simp⟩
  | cons v vs ih =>
    have hv0 := hv v List.mem_cons_self
    obtain ⟨ls, hls⟩ :=
      ih { t with values := t.values ++ [v], lastSymbol := symbol v } ht (i + 1)
      (fun w hw => hv w (List.mem_cons_of_mem v hw))
    refine ⟨ls, ?_⟩
    have hpush : t.push start i (symbol v) =
        .ok { t with values := t.values ++ [v], lastSymbol := symbol v } := by
      rw [Tail.push, if_neg (by simp [symbol_ne_pad v hv0]), if_neg (by omega),
        symbolValue?_symbol v hv0]
      rfl
    simp only [List.map_cons, List.cons_append, Tail.pushAll, hpush, bind, Except.bind, hls,
      List.append_assoc, List.nil_append, List.length_cons, Nat.add_assoc, Nat.add_comm 1]

/-- **Padding at the end of the last quad** is counted, past its first two places. -/
theorem pushAll_pads (start : Nat) (t : Tail) (i : Nat) (hi : 2 ≤ i) (k : Nat) :
    ∃ fp, Tail.pushAll start t i (List.replicate k pad) =
      .ok { t with pads := t.pads + k, firstPad := fp } := by
  induction k generalizing t i with
  | zero => exact ⟨t.firstPad, rfl⟩
  | succ k ih =>
    obtain ⟨fp, hfp⟩ :=
      ih { t with pads := t.pads + 1, firstPad := if t.pads == 0 then i else t.firstPad } (i + 1)
        (by omega)
    refine ⟨fp, ?_⟩
    have hpush : t.push start i pad =
        .ok { t with pads := t.pads + 1, firstPad := if t.pads == 0 then i else t.firstPad } := by
      rw [Tail.push, if_pos (by simp), if_neg (by omega)]
      rfl
    simp only [List.replicate_succ, Tail.pushAll, hpush, bind, Except.bind, hfp, Nat.add_assoc,
      Nat.add_comm 1]

/-- **A last quad that reads** as symbols then padding: its values are the symbols' values
and its padding is counted. -/
theorem pushAll_quad (start : Nat) (vs : List Nat) (hv : ∀ v ∈ vs, v < 64)
    (hlen : 2 ≤ vs.length) (k : Nat) :
    ∃ t : Tail, Tail.pushAll start {} 0 (vs.map symbol ++ List.replicate k pad) = .ok t ∧
      t.values = vs ∧ t.pads = k := by
  obtain ⟨ls, hsym⟩ := pushAll_symbols start {} rfl 0 vs hv (List.replicate k pad)
  obtain ⟨fp, hpads⟩ :=
    pushAll_pads start { ({} : Tail) with values := [] ++ vs, lastSymbol := ls }
      (0 + vs.length) (by omega) k
  exact ⟨_, hsym.trans hpads, List.nil_append vs, Nat.zero_add k⟩

/-- **The bytes of a last quad**, when it holds at least two symbols, its padding completes it,
and its last symbol carries no bits beyond the last byte. -/
theorem decodeTail_ok {start : Nat} {quad : List UInt8} {t : Tail}
    (h : Tail.pushAll start {} 0 quad = .ok t) (hn : 2 ≤ t.values.length)
    (hp : (t.pads + t.values.length) % 4 = 0)
    (hb : (t.values.getD 0 0 * Nat.pow 2 26 + t.values.getD 1 0 * Nat.pow 2 20 +
      t.values.getD 2 0 * Nat.pow 2 14 + t.values.getD 3 0 * Nat.pow 2 8) %
        Nat.pow 2 (32 - 8 * (t.values.length * 6 / 8)) = 0) :
    decodeTail true start quad = .ok ((List.range (t.values.length * 6 / 8)).map fun k =>
      ((t.values.getD 0 0 * Nat.pow 2 26 + t.values.getD 1 0 * Nat.pow 2 20 +
        t.values.getD 2 0 * Nat.pow 2 14 + t.values.getD 3 0 * Nat.pow 2 8) /
          Nat.pow 2 (24 - 8 * k) % 256).toUInt8) := by
  simp only [decodeTail, h, bind, Except.bind]
  rw [if_neg (by simp; omega), if_neg (by simp [hp]),
    if_neg (by simp only [hb, bne_self_eq_false, Bool.false_eq_true, not_false_eq_true])]
  rfl

/-- The powers of two that place the values of a last quad and cut its bytes. -/
theorem tail_pows : Nat.pow 2 26 = 67108864 ∧ Nat.pow 2 20 = 1048576 ∧ Nat.pow 2 14 = 16384 ∧
    Nat.pow 2 8 = 256 ∧ Nat.pow 2 (24 - 8 * 0) = 16777216 ∧ Nat.pow 2 (24 - 8 * 1) = 65536 ∧
    UInt8.toNat 0 = 0 :=
  ⟨rfl, rfl, rfl, rfl, rfl, rfl, rfl⟩

/-- **A byte is the byte of its code.** -/
theorem toUInt8_eq_of_toNat {x : Nat} {b : UInt8} (h : x = b.toNat) : x.toUInt8 = b := by
  rw [h, Nat.toUInt8_eq, UInt8.ofNat_toNat]

/-- **The last group reads back** from its quad, whether it holds one, two or three bytes. The
bits are cut with the decoder's own powers of two, rewritten to numbers before the arithmetic. -/
theorem decodeTail_encode (start : Nat) {last : List UInt8} (h0 : last ≠ [])
    (h3 : last.length ≤ 3) : decodeTail true start (encode last) = .ok last := by
  obtain ⟨p26, p20, p14, p8, q0, q1, z⟩ := tail_pows
  rcases last with _ | ⟨a, _ | ⟨b, _ | ⟨c, _ | ⟨d, rest⟩⟩⟩⟩
  · contradiction
  · -- one byte: two symbols, then two `=`
    have hv : ∀ v ∈ (groupValues a 0 0).take 2, v < 64 :=
      fun v hv => groupValues_lt a 0 0 v (List.mem_of_mem_take hv)
    obtain ⟨t, ht, hvals, hpads⟩ := pushAll_quad start _ hv (by simp [groupValues]) 2
    have ha := a.toNat_lt
    rw [show encode [a] = ((groupValues a 0 0).take 2).map symbol ++ List.replicate 2 pad from rfl,
      decodeTail_ok ht (by simp [hvals, groupValues]) (by simp [hvals, hpads, groupValues])
        (by simp only [hvals, groupValues, List.take_succ_cons, List.take_zero, List.length_cons,
              List.length_nil, List.getD_cons_zero, List.getD_cons_succ, List.getD_nil]
            rw [p26, p20, p14, p8, z, show Nat.pow 2 (32 - 8 * (2 * 6 / 8)) = 16777216 from rfl]
            omega)]
    simp only [hvals, groupValues, List.take_succ_cons, List.take_zero, List.length_cons,
      List.length_nil, List.getD_cons_zero, List.getD_cons_succ, List.getD_nil, List.range_succ,
      List.range_zero, List.nil_append, List.map_cons, List.map_nil, Except.ok.injEq,
      List.cons.injEq, and_true]
    refine toUInt8_eq_of_toNat ?_
    rw [p26, p20, p14, p8, q0, z]
    omega
  · -- two bytes: three symbols, then one `=`
    have hv : ∀ v ∈ (groupValues a b 0).take 3, v < 64 :=
      fun v hv => groupValues_lt a b 0 v (List.mem_of_mem_take hv)
    obtain ⟨t, ht, hvals, hpads⟩ := pushAll_quad start _ hv (by simp [groupValues]) 1
    have ha := a.toNat_lt
    have hb := b.toNat_lt
    rw [show encode [a, b] = ((groupValues a b 0).take 3).map symbol ++ List.replicate 1 pad
        from rfl,
      decodeTail_ok ht (by simp [hvals, groupValues]) (by simp [hvals, hpads, groupValues])
        (by simp only [hvals, groupValues, List.take_succ_cons, List.take_zero, List.length_cons,
              List.length_nil, List.getD_cons_zero, List.getD_cons_succ, List.getD_nil]
            rw [p26, p20, p14, p8, z, show Nat.pow 2 (32 - 8 * (3 * 6 / 8)) = 65536 from rfl]
            omega)]
    simp only [hvals, groupValues, List.take_succ_cons, List.take_zero, List.length_cons,
      List.length_nil, List.getD_cons_zero, List.getD_cons_succ, List.getD_nil, List.range_succ,
      List.range_zero, List.nil_append, List.cons_append, List.map_cons, List.map_nil,
      Except.ok.injEq, List.cons.injEq, and_true]
    refine ⟨toUInt8_eq_of_toNat ?_, toUInt8_eq_of_toNat ?_⟩ <;> rw [p26, p20, p14, p8, z]
    · rw [q0]
      omega
    · rw [q1]
      omega
  · -- three bytes: a whole quad
    obtain ⟨t, ht, hvals, hpads⟩ :=
      pushAll_quad start (groupValues a b c) (groupValues_lt a b c)
      (by simp [groupValues]) 0
    have ha := a.toNat_lt
    have hb := b.toNat_lt
    have hc := c.toNat_lt
    rw [show encode [a, b, c] = (groupValues a b c).map symbol ++ List.replicate 0 pad from rfl,
      decodeTail_ok ht (by simp [hvals, groupValues]) (by simp [hvals, hpads, groupValues])
        (by simp only [hvals, groupValues, List.length_cons, List.length_nil, List.getD_cons_zero,
              List.getD_cons_succ]
            -- the cut, 2 ^ (32 - 24), is the power of `p8`
            rw [p26, p20, p14, p8]
            omega)]
    simp only [hvals, groupValues, List.length_cons, List.length_nil, List.getD_cons_zero,
      List.getD_cons_succ, List.range_succ, List.range_zero, List.nil_append, List.cons_append,
      List.map_cons, List.map_nil, Except.ok.injEq, List.cons.injEq, and_true]
    refine ⟨toUInt8_eq_of_toNat ?_, toUInt8_eq_of_toNat ?_, toUInt8_eq_of_toNat ?_⟩ <;>
      rw [p26, p20, p14, p8]
    · rw [q0]
      omega
    · rw [q1]
      omega
    · omega
  · simp only [List.length_cons] at h3
    omega

/-! ## (5) The whole text -/

/-- **Base64 text is four symbols for every three bytes or part of three.** -/
theorem encode_length (bs : List UInt8) : (encode bs).length = 4 * ((bs.length + 2) / 3) := by
  induction bs using encode.induct with
  | case1 a b c bs ih =>
    rw [encode_cons₃, List.length_append, ih]
    simp [groupSymbols, groupValues]
    omega
  | case2 | case3 => simp [encode, groupSymbols, groupValues, pad]
  | case4 => rfl

/-- **Decoding reads back what encoding writes**: the bytes before the last group come from the
body of whole quads, the last group from the last quad. -/
theorem decode_encode (bs : List UInt8) : decode (encode bs) = .ok bs := by
  by_cases hnil : bs = []
  · subst hnil
    rfl
  -- the bytes are whole groups, then a last group of one to three bytes
  have hlen : 0 < bs.length := List.length_pos_iff.mpr hnil
  obtain ⟨full, last, rfl, hfull⟩ : ∃ full last, bs = full ++ last ∧
      full.length = 3 * ((bs.length - 1) / 3) :=
    ⟨_, _, (List.take_append_drop (3 * ((bs.length - 1) / 3)) bs).symm,
      by rw [List.length_take]; omega⟩
  rw [List.length_append] at hfull hlen
  have hlast0 : last ≠ [] := List.ne_nil_of_length_pos (by omega)
  have henc : encode (full ++ last) = encode full ++ encode last :=
    encode_append (by omega) last
  have hlenF : (encode full).length = 4 * ((full.length + 2) / 3) := encode_length full
  have hlenL : (encode last).length = 4 := by rw [encode_length]; omega
  obtain ⟨vs, hvs, hbytes⟩ := bodyValues_encode 0 (show full.length % 3 = 0 by omega)
  -- the text is a whole number of quads, the last of them the last group's
  have hrem : (encode full ++ encode last).length % 4 = 0 := by
    rw [List.length_append, hlenF, hlenL]
    omega
  have hbody : (encode full ++ encode last).length - 0 - 4 = (encode full).length := by
    rw [List.length_append, hlenL]
    omega
  have hne : (encode full ++ encode last).isEmpty = false := by
    rw [List.isEmpty_eq_false_iff, ← List.length_pos_iff, List.length_append, hlenL]
    omega
  rw [henc, decode]
  simp only [hrem, show ((0 : Nat) == 1) = false from rfl, Bool.false_eq_true, if_false,
    beq_self_eq_true, if_true, hbody, List.take_left, List.drop_left, hvs, hne, Bool.not_false,
    decodeTail_encode _ hlast0 (by omega)]
  rw [← hbytes]
  rfl

end StyleRebase.Encoding.Base64
