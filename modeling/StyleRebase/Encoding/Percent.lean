/-! # Percent-decoding

`%` followed by two hexadecimal digits stands for the byte they spell; any other `%` stands for
itself. Nothing else changes.

* **`hexValue?`** — the value of a hexadecimal digit.
* **`percentDecode`** — the bytes a percent-encoded byte string stands for.
* `percentDecode_of_no_percent` — bytes without `%` decode to themselves. -/

namespace StyleRebase.Encoding

/-- **The value of a hexadecimal digit** (either case), given as a byte. -/
def hexValue? (b : UInt8) : Option Nat :=
  let n := b.toNat
  if 0x30 ≤ n ∧ n ≤ 0x39 then some (n - 0x30)
  else if 0x41 ≤ n ∧ n ≤ 0x46 then some (n - 0x41 + 10)
  else if 0x61 ≤ n ∧ n ≤ 0x66 then some (n - 0x61 + 10)
  else none

/-- **Percent-decode a byte string.** -/
def percentDecode : List UInt8 → List UInt8
  | [] => []
  | b :: rest =>
    if b == 0x25 then
      match rest with
      | h :: l :: rest' =>
        match hexValue? h, hexValue? l with
        | some x, some y => (x * 16 + y).toUInt8 :: percentDecode rest'
        | _, _ => b :: percentDecode (h :: l :: rest')
      | rest'' => b :: percentDecode rest''
    else b :: percentDecode rest
termination_by bs => bs.length
decreasing_by all_goals simp_wf; all_goals omega

/-- Bytes without `%` decode to themselves. -/
theorem percentDecode_of_no_percent (bs : List UInt8) (h : ∀ b ∈ bs, b ≠ 0x25) :
    percentDecode bs = bs := by
  induction bs with
  | nil => simp [percentDecode]
  | cons b rest ih =>
    have hb : (b == 0x25) = false := by simpa using h b (by simp)
    unfold percentDecode
    simp only [hb, Bool.false_eq_true, if_false]
    rw [ih (fun x hx => h x (by simp [hx]))]

end StyleRebase.Encoding
