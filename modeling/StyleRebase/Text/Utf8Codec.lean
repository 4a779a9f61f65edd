import StyleRebase.Text.CharClass

/-! # UTF-8 encoding and decoding of byte lists

* **`utf8Encode`** — the bytes of a character list.
* **`utf8Units`** — a byte list read as UTF-8: each well-formed sequence gives its character,
  each **maximal ill-formed subpart** (the longest prefix of a sequence that could still have
  been completed, or a single byte that starts none) gives `none`.
* **`utf8DecodeLossy`** — every `none` replaced by U+FFFD.
* **`utf8Decode?`** — the characters when the bytes are well-formed UTF-8, `none` otherwise. -/

namespace StyleRebase

/-- **The UTF-8 bytes of a character.** -/
def charUtf8 (c : Char) : List UInt8 :=
  let n := c.toNat
  if n < 0x80 then [n.toUInt8]
  else if n < 0x800 then [(0xC0 + n / 0x40).toUInt8, (0x80 + n % 0x40).toUInt8]
  else if n < 0x10000 then
    [(0xE0 + n / 0x1000).toUInt8, (0x80 + n / 0x40 % 0x40).toUInt8, (0x80 + n % 0x40).toUInt8]
  else
    [(0xF0 + n / 0x40000).toUInt8, (0x80 + n / 0x1000 % 0x40).toUInt8,
      (0x80 + n / 0x40 % 0x40).toUInt8, (0x80 + n % 0x40).toUInt8]

/-- **The UTF-8 bytes of a character list.** -/
def utf8Encode (cs : List Char) : List UInt8 := cs.flatMap charUtf8

/-- The encoder writes as many bytes as `utf8Size` counts. -/
theorem charUtf8_length (c : Char) : (charUtf8 c).length = c.utf8Size := by
  have hv : c.val.toNat = c.toNat := rfl
  unfold charUtf8 Char.utf8Size
  simp only [UInt32.le_iff_toNat_le, hv, UInt32.toNat_ofNatLT]
  -- both draw their lines at the same code points
  by_cases h1 : c.toNat < 0x80
  · simp [h1, show c.toNat ≤ 127 by omega]
  by_cases h2 : c.toNat < 0x800
  · simp [h1, h2, show ¬c.toNat ≤ 127 by omega, show c.toNat ≤ 2047 by omega]
  by_cases h3 : c.toNat < 0x10000
  · simp [h1, h2, h3, show ¬c.toNat ≤ 127 by omega, show ¬c.toNat ≤ 2047 by omega,
      show c.toNat ≤ 65535 by omega]
  · simp [h1, h2, h3, show ¬c.toNat ≤ 127 by omega, show ¬c.toNat ≤ 2047 by omega,
      show ¬c.toNat ≤ 65535 by omega]

/-- A character list has as many bytes as its byte length. -/
theorem utf8Encode_length (cs : List Char) : (utf8Encode cs).length = utf8Length cs := by
  induction cs with
  | nil => rfl
  | cons c cs ih => simp [utf8Encode, charUtf8_length, ← ih, utf8Length]

theorem utf8Encode_append (xs ys : List Char) :
    utf8Encode (xs ++ ys) = utf8Encode xs ++ utf8Encode ys :=
  List.flatMap_append

/-- **Whether a byte continues a sequence**: `0x80 ≤ b ≤ 0xBF`. -/
def isContinuation (b : UInt8) : Bool := 0x80 ≤ b.toNat && b.toNat ≤ 0xBF

/-- **The range allowed for the second byte** after a leading byte (the first byte of a
three- or four-byte sequence narrows it to exclude overlong forms, surrogates and code points
above U+10FFFF). -/
def secondRange (lead : Nat) : Nat × Nat :=
  if lead = 0xE0 then (0xA0, 0xBF)
  else if lead = 0xED then (0x80, 0x9F)
  else if lead = 0xF0 then (0x90, 0xBF)
  else if lead = 0xF4 then (0x80, 0x8F)
  else (0x80, 0xBF)

/-- **Length of the sequence a leading byte announces**: 1 for ASCII, 2, 3 or 4, and 0 for a
byte that cannot start a sequence. -/
def sequenceLength (lead : Nat) : Nat :=
  if lead < 0x80 then 1
  else if 0xC2 ≤ lead ∧ lead ≤ 0xDF then 2
  else if 0xE0 ≤ lead ∧ lead ≤ 0xEF then 3
  else if 0xF0 ≤ lead ∧ lead ≤ 0xF4 then 4
  else 0

/-- **The code point of a well-formed sequence** of two to four bytes. -/
def codePoint : List UInt8 → Nat
  | [a, b] => (a.toNat % 0x20) * 0x40 + b.toNat % 0x40
  | [a, b, c] => (a.toNat % 0x10) * 0x1000 + (b.toNat % 0x40) * 0x40 + c.toNat % 0x40
  | [a, b, c, d] =>
    (a.toNat % 0x08) * 0x40000 + (b.toNat % 0x40) * 0x1000 + (c.toNat % 0x40) * 0x40 +
      d.toNat % 0x40
  | _ => 0

/-- **How many bytes of a sequence starting with `lead` are present and valid** in `rest`
(the bytes after `lead`), counting `lead`, up to `need`. -/
def validPrefix (lead : Nat) (need : Nat) (rest : List UInt8) : Nat :=
  match rest with
  | b :: r =>
    if need ≤ 1 then 1
    else
      let (lo, hi) := secondRange lead
      if lo ≤ b.toNat ∧ b.toNat ≤ hi then
        match r with
        | c :: r' =>
          if need ≤ 2 then 2
          else if isContinuation c then
            match r' with
            | d :: _ => if need ≤ 3 then 3 else if isContinuation d then 4 else 3
            | [] => if need ≤ 3 then 3 else 3
          else 2
        | [] => if need ≤ 2 then 2 else 2
      else 1
  | [] => 1

/-- **A byte list read as UTF-8 units**: `some c` for each well-formed sequence, `none` for each
maximal ill-formed subpart. -/
def utf8Units : List UInt8 → List (Option Char)
  | [] => []
  | b :: rest =>
    let need := sequenceLength b.toNat
    if need = 1 then some (Char.ofNat b.toNat) :: utf8Units rest
    else if need = 0 then none :: utf8Units rest
    else
      let got := validPrefix b.toNat need rest
      if got = need then
        some (Char.ofNat (codePoint (b :: rest.take (need - 1)))) :: utf8Units (rest.drop (need - 1))
      else none :: utf8Units (rest.drop (got - 1))
termination_by bs => bs.length
decreasing_by
  all_goals
    simp only [List.length_cons, List.length_drop]
    omega

/-- **Decode UTF-8, replacing each maximal ill-formed subpart by U+FFFD.** -/
def utf8DecodeLossy (bs : List UInt8) : List Char :=
  (utf8Units bs).map fun u => u.getD '�'

/-- **Decode well-formed UTF-8**, or `none`. -/
def utf8Decode? (bs : List UInt8) : Option (List Char) :=
  (utf8Units bs).mapM id

end StyleRebase
