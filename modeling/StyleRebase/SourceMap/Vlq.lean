import StyleRebase.SourceMap.DecodeError
import StyleRebase.Encoding.Base64

/-! # Base64 VLQ numbers

The mappings of a source map are written as signed numbers in base64 digits: each digit carries
five bits, least significant first, and its sixth bit says whether another digit follows; the
lowest bit of the assembled number is the sign.

* **`digitValue`** — the six bits of a digit. A byte outside the base64 alphabet counts as all
  six bits set, like `/`, except DEL, which counts as `+` (62): either way the digit carries on
  to another.
* **`decodeSegment`** — the numbers of one segment, each reduced modulo 2^32 (every position in
  a source map is a 32-bit number, and deltas wrap around), or why the segment is malformed: a
  number longer than 64 bits, a segment ending inside a number, or no number at all.
* **`encode`** — the digits of a signed number.
* **`decodeRangeBits`** — the bits of a range-mapping line: six per base64 character, least
  significant first. -/

namespace StyleRebase.SourceMap.Vlq

/-- **Modulus of 32-bit positions.** -/
def word : Nat := Nat.pow 2 32

/-- **The six bits of a VLQ digit**; a byte outside the alphabet gives all six set, DEL all but
the lowest. -/
def digitValue (b : UInt8) : Nat :=
  match Encoding.Base64.symbolValue? b with
  | some v => v
  | none => if b == 0x7F then 62 else 63

/-- **A signed number modulo 2^32** from its VLQ form: the magnitude is the form shifted right
by one bit, negated when the lowest bit is set. -/
def signedWord (raw : Nat) : Nat :=
  let magnitude := raw / 2 % word
  if raw % 2 == 1 then (word - magnitude) % word else magnitude

/-- **State of a segment being read**: the numbers so far (in reverse), the bits of the number
being assembled (modulo 2^64) and how far they are shifted. -/
structure Reader where
  values : List Nat := []
  current : Nat := 0
  shift : Nat := 0

/-- **Read one digit.** -/
def Reader.push (r : Reader) (b : UInt8) : Except DecodeError Reader :=
  let d := digitValue b
  if r.shift ≥ 64 then throw .vlqOverflow
  else
    let current := (r.current + d % 32 * Nat.pow 2 r.shift) % Nat.pow 2 64
    if d ≥ 32 then pure { r with current, shift := r.shift + 5 }
    else pure { values := signedWord current :: r.values, current := 0, shift := 0 }

/-- **The numbers of a segment**, each modulo 2^32. -/
def decodeSegment (bs : List UInt8) : Except DecodeError (List Nat) := do
  let r ← bs.foldlM Reader.push {}
  if r.current != 0 || r.shift != 0 then throw .vlqLeftover
  if r.values.isEmpty then throw .vlqNoValues
  pure r.values.reverse

/-- **The base64 digit of six bits.** -/
def digitChar (n : Nat) : Char :=
  if n < 26 then Char.ofNat (0x41 + n)
  else if n < 52 then Char.ofNat (0x61 + n - 26)
  else if n < 62 then Char.ofNat (0x30 + n - 52)
  else if n == 62 then '+'
  else '/'

/-- **The digits of a VLQ magnitude**, five bits at a time with the continuation bit. -/
def digits (n : Nat) : List Char :=
  if n < 32 then [digitChar n]
  else digitChar (n % 32 + 32) :: digits (n / 32)
termination_by n
decreasing_by omega

/-- **The VLQ form of a signed number.** -/
def encode (n : Int) : List Char :=
  digits (if n < 0 then (-n).toNat * 2 + 1 else n.toNat * 2)

/-- **The bits of a range-mapping line**, six per byte, least significant first; a byte outside
base64 is refused, reported as the character of that byte's value. -/
def decodeRangeBits (bs : List UInt8) : Except DecodeError (List Bool) :=
  bs.flatMapM fun b =>
    match Encoding.Base64.symbolValue? b with
    | some v => pure ((List.range 6).map fun k => v / Nat.pow 2 k % 2 == 1)
    | none => throw (.invalidBase64 (Char.ofNat b.toNat))

end StyleRebase.SourceMap.Vlq
