/-! # Base64 with canonical padding

Decoding of the standard base64 alphabet (`A-Z a-z 0-9 + /`) where padding is required: the
symbols and `=` signs together fill whole quads, `=` stands only at the end of the last quad and
never in its first two places, and the bits that the last symbol carries beyond the last byte
are zero. A failure names its cause and where it was found.

* **`symbolValue?`** — the value of a symbol of the alphabet.
* **`DecodeError`** — the four causes of failure, with `DecodeError.message`.
* **`decode`** — the bytes of a text, or the first failure: a stray byte at the end of a text
  whose length leaves one symbol over is reported before all else; then every quad but the last
  is checked from the left; then the last quad, which may hold padding. -/

namespace StyleRebase.Encoding.Base64

/-- **The value of a base64 symbol**: `A-Z` are 0 to 25, `a-z` 26 to 51, `0-9` 52 to 61, `+`
is 62 and `/` is 63. -/
def symbolValue? (b : UInt8) : Option Nat :=
  if 65 ≤ b ∧ b ≤ 90 then some (b.toNat - 65)
  else if 97 ≤ b ∧ b ≤ 122 then some (b.toNat - 97 + 26)
  else if 48 ≤ b ∧ b ≤ 57 then some (b.toNat - 48 + 52)
  else if b == 43 then some 62
  else if b == 47 then some 63
  else none

/-- **The padding byte** `=`. -/
def pad : UInt8 := 61

/-- **Why a text is not base64.** -/
inductive DecodeError where
  /-- A byte outside the alphabet, or an `=` where none may stand, at this offset. -/
  | invalidByte (offset : Nat) (byte : UInt8)
  /-- The last quad holds a single symbol: the text has this many symbols. -/
  | invalidLength (symbols : Nat)
  /-- The last symbol, at this offset, carries bits that no byte takes. -/
  | invalidLastSymbol (offset : Nat) (byte : UInt8)
  /-- The padding does not complete the last quad. -/
  | invalidPadding
  deriving DecidableEq, Repr

/-- **The text of a decoding failure.** -/
def DecodeError.message : DecodeError → String
  | .invalidByte offset byte => s!"Invalid symbol {byte}, offset {offset}."
  | .invalidLength n => s!"Invalid input length: {n}"
  | .invalidLastSymbol offset byte => s!"Invalid last symbol {byte}, offset {offset}."
  | .invalidPadding => "Invalid padding"

/-- **The three bytes of a full quad.** -/
def quadBytes (a b c d : Nat) : List UInt8 :=
  let n := a * Nat.pow 2 18 + b * Nat.pow 2 12 + c * Nat.pow 2 6 + d
  [(n / Nat.pow 2 16 % 256).toUInt8, (n / Nat.pow 2 8 % 256).toUInt8, (n % 256).toUInt8]

/-- **Bytes of full quads of symbol values.** -/
def quadsBytes : List Nat → List UInt8
  | a :: b :: c :: d :: rest => quadBytes a b c d ++ quadsBytes rest
  | _ => []

/-- **Values of the symbols of the quads before the last**, or the first byte that is not a
symbol (an `=` among them). -/
def bodyValues (start : Nat) : List UInt8 → Except DecodeError (List Nat)
  | [] => pure []
  | b :: bs =>
    match symbolValue? b with
    | some v => do
      let vs ← bodyValues (start + 1) bs
      pure (v :: vs)
    | none => throw (.invalidByte start b)

/-- **What the last quad holds so far**: the symbol values, the number of `=` seen, where the
first `=` stood, and the last symbol. -/
structure Tail where
  values : List Nat := []
  pads : Nat := 0
  firstPad : Nat := 0
  lastSymbol : UInt8 := 0

/-- **Read one byte of the last quad**, at index `i` of the quad that starts at `start`: an `=`
is refused in the first two places; a symbol after an `=` is refused at that `=`. -/
def Tail.push (start : Nat) (t : Tail) (i : Nat) (b : UInt8) : Except DecodeError Tail :=
  if b == pad then
    if i < 2 then throw (.invalidByte (start + i) b)
    else pure { t with pads := t.pads + 1, firstPad := if t.pads == 0 then i else t.firstPad }
  else if t.pads > 0 then throw (.invalidByte (start + t.firstPad) pad)
  else
    match symbolValue? b with
    | some v => pure { t with values := t.values ++ [v], lastSymbol := b }
    | none => throw (.invalidByte (start + i) b)

/-- **Read the bytes of the last quad from index `i`.** -/
def Tail.pushAll (start : Nat) : Tail → Nat → List UInt8 → Except DecodeError Tail
  | t, _, [] => pure t
  | t, i, b :: bs => do
    let t' ← t.push start i b
    Tail.pushAll start t' (i + 1) bs

/-- **The bytes of the last quad**, which starts at `start`: at least two symbols when the text
is not empty, padding that completes the quad, and no bits left over in the last symbol. -/
def decodeTail (nonEmpty : Bool) (start : Nat) (quad : List UInt8) :
    Except DecodeError (List UInt8) := do
  let t ← Tail.pushAll start {} 0 quad
  let n := t.values.length
  if nonEmpty && n < 2 then throw (.invalidLength (start + n))
  if (t.pads + n) % 4 != 0 then throw .invalidPadding
  let v := fun k => t.values.getD k 0
  let bits := v 0 * Nat.pow 2 26 + v 1 * Nat.pow 2 20 + v 2 * Nat.pow 2 14 + v 3 * Nat.pow 2 8
  let count := n * 6 / 8
  if bits % Nat.pow 2 (32 - 8 * count) != 0 then
    throw (.invalidLastSymbol (start + n - 1) t.lastSymbol)
  pure ((List.range count).map fun k => (bits / Nat.pow 2 (24 - 8 * k) % 256).toUInt8)

/-- **Decode a base64 text.** -/
def decode (input : List UInt8) : Except DecodeError (List UInt8) := do
  let len := input.length
  let rem := len % 4
  if rem == 1 then
    match input.getLast? with
    | some last =>
      if last != pad && (symbolValue? last).isNone then throw (.invalidByte (len - 1) last)
    | none => pure ()
  let bodyLen := len - rem - (if rem == 0 then 4 else 0)
  let values ← bodyValues 0 (input.take bodyLen)
  let tail ← decodeTail (!input.isEmpty) bodyLen (input.drop bodyLen)
  pure (quadsBytes values ++ tail)

end StyleRebase.Encoding.Base64
