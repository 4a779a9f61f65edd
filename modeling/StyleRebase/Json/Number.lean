import StyleRebase.Json.Value
import StyleRebase.Binary64.Text

/-! # The values of JSON numbers

A number read as a value becomes an integer when it is written as one and fits 64 bits, and a
binary64 number otherwise.

* An integer without `-` below 2^64 is **unsigned**; one with `-` is **signed** when its
  magnitude is between 1 and 2^63. Other integers, `-0` among them, are binary64 numbers.
* Otherwise the number is taken as a 64-bit significand and a decimal exponent. Digits go into
  the significand while it stays below 2^64: further digits before the point raise the
  exponent, further digits after it are passed over, and each digit taken after the point
  lowers the exponent. A written exponent beyond 2^31 - 1 makes the number zero, or too large
  when it is positive and the significand is not zero; otherwise it is added, the sum kept
  within 32 bits.
* The binary64 value is the significand rounded, then multiplied or divided by the rounded power
  of ten (`Binary64.scaleByTen`). A number too large for binary64 has no value.

* **`Json.Numeric`** — the value of a number; **`Json.Number.value?`** — a number's value.
* **`Json.Numeric.toU32?`** — the value as a 32-bit unsigned integer.
* **`Json.Numeric.text`** — the value written back: integers in decimal, binary64 numbers in
  their shortest form. -/

namespace StyleRebase

/-- **A number times a power of ten**, each step rounded, with `big` the rounded `10^308`: a
power up to `10^308` multiplies or divides once; a smaller one is approached by dividing by
`big` while the number is not zero. A product past the largest finite number, or a larger power
of a nonzero number, gives `none`. -/
def Binary64.scaleWith (big x : Binary64) (exp : Int) : Option Binary64 :=
  if exp.natAbs ≤ 308 then
    if exp ≥ 0 then x.mul (pow10 exp.toNat) else x.div (pow10 exp.natAbs)
  else if x.isZero then some x
  else if exp ≥ 0 then none
  else
    match x.div big with
    | some y => scaleWith big y (exp + 308)
    | none => none
termination_by exp.natAbs
decreasing_by omega

/-- **A number times a power of ten**, each step rounded (`Binary64.scaleWith`). -/
def Binary64.scaleByTen (x : Binary64) (exp : Int) : Option Binary64 :=
  scaleWith (pow10 308) x exp

namespace Json

/-- **The value of a JSON number.** -/
inductive Numeric where
  /-- An integer from 0 to 2^64 - 1. -/
  | unsigned (n : Nat)
  /-- An integer from -2^63 to -1. -/
  | signed (n : Int)
  | float (x : Binary64)
  deriving DecidableEq, Repr, Inhabited

/-- **The largest 64-bit unsigned integer.** -/
def u64Max : Nat := Nat.pow 2 64 - 1

/-- **The largest 32-bit signed integer.** -/
def i32Max : Nat := Nat.pow 2 31 - 1

/-- **The value of decimal digits.** -/
def digitsValue (ds : List Nat) : Nat := ds.foldl (fun acc d => acc * 10 + d) 0

/-- **Digits gathered into a significand below 2^64**: digits are taken while the significand
stays within 64 bits; the digits from the first that does not fit on are given back. -/
def gather (s : Nat) : List Nat → Nat × List Nat
  | [] => (s, [])
  | d :: ds => if s * 10 + d > u64Max then (s, d :: ds) else gather (s * 10 + d) ds

/-- **An exponent kept within 32 signed bits.** -/
def clampExponent (e : Int) : Int := max (-(i32Max : Int) - 1) (min e i32Max)

/-- **The binary64 number of a sign, a significand and a decimal exponent.** -/
def floatOf (negative : Bool) (s : Nat) (exp : Int) : Option Binary64 := do
  let x ← (Binary64.ofNat s).bind (·.scaleByTen exp)
  pure (if negative then x.neg else x)

/-- **The value of a number**, or `none` when it is too large for binary64. -/
def Number.value? (n : Number) : Option Numeric :=
  let (s, extra) := gather 0 n.integer
  let (s, unused) := gather s n.fraction
  let exp : Int := extra.length - (n.fraction.length - unused.length)
  match n.exponent with
  | some (expNegative, ds) =>
    let e := digitsValue ds
    if e > i32Max then
      if s != 0 && !expNegative then none
      else some (.float { Binary64.zero with negative := n.negative })
    else
      let total := clampExponent (if expNegative then exp - e else exp + e)
      (floatOf n.negative s total).map .float
  | none =>
    if !extra.isEmpty || !n.fraction.isEmpty then (floatOf n.negative s exp).map .float
    else if !n.negative then some (.unsigned s)
    else if 1 ≤ s && s ≤ Nat.pow 2 63 then some (.signed (-(s : Int)))
    else (floatOf true s 0).map .float

/-- **The value as a 32-bit unsigned integer**: only an unsigned integer below 2^32 is one. -/
def Numeric.toU32? : Numeric → Option Nat
  | .unsigned n => if n < Nat.pow 2 32 then some n else none
  | _ => none

/-- **How binary64 values are written**: positionally from `10^-5` up to below `10^16`, else
with `e` and a signed exponent; zero is `0.0`. -/
def floatNotation : Binary64.Notation :=
  { lowest := -5, highest := 16, mark := "e", plusSign := true, zeroText := "0.0" }

/-- **The value written back**: an integer in decimal, a binary64 number in its shortest form. -/
def Numeric.text : Numeric → String
  | .unsigned n => toString n
  | .signed n => toString n
  | .float x => Binary64.render floatNotation x

end Json

end StyleRebase
