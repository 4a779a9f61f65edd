/-! # Binary64 numbers

The finite numbers of the IEEE 754 binary64 format, held as exact quantities: a sign, and a
magnitude `significand · 2^exponent` with at most 53 significant bits and an exponent of at
least `-1074`. A magnitude has one form: a normal number has a significand of exactly 53 bits,
a subnormal number and zero have the least exponent.

An operation is exact arithmetic followed by one rounding to the nearest magnitude of the
format, a tie going to the even significand. A magnitude that rounds past the largest finite
one overflows, and the operation gives `none`.

* **`Binary64`** — a finite number.
* **`Binary64.round`** — the number nearest to a ratio times a power of two.
* **`Binary64.ofNat`**, **`Binary64.mul`**, **`Binary64.div`** — conversion, product and
  quotient, each rounded once.
* **`Binary64.pow10`** — the number nearest to a power of ten. -/

namespace StyleRebase

/-- **A finite binary64 number**: `(-1)^negative · significand · 2^exponent`. -/
structure Binary64 where
  negative : Bool
  significand : Nat
  exponent : Int
  deriving DecidableEq, Repr, Inhabited

namespace Binary64

/-- **The least exponent**, that of the subnormal numbers and zero. -/
def minExponent : Int := -1074

/-- **The greatest exponent** of a finite number. -/
def maxExponent : Int := 971

/-- **The least significand of a normal number**, 2^52. -/
def hiddenBit : Nat := Nat.pow 2 52

/-- **A power of two with an integer exponent**, as numerator and denominator. -/
def twoPow (k : Int) : Nat × Nat := (Nat.pow 2 k.toNat, Nat.pow 2 (-k).toNat)

/-- **The floor of the binary logarithm of a positive ratio** `num / den`: the logarithms of
numerator and denominator give it up to one. -/
def log2Ratio (num den : Nat) : Int :=
  let l : Int := (Nat.log2 num : Int) - (Nat.log2 den : Int)
  let (p, q) := twoPow l
  if num * q ≥ den * p then l else l - 1

/-- **Divide, rounding to the nearest quotient**, a tie to the even one. -/
def divNearestEven (n d : Nat) : Nat :=
  let q := n / d
  let r := n % d
  if 2 * r > d || (2 * r == d && q % 2 == 1) then q + 1 else q

/-- **The magnitude nearest to `num / den · 2^shift`**, as significand and exponent, or `none`
when it overflows. The exponent is chosen so that the scaled ratio has 53 bits before the
point (or is the least exponent); a significand rounded up to 2^53 moves to the next one. -/
def roundMagnitude (num den : Nat) (shift : Int) : Option (Nat × Int) :=
  if num == 0 || den == 0 then some (0, minExponent)
  else
    let e := max minExponent (log2Ratio num den + shift - 52)
    let (p, q) := twoPow (shift - e)
    let m := divNearestEven (num * p) (den * q)
    let (m, e) := if m == 2 * hiddenBit then (hiddenBit, e + 1) else (m, e)
    if e > maxExponent then none else some (m, e)

/-- **The number nearest to `±num / den · 2^shift`**, or `none` when it overflows. -/
def round (negative : Bool) (num den : Nat) (shift : Int) : Option Binary64 :=
  (roundMagnitude num den shift).map fun (m, e) => ⟨negative, m, e⟩

/-- **Zero**, positive. -/
def zero : Binary64 := ⟨false, 0, minExponent⟩

/-- **Whether a number is zero**, of either sign. -/
def isZero (x : Binary64) : Bool := x.significand == 0

/-- **The number with the other sign.** -/
def neg (x : Binary64) : Binary64 := { x with negative := !x.negative }

/-- **The number nearest to a natural number**; `none` from 2^1024 on. -/
def ofNat (n : Nat) : Option Binary64 := round false n 1 0

/-- **The product**, rounded; `none` on overflow. -/
def mul (x y : Binary64) : Option Binary64 :=
  round (x.negative != y.negative) (x.significand * y.significand) 1 (x.exponent + y.exponent)

/-- **The quotient**, rounded; `none` on overflow and for a zero divisor. -/
def div (x y : Binary64) : Option Binary64 :=
  if y.isZero then none
  else round (x.negative != y.negative) x.significand y.significand (x.exponent - y.exponent)

/-- **The number nearest to `10^k`**: finite up to `10^308`; zero stands for the powers above,
which overflow. -/
def pow10 (k : Nat) : Binary64 := ((ofNat (Nat.pow 10 k)).getD zero)

end Binary64

end StyleRebase
