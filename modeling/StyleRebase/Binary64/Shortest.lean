import StyleRebase.Binary64.Basic

/-! # Shortest decimal form of a binary64 number

A binary64 number is the nearest number of the format to every real of an interval around it,
its rounding interval: halfway to each neighbour, both ends included when the significand is
even. The shortest decimal form of the number is a decimal of that interval with the fewest
significant digits, so it reads back as the number. Of two such decimals the one nearer the
number is taken, and of two equally near the one with an even last digit.

Everything is exact arithmetic on natural numbers: the number and the ends of its interval are
multiples of a power of two, the candidates multiples of a power of ten.

* **`Binary64.shortest`** — digits `d` and exponent `k` with `d · 10^k` the shortest decimal
  form of a nonzero number's magnitude; `d` ends in a nonzero digit. -/

namespace StyleRebase.Binary64

/-- **Compare `d · 10^k` with `c · 2^b`.** -/
def compareScaled (d : Nat) (k : Int) (c : Nat) (b : Int) : Ordering :=
  compare (d * Nat.pow 10 k.toNat * Nat.pow 2 (-b).toNat)
    (c * Nat.pow 2 b.toNat * Nat.pow 10 (-k).toNat)

/-- **The floor of `c · 2^b / 10^k`.** -/
def floorScaled (c : Nat) (b k : Int) : Nat :=
  c * Nat.pow 2 b.toNat * Nat.pow 10 (-k).toNat / (Nat.pow 2 (-b).toNat * Nat.pow 10 k.toNat)

/-- **Move a guess of a decimal exponent** to the `p` with `10^p ≤ c · 2^b < 10^(p+1)`, one step
at a time. -/
def settleExponent (c : Nat) (b : Int) : Int → Nat → Int
  | p, 0 => p
  | p, fuel + 1 =>
    if compareScaled 1 p c b == .gt then settleExponent c b (p - 1) fuel
    else if compareScaled 1 (p + 1) c b != .gt then settleExponent c b (p + 1) fuel
    else p

/-- **The decimal exponent of a positive magnitude `c · 2^b`**: the `p` with
`10^p ≤ c · 2^b < 10^(p+1)`. The binary logarithm times `log10 2` misses it by at most one. -/
def decimalExponent (c : Nat) (b : Int) : Int :=
  settleExponent c b (((Nat.log2 c : Int) + b) * 30103 / 100000) 4

/-- **The gap below a magnitude, in units of a quarter of the gap above**: half as large when
the significand is the least of a binade above the lowest. -/
def lowerGap (m : Nat) (e : Int) : Nat :=
  if m == hiddenBit && e > minExponent then 1 else 2

/-- **Drop trailing zeros** of `d · 10^k`. -/
def dropZeros (d : Nat) (k : Int) : Nat × Int :=
  if h : d ≠ 0 ∧ d % 10 = 0 then dropZeros (d / 10) (k + 1) else (d, k)
termination_by d
decreasing_by omega

/-- **The decimal of `n` significant digits nearest to a magnitude inside its rounding
interval**, if there is one. The magnitude is `c · 2^b` with decimal exponent `p`; the interval
runs from `lo · 2^b` to `hi · 2^b`, its ends included when `closed`. Only the two decimals of
`n` digits around the magnitude can be nearest. -/
def nearestOfLength (c lo hi : Nat) (b p : Int) (closed : Bool) (n : Nat) : Option (Nat × Int) :=
  let k := p + 1 - n
  let inside (d : Nat) : Bool :=
    let l := compareScaled d k lo b
    let h := compareScaled d k hi b
    (l == .gt || (closed && l == .eq)) && (h == .lt || (closed && h == .eq))
  let d := floorScaled c b k
  match inside d, inside (d + 1) with
  | true, true =>
    match compareScaled (2 * d + 1) k (2 * c) b with
    | .gt => some (d, k)
    | .lt => some (d + 1, k)
    | .eq => some (if d % 2 == 0 then d else d + 1, k)
  | true, false => some (d, k)
  | false, true => some (d + 1, k)
  | false, false => none

/-- **The shortest decimal form of a nonzero magnitude** `m · 2^e`: the fewest digits, from 1
to 17, that have a decimal in the rounding interval (17 digits always do); `(0, 0)` for zero. -/
def shortestOf (m : Nat) (e : Int) : Nat × Int :=
  if m == 0 then (0, 0)
  else
    let c := 4 * m
    let b := e - 2
    let p := decimalExponent c b
    let found := (List.range 17).findSome?
      (fun i => nearestOfLength c (c - lowerGap m e) (c + 2) b p (m % 2 == 0) (i + 1))
    let (d, k) := found.getD (floorScaled c b (p - 16), p - 16)
    dropZeros d k

/-- **The shortest decimal form of a number's magnitude.** -/
def shortest (x : Binary64) : Nat × Int := shortestOf x.significand x.exponent

end StyleRebase.Binary64
