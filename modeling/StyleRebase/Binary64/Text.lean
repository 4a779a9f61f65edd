import StyleRebase.Binary64.Shortest

/-! # Writing binary64 numbers in decimal

A number is written with the digits of its shortest decimal form, positionally when its decimal
exponent lies in a range and in exponent notation otherwise. How exactly is a matter of
convention, gathered in a `Notation`.

* **`Binary64.Notation`** — the conventions: the range written positionally, and the marks of
  the exponent notation.
* **`Binary64.render`** — a number's text under a notation. -/

namespace StyleRebase.Binary64

/-- **Conventions for writing a number in decimal.** A number whose shortest form has `n` digits
before the point of its scientific form, `10^(n-1) ≤ |x| < 10^n`, is written positionally when
`lowest < n ≤ highest`; an integer so written ends in `.0`. Otherwise it is written as its first
digit, a point and the other digits if there are any, the exponent mark and the exponent. -/
structure Notation where
  /-- The exclusive lower end of the positional range. -/
  lowest : Int
  /-- The inclusive upper end of the positional range. -/
  highest : Int
  /-- The mark before an exponent. -/
  mark : String
  /-- Whether a positive exponent is written with `+`. -/
  plusSign : Bool
  /-- The text of zero, after the sign. -/
  zeroText : String

/-- **A run of zeros.** -/
def zeros (n : Nat) : String := String.ofList (List.replicate n '0')

/-- **A number's text under a notation.** -/
def render (f : Notation) (x : Binary64) : String :=
  let sign := if x.negative then "-" else ""
  if x.isZero then sign ++ f.zeroText
  else
    let (d, k) := x.shortest
    let ds := Nat.toDigits 10 d
    let n : Int := ds.length + k
    let body :=
      if f.lowest < n && n ≤ f.highest then
        if k ≥ 0 then String.ofList ds ++ zeros k.toNat ++ ".0"
        else if n > 0 then
          String.ofList (ds.take n.toNat) ++ "." ++ String.ofList (ds.drop n.toNat)
        else "0." ++ zeros (-n).toNat ++ String.ofList ds
      else
        let digits := match ds with
          | first :: rest@(_ :: _) => String.ofList (first :: '.' :: rest)
          | _ => String.ofList ds
        let exp := n - 1
        let expSign := if exp < 0 then "-" else if f.plusSign then "+" else ""
        digits ++ f.mark ++ expSign ++ toString exp.natAbs
    sign ++ body

end StyleRebase.Binary64
