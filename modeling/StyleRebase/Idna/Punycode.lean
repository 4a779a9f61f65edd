/-! # Punycode

The ASCII form of a Unicode label (RFC 3492, with the parameters of IDNA): the label's ASCII
code points as they are, then, after a `-` if there were any, the others as variable-length
numbers in base 36, each saying which code point to insert where. Numbers are 32-bit: a text
whose reading runs past 2^32 - 1 is refused, as is one that spells no code point.

* **`Punycode.decode`** — the code points of an encoded label.
* **`Punycode.encode`** — the encoded form of a label's code points. -/

namespace StyleRebase.Idna.Punycode

/-- **The base of the numbers.** -/
def base : Nat := 36

/-- **The least threshold.** -/
def tMin : Nat := 1

/-- **The greatest threshold.** -/
def tMax : Nat := 26

/-- **The skew of bias adaptation.** -/
def skew : Nat := 38

/-- **The damping of the first adaptation.** -/
def damp : Nat := 700

/-- **The bias to start with.** -/
def initialBias : Nat := 72

/-- **The code point to start with.** -/
def initialN : Nat := 128

/-- **The bound of 32-bit numbers.** -/
def limit : Nat := Nat.pow 2 32

/-- **The value of a digit**: `a`-`z` (either case) are 0 to 25, `0`-`9` are 26 to 35. -/
def digitValue? (c : Char) : Option Nat :=
  if 'a' ≤ c && c ≤ 'z' then some (c.toNat - 97)
  else if 'A' ≤ c && c ≤ 'Z' then some (c.toNat - 65)
  else if '0' ≤ c && c ≤ '9' then some (c.toNat - 48 + 26)
  else none

/-- **The digit of a value below 36.** -/
def digitChar (d : Nat) : Char :=
  if d < 26 then Char.ofNat (97 + d) else Char.ofNat (48 + d - 26)

/-- **The threshold at a position** of a number, given the bias. -/
def threshold (k bias : Nat) : Nat :=
  if k ≤ bias then tMin else if k ≥ bias + tMax then tMax else k - bias

/-- **Every threshold is positive.** -/
theorem threshold_pos (k bias : Nat) : 0 < threshold k bias := by
  unfold threshold tMin tMax
  split
  · decide
  · split <;> omega

/-- **Scale a delta down** while it exceeds `((base - tMin) · tMax) / 2`, counting steps of
`base`. -/
def scaleDown (delta k : Nat) : Nat × Nat :=
  if delta > 455 then scaleDown (delta / 35) (k + base) else (delta, k)
termination_by delta
decreasing_by omega

/-- **The bias after a code point**, from the delta that placed it. -/
def adapt (delta numPoints : Nat) (first : Bool) : Nat :=
  let delta := if first then delta / damp else delta / 2
  let delta := delta + delta / numPoints
  let (delta, k) := scaleDown delta 0
  k + (base - tMin + 1) * delta / (delta + skew)

/-- **Read one variable-length number** into `i`, with weight `w` at position `k`: the new `i`
and the text after the number. -/
def readNumber (bias : Nat) : List Char → Nat → Nat → Nat → Option (Nat × List Char)
  | [], _, _, _ => none
  | c :: cs, i, w, k => do
    let d ← digitValue? c
    if d * w + i ≥ limit then none
    let i := i + d * w
    let t := threshold k bias
    if d < t then some (i, cs)
    else
      if w * (base - t) ≥ limit then none
      readNumber bias cs i (w * (base - t)) (k + base)

/-- **Whether a number is a code point** that is not a surrogate. -/
def isScalar (n : Nat) : Bool := n ≤ 0x10FFFF && !(0xD800 ≤ n && n ≤ 0xDFFF)

/-- **Insert the encoded code points** into the output, one number at a time; `fuel` bounds
the number of numbers, each of which takes at least one character. -/
def insertAll : Nat → List Char → List Nat → Nat → Nat → Nat → Option (List Nat)
  | _, [], out, _, _, _ => some out
  | 0, _ :: _, _, _, _, _ => none
  | fuel + 1, cs@(_ :: _), out, n, i, bias => do
    let (i', rest) ← readNumber bias cs i 1 base
    let len := out.length + 1
    let bias' := adapt (i' - i) len (i == 0)
    if n + i' / len ≥ limit then none
    let n' := n + i' / len
    let pos := i' % len
    if !isScalar n' then none
    insertAll fuel rest (out.insertIdx pos n') n' (pos + 1) bias'

/-- **The position of the last `-`** of a text. -/
def lastDash? (cs : List Char) : Option Nat :=
  (cs.zipIdx.filter fun (c, _) => c == '-').getLast?.map (·.2)

/-- **The code points of an encoded label.** The ASCII part runs up to the last `-` when that
is not the first character. -/
def decode (input : List Char) : Option (List Nat) :=
  let (basic, extended) := match lastDash? input with
    | some p => if p > 0 then (input.take p, input.drop (p + 1)) else ([], input)
    | none => ([], input)
  if basic.any (·.toNat ≥ 0x80) then none
  else insertAll extended.length extended (basic.map Char.toNat) initialN 0 initialBias

/-- **The digits of a number**, given the bias: a digit per position until one is below its
threshold. -/
def numberDigits (bias : Nat) (q k : Nat) : List Char :=
  let t := threshold k bias
  if q < t ∨ base ≤ t then [digitChar q]
  else digitChar (t + (q - t) % (base - t)) :: numberDigits bias ((q - t) / (base - t)) (k + base)
termination_by q
decreasing_by
  have := threshold_pos k bias
  apply Nat.lt_of_le_of_lt (Nat.div_le_self _ _)
  omega

/-- **State of encoding**: the output so far, the next code point, the delta, the bias, and
how many code points are placed. -/
structure Encoding where
  out : List Char
  n : Nat
  delta : Nat
  bias : Nat
  placed : Nat

/-- **Encode every code point equal to `n`**, walking the input once. -/
def Encoding.pass (input : List Nat) (basicCount : Nat) (st : Encoding) : Encoding :=
  input.foldl (fun st c =>
    if c < st.n then { st with delta := st.delta + 1 }
    else if c == st.n then
      { st with out := st.out ++ numberDigits st.bias st.delta base
                delta := 0, placed := st.placed + 1
                bias := adapt st.delta (st.placed + 1) (st.placed == basicCount) }
    else st) st

/-- **Encode the code points from the smallest not yet placed on**, one value at a time; `fuel`
bounds the number of values. -/
def encodeFrom (input : List Nat) (basicCount : Nat) : Nat → Encoding → Option Encoding
  | 0, st => some st
  | fuel + 1, st =>
    if st.placed ≥ input.length then some st
    else
      match (input.filter (· ≥ st.n)).min? with
      | none => some st
      | some m =>
        let delta := st.delta + (m - st.n) * (st.placed + 1)
        if delta ≥ limit then none
        else
          let st := Encoding.pass input basicCount { st with n := m, delta }
          encodeFrom input basicCount fuel { st with delta := st.delta + 1, n := st.n + 1 }

/-- **The encoded form of a label's code points.** -/
def encode (input : List Nat) : Option (List Char) :=
  let basic := input.filter (· < 0x80)
  let start : Encoding :=
    { out := basic.map Char.ofNat ++ (if basic.isEmpty then [] else ['-'])
      n := initialN, delta := 0, bias := initialBias, placed := basic.length }
  (encodeFrom input basic.length input.length start).map (·.out)

end StyleRebase.Idna.Punycode
