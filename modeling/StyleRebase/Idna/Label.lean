import StyleRebase.Unicode.BidiClass
import StyleRebase.Unicode.CombiningClass
import StyleRebase.Unicode.JoiningType

/-! # Rules on the labels of a domain name

A label of an internationalized domain name must read unambiguously: it may not start with a
combining mark, a zero-width joiner or non-joiner may stand only where it changes how the
letters around it join, and a label of a domain that holds right-to-left text must keep one
direction (the Bidi rule).

* **`startsWithMark`** — whether a label starts with a combining mark.
* **`joinersInContext`** — whether every joiner and non-joiner stands where it may.
* **`isBidiDomainChar`**, **`passesBidi`** — the Bidi rule. -/

namespace StyleRebase.Idna

open Unicode

/-- **The zero-width non-joiner.** -/
def zeroWidthNonJoiner : Nat := 0x200C

/-- **The zero-width joiner.** -/
def zeroWidthJoiner : Nat := 0x200D

/-- **Whether a label starts with a combining mark.** -/
def startsWithMark (label : List Nat) : Bool :=
  match label with
  | c :: _ => isMark c
  | [] => false

/-- **Whether a code point is a virama**: its combining class is the virama class. -/
def isVirama (cp : Nat) : Bool := combiningClass cp == viramaClass

/-- **Whether a non-joiner sits in a joining context on one side**: walking away from it over
transparent code points, the first other code point has one of the joining types `sides`. -/
def joinsOnSide (sides : List JoiningType) : List Nat → Bool
  | [] => false
  | c :: cs =>
    match joiningType c with
    | .transparent => joinsOnSide sides cs
    | t => sides.contains t

/-- **Whether the joiner or non-joiner `c` may stand** between `before` (nearest first) and
`after`: after a virama either may; a non-joiner also between a left- or dual-joining letter and
a right- or dual-joining one, transparent code points between. Other code points always may. -/
def joinerAllowed (before : List Nat) (c : Nat) (after : List Nat) : Bool :=
  if c == zeroWidthNonJoiner then
    before.head?.any isVirama ||
      (joinsOnSide [.left, .dual] before && joinsOnSide [.right, .dual] after)
  else if c == zeroWidthJoiner then before.head?.any isVirama
  else true

/-- **Whether every joiner and non-joiner stands where it may**, walking the label with the
code points passed so far, nearest first. -/
def joinersFrom (before : List Nat) : List Nat → Bool
  | [] => true
  | c :: after => joinerAllowed before c after && joinersFrom (c :: before) after

/-- **Whether every joiner and non-joiner of a label stands where it may.** -/
def joinersInContext (label : List Nat) : Bool := joinersFrom [] label

/-- **Whether a code point makes a domain one with right-to-left text**: it is right-to-left,
an Arabic letter or an Arabic number. -/
def isBidiDomainChar (cp : Nat) : Bool :=
  match bidiClass cp with
  | .rightToLeft | .arabicLetter | .arabicNumber => true
  | _ => false

/-- **The classes a left-to-right label may hold.** -/
def leftToRightClasses : List BidiClass :=
  [.leftToRight, .europeanNumber, .europeanSeparator, .commonSeparator, .europeanTerminator,
    .otherNeutral, .boundaryNeutral, .nonspacingMark]

/-- **The classes a right-to-left label may hold.** -/
def rightToLeftClasses : List BidiClass :=
  [.rightToLeft, .arabicLetter, .arabicNumber, .europeanNumber, .europeanSeparator,
    .commonSeparator, .europeanTerminator, .otherNeutral, .boundaryNeutral, .nonspacingMark]

/-- **The class of the last code point that is not a nonspacing mark**, if any. -/
def lastClassBeforeMarks (label : List Nat) : Option BidiClass :=
  ((label.map bidiClass).reverse.dropWhile (· == .nonspacingMark)).head?

/-- **The Bidi rule for one label.** A left-to-right label (first code point of class L) holds
only left-to-right classes and ends, before any nonspacing marks, in L or a European number. A
right-to-left label (first code point R or AL) holds only right-to-left classes, ends before any
nonspacing marks in R, AL or a number, and does not mix European and Arabic numbers. A label
starting otherwise fails; the empty label passes. -/
def passesBidi (label : List Nat) : Bool :=
  match label with
  | [] => true
  | first :: rest =>
    let classes := rest.map bidiClass
    match bidiClass first with
    | .leftToRight =>
      classes.all leftToRightClasses.contains &&
        (lastClassBeforeMarks label).all fun c => c == .leftToRight || c == .europeanNumber
    | .rightToLeft | .arabicLetter =>
      classes.all rightToLeftClasses.contains &&
        (lastClassBeforeMarks label).any
          (fun c => [.rightToLeft, .arabicLetter, .europeanNumber, .arabicNumber].contains c) &&
        !(classes.contains .europeanNumber && classes.contains .arabicNumber)
    | _ => false

end StyleRebase.Idna
