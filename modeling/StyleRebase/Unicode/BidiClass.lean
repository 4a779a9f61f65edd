import StyleRebase.Unicode.RangeTable
import StyleRebase.Unicode.BidiClassData

/-! # Bidirectional classes

The Bidi_Class of a code point, as far as the rules for labels of domain names tell classes
apart: the strong, weak and neutral classes by name, and the rest (separators, white space and
the explicit formatting controls) together.

* **`BidiClass`** — the classes.
* **`bidiClass`** — the class of a code point. -/

namespace StyleRebase.Unicode

/-- **A bidirectional class.** -/
inductive BidiClass where
  /-- `L`, strong left to right. -/
  | leftToRight
  /-- `R`, strong right to left. -/
  | rightToLeft
  /-- `AL`, strong right to left, Arabic. -/
  | arabicLetter
  /-- `EN`, a European digit. -/
  | europeanNumber
  /-- `ES`, a European number separator. -/
  | europeanSeparator
  /-- `ET`, a European number terminator. -/
  | europeanTerminator
  /-- `AN`, an Arabic digit. -/
  | arabicNumber
  /-- `CS`, a common number separator. -/
  | commonSeparator
  /-- `NSM`, a nonspacing mark. -/
  | nonspacingMark
  /-- `BN`, a boundary neutral. -/
  | boundaryNeutral
  /-- `ON`, another neutral. -/
  | otherNeutral
  /-- Separators, white space and explicit formatting controls. -/
  | other
  deriving DecidableEq, Repr, Inhabited

/-- **The class an abbreviation of the data stands for.** -/
def BidiClass.ofCode? : List String → Option BidiClass
  | ["L"] => some .leftToRight
  | ["R"] => some .rightToLeft
  | ["AL"] => some .arabicLetter
  | ["EN"] => some .europeanNumber
  | ["ES"] => some .europeanSeparator
  | ["ET"] => some .europeanTerminator
  | ["AN"] => some .arabicNumber
  | ["CS"] => some .commonSeparator
  | ["NSM"] => some .nonspacingMark
  | ["BN"] => some .boundaryNeutral
  | ["ON"] => some .otherNeutral
  | ["O"] => some .other
  | _ => none

/-- **The table of bidirectional classes.** -/
def bidiClassTable : RangeTable BidiClass := RangeTable.ofText BidiClass.ofCode? bidiClassText

/-- **The bidirectional class of a code point.** -/
def bidiClass (cp : Nat) : BidiClass := bidiClassTable.find .leftToRight cp

end StyleRebase.Unicode
