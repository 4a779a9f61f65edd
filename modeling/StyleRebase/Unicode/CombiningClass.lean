import StyleRebase.Unicode.RangeTable
import StyleRebase.Unicode.CombiningClassData
import StyleRebase.Unicode.MarkData

/-! # Combining classes and marks

* **`combiningClass`** — the canonical combining class of a code point: 0 for starters, the
  order in which marks are arranged otherwise; 9 is the class of viramas.
* **`isMark`** — whether a code point is a combining mark (General_Category Mark). -/

namespace StyleRebase.Unicode

/-- **The table of canonical combining classes.** -/
def combiningClassTable : RangeTable Nat :=
  RangeTable.ofText (fun fields => match fields with
    | [n] => n.toNat?
    | _ => none) combiningClassText

/-- **The canonical combining class of a code point.** -/
def combiningClass (cp : Nat) : Nat := combiningClassTable.find 0 cp

/-- **The combining class of viramas.** -/
def viramaClass : Nat := 9

/-- **The table of combining marks.** -/
def markTable : RangeTable Bool :=
  RangeTable.ofText (fun fields => match fields with
    | ["M"] => some true
    | ["N"] => some false
    | _ => none) markText

/-- **Whether a code point is a combining mark.** -/
def isMark (cp : Nat) : Bool := markTable.find false cp

end StyleRebase.Unicode
