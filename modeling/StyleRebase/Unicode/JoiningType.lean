import StyleRebase.Unicode.RangeTable
import StyleRebase.Unicode.JoiningTypeData

/-! # Joining types

How a character of a cursive script joins its neighbours, which decides where a zero width
non-joiner may stand in a label.

* **`JoiningType`** — the types.
* **`joiningType`** — the type of a code point; characters not listed do not join. -/

namespace StyleRebase.Unicode

/-- **A joining type.** -/
inductive JoiningType where
  /-- `D`, joins on both sides. -/
  | dual
  /-- `L`, joins on the left side. -/
  | left
  /-- `R`, joins on the right side. -/
  | right
  /-- `T`, transparent to joining. -/
  | transparent
  /-- `C`, causes joining. -/
  | causing
  /-- `U`, does not join. -/
  | nonJoining
  deriving DecidableEq, Repr, Inhabited

/-- **The type a letter of the data stands for.** -/
def JoiningType.ofCode? : List String → Option JoiningType
  | ["D"] => some .dual
  | ["L"] => some .left
  | ["R"] => some .right
  | ["T"] => some .transparent
  | ["C"] => some .causing
  | ["U"] => some .nonJoining
  | _ => none

/-- **The table of joining types.** -/
def joiningTypeTable : RangeTable JoiningType :=
  RangeTable.ofText JoiningType.ofCode? joiningTypeText

/-- **The joining type of a code point.** -/
def joiningType (cp : Nat) : JoiningType := joiningTypeTable.find .nonJoining cp

end StyleRebase.Unicode
