import StyleRebase.Unicode.RangeTable
import StyleRebase.Idna.MappingData

/-! # The IDNA mapping table

Unicode Technical Standard 46 gives every code point a status for domain names: valid, a
deviation (valid in the processing used here), ignored (dropped), disallowed, or mapped to a
sequence of code points (case folding, compatibility forms).

* **`Status`** — the statuses.
* **`status`** — the status of a code point. -/

namespace StyleRebase.Idna

/-- **The status of a code point in domain names.** -/
inductive Status where
  | valid
  | deviation
  | ignored
  | disallowed
  /-- Replaced by these code points. -/
  | mapped (target : List Nat)
  deriving DecidableEq, Repr, Inhabited

/-- **The status an entry of the data gives.** -/
def Status.ofFields? : List String → Option Status
  | ["V"] => some .valid
  | ["D"] => some .deviation
  | ["I"] => some .ignored
  | ["X"] => some .disallowed
  | "M" :: cps => (cps.mapM Unicode.hexValue?).map .mapped
  | _ => none

/-- **The mapping table.** -/
def mappingTable : Unicode.RangeTable Status := Unicode.RangeTable.ofText Status.ofFields? mappingText

/-- **The status of a code point.** -/
def status (cp : Nat) : Status := mappingTable.find .disallowed cp

/-- **Whether a code point may stand in a label**: valid, or a deviation. -/
def isAllowed (cp : Nat) : Bool :=
  match status cp with
  | .valid | .deviation => true
  | _ => false

end StyleRebase.Idna
