/-! # Debug identifiers

A source map may name the build it belongs to by a debug identifier: a UUID and an appendix.
The text is ASCII; the UUID is 32 hexadecimal digits, or 36 characters hyphenated in groups of
8-4-4-4-12 (the text is read as hyphenated when its ninth character is `-`). An appendix may
follow, after a hyphen exactly when the UUID is hyphenated: at most eight characters of it are
read, as hexadecimal digits with an optional leading `+`, and the rest is passed over.

* **`DebugId`** — the UUID's digits and the appendix.
* **`DebugId.parse?`** — the identifier a text spells, if any. -/

namespace StyleRebase.SourceMap

/-- **A debug identifier**: the UUID's 32 hexadecimal digits and the appendix. -/
structure DebugId where
  uuid : List Nat
  appendix : Nat
  deriving DecidableEq, Repr

namespace DebugId

/-- **The value of a hexadecimal digit.** -/
def hexValue (c : Char) : Option Nat :=
  if '0' ≤ c && c ≤ '9' then some (c.toNat - 48)
  else if 'a' ≤ c && c ≤ 'f' then some (c.toNat - 87)
  else if 'A' ≤ c && c ≤ 'F' then some (c.toNat - 55)
  else none

/-- **The digits of a UUID**: 32 hexadecimal digits, or 36 characters with `-` at the positions
8, 13, 18 and 23 and hexadecimal digits elsewhere. -/
def uuidDigits (cs : List Char) : Option (List Nat) :=
  if cs.length == 32 then cs.mapM hexValue
  else if cs.length == 36 then
    let hyphens := [8, 13, 18, 23]
    if hyphens.all fun i => cs[i]? == some '-' then
      (cs.zipIdx.filter fun (_, i) => !hyphens.contains i).mapM fun (c, _) => hexValue c
    else none
  else none

/-- **The value of an appendix**: hexadecimal digits, at least one, after an optional `+`. -/
def appendixValue (cs : List Char) : Option Nat := do
  let ds := match cs with
    | '+' :: rest => rest
    | _ => cs
  if ds.isEmpty then none
  let vs ← ds.mapM hexValue
  pure (vs.foldl (fun acc v => acc * 16 + v) 0)

/-- **The identifier a text spells.** -/
def parse? (s : String) : Option DebugId := do
  let cs := s.toList
  if !cs.all fun c => c.toNat < 128 then none
  let hyphenated := cs[8]? == some '-'
  let width := if hyphenated then 36 else 32
  if cs.length < width then none
  let uuid ← uuidDigits (cs.take width)
  let rest := cs.drop width
  if rest.isEmpty then return ⟨uuid, 0⟩
  let appendix ← match hyphenated, rest with
    | true, '-' :: more => some more
    | false, c :: more => if c == '-' then none else some (c :: more)
    | _, _ => none
  let value ← appendixValue (appendix.take 8)
  pure ⟨uuid, value⟩

end DebugId

end StyleRebase.SourceMap
