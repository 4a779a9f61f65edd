import StyleRebase.Json.Number

/-! # Reading JSON values into records

A record is read from a JSON object field by field, each field with the type it must have; the
members that are not fields are passed over. A value that is read must be well formed: the
arrays and objects read around it and in it nest at most `maxDepth` deep, its strings and keys
have text, and its numbers have values. A value passed over need only be well written. A field
may be given once at most; `null` counts as absent for an optional field.

* **`Json.Reader`** — a reader of one value into a type, given the number of arrays and objects
  read around the value; it refuses a value by giving `none`.
* **`Json.Value.fits`** — whether a value is well formed at a depth.
* **`Json.Record`** — an object read as a record; **`Record.optional`**, **`Record.required`** —
  its fields. -/

namespace StyleRebase.Json

/-- **The deepest nesting of arrays and objects read**, counted from the document's value. -/
def maxDepth : Nat := 127

/-- **A reader of one JSON value into a type**, given the number of arrays and objects read
around the value; `none` refuses the value. -/
abbrev Reader (α : Type) := Nat → Value → Option α

mutual

/-- **Whether a value is well formed** with `depth` arrays and objects read around it: it nests
no deeper than `maxDepth`, its strings and keys have text, and its numbers have values. -/
def Value.fits (depth : Nat) : Value → Bool
  | .number n => n.value?.isSome
  | .string s => s.isSome
  | .array items => depth < maxDepth && itemsFit (depth + 1) items
  | .object members => depth < maxDepth && membersFit (depth + 1) members
  | _ => true

/-- **Whether every item is well formed.** -/
def itemsFit (depth : Nat) : List Value → Bool
  | [] => true
  | v :: vs => v.fits depth && itemsFit depth vs

/-- **Whether every key has text and every member value is well formed.** -/
def membersFit (depth : Nat) : List (Option String × Value) → Bool
  | [] => true
  | (k, v) :: ms => k.isSome && v.fits depth && membersFit depth ms

end

/-- **An object read as a record**: its members, with keys of text, and the depth of their
values. -/
structure Record where
  depth : Nat
  members : List (String × Value)

namespace Reader

/-- **A string with text.** -/
def text : Reader String := fun _ v =>
  match v with
  | .string (some s) => some s
  | _ => none

/-- **A 32-bit unsigned integer.** -/
def u32 : Reader Nat := fun _ v =>
  match v with
  | .number n => n.value?.bind Numeric.toU32?
  | _ => none

/-- **A well-formed value.** -/
def value : Reader Value := fun d v => if v.fits d then some v else none

/-- **A value that may be `null`.** -/
def nullable {α : Type} (r : Reader α) : Reader (Option α) := fun d v =>
  match v with
  | .null => some none
  | v => (r d v).map some

/-- **An array of values**, each read one level deeper. -/
def list {α : Type} (r : Reader α) : Reader (List α) := fun d v =>
  match v with
  | .array items => if d < maxDepth then items.mapM (r (d + 1)) else none
  | _ => none

/-- **A member whose key has text.** -/
def textKey (m : Option String × Value) : Option (String × Value) := m.1.map (·, m.2)

/-- **An object read as a record**: its keys must have text. -/
def record : Reader Record := fun d v =>
  match v with
  | .object ms =>
    if d < maxDepth then (ms.mapM textKey).map (⟨d + 1, ·⟩) else none
  | _ => none

end Reader

/-- **The value of a field**, known under any of `keys`: `none` when it is given more than once,
`some none` when it is not given. -/
def fieldOf (ms : List (String × Value)) (keys : List String) : Option (Option Value) :=
  match ms.filter fun (k, _) => keys.contains k with
  | [] => some none
  | [(_, v)] => some (some v)
  | _ => none

namespace Record

/-- **The value of a field**, known under any of `keys`: `none` when it is given more than once,
`some none` when it is not given. -/
def field? (r : Record) (keys : List String) : Option (Option Value) := fieldOf r.members keys

/-- **An optional field** read with `rd`; `null` counts as absent. -/
def optional {α : Type} (r : Record) (keys : List String) (rd : Reader α) :
    Option (Option α) := do
  match ← r.field? keys with
  | none | some .null => pure none
  | some v => (rd r.depth v).map some

/-- **A required field** read with `rd`. -/
def required {α : Type} (r : Record) (keys : List String) (rd : Reader α) : Option α := do
  match ← r.field? keys with
  | some v => rd r.depth v
  | none => none

end Record

end StyleRebase.Json
