/-! # Bisection over an array

A search for a probe in an array ordered by a comparison `f` (`f x` tells how the element `x`
compares with the probe). The search halves a window `[base, base + size)` until one element is
left: the window moves to its upper half whenever the element at its middle is not above the
probe. On an ordered array the element left is the last one not above the probe, if any; on
duplicates that is the last of them.

A search promises only an index whose element equals the probe, any one of several, or the
place where the probe would go. `halve` is another search keeping that promise, the one that
stops at the first middle element equal to the probe; on duplicates it may stop at any of them.

* **`Bisect.Outcome`** — `found i` when element `i` equals the probe, else `insertAt i`, the
  place where the probe would go.
* **`Bisect.Search`** — a search over arrays of one element type.
* **`bisect`** — the search that keeps the upper half of its window.
* **`halve`** — the search that stops at a middle element equal to the probe.
* **`bisect_empty`** — an empty array gives `insertAt 0`. -/

namespace StyleRebase.Bisect

/-- **Where a bisection ends.** -/
inductive Outcome where
  /-- The element at this index equals the probe. -/
  | found (index : Nat)
  /-- No element equals the probe; it would be inserted at this index. -/
  | insertAt (index : Nat)
  deriving DecidableEq, Repr, Inhabited

/-- **The comparison at an index**, treating a missing element as above the probe. -/
def compareAt {α : Type} (f : α → Ordering) (xs : Array α) (i : Nat) : Ordering :=
  (xs[i]?.map f).getD .gt

/-- **Halve the window `[base, base + size)`** down to one element, keeping the upper half
whenever the middle element is not above the probe. -/
def narrow {α : Type} (f : α → Ordering) (xs : Array α) (base size : Nat) : Nat :=
  if size > 1 then
    let half := size / 2
    let mid := base + half
    let base' := if compareAt f xs mid == .gt then base else mid
    narrow f xs base' (size - half)
  else base
termination_by size
decreasing_by omega

/-- **Bisection for the probe described by `f`.** -/
def bisect {α : Type} (f : α → Ordering) (xs : Array α) : Outcome :=
  if xs.size == 0 then .insertAt 0
  else
    let base := narrow f xs 0 xs.size
    match compareAt f xs base with
    | .eq => .found base
    | .lt => .insertAt (base + 1)
    | .gt => .insertAt base

/-- **A search over arrays of `α`**: where the probe described by a comparison stands. -/
abbrev Search (α : Type) : Type := (α → Ordering) → Array α → Outcome

/-- **Shrink the window `[left, right)` around its middle element**: past it when it is below
the probe, before it when above, and stop there when it equals the probe. -/
def halveWindow {α : Type} (f : α → Ordering) (xs : Array α) (left right : Nat) : Outcome :=
  if left < right then
    let mid := left + (right - left) / 2
    match compareAt f xs mid with
    | .lt => halveWindow f xs (mid + 1) right
    | .gt => halveWindow f xs left mid
    | .eq => .found mid
  else .insertAt left
termination_by right - left
decreasing_by all_goals omega

/-- **Search by halving until a middle element equals the probe.** -/
def halve {α : Type} (f : α → Ordering) (xs : Array α) : Outcome :=
  halveWindow f xs 0 xs.size

@[simp] theorem bisect_empty {α : Type} (f : α → Ordering) : bisect f #[] = .insertAt 0 := by
  simp [bisect]

/-- **The index of the last element not above the probe**, read off a bisection: the element
found, or the one before the insertion point. -/
def Outcome.lastNotAbove? : Outcome → Option Nat
  | .found i => some i
  | .insertAt 0 => none
  | .insertAt (i + 1) => some i

end StyleRebase.Bisect
