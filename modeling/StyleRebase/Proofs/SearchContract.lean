import StyleRebase.Search.Bisect

/-! # What a search over an ordered array promises

A search is given comparisons in the order of the array: below the probe, then equal to it,
then above it. It promises an index whose element equals the probe, any one of several, and,
when none does, the place where the probe would go, with every element before it below and
every element from it on above. Which of several equal elements it reports is not promised:
`bisect` reports the last of them, `halve` the first middle element it meets.

* **`Bisect.bisect_spec`**, **`Bisect.lastNotAbove?_bisect`** — over comparisons in order,
  bisection stops at the last element not above the probe.
* **`Bisect.Sorted`**, **`Bisect.Reports`**, **`Bisect.Lawful`** — comparisons in order, what a
  search may report for them, and a search that reports only that.
* **`Bisect.bisect_lawful`**, **`Bisect.halve_lawful`** — both searches keep the promise.
* **`Bisect.Reports.unique`** — where at most one element equals the probe, the promise leaves
  one report, so every search keeping it reports the same. -/

namespace StyleRebase.Bisect

/-! ## (1) Bisection finds the last element not above the probe -/

variable {α : Type} (f : α → Ordering) (xs : Array α)

/-- **Comparisons in order**: past an element above the probe, every element is above it (an
index past the end counts as above). -/
def Ordered : Prop := ∀ i j, i ≤ j → compareAt f xs i = .gt → compareAt f xs j = .gt

/-- **The window of a search**: not empty, its base is the first index or not above the probe,
and the index just past it is above the probe. -/
def Window (base size : Nat) : Prop :=
  0 < size ∧ (base = 0 ∨ compareAt f xs base ≠ .gt) ∧ compareAt f xs (base + size) = .gt

variable {f xs}

theorem compareAt_of_getElem? {i : Nat} {x : α} (h : xs[i]? = some x) :
    compareAt f xs i = f x := by
  simp [compareAt, h]

theorem compareAt_of_size_le {i : Nat} (h : xs.size ≤ i) : compareAt f xs i = .gt := by
  simp [compareAt, Array.getElem?_eq_none h]

/-- An index whose comparison is not above the probe holds an element. -/
theorem lt_size_of_compareAt_ne_gt {i : Nat} (h : compareAt f xs i ≠ .gt) : i < xs.size :=
  Nat.lt_of_not_le fun hle => h (compareAt_of_size_le hle)

/-- **One halving keeps the window**: the half that is kept still starts at an index not above
the probe and stops before one above it. -/
theorem Window.step (hord : Ordered f xs) {base size : Nat} (h : Window f xs base size)
    (hsize : size > 1) :
    Window f xs (if compareAt f xs (base + size / 2) == .gt then base else base + size / 2)
      (size - size / 2) := by
  obtain ⟨-, hbase, hend⟩ := h
  split
  · -- the middle is above the probe, and so is everything from it on
    rename_i hmid
    exact ⟨by omega, hbase,
      hord (base + size / 2) (base + (size - size / 2)) (by omega) (by simpa using hmid)⟩
  · rename_i hmid
    refine ⟨by omega, .inr (by simpa using hmid), ?_⟩
    rw [show base + size / 2 + (size - size / 2) = base + size by omega]
    exact hend

/-- **Halving ends on the last index not above the probe**, or on the first index when all are
above it. -/
theorem narrow_window (hord : Ordered f xs) {base size : Nat} (h : Window f xs base size) :
    (narrow f xs base size = 0 ∨ compareAt f xs (narrow f xs base size) ≠ .gt) ∧
      compareAt f xs (narrow f xs base size + 1) = .gt := by
  fun_induction narrow f xs base size with
  | case1 base size hsize half mid base' ih => exact ih (h.step hord hsize)
  | case2 base size hsize =>
    obtain ⟨hpos, hbase, hend⟩ := h
    obtain rfl : size = 1 := by omega
    exact ⟨hbase, hend⟩

/-- **Where bisection stops**: at the first index when everything is above the probe, else at
the last index not above it, which it reports found when it equals the probe. -/
theorem bisect_spec (hord : Ordered f xs) :
    (bisect f xs = .insertAt 0 ∧ compareAt f xs 0 = .gt) ∨
      ∃ i, compareAt f xs (i + 1) = .gt ∧
        ((bisect f xs = .found i ∧ compareAt f xs i = .eq) ∨
          (bisect f xs = .insertAt (i + 1) ∧ compareAt f xs i = .lt)) := by
  unfold bisect
  split
  · rename_i hempty
    exact .inl ⟨rfl, compareAt_of_size_le (Nat.le_of_eq (beq_iff_eq.mp hempty))⟩
  · rename_i hsize
    have hpos : 0 < xs.size := by
      rw [beq_iff_eq] at hsize
      omega
    have hw : Window f xs 0 xs.size := ⟨hpos, .inl rfl, compareAt_of_size_le (by omega)⟩
    obtain ⟨hbase, hnext⟩ := narrow_window hord hw
    dsimp only
    split
    · rename_i heq
      exact .inr ⟨_, hnext, .inl ⟨rfl, heq⟩⟩
    · rename_i hlt
      exact .inr ⟨_, hnext, .inr ⟨rfl, hlt⟩⟩
    · -- everything is above the probe: the search stayed at the first index
      rename_i hgt
      obtain h0 : narrow f xs 0 xs.size = 0 := hbase.resolve_right (by rw [hgt]; simp)
      rw [h0] at hgt ⊢
      exact .inl ⟨rfl, hgt⟩

/-- **Bisection reports the last element not above the probe**: its index is not above the
probe and the next one is; when it reports none, already the first element is above. -/
theorem lastNotAbove?_bisect (hord : Ordered f xs) :
    ((bisect f xs).lastNotAbove? = none ∧ compareAt f xs 0 = .gt) ∨
      ∃ i, (bisect f xs).lastNotAbove? = some i ∧ compareAt f xs i ≠ .gt ∧
        compareAt f xs (i + 1) = .gt := by
  rcases bisect_spec hord with ⟨hb, h0⟩ | ⟨i, hnext, ⟨hb, heq⟩ | ⟨hb, hlt⟩⟩
  · exact .inl ⟨by rw [hb]; rfl, h0⟩
  · exact .inr ⟨i, by rw [hb]; rfl, by rw [heq]; simp, hnext⟩
  · exact .inr ⟨i, by rw [hb]; rfl, by rw [hlt]; simp, hnext⟩

/-! ## (2) The promise of a search -/

variable (f xs)

/-- **Comparisons in the order of the array**: below the probe, then equal to it, then above
it. -/
structure Sorted : Prop where
  above : Ordered f xs
  below : ∀ i j, i ≤ j → j < xs.size → compareAt f xs j = .lt → compareAt f xs i = .lt

/-- **What a search may report**: an index whose element equals the probe, any one of several;
or, when no element does, the place where the probe would go, every element before it below
the probe and every one from it on above. -/
def Reports : Outcome → Prop
  | .found i => i < xs.size ∧ compareAt f xs i = .eq
  | .insertAt i => i ≤ xs.size ∧ (∀ j < i, compareAt f xs j = .lt) ∧
      ∀ j, i ≤ j → compareAt f xs j = .gt

/-- **A search keeping the promise**: over comparisons in order, it reports only what
`Reports` allows. -/
def Lawful (search : Search α) : Prop := ∀ f xs, Sorted f xs → Reports f xs (search f xs)

variable {f xs}

/-- **Where at most one element equals the probe, a search has one thing to report.** -/
theorem Reports.unique (hone : ∀ i j, compareAt f xs i = .eq → compareAt f xs j = .eq → i = j)
    {a b : Outcome} (ha : Reports f xs a) (hb : Reports f xs b) : a = b := by
  cases a with
  | found i =>
    obtain ⟨-, hi⟩ := ha
    cases b with
    | found j =>
      obtain ⟨-, hj⟩ := hb
      rw [hone i j hi hj]
    | insertAt j =>
      -- an element equal to the probe is neither before nor after the insertion point
      obtain ⟨-, hbelow, habove⟩ := hb
      rcases Nat.lt_or_ge i j with hij | hij
      · rw [hbelow i hij] at hi
        cases hi
      · rw [habove i hij] at hi
        cases hi
  | insertAt i =>
    obtain ⟨-, hbelow, habove⟩ := ha
    cases b with
    | found j =>
      obtain ⟨-, hj⟩ := hb
      rcases Nat.lt_or_ge j i with hji | hji
      · rw [hbelow j hji] at hj
        cases hj
      · rw [habove j hji] at hj
        cases hj
    | insertAt j =>
      -- two insertion points: the element at the smaller one would be both below and above
      obtain ⟨-, hbelow', habove'⟩ := hb
      rcases Nat.lt_trichotomy i j with hij | rfl | hji
      · have := hbelow' i hij
        rw [habove i (Nat.le_refl i)] at this
        cases this
      · rfl
      · have := hbelow j hji
        rw [habove' j (Nat.le_refl j)] at this
        cases this

/-! ## (3) Both searches keep the promise -/

/-- **Bisection keeps the promise**: the index it stops at is the last one not above the probe,
so it is equal to the probe, or the probe goes right after it, or before everything. -/
theorem bisect_lawful : Lawful (bisect : Search α) := by
  intro f xs hs
  rcases bisect_spec hs.above with ⟨hb, h0⟩ | ⟨i, hnext, ⟨hb, heq⟩ | ⟨hb, hlt⟩⟩
  · -- everything is above the probe, which goes first
    rw [hb]
    exact ⟨Nat.zero_le _, fun j hj => absurd hj (Nat.not_lt_zero j),
      fun j _ => hs.above 0 j (Nat.zero_le j) h0⟩
  · rw [hb]
    exact ⟨lt_size_of_compareAt_ne_gt (by rw [heq]; simp), heq⟩
  · -- below the probe: everything up to it is below, everything after it above
    have hin := lt_size_of_compareAt_ne_gt (f := f) (by rw [hlt]; simp)
    rw [hb]
    exact ⟨hin, fun j hj => hs.below j i (by omega) hin hlt, fun j hj => hs.above _ j hj hnext⟩

/-- **The bracket of a halving search**: the window lies within the array, every element before
it is below the probe and every element from its end on is above. -/
def Bracket (f : α → Ordering) (xs : Array α) (left right : Nat) : Prop :=
  left ≤ right ∧ right ≤ xs.size ∧ (∀ j < left, compareAt f xs j = .lt) ∧
    ∀ j, right ≤ j → compareAt f xs j = .gt

/-- **Halving keeps the promise from any bracket**: each step keeps a bracket around what is
left, a middle element equal to the probe is reported, and an empty window is the place where
the probe goes. -/
theorem halveWindow_reports (hs : Sorted f xs) {left right : Nat} (h : Bracket f xs left right) :
    Reports f xs (halveWindow f xs left right) := by
  fun_induction halveWindow f xs left right with
  | case1 left right hlt mid hmid ih =>
    -- the middle is below the probe: so is everything up to it
    obtain ⟨-, hright, hbelow, habove⟩ := h
    have hin : mid < xs.size := by omega
    exact ih ⟨by omega, hright, fun j hj => hs.below j mid (by omega) hin hmid, habove⟩
  | case2 left right hlt mid hmid ih =>
    -- the middle is above the probe: so is everything from it on
    obtain ⟨-, hright, hbelow, -⟩ := h
    exact ih ⟨by omega, by omega, hbelow, fun j hj => hs.above mid j hj hmid⟩
  | case3 left right hlt mid hmid =>
    exact ⟨by have := h.2.1; omega, hmid⟩
  | case4 left right hge =>
    obtain ⟨hle, hright, hbelow, habove⟩ := h
    obtain rfl : left = right := by omega
    exact ⟨hright, hbelow, habove⟩

/-- **Halving keeps the promise.** -/
theorem halve_lawful : Lawful (halve : Search α) := fun _ _ hs =>
  halveWindow_reports hs ⟨Nat.zero_le _, Nat.le_refl _, fun j hj => absurd hj (Nat.not_lt_zero j),
    fun _ hj => compareAt_of_size_le hj⟩

end StyleRebase.Bisect
