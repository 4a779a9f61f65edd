import StyleRebase.Proofs.SearchContract
import StyleRebase.Proofs.SpliceOffsets

/-! # Looking offsets up in an offset map

An offset map finds the stretch holding an input offset by a search over the stretches' input
starts, then carries the offset into the output. On a map whose stretches tile both texts,
bisection lands on the one stretch that holds the offset, so the translation does what the map
promises: it is defined exactly up to the end of the input, takes the end to the end of the
output, keeps the distance from the start inside a copied stretch, sends the whole of a replaced
stretch to the start of its replacement, and never goes backwards.

A search is promised to report one stretch starting at the offset, but not which of several. An
empty stretch starts where the next one does; where one stands at the offset, a search keeping
its promise may report it, and it holds nothing, so the lookup finds no stretch. Away from
empty stretches one stretch starts at any offset, and every such search finds what bisection
finds.

A builder that records copied text and replacements in order makes such maps, as long as every
replaced range runs forward. It checks only that a replacement starts where the recorded
stretches end; a range that ends before it starts is recorded as given and leaves the map's
input end before offsets it still translates.

* **`OffsetMap.WellFormed`** — stretches that tile both texts, copied ones as long in both.
* **`OffsetMap.WellFormed.segmentAt?_of_contains`** — bisection finds the stretch holding an
  offset.
* **`OffsetMap.EmptyAt`**, **`OffsetMap.WellFormed.segmentAtBy?_eq_segmentAt?`** — an empty
  stretch at an offset, and away from them every search keeping its promise finds what
  bisection finds.
* **`OffsetMap.TranslatesBy`** — what translating offsets through a map does, away from empty
  stretches; `OffsetMap.WellFormed.translatesBy` proves it of every well-formed map and every
  search keeping its promise.
* **`OffsetMap.Builder.Recorded`** — the builders reached by recording an edit in order, and
  **`OffsetMap.Builder.recorded_offsets_translate`**: their maps are well formed and translate
  as promised.
* **`OffsetMap.scanAt?`** — the stretch a linear scan finds; by
  **`OffsetMap.Builder.recorded_lookup_is_scan`** every search keeping its promise finds the same
  on recorded maps away from empty stretches, and finds nothing exactly from the end of the input
  on.
* **`OffsetMap.Builder.recorded_offsets_counterexamples`**,
  **`OffsetMap.Builder.recorded_lookup_counterexamples`** — a backward replacement, and the
  halving search stopping at an empty replacement. -/

namespace StyleRebase

/-! ## (1) Tilings in order -/

namespace Tiles

/-- The spans of a tiling lie between its ends and run forward. -/
theorem bounds : ∀ {lo hi : Nat} {ss : List Span}, Tiles lo ss hi →
    lo ≤ hi ∧ ∀ s ∈ ss, lo ≤ s.start ∧ s.start ≤ s.stop ∧ s.stop ≤ hi
  | _, _, [], h => ⟨Nat.le_of_eq h, by simp⟩
  | _, _, s :: ss, ⟨h₁, h₂, h⟩ => by
    obtain ⟨hle, hmem⟩ := bounds h
    refine ⟨by omega, fun x hx => ?_⟩
    rcases List.mem_cons.mp hx with rfl | hx
    · exact ⟨Nat.le_of_eq h₁.symm, h₂, hle⟩
    · have := hmem x hx
      omega

/-- **The spans of a tiling come in order**, each stopping before the next starts. -/
theorem pairwise : ∀ {lo hi : Nat} {ss : List Span}, Tiles lo ss hi →
    ss.Pairwise fun a b => a.stop ≤ b.start
  | _, _, [], _ => List.Pairwise.nil
  | _, _, _ :: _, ⟨_, _, h⟩ =>
    List.Pairwise.cons (fun x hx => ((bounds h).2 x hx).1) (pairwise h)

end Tiles

/-- Two members of a list related in order are equal, or related one way or the other. -/
theorem pairwise_eq_or_rel {β : Type} {R : β → β → Prop} {l : List β} (h : l.Pairwise R)
    {a b : β} (ha : a ∈ l) (hb : b ∈ l) : a = b ∨ R a b ∨ R b a := by
  induction h with
  | nil => cases ha
  | cons hx _ ih =>
    rcases List.mem_cons.mp ha with rfl | ha'
    · rcases List.mem_cons.mp hb with rfl | hb'
      · exact .inl rfl
      · exact .inr (.inl (hx _ hb'))
    · rcases List.mem_cons.mp hb with rfl | hb'
      · exact .inr (.inr (hx _ ha'))
      · exact ih ha' hb'

/-! ## (2) Well-formed offset maps -/

/-- **Where a stretch carries an input offset**: a copied stretch keeps the offset's distance
from its start, a replaced one sends it to the start of the replacement. -/
def Segment.carry (seg : Segment) (o : Nat) : Nat :=
  match seg.kind with
  | .copied => seg.output.start + (o - seg.input.start)
  | .replaced => seg.output.start

namespace OffsetMap

/-- **A well-formed offset map**: its stretches tile the input from 0 to its length and the
output from 0 to its length, and each copied stretch is as long in both. -/
structure WellFormed (m : OffsetMap) : Prop where
  input_tiles : Tiles 0 (m.segments.toList.map Segment.input) m.inputLen
  output_tiles : Tiles 0 (m.segments.toList.map Segment.output) m.outputLen
  copied_length : ∀ seg ∈ m.segments.toList, seg.kind = .copied →
    seg.input.length = seg.output.length

/-! Whatever the search reports, the lookup checks that the stretch holds the offset, so what
it finds is a stretch holding the offset, and a translation carries the offset through it. -/

section AnySearch

variable (search : Bisect.Search Segment)

/-- **Translating an offset** is carrying it through the stretch the lookup finds; the end of
the input goes to the end of the output. -/
theorem outputOffsetBy?_eq (m : OffsetMap) (o : Nat) :
    m.outputOffsetBy? search o =
      if o = m.inputLen then some m.outputLen else (m.segmentAtBy? search o).map (·.carry o) := by
  simp only [outputOffsetBy?, beq_iff_eq]
  split <;> rfl

variable {search}

/-- What the lookup finds is a stretch of the map holding the offset. -/
theorem segmentAtBy?_eq_some {m : OffsetMap} {o : Nat} {seg : Segment}
    (h : m.segmentAtBy? search o = some seg) :
    seg ∈ m.segments.toList ∧ seg.input.contains o = true := by
  simp only [segmentAtBy?, Option.bind_eq_bind, Option.bind_eq_some_iff] at h
  obtain ⟨i, -, s, hs, hseg⟩ := h
  split at hseg
  · cases hseg
    exact ⟨Array.mem_toList_iff.mpr (Array.mem_of_getElem? hs), ‹_›⟩
  · cases hseg

/-- **The value of a translation**: the end of the output for the end of the input, and the
carried offset for an offset inside a stretch. -/
theorem outputOffsetBy?_eq_some {m : OffsetMap} {o n : Nat}
    (h : m.outputOffsetBy? search o = some n) :
    (o = m.inputLen ∧ n = m.outputLen) ∨
      ∃ seg ∈ m.segments.toList, seg.input.contains o = true ∧ n = seg.carry o := by
  rw [outputOffsetBy?_eq] at h
  split at h
  · exact .inl ⟨‹_›, (Option.some.inj h).symm⟩
  · obtain ⟨seg, hseg, rfl⟩ := Option.map_eq_some_iff.mp h
    exact .inr ⟨seg, (segmentAtBy?_eq_some hseg).1, (segmentAtBy?_eq_some hseg).2, rfl⟩

end AnySearch

theorem outputOffset?_eq (m : OffsetMap) (o : Nat) :
    m.outputOffset? o =
      if o = m.inputLen then some m.outputLen else (m.segmentAt? o).map (·.carry o) :=
  outputOffsetBy?_eq Bisect.bisect m o

theorem segmentAt?_eq_some {m : OffsetMap} {o : Nat} {seg : Segment}
    (h : m.segmentAt? o = some seg) : seg ∈ m.segments.toList ∧ seg.input.contains o = true :=
  segmentAtBy?_eq_some h

theorem outputOffset?_eq_some {m : OffsetMap} {o n : Nat} (h : m.outputOffset? o = some n) :
    (o = m.inputLen ∧ n = m.outputLen) ∨
      ∃ seg ∈ m.segments.toList, seg.input.contains o = true ∧ n = seg.carry o :=
  outputOffsetBy?_eq_some h

/-- **An empty stretch at an offset**: a stretch of no input, starting and stopping there. -/
def EmptyAt (m : OffsetMap) (o : Nat) : Prop :=
  ∃ seg ∈ m.segments.toList, seg.input.start = o ∧ seg.input.stop = o

instance (m : OffsetMap) (o : Nat) : Decidable (m.EmptyAt o) :=
  inferInstanceAs (Decidable (∃ seg ∈ m.segments.toList, seg.input.start = o ∧ seg.input.stop = o))

namespace WellFormed

variable {m : OffsetMap} (hm : m.WellFormed)
include hm

/-- **The stretches come in order** in both texts. -/
theorem pairwise : m.segments.toList.Pairwise fun a b =>
    a.input.stop ≤ b.input.start ∧ a.output.stop ≤ b.output.start :=
  (List.pairwise_map.mp hm.input_tiles.pairwise).and (List.pairwise_map.mp hm.output_tiles.pairwise)

/-- Every stretch lies within both texts and runs forward in both. -/
theorem bounds {seg : Segment} (hseg : seg ∈ m.segments.toList) :
    seg.input.start ≤ seg.input.stop ∧ seg.input.stop ≤ m.inputLen ∧
      seg.output.start ≤ seg.output.stop ∧ seg.output.stop ≤ m.outputLen := by
  have hin := hm.input_tiles.bounds.2 _ (List.mem_map_of_mem hseg)
  have hout := hm.output_tiles.bounds.2 _ (List.mem_map_of_mem hseg)
  exact ⟨hin.2.1, hin.2.2, hout.2.1, hout.2.2⟩

/-- An earlier stretch stops, in the input, before a later one starts. -/
theorem stop_le_start {i j : Nat} {si sj : Segment} (hij : i < j)
    (hsi : m.segments[i]? = some si) (hsj : m.segments[j]? = some sj) :
    si.input.stop ≤ sj.input.start := by
  rw [Array.getElem?_eq_some_iff] at hsi hsj
  obtain ⟨hi, rfl⟩ := hsi
  obtain ⟨hj, rfl⟩ := hsj
  have := List.pairwise_iff_getElem.mp hm.pairwise i j (by simpa using hi) (by simpa using hj) hij
  simpa using this.1

/-- **A later stretch starts no earlier.** -/
theorem start_le_start {i j : Nat} {si sj : Segment} (hij : i ≤ j)
    (hsi : m.segments[i]? = some si) (hsj : m.segments[j]? = some sj) :
    si.input.start ≤ sj.input.start := by
  rcases Nat.lt_or_eq_of_le hij with hlt | rfl
  · have h₁ := hm.stop_le_start hlt hsi hsj
    have h₂ := (hm.bounds (Array.mem_toList_iff.mpr (Array.mem_of_getElem? hsi))).1
    omega
  · rw [hsi] at hsj
    cases hsj
    exact Nat.le_refl _

/-- **The input starts never decrease**, so bisection over them is in order. -/
theorem ordered (o : Nat) :
    Bisect.Ordered (fun s : Segment => compare s.input.start o) m.segments := by
  intro i j hij hi
  by_cases hj : m.segments.size ≤ j
  · exact Bisect.compareAt_of_size_le hj
  obtain ⟨sj, hsj⟩ : ∃ s, m.segments[j]? = some s := ⟨_, Array.getElem?_eq_getElem (by omega)⟩
  obtain ⟨si, hsi⟩ : ∃ s, m.segments[i]? = some s := ⟨_, Array.getElem?_eq_getElem (by omega)⟩
  rw [Bisect.compareAt_of_getElem? hsi, Nat.compare_eq_gt] at hi
  rw [Bisect.compareAt_of_getElem? hsj, Nat.compare_eq_gt]
  have := hm.start_le_start hij hsi hsj
  omega

/-- **The input starts are in order around every offset**: past a stretch starting after the
offset every stretch does, and before one starting before it every stretch does. -/
theorem sorted (o : Nat) :
    Bisect.Sorted (fun s : Segment => compare s.input.start o) m.segments where
  above := hm.ordered o
  below i j hij hj hlt := by
    obtain ⟨sj, hsj⟩ : ∃ s, m.segments[j]? = some s := ⟨_, Array.getElem?_eq_getElem hj⟩
    obtain ⟨si, hsi⟩ : ∃ s, m.segments[i]? = some s := ⟨_, Array.getElem?_eq_getElem (by omega)⟩
    rw [Bisect.compareAt_of_getElem? hsj, Nat.compare_eq_lt] at hlt
    rw [Bisect.compareAt_of_getElem? hsi, Nat.compare_eq_lt]
    have := hm.start_le_start hij hsi hsj
    omega

/-- **Away from empty stretches one stretch starts at an offset**: of two starting there, the
earlier stops before the later starts, so it is empty and stands at the offset. -/
theorem start_unique {o : Nat} (ho : ¬m.EmptyAt o) (i j : Nat)
    (hi : Bisect.compareAt (fun s : Segment => compare s.input.start o) m.segments i = .eq)
    (hj : Bisect.compareAt (fun s : Segment => compare s.input.start o) m.segments j = .eq) :
    i = j := by
  have hearlier : ∀ a b, a < b →
      Bisect.compareAt (fun s : Segment => compare s.input.start o) m.segments a = .eq →
      Bisect.compareAt (fun s : Segment => compare s.input.start o) m.segments b = .eq → False := by
    intro a b hab ha hb
    obtain ⟨sa, hsa⟩ : ∃ s, m.segments[a]? = some s :=
      ⟨_, Array.getElem?_eq_getElem (Bisect.lt_size_of_compareAt_ne_gt (by rw [ha]; simp))⟩
    obtain ⟨sb, hsb⟩ : ∃ s, m.segments[b]? = some s :=
      ⟨_, Array.getElem?_eq_getElem (Bisect.lt_size_of_compareAt_ne_gt (by rw [hb]; simp))⟩
    rw [Bisect.compareAt_of_getElem? hsa, Nat.compare_eq_eq] at ha
    rw [Bisect.compareAt_of_getElem? hsb, Nat.compare_eq_eq] at hb
    have hmem := Array.mem_toList_iff.mpr (Array.mem_of_getElem? hsa)
    have := hm.stop_le_start hab hsa hsb
    have := (hm.bounds hmem).1
    exact ho ⟨sa, hmem, ha, by omega⟩
  rcases Nat.lt_trichotomy i j with hlt | heq | hgt
  · exact (hearlier i j hlt hi hj).elim
  · exact heq
  · exact (hearlier j i hgt hj hi).elim

/-- **The lookup finds the stretch holding an offset.** Bisection stops at the last stretch
starting at or before the offset; an earlier one stops before the offset, and a later one that
started at or before it would end the stretch holding it first. -/
theorem segmentAt?_of_contains {seg : Segment} {o : Nat} (hseg : seg ∈ m.segments.toList)
    (ho : seg.input.contains o = true) : m.segmentAt? o = some seg := by
  rw [Span.contains_iff] at ho
  obtain ⟨j, hj⟩ := List.mem_iff_getElem?.mp hseg
  rw [Array.getElem?_toList] at hj
  have hcj : Bisect.compareAt (fun s : Segment => compare s.input.start o) m.segments j ≠ .gt := by
    rw [Bisect.compareAt_of_getElem? hj, ne_eq, Nat.compare_eq_gt]
    omega
  rcases Bisect.lastNotAbove?_bisect (hm.ordered o) with ⟨-, h0⟩ | ⟨i, hi, hci, hnext⟩
  · exact absurd (hm.ordered o 0 j (Nat.zero_le j) h0) hcj
  -- the bisection stopped at `j` itself
  have hij : i = j := by
    rcases Nat.lt_trichotomy i j with hlt | rfl | hgt
    · exact absurd (hm.ordered o (i + 1) j hlt hnext) hcj
    · rfl
    · obtain ⟨si, hsi⟩ : ∃ s, m.segments[i]? = some s := by
        cases h : m.segments[i]? with
        | none => simp [Bisect.compareAt, h] at hci
        | some s => exact ⟨s, rfl⟩
      rw [Bisect.compareAt_of_getElem? hsi, ne_eq, Nat.compare_eq_gt] at hci
      have := hm.stop_le_start hgt hj hsi
      omega
  subst hij
  simp only [segmentAt?, segmentAtBy?, hi, Option.bind_eq_bind, Option.bind_some, hj,
    (Span.contains_iff _ _).mpr ho, if_true]

/-- **Away from empty stretches, every search keeping its promise finds what bisection
finds**: at most one stretch starts at the offset, so the promise leaves one report. -/
theorem segmentAtBy?_eq_segmentAt? {search : Bisect.Search Segment} (hs : Bisect.Lawful search)
    {o : Nat} (ho : ¬m.EmptyAt o) : m.segmentAtBy? search o = m.segmentAt? o := by
  have h := Bisect.Reports.unique (hm.start_unique ho) (hs _ _ (hm.sorted o))
    (Bisect.bisect_lawful _ _ (hm.sorted o))
  rw [segmentAt?, segmentAtBy?, segmentAtBy?, h]

/-- **Away from empty stretches, every search keeping its promise translates as bisection
does.** -/
theorem outputOffsetBy?_eq_outputOffset? {search : Bisect.Search Segment}
    (hs : Bisect.Lawful search) {o : Nat} (ho : ¬m.EmptyAt o) :
    m.outputOffsetBy? search o = m.outputOffset? o := by
  unfold outputOffset? outputOffsetBy?
  rw [hm.segmentAtBy?_eq_segmentAt? hs ho]
  rfl

/-- **No stretch holds an offset at or past the end of the input**, whatever the search. -/
theorem segmentAtBy?_of_le (search : Bisect.Search Segment) {o : Nat} (ho : m.inputLen ≤ o) :
    m.segmentAtBy? search o = none := by
  cases h : m.segmentAtBy? search o with
  | none => rfl
  | some seg =>
    obtain ⟨hseg, hcont⟩ := segmentAtBy?_eq_some h
    have := (hm.bounds hseg).2.1
    rw [Span.contains_iff] at hcont
    omega

theorem segmentAt?_of_le {o : Nat} (ho : m.inputLen ≤ o) : m.segmentAt? o = none :=
  hm.segmentAtBy?_of_le Bisect.bisect ho

/-- **An offset inside a stretch is carried through it.** -/
theorem outputOffset?_of_contains {seg : Segment} {o : Nat} (hseg : seg ∈ m.segments.toList)
    (ho : seg.input.contains o = true) : m.outputOffset? o = some (seg.carry o) := by
  have hlt : o < m.inputLen := by
    have := (hm.bounds hseg).2.1
    rw [Span.contains_iff] at ho
    omega
  rw [outputOffset?_eq, if_neg (Nat.ne_of_lt hlt), hm.segmentAt?_of_contains hseg ho]
  rfl

/-- A stretch carries the offsets it holds into its output range, the end included. -/
theorem carry_le {seg : Segment} {o : Nat} (hseg : seg ∈ m.segments.toList)
    (ho : seg.input.contains o = true) :
    seg.output.start ≤ seg.carry o ∧ seg.carry o ≤ seg.output.stop := by
  have hb := hm.bounds hseg
  rw [Span.contains_iff] at ho
  unfold Segment.carry
  split
  · rename_i hk
    have := hm.copied_length seg hseg hk
    simp only [Span.length] at this
    omega
  · omega

/-- Every offset of the input lies in a stretch. -/
theorem exists_contains {o : Nat} (ho : o < m.inputLen) :
    ∃ seg ∈ m.segments.toList, seg.input.contains o = true := by
  obtain ⟨sp, hsp, hin⟩ := hm.input_tiles.cover (Nat.zero_le o) ho
  obtain ⟨seg, hseg, rfl⟩ := List.mem_map.mp hsp
  exact ⟨seg, hseg, (Span.contains_iff _ _).mpr hin⟩

/-- **Translation never goes backwards**, whatever the search. Two offsets in one stretch keep
their order (or both go to the start of a replacement); of two stretches the earlier one ends,
in the output, before the later one starts; and the end of the output lies past every
stretch. -/
theorem outputOffsetBy?_mono {search : Bisect.Search Segment} {o o' n n' : Nat} (hle : o ≤ o')
    (h : m.outputOffsetBy? search o = some n) (h' : m.outputOffsetBy? search o' = some n') :
    n ≤ n' := by
  rcases outputOffsetBy?_eq_some h' with ⟨rfl, rfl⟩ | ⟨seg', hseg', ho', rfl⟩
  · rcases outputOffsetBy?_eq_some h with ⟨-, rfl⟩ | ⟨seg, hseg, ho, rfl⟩
    · exact Nat.le_refl _
    · exact Nat.le_trans (hm.carry_le hseg ho).2 (hm.bounds hseg).2.2.2
  · rcases outputOffsetBy?_eq_some h with ⟨rfl, -⟩ | ⟨seg, hseg, ho, rfl⟩
    · have := (hm.bounds hseg').2.1
      rw [Span.contains_iff] at ho'
      omega
    rcases pairwise_eq_or_rel hm.pairwise hseg hseg' with rfl | hord | hord
    · -- one stretch: a copy keeps the order, a replacement sends both to its start
      unfold Segment.carry
      split <;> omega
    · exact Nat.le_trans (hm.carry_le hseg ho).2
        (Nat.le_trans hord.2 (hm.carry_le hseg' ho').1)
    · -- the later offset cannot lie in an earlier stretch
      rw [Span.contains_iff] at ho ho'
      omega

theorem outputOffset?_mono {o o' n n' : Nat} (hle : o ≤ o') (h : m.outputOffset? o = some n)
    (h' : m.outputOffset? o' = some n') : n ≤ n' :=
  hm.outputOffsetBy?_mono hle h h'

/-- **Bisection translates exactly the offsets up to the end of the input.** -/
theorem isSome_outputOffset? (o : Nat) : (m.outputOffset? o).isSome ↔ o ≤ m.inputLen := by
  constructor
  · intro h
    by_contra hgt
    rw [outputOffset?_eq, if_neg (by omega), hm.segmentAt?_of_le (by omega)] at h
    cases h
  · intro h
    rcases Nat.lt_or_eq_of_le h with hlt | rfl
    · obtain ⟨seg, hseg, ho⟩ := hm.exists_contains hlt
      rw [hm.outputOffset?_of_contains hseg ho]
      rfl
    · rw [outputOffset?_eq, if_pos rfl]
      rfl

end WellFormed

/-- **What translating offsets through a map does, away from empty stretches**: it is defined
exactly up to the end of the input, takes that end to the end of the output, never goes
backwards, keeps the distance from the start inside a copied stretch, and sends every offset
inside a replaced stretch to the start of its replacement. At an empty stretch the search may
report it, and then the offset has no translation. -/
structure TranslatesBy (search : Bisect.Search Segment) (m : OffsetMap) : Prop where
  isSome_iff : ∀ o, ¬m.EmptyAt o → ((m.outputOffsetBy? search o).isSome ↔ o ≤ m.inputLen)
  end_to_end : m.outputOffsetBy? search m.inputLen = some m.outputLen
  mono : ∀ o o' n n', o ≤ o' → m.outputOffsetBy? search o = some n →
    m.outputOffsetBy? search o' = some n' → n ≤ n'
  copied : ∀ seg ∈ m.segments.toList, ∀ o, ¬m.EmptyAt o → seg.kind = .copied →
    seg.input.contains o = true →
    m.outputOffsetBy? search o = some (seg.output.start + (o - seg.input.start))
  replaced : ∀ seg ∈ m.segments.toList, ∀ o, ¬m.EmptyAt o → seg.kind = .replaced →
    seg.input.contains o = true → m.outputOffsetBy? search o = some seg.output.start

/-- **Every well-formed map translates offsets as promised**, through every search keeping its
promise, away from empty stretches. -/
theorem WellFormed.translatesBy {m : OffsetMap} (hm : m.WellFormed) {search : Bisect.Search Segment}
    (hs : Bisect.Lawful search) : m.TranslatesBy search where
  isSome_iff o ho := by
    rw [hm.outputOffsetBy?_eq_outputOffset? hs ho]
    exact hm.isSome_outputOffset? o
  end_to_end := by rw [outputOffsetBy?_eq, if_pos rfl]
  mono _ _ _ _ hle h h' := hm.outputOffsetBy?_mono hle h h'
  copied seg hseg o ho hk hc := by
    rw [hm.outputOffsetBy?_eq_outputOffset? hs ho, hm.outputOffset?_of_contains hseg hc,
      Segment.carry, hk]
  replaced seg hseg o ho hk hc := by
    rw [hm.outputOffsetBy?_eq_outputOffset? hs ho, hm.outputOffset?_of_contains hseg hc,
      Segment.carry, hk]

end OffsetMap

/-! ## (3) Recording an edit in order -/

namespace OffsetMap.Builder

/-- **A replacement that is recorded** started where the recorded stretches end. -/
theorem addTransformed_eq_ok {b b' : Builder} {input : Span} {len : Nat}
    (h : b.addTransformed input len = .ok b') :
    input.start = b.inputOffset ∧ b' = b.push input len .replaced := by
  unfold addTransformed at h
  split at h
  · rename_i hstart
    exact ⟨by simpa using hstart, (Except.ok.inj h).symm⟩
  · cases h

/-- **Builders reached by recording an edit** from the empty builder: copied text of any length,
and replacements of ranges running forward (start at most stop), each starting where the
recorded stretches end. -/
inductive Recorded : Builder → Prop
  | empty : Recorded {}
  | source {b : Builder} (len : Nat) : Recorded b → Recorded (b.addSource len)
  | transformed {b b' : Builder} {input : Span} (len : Nat) : Recorded b →
      input.start ≤ input.stop → b.addTransformed input len = .ok b' → Recorded b'

/-- Recording copied text keeps the map well formed. -/
theorem wellFormed_addSource {b : Builder} (h : b.build.WellFormed) (len : Nat) :
    (b.addSource len).build.WellFormed := by
  unfold addSource
  split
  · exact h
  obtain ⟨hin, hout, hcopied⟩ := h
  refine ⟨?_, ?_, fun seg hseg hk => ?_⟩
  · simp only [build, push_segments, List.map_append, List.map_cons, List.map_nil,
      push_inputOffset]
    exact hin.snoc rfl (Nat.le_add_right _ _)
  · simp only [build, push_segments, List.map_append, List.map_cons, List.map_nil,
      push_outputOffset]
    exact hout.snoc rfl (Nat.le_add_right _ _)
  · simp only [build, push_segments, List.mem_append, List.mem_singleton] at hseg
    rcases hseg with hseg | rfl
    · exact hcopied seg hseg hk
    · simp [Span.length]

/-- Recording a replacement of a forward range that starts where the stretches end keeps the map
well formed. -/
theorem wellFormed_push_replaced {b : Builder} (h : b.build.WellFormed) {input : Span}
    (hstart : input.start = b.inputOffset) (hle : input.start ≤ input.stop) (len : Nat) :
    (b.push input len .replaced).build.WellFormed := by
  obtain ⟨hin, hout, hcopied⟩ := h
  refine ⟨?_, ?_, fun seg hseg hk => ?_⟩
  · simp only [build, push_segments, List.map_append, List.map_cons, List.map_nil,
      push_inputOffset]
    exact hin.snoc hstart hle
  · simp only [build, push_segments, List.map_append, List.map_cons, List.map_nil,
      push_outputOffset]
    exact hout.snoc rfl (Nat.le_add_right _ _)
  · simp only [build, push_segments, List.mem_append, List.mem_singleton] at hseg
    rcases hseg with hseg | rfl
    · exact hcopied seg hseg hk
    · cases hk

/-- **Every recorded builder builds a well-formed map.** -/
theorem Recorded.wellFormed {b : Builder} (h : Recorded b) : b.build.WellFormed := by
  induction h with
  | empty => exact ⟨rfl, rfl, by simp [build]⟩
  | source len _ ih => exact wellFormed_addSource ih len
  | transformed len _ hle hb ih =>
    obtain ⟨hstart, rfl⟩ := addTransformed_eq_ok hb
    exact wellFormed_push_replaced ih hstart hle len

/-- **Offset-map builder invariant.** For every builder reached by recording copied text and
replacements of forward ranges in order, the map it builds has its stretches contiguous and in
order in both texts, from 0 to the input and output lengths, each copied stretch as long in both;
and, through every search over the input starts that keeps its promise, translating an offset
away from empty stretches is defined exactly up to the end of the input, the end goes to the end
of the output, translation never goes backwards, keeps the distance from the start inside a
copied stretch and goes to the start of the replacement inside a replaced one. -/
theorem recorded_offsets_translate {b : Builder} (h : Recorded b) :
    b.build.WellFormed ∧
      ∀ search : Bisect.Search Segment, Bisect.Lawful search → b.build.TranslatesBy search :=
  ⟨h.wellFormed, fun _ hs => h.wellFormed.translatesBy hs⟩

/-- The edit of `a{b:url(x)}` that writes `long/x` over `x`, looked up by halving. -/
theorem recorded_offsets_translate_url_edit :
    Recorded (((({} : Builder).addSource 8).push ⟨8, 9⟩ 6 .replaced).addSource 2) ∧
      (((({} : Builder).addSource 8).push ⟨8, 9⟩ 6 .replaced).addSource 2).build.WellFormed ∧
      (((({} : Builder).addSource 8).push ⟨8, 9⟩ 6 .replaced).addSource 2).build.TranslatesBy
        Bisect.halve :=
  have h : Recorded (((({} : Builder).addSource 8).push ⟨8, 9⟩ 6 .replaced).addSource 2) :=
    .source 2 (.transformed 6 (.source 8 .empty) (by decide) (addTransformed_of_start 6 rfl))
  ⟨h, (recorded_offsets_translate h).1, (recorded_offsets_translate h).2 _ Bisect.halve_lawful⟩

/-- **Where translation breaks its promise.** A replaced range running backwards, `[6, 2)` after
six copied bytes, is recorded, and leaves the map's input end at 2 while offset 3 is still
translated. And an empty replacement at byte 2 of four copied bytes leaves two stretches
starting there: the halving search, which keeps the promise of a search, stops at the empty
one, so offset 2 has no translation, where bisection takes it to 3. -/
theorem recorded_offsets_counterexamples :
    (({} : Builder).addSource 6).addTransformed ⟨6, 2⟩ 1 =
        .ok ((({} : Builder).addSource 6).push ⟨6, 2⟩ 1 .replaced) ∧
      ((({} : Builder).addSource 6).push ⟨6, 2⟩ 1 .replaced).build.inputLen = 2 ∧
      ((({} : Builder).addSource 6).push ⟨6, 2⟩ 1 .replaced).build.outputOffset? 3 = some 3 ∧
    Recorded (((({} : Builder).addSource 2).push ⟨2, 2⟩ 1 .replaced).addSource 2) ∧
      Bisect.Lawful (Bisect.halve : Bisect.Search Segment) ∧
      (((({} : Builder).addSource 2).push ⟨2, 2⟩ 1 .replaced).addSource 2).build.EmptyAt 2 ∧
      (((({} : Builder).addSource 2).push ⟨2, 2⟩ 1 .replaced).addSource 2).build.outputOffsetBy?
        Bisect.halve 2 = none ∧
      (((({} : Builder).addSource 2).push ⟨2, 2⟩ 1 .replaced).addSource 2).build.outputOffset? 2 =
        some 3 :=
  ⟨addTransformed_of_start 1 rfl, rfl, by decide +kernel,
    .source 2 (.transformed 1 (.source 2 .empty) (by decide) (addTransformed_of_start 1 rfl)),
    Bisect.halve_lawful, by decide, by decide +kernel, by decide +kernel⟩

end OffsetMap.Builder

/-! ## (4) The lookup is a linear scan

A search keys on the input starts, which only never decrease once a replacement may be empty: an
empty stretch starts where the next one does. Bisection lands on the last of equal starts, so it
never stops on an empty stretch that another stretch follows, and it finds what a scan from the
front finds; every other search keeping its promise does so away from empty stretches. -/

namespace OffsetMap

/-- **The stretch holding an offset, by a linear scan**: the first stretch whose input range
contains it. An empty stretch contains nothing, so the scan passes over it. -/
def scanAt? (m : OffsetMap) (o : Nat) : Option Segment :=
  m.segments.find? (·.input.contains o)

namespace WellFormed

variable {m : OffsetMap} (hm : m.WellFormed)
include hm

/-- **Bisection finds what a linear scan finds** on a well-formed map. -/
theorem segmentAt?_eq_scanAt? (o : Nat) : m.segmentAt? o = m.scanAt? o := by
  cases hscan : m.scanAt? o with
  | some seg =>
    have hfind : m.segments.find? (·.input.contains o) = some seg := hscan
    have hmem : seg ∈ m.segments.toList :=
      Array.mem_toList_iff.mpr (Array.mem_of_find?_eq_some hfind)
    have hcont := Array.find?_some hfind
    exact hm.segmentAt?_of_contains hmem hcont
  | none =>
    -- the scan met no stretch holding the offset, and bisection only reports such a stretch
    cases hlook : m.segmentAt? o with
    | none => rfl
    | some seg =>
      obtain ⟨hseg, hcont⟩ := segmentAt?_eq_some hlook
      have hfind : m.segments.find? (·.input.contains o) = none := hscan
      have hno := Array.find?_eq_none.mp hfind seg (Array.mem_toList_iff.mp hseg)
      rw [hcont] at hno
      exact absurd rfl hno

/-- **The lookup finds nothing exactly from the end of the input on.** -/
theorem segmentAt?_eq_none_iff (o : Nat) : m.segmentAt? o = none ↔ m.inputLen ≤ o := by
  constructor
  · intro hnone
    by_contra hlt
    obtain ⟨seg, hseg, ho⟩ := hm.exists_contains (Nat.lt_of_not_le hlt)
    rw [hm.segmentAt?_of_contains hseg ho] at hnone
    cases hnone
  · exact hm.segmentAt?_of_le

end WellFormed

end OffsetMap

namespace OffsetMap.Builder

/-- **Offset lookup on recorded maps is a linear scan.** For every builder reached by recording
copied text and replacements of forward ranges in order, every search over the input starts that
keeps its promise, and every offset where no empty stretch stands, the search finds the stretch
that a scan from the front finds, the one whose input range holds the offset, and finds none
exactly when the offset is at or past the end of the input. -/
theorem recorded_lookup_is_scan {b : Builder} (h : Recorded b) {search : Bisect.Search Segment}
    (hs : Bisect.Lawful search) {o : Nat} (ho : ¬b.build.EmptyAt o) :
    b.build.segmentAtBy? search o = b.build.scanAt? o ∧
      (b.build.segmentAtBy? search o = none ↔ b.build.inputLen ≤ o) := by
  rw [h.wellFormed.segmentAtBy?_eq_segmentAt? hs ho]
  exact ⟨h.wellFormed.segmentAt?_eq_scanAt? o, h.wellFormed.segmentAt?_eq_none_iff o⟩

/-- **Two copied bytes, two empty replacements at byte 2, then a replacement of `[2, 6)`.** -/
def emptiedTwice : Builder :=
  (((({} : Builder).addSource 2).push ⟨2, 2⟩ 2 .replaced).push ⟨2, 2⟩ 3 .replaced).push
    ⟨2, 6⟩ 4 .replaced

/-- Looked up by halving, byte 3 of the map above is found where a scan finds it. -/
theorem recorded_lookup_is_scan_empty_replacements :
    Recorded emptiedTwice ∧ Bisect.Lawful (Bisect.halve : Bisect.Search Segment) ∧
      ¬emptiedTwice.build.EmptyAt 3 ∧
      emptiedTwice.build.segmentAtBy? Bisect.halve 3 = emptiedTwice.build.scanAt? 3 ∧
      (emptiedTwice.build.segmentAtBy? Bisect.halve 3 = none ↔ emptiedTwice.build.inputLen ≤ 3) :=
  have h : Recorded emptiedTwice :=
    .transformed 4 (.transformed 3 (.transformed 2 (.source 2 .empty) (by decide)
      (addTransformed_of_start 2 rfl)) (by decide) (addTransformed_of_start 3 rfl)) (by decide)
      (addTransformed_of_start 4 rfl)
  have ho : ¬emptiedTwice.build.EmptyAt 3 := by decide
  ⟨h, Bisect.halve_lawful, ho, recorded_lookup_is_scan h Bisect.halve_lawful ho⟩

/-- **Where the lookup is no scan.** A replaced range running backwards, `[6, 2)` after six copied
bytes, leaves the map's input end at 2, and the lookup still finds the copied stretch `[0, 6)`
for offset 3. And on the map above, the halving search stops at an empty stretch at byte 2 and
finds nothing there, where a scan finds the replacement of `[2, 6)`. -/
theorem recorded_lookup_counterexamples :
    (({} : Builder).addSource 6).addTransformed ⟨6, 2⟩ 1 =
        .ok ((({} : Builder).addSource 6).push ⟨6, 2⟩ 1 .replaced) ∧
      ((({} : Builder).addSource 6).push ⟨6, 2⟩ 1 .replaced).build.inputLen = 2 ∧
      ((({} : Builder).addSource 6).push ⟨6, 2⟩ 1 .replaced).build.segmentAt? 3 =
        some ⟨⟨0, 6⟩, ⟨0, 6⟩, .copied⟩ ∧
    Bisect.Lawful (Bisect.halve : Bisect.Search Segment) ∧
      emptiedTwice.build.segmentAtBy? Bisect.halve 2 = none ∧
      emptiedTwice.build.scanAt? 2 = some ⟨⟨2, 6⟩, ⟨7, 11⟩, .replaced⟩ :=
  ⟨addTransformed_of_start 1 rfl, rfl, by decide +kernel, Bisect.halve_lawful, by decide +kernel,
    by decide⟩

end OffsetMap.Builder

end StyleRebase
