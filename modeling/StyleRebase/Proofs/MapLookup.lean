import Mathlib.Data.Set.Finite.Lemmas
import StyleRebase.Proofs.OffsetLookup
import StyleRebase.SourceMap.Basic

/-! # The mapping a source map looks up

A source map looks a generated position up by bisecting its lookup index, which lists each
mapping's position and index in position order. Of the entries at or before the position it takes
the last one, and of several at the position itself the first; a range mapping is then read at
the column. With one mapping per position this is the mapping in force: the last one on the
position's line at or before its column.

* **`SourceMap.lookup_spec`** — a lookup finds nothing when every mapping comes after the
  position, and otherwise a mapping at the last position at or before it, read at the column.
* **`SourceMap.tokenAt_of_inForce`** — with one mapping per position, the token at a position is
  the token in force there, read at the position's column.
* **`SourceMap.tokenAt_eq_none`**, **`SourceMap.tokenAt_eq_some`** — no token of the line at or
  before the column gives no token; a token found is one of them. -/

namespace StyleRebase

namespace SourceMap

variable {α : Type}

/-! ## (1) The lookup index -/

/-- **A generated position at or before another**: on an earlier line, or on the same line at a
column not past it. -/
def AtOrBefore (a b : Nat × Nat) : Prop := a.1 < b.1 ∨ (a.1 = b.1 ∧ a.2 ≤ b.2)

theorem AtOrBefore.refl (a : Nat × Nat) : AtOrBefore a a := .inr ⟨rfl, Nat.le_refl _⟩

theorem AtOrBefore.trans {a b c : Nat × Nat} (hab : AtOrBefore a b) (hbc : AtOrBefore b c) :
    AtOrBefore a c := by
  unfold AtOrBefore at *
  omega

theorem keyLe_trans (a b c : Nat × Nat × Nat) : keyLe a b → keyLe b c → keyLe a c := by
  simp only [keyLe, Bool.or_eq_true, Bool.and_eq_true, decide_eq_true_eq, beq_iff_eq]
  omega

theorem keyLe_total (a b : Nat × Nat × Nat) : (keyLe a b || keyLe b a) = true := by
  simp only [keyLe, Bool.or_eq_true, Bool.and_eq_true, decide_eq_true_eq, beq_iff_eq]
  omega

/-- Keys in lookup order have positions in order. -/
theorem AtOrBefore.of_keyLe {a b : Nat × Nat × Nat} (h : keyLe a b = true) :
    AtOrBefore (a.1, a.2.1) (b.1, b.2.1) := by
  simp only [keyLe, Bool.or_eq_true, Bool.and_eq_true, decide_eq_true_eq, beq_iff_eq] at h
  unfold AtOrBefore
  omega

/-- **The entries of the lookup index**: one for each mapping, with its position and index. -/
theorem mem_lookupIndex {ms : Array Mapping} {e : Nat × Nat × Nat} :
    e ∈ (lookupIndex ms).toList ↔ ∃ i t, ms[i]? = some t ∧ e = (t.dstLine, t.dstCol, i) := by
  simp only [lookupIndex, List.mem_mergeSort, List.mem_map, Prod.exists,
    List.mem_zipIdx_iff_getElem?, Array.getElem?_toList]
  constructor
  · rintro ⟨t, i, ht, rfl⟩
    exact ⟨i, t, ht, rfl⟩
  · rintro ⟨i, t, ht, rfl⟩
    exact ⟨t, i, ht, rfl⟩

/-- The lookup index is in lookup order. -/
theorem lookupIndex_sorted (ms : Array Mapping) :
    (lookupIndex ms).toList.Pairwise fun a b => keyLe a b = true :=
  List.pairwise_mergeSort keyLe_trans keyLe_total _

/-- **How an index entry compares with a probed position**, as the lookup bisects. -/
def probe (line col : Nat) (k : Nat × Nat × Nat) : Ordering :=
  (compare k.1 line).then (compare k.2.1 col)

theorem probe_eq_gt {line col : Nat} {k : Nat × Nat × Nat} :
    probe line col k = .gt ↔ ¬AtOrBefore (k.1, k.2.1) (line, col) := by
  unfold probe AtOrBefore
  rcases Nat.lt_trichotomy k.1 line with h | h | h
  · simp [Nat.compare_eq_lt.mpr h, Ordering.then, h]
  · rcases Nat.lt_trichotomy k.2.1 col with h' | h' | h'
    · simp [h, Nat.compare_eq_lt.mpr h', Ordering.then]; omega
    · simp [h, h', Ordering.then]
    · simp [h, Nat.compare_eq_gt.mpr h', Ordering.then]; omega
  · simp [Nat.compare_eq_gt.mpr h, Ordering.then]; omega

theorem probe_eq_eq {line col : Nat} {k : Nat × Nat × Nat} :
    probe line col k = .eq ↔ k.1 = line ∧ k.2.1 = col := by
  unfold probe
  rcases Nat.lt_trichotomy k.1 line with h | h | h
  · simp [Nat.compare_eq_lt.mpr h, Ordering.then]; omega
  · rcases Nat.lt_trichotomy k.2.1 col with h' | h' | h'
    · simp [h, Nat.compare_eq_lt.mpr h', Ordering.then]; omega
    · simp [h, h', Ordering.then]
    · simp [h, Nat.compare_eq_gt.mpr h', Ordering.then]; omega
  · simp [Nat.compare_eq_gt.mpr h, Ordering.then]; omega

/-- **Entries of the lookup index come in position order.** -/
theorem lookupIndex_mono {ms : Array Mapping} {i j : Nat} {a b : Nat × Nat × Nat} (hij : i ≤ j)
    (ha : (lookupIndex ms)[i]? = some a) (hb : (lookupIndex ms)[j]? = some b) :
    AtOrBefore (a.1, a.2.1) (b.1, b.2.1) := by
  rcases Nat.lt_or_eq_of_le hij with hlt | rfl
  · obtain ⟨hi, rfl⟩ := Array.getElem?_eq_some_iff.mp ha
    obtain ⟨hj, rfl⟩ := Array.getElem?_eq_some_iff.mp hb
    have hsorted := List.pairwise_iff_getElem.mp (lookupIndex_sorted ms) i j
      (by simpa using hi) (by simpa using hj) hlt
    simp only [Array.getElem_toList] at hsorted
    exact AtOrBefore.of_keyLe hsorted
  · rw [ha] at hb
    cases hb
    exact AtOrBefore.refl _

/-- **The lookup index is ordered for every probe**: past an entry after the probed position,
every entry is after it. -/
theorem lookupIndex_ordered (ms : Array Mapping) (line col : Nat) :
    Bisect.Ordered (probe line col) (lookupIndex ms) := by
  intro i j hij hi
  cases hb : (lookupIndex ms)[j]? with
  | none => simp [Bisect.compareAt, hb]
  | some b =>
    have hsize : i < (lookupIndex ms).size := by
      have := (Array.getElem?_eq_some_iff.mp hb).1
      omega
    have ha := Array.getElem?_eq_getElem hsize
    rw [Bisect.compareAt_of_getElem? ha, probe_eq_gt] at hi
    rw [Bisect.compareAt_of_getElem? hb, probe_eq_gt]
    exact fun hle => hi ((lookupIndex_mono hij ha hb).trans hle)

/-! ## (2) Bisecting the index -/

/-- An index not above the probe holds an element. -/
theorem entry_of_compareAt_ne_gt {f : α → Ordering} {xs : Array α} {i : Nat}
    (h : Bisect.compareAt f xs i ≠ .gt) : ∃ x, xs[i]? = some x ∧ f x = Bisect.compareAt f xs i := by
  unfold Bisect.compareAt at *
  cases hx : xs[i]? with
  | none => simp [hx] at h
  | some x => exact ⟨x, rfl, by simp⟩

/-- **A found probe is at the index reported.** -/
theorem compareAt_of_bisect_found {f : α → Ordering} {xs : Array α} {i : Nat}
    (h : Bisect.bisect f xs = .found i) : Bisect.compareAt f xs i = .eq := by
  unfold Bisect.bisect at h
  split at h
  · cases h
  · dsimp only at h
    split at h
    · rename_i heq
      cases h
      exact heq
    · cases h
    · cases h

/-- **Stepping back over entries at a position** stays on entries at that position. -/
theorem firstAtSamePosition_spec (ix : Array (Nat × Nat × Nat)) (line col : Nat) :
    ∀ n k, ix[n]? = some (line, col, k) →
      ∃ k', ix[firstAtSamePosition ix line col n]? = some (line, col, k')
  | 0, k, h => ⟨k, h⟩
  | n + 1, k, h => by
    rw [firstAtSamePosition]
    split
    · rename_i l c k₀ hn
      split
      · rename_i hpos
        simp only [Bool.and_eq_true, beq_iff_eq] at hpos
        obtain ⟨rfl, rfl⟩ := hpos
        exact firstAtSamePosition_spec ix l c n k₀ hn
      · exact ⟨k, h⟩
    · exact ⟨k, h⟩

/-- Every mapping has an entry in the lookup index. -/
theorem exists_entry {ms : Array Mapping} {t : Mapping} (ht : t ∈ ms.toList) :
    ∃ j k : Nat, (lookupIndex ms)[j]? = some (t.dstLine, t.dstCol, k) := by
  obtain ⟨k, hk⟩ := List.mem_iff_getElem?.mp ht
  have hmem : (t.dstLine, t.dstCol, k) ∈ (lookupIndex ms).toList :=
    mem_lookupIndex.mpr ⟨k, t, by simpa using hk, rfl⟩
  obtain ⟨j, hj⟩ := List.mem_iff_getElem?.mp hmem
  exact ⟨j, k, by simpa using hj⟩

/-- An entry of the lookup index names a mapping at its position. -/
theorem mapping_of_entry {ms : Array Mapping} {j l c k : Nat}
    (h : (lookupIndex ms)[j]? = some (l, c, k)) :
    ∃ t, ms[k]? = some t ∧ t.dstLine = l ∧ t.dstCol = c := by
  have hmem : (l, c, k) ∈ (lookupIndex ms).toList := by
    rw [← Array.getElem?_toList] at h
    exact List.mem_of_getElem? h
  obtain ⟨i, t, ht, he⟩ := mem_lookupIndex.mp hmem
  simp only [Prod.mk.injEq] at he
  obtain ⟨rfl, rfl, rfl⟩ := he
  exact ⟨t, ht, rfl, rfl⟩

/-- **A token read at a column of its line**: a range token's source column moves by the
distance from its start, taken modulo 2^32, and saturates at 2^32 - 1. -/
def Token.readAt (k : Token) (col : Nat) : Token :=
  if k.isRange then
    { k with
      srcCol := min (k.srcCol + (col + Nat.pow 2 32 - k.dstCol) % Nat.pow 2 32) (Nat.pow 2 32 - 1) }
  else k

/-- Saturating twice is saturating once. -/
theorem min_add_min (a b K : Nat) : min (min a K + b) K = min (a + b) K := by
  omega

/-- **A mapping looked up at a column is its token read there.** -/
theorem tokenOf_eq_readAt (m : SourceMap) (t : Mapping) (col : Nat) :
    m.tokenOf t (if t.isRange then (col + Nat.pow 2 32 - t.dstCol) % Nat.pow 2 32 else 0) =
      (m.tokenOf t 0).readAt col := by
  cases hr : t.isRange
  · simp [Token.readAt, tokenOf, hr]
  · simp only [Token.readAt, tokenOf, hr, if_true, Nat.add_zero, min_add_min]

/-- **The mapping a lookup reads**: none when every mapping comes after the position; otherwise a
mapping at the last position at or before it, read at the column. -/
theorem lookup_spec {m : SourceMap} (hidx : m.index = lookupIndex m.mappings) (line col : Nat) :
    (m.lookup line col = none ∧
      ∀ t ∈ m.mappings.toList, ¬AtOrBefore (t.dstLine, t.dstCol) (line, col)) ∨
    ∃ t ∈ m.mappings.toList, m.lookup line col = some ((m.tokenOf t 0).readAt col) ∧
      AtOrBefore (t.dstLine, t.dstCol) (line, col) ∧
      ∀ t' ∈ m.mappings.toList, AtOrBefore (t'.dstLine, t'.dstCol) (line, col) →
        AtOrBefore (t'.dstLine, t'.dstCol) (t.dstLine, t.dstCol) := by
  have hord := lookupIndex_ordered m.mappings line col
  rw [← hidx] at hord
  have hlast := Bisect.lastNotAbove?_bisect (f := probe line col) hord
  -- every mapping at or before the position has its entry no later than one not above it
  have hentry : ∀ t' ∈ m.mappings.toList, AtOrBefore (t'.dstLine, t'.dstCol) (line, col) →
      ∃ j k, m.index[j]? = some (t'.dstLine, t'.dstCol, k) ∧
        Bisect.compareAt (probe line col) m.index j ≠ .gt := by
    intro t' ht' hle
    obtain ⟨j, k, hj⟩ := exists_entry ht'
    rw [← hidx] at hj
    refine ⟨j, k, hj, ?_⟩
    rw [Bisect.compareAt_of_getElem? hj, Ne, probe_eq_gt, not_not]
    exact hle
  -- the lookup bisects with `probe`
  have hprobe : (fun k : Nat × Nat × Nat => (compare k.1 line).then (compare k.2.1 col)) =
      probe line col := rfl
  rcases hb : Bisect.bisect (probe line col) m.index with i | (_ | i)
  · have hfound : Bisect.compareAt (probe line col) m.index i ≠ .gt := by
      rw [compareAt_of_bisect_found hb]
      simp
    obtain ⟨e, he, hpe⟩ := entry_of_compareAt_ne_gt hfound
    rw [compareAt_of_bisect_found hb, probe_eq_eq] at hpe
    obtain ⟨l, c, k⟩ := e
    obtain ⟨rfl, rfl⟩ : l = line ∧ c = col := hpe
    obtain ⟨k', hk'⟩ := firstAtSamePosition_spec m.index l c i k he
    obtain ⟨t, ht, rfl, rfl⟩ := mapping_of_entry (hidx ▸ hk')
    refine .inr ⟨t, Array.mem_toList_iff.mpr (Array.mem_of_getElem? ht), ?_, .refl _,
      fun _ _ h => h⟩
    simp only [lookup, hprobe, hb, Option.pure_def, Option.bind_eq_bind, Option.bind_some, hk',
      ht, tokenOf_eq_readAt]
  · rcases hlast with ⟨_, h0⟩ | ⟨j, hj, _⟩
    · refine .inl ⟨by simp only [lookup, hprobe, hb, Option.bind_eq_bind, Option.bind_none], ?_⟩
      intro t' ht' hle
      obtain ⟨j, k, _, hj⟩ := hentry t' ht' hle
      exact hj (hord 0 j (Nat.zero_le _) h0)
    · simp [hb, Bisect.Outcome.lastNotAbove?] at hj
  · rcases hlast with ⟨hnone, _⟩ | ⟨j, hj, hne, hgt⟩
    · simp [hb, Bisect.Outcome.lastNotAbove?] at hnone
    · simp only [hb, Bisect.Outcome.lastNotAbove?, Option.some.injEq] at hj
      subst hj
      obtain ⟨⟨l, c, k⟩, he, hpe⟩ := entry_of_compareAt_ne_gt hne
      rw [← hpe, Ne, probe_eq_gt, not_not] at hne
      obtain ⟨t, ht, rfl, rfl⟩ := mapping_of_entry (hidx ▸ he)
      refine .inr ⟨t, Array.mem_toList_iff.mpr (Array.mem_of_getElem? ht), ?_, hne, ?_⟩
      · simp only [lookup, hprobe, hb, Option.pure_def, Option.bind_eq_bind, Option.bind_some, he,
          ht, tokenOf_eq_readAt]
      · intro t' ht' hle
        obtain ⟨j', k', hj', hne'⟩ := hentry t' ht' hle
        have hj'i : j' ≤ i := by
          by_contra hlt
          exact hne' (hord (i + 1) j' (by omega) hgt)
        exact lookupIndex_mono hj'i (hidx ▸ hj') (hidx ▸ he)

/-! ## (3) The token in force -/

/-- A token of a map is one of its mappings read back. -/
theorem mem_tokens {m : SourceMap} {k : Token} :
    k ∈ m.tokens ↔ ∃ t ∈ m.mappings.toList, m.tokenOf t 0 = k := by
  simp [tokens]

@[simp] theorem tokenOf_dstLine (m : SourceMap) (t : Mapping) (o : Nat) :
    (m.tokenOf t o).dstLine = t.dstLine := rfl

@[simp] theorem tokenOf_dstCol (m : SourceMap) (t : Mapping) (o : Nat) :
    (m.tokenOf t o).dstCol = t.dstCol := rfl

@[simp] theorem readAt_dstLine (k : Token) (col : Nat) : (k.readAt col).dstLine = k.dstLine := by
  unfold Token.readAt; split <;> rfl

@[simp] theorem readAt_dstCol (k : Token) (col : Nat) : (k.readAt col).dstCol = k.dstCol := by
  unfold Token.readAt; split <;> rfl

/-- A token read at its own column is itself, when its source column is a 32-bit column. -/
theorem readAt_self {k : Token} (h : k.srcCol ≤ Nat.pow 2 32 - 1) : k.readAt k.dstCol = k := by
  unfold Token.readAt
  split
  · rw [Nat.add_sub_cancel_left, Nat.mod_self, Nat.add_zero, Nat.min_eq_left h]
  · rfl

/-- Reading a token keeps its source column a 32-bit column. -/
theorem readAt_srcCol_le {k : Token} (h : k.srcCol ≤ Nat.pow 2 32 - 1) (col : Nat) :
    (k.readAt col).srcCol ≤ Nat.pow 2 32 - 1 := by
  unfold Token.readAt
  split
  · exact Nat.min_le_right _ _
  · exact h

/-- **The token in force at a position**: a token of the position's line at or before its
column, with no token of the line between them. -/
def InForce (ks : List Token) (pos : LineCol) (k : Token) : Prop :=
  k ∈ ks ∧ k.dstLine = pos.line ∧ k.dstCol ≤ pos.col ∧
    ∀ k' ∈ ks, k'.dstLine = pos.line → k'.dstCol ≤ pos.col → k'.dstCol ≤ k.dstCol

/-- **Some token is in force** wherever a token of the line stands at or before the column. -/
theorem exists_inForce {ks : List Token} {pos : LineCol}
    (h : ∃ k ∈ ks, k.dstLine = pos.line ∧ k.dstCol ≤ pos.col) : ∃ k, InForce ks pos k := by
  obtain ⟨k₀, hk₀, h₀⟩ := h
  obtain ⟨k, ⟨hk, hline, hcol⟩, hmax⟩ := Set.exists_max_image
    {k | k ∈ ks ∧ k.dstLine = pos.line ∧ k.dstCol ≤ pos.col} Token.dstCol
    ((List.finite_toSet ks).subset fun k hk => hk.1) ⟨k₀, hk₀, h₀⟩
  exact ⟨k, hk, hline, hcol, fun k' hk' hl hc => hmax k' ⟨hk', hl, hc⟩⟩

/-- The token in force at a position stays in force back to its own column. -/
theorem InForce.of_before {ks : List Token} {pos pos' : LineCol} {k : Token}
    (h : InForce ks pos k) (hline : pos'.line = pos.line) (hcol : pos'.col ≤ pos.col)
    (hk : k.dstCol ≤ pos'.col) : InForce ks pos' k := by
  obtain ⟨hmem, hkline, -, hmax⟩ := h
  exact ⟨hmem, hkline.trans hline.symm, hk, fun k' hk' hl hc =>
    hmax k' hk' (hl.trans hline) (Nat.le_trans hc hcol)⟩

/-- Two tokens of a map with one mapping per position, at one position, are one. -/
theorem eq_of_same_position {ks : List Token}
    (hone : ks.Pairwise fun u v => (⟨u.dstLine, u.dstCol⟩ : LineCol) ≠ ⟨v.dstLine, v.dstCol⟩)
    {u v : Token} (hu : u ∈ ks) (hv : v ∈ ks) (hline : u.dstLine = v.dstLine)
    (hcol : u.dstCol = v.dstCol) : u = v := by
  rcases pairwise_eq_or_rel hone hu hv with h | h | h
  · exact h
  · exact absurd (by rw [hline, hcol]) h
  · exact absurd (by rw [hline, hcol]) h

/-- **A map with one mapping per position gives the token in force**, read at the column. -/
theorem tokenAt_of_inForce {m : SourceMap} (hidx : m.index = lookupIndex m.mappings)
    (hone : m.tokens.Pairwise fun u v => (⟨u.dstLine, u.dstCol⟩ : LineCol) ≠ ⟨v.dstLine, v.dstCol⟩)
    {pos : LineCol} {k : Token} (h : InForce m.tokens pos k) :
    m.tokenAt pos = some (k.readAt pos.col) := by
  obtain ⟨hk, hline, hcol, hmax⟩ := h
  obtain ⟨tk, htk, rfl⟩ := mem_tokens.mp hk
  rcases lookup_spec hidx pos.line pos.col with ⟨-, hnone⟩ | ⟨t, ht, hlook, hle, hlast⟩
  · exact absurd (.inr ⟨hline, hcol⟩) (hnone tk htk)
  -- the mapping found is at the position of `k`, since neither comes after the other
  have hbefore := hlast tk htk (.inr ⟨hline, hcol⟩)
  have htmem : m.tokenOf t 0 ∈ m.tokens := mem_tokens.mpr ⟨t, ht, rfl⟩
  unfold AtOrBefore at hle hbefore
  simp only [tokenOf_dstLine, tokenOf_dstCol] at hline hcol
  have htline : t.dstLine = pos.line := by omega
  have htcol : t.dstCol = tk.dstCol := by
    have := hmax _ htmem htline (by simp only [tokenOf_dstCol]; omega)
    simp only [tokenOf_dstCol] at this
    omega
  have heq : m.tokenOf t 0 = m.tokenOf tk 0 :=
    eq_of_same_position hone htmem hk (by simp [htline, hline]) (by simp [htcol])
  rw [tokenAt, hlook, heq]
  simp [Option.filter, hline]

/-- **No token of the line at or before the column, no token in force.** -/
theorem tokenAt_eq_none {m : SourceMap} (hidx : m.index = lookupIndex m.mappings)
    {pos : LineCol} (h : ∀ k ∈ m.tokens, k.dstLine = pos.line → pos.col < k.dstCol) :
    m.tokenAt pos = none := by
  rcases lookup_spec hidx pos.line pos.col with ⟨hnone, -⟩ | ⟨t, ht, hlook, hle, -⟩
  · simp [tokenAt, hnone]
  · have hk := h _ (mem_tokens.mpr ⟨t, ht, rfl⟩)
    simp only [tokenOf] at hk
    unfold AtOrBefore at hle
    have hline : t.dstLine ≠ pos.line := fun hl => by have := hk hl; omega
    simp [tokenAt, hlook, Option.filter, tokenOf, hline]

/-- **What the token at a position is**: a token of the line at or before the column, read at
the column. -/
theorem tokenAt_eq_some {m : SourceMap} (hidx : m.index = lookupIndex m.mappings)
    {pos : LineCol} {v : Token} (h : m.tokenAt pos = some v) :
    ∃ k ∈ m.tokens, k.dstLine = pos.line ∧ k.dstCol ≤ pos.col ∧ v = k.readAt pos.col := by
  rcases lookup_spec hidx pos.line pos.col with ⟨hnone, -⟩ | ⟨t, ht, hlook, hle, -⟩
  · simp [tokenAt, hnone] at h
  · simp only [tokenAt, hlook, Option.filter, readAt_dstLine, beq_iff_eq] at h
    split at h
    · rename_i hline
      cases h
      unfold AtOrBefore at hle
      simp only [tokenOf_dstLine] at hline
      exact ⟨_, mem_tokens.mpr ⟨t, ht, rfl⟩, hline, by simp only [tokenOf_dstCol]; omega, rfl⟩
    · cases h

end SourceMap

end StyleRebase
