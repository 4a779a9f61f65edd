import StyleRebase.Proofs.CutPositions
import StyleRebase.Proofs.MapLookup
import StyleRebase.Proofs.SpliceCopies

/-! # Where the projected map's mappings come from

`project` places each mapping of the old map where its cut of the old text went, and the token in
force at each end of a replaced stretch at the same end of its replacement; sorting by position
and rank and keeping the first at each position gives the projected map. Read back, every mapping
of the projected map stands where a placed mapping stands, and a placed mapping whose position no
better or equal one shares with another token is kept.

* **`Rebase.project_token_placed`**, **`Rebase.project_carries_best`** — the projected map's
  mappings are placed ones, and a placed mapping of the best rank at its position is kept.
* **`Rebase.PlacedFrom`**, **`Rebase.placedFrom_of_mem`** — a placed mapping comes from a mapping
  of the old map at a cut, or from the token in force at an end of a replaced stretch.
* **`Rebase.readAt_carriedTo`** — reading a carried token further along its line is carrying the
  token read that much further. -/

namespace StyleRebase

namespace Rebase

/-! ## (1) The placed mappings and the kept ones -/

/-- **What the projection places**: the mappings of the old map that move, and the mappings at
the ends of each replaced stretch. -/
theorem mem_placedMappings {map : SourceMap} {input output : List Char} {offsets : OffsetMap}
    {p : Placed} :
    p ∈ placedMappings map input output offsets ↔
      (∃ k ∈ map.tokens,
        moveToken (LineIndex.ofChars input) (LineIndex.ofChars output) offsets k = some p) ∨
      ∃ seg ∈ offsets.replacements,
        p ∈ boundaryTokens map (LineIndex.ofChars input) (LineIndex.ofChars output) seg := by
  simp [placedMappings, List.mem_filterMap, List.mem_flatMap]

/-- **Every mapping of the projected map is at the position of a placed mapping.** -/
theorem project_token_placed {map : SourceMap} {input output : List Char} {offsets : OffsetMap}
    {u : SourceMap.Token} (hu : u ∈ (project map input output offsets).tokens) :
    ∃ p ∈ placedMappings map input output offsets, (⟨u.dstLine, u.dstCol⟩ : LineCol) = p.dst := by
  obtain ⟨b, hb, heq⟩ := project_eq_foldl map input output offsets
  rw [heq] at hu
  have hmem := List.mem_map_of_mem
    (f := fun u : SourceMap.Token => (⟨u.dstLine, u.dstCol⟩ : LineCol)) hu
  rw [SourceMap.Builder.build_tokens_positions, foldl_addPlaced_positions, hb] at hmem
  simp only [List.map_nil, List.nil_append, List.mem_map] at hmem
  obtain ⟨p, hp, hdst⟩ := hmem
  -- a kept mapping is one of the sorted ones, which are the placed ones
  have hsub := (firstPerPosition_distinct
    (List.pairwise_mergeSort Placed.le_trans Placed.le_total
      (placedMappings map input output offsets))).2
  exact ⟨p, List.mem_mergeSort.mp (hsub.subset hp), hdst.symm⟩

/-- **The projected map carries a placed mapping of the best rank at its position**, when every
placed mapping there of no worse rank carries the same token. The first mapping at that position
in the sorted list is kept; sorting put it no later than this one, so its rank is no worse. -/
theorem project_carries_best {map : SourceMap} {input output : List Char} {offsets : OffsetMap}
    {p : Placed} (hp : p ∈ placedMappings map input output offsets)
    (hbest : ∀ q ∈ placedMappings map input output offsets, q.dst = p.dst →
      q.rank.index ≤ p.rank.index → q.token = p.token)
    (hcol : p.token.srcCol ≤ Nat.pow 2 32 - 1) :
    carriedTo p.token p.dst ∈ (project map input output offsets).tokens := by
  have hsorted := List.pairwise_mergeSort Placed.le_trans Placed.le_total
    (placedMappings map input output offsets)
  have hps : p ∈ (placedMappings map input output offsets).mergeSort Placed.le :=
    List.mem_mergeSort.mpr hp
  obtain ⟨y, hfind⟩ : ∃ y, ((placedMappings map input output offsets).mergeSort Placed.le).find?
      (fun q => q.dst == p.dst) = some y := by
    cases h : ((placedMappings map input output offsets).mergeSort Placed.le).find?
        (fun q => q.dst == p.dst) with
    | none => exact absurd (by simp) (List.find?_eq_none.mp h p hps)
    | some y => exact ⟨y, rfl⟩
  obtain ⟨hy, A', C', hsplit, hA'⟩ := List.find?_eq_some_iff_append.mp hfind
  have hydst : y.dst = p.dst := beq_iff_eq.mp hy
  -- `p` is `y` or comes after it, so `y` is ordered before it
  have hyle : y.le p = true := by
    have hpin : p ∈ y :: C' := by
      rw [hsplit] at hps
      rcases List.mem_append.mp hps with h | h
      · have := hA' p h
        simp at this
      · exact h
    rcases List.mem_cons.mp hpin with rfl | h
    · simp [Placed.le]
    · rw [hsplit] at hsorted
      exact List.rel_of_pairwise_cons (List.pairwise_append.mp hsorted).2.1 h
  have hyrank : y.rank.index ≤ p.rank.index := by
    simp only [Placed.le, Bool.or_eq_true, Bool.and_eq_true, decide_eq_true_eq, beq_iff_eq,
      hydst] at hyle
    omega
  have hymem : y ∈ placedMappings map input output offsets :=
    List.mem_mergeSort.mp (by rw [hsplit]; simp)
  have hytoken := hbest y hymem hydst hyrank
  have hkept : y ∈ firstPerPosition ((placedMappings map input output offsets).mergeSort
      Placed.le) := by
    rw [hsplit]
    refine mem_firstPerPosition A' C' fun z hz hz' => ?_
    have := hA' z hz
    simp only [Bool.not_eq_true', beq_eq_false_iff_ne] at this
    exact this (hz'.trans hydst)
  have := mem_project_tokens hkept (by rw [hytoken]; exact hcol)
  rwa [hytoken, hydst] at this

/-- **The mapping placed at one end of a replaced stretch**: the token in force at the end in the
old text, placed at the matching end of the replacement. -/
theorem boundaryTokens_eq (map : SourceMap) (I O : LineIndex) (seg : Segment) :
    ∃ f : Nat → Nat → Option Placed,
      boundaryTokens map I O seg =
        (f seg.input.start seg.output.start).toList ++ (f seg.input.stop seg.output.stop).toList ∧
      ∀ old new p, f old new = some p ↔ p.rank = .boundary ∧
        ∃ pos, I.lineColUtf16 old = some pos ∧ map.tokenAt pos = some p.token ∧
          O.lineColUtf16 new = some p.dst := by
  refine ⟨fun old new => do
    let pos ← I.lineColUtf16 old
    let t ← map.tokenAt pos
    let dst ← O.lineColUtf16 new
    pure ⟨dst, .boundary, t⟩, ?_, ?_⟩
  · simp only [boundaryTokens, List.filterMap_cons, List.filterMap_nil]
    split <;> split <;> simp_all
  · intro old new p
    simp only [Option.bind_eq_bind, Option.bind_eq_some_iff, Option.pure_def, Option.some.injEq]
    constructor
    · rintro ⟨pos, hpos, t, ht, dst, hdst, rfl⟩
      exact ⟨rfl, pos, hpos, ht, hdst⟩
    · obtain ⟨dst, rank, t⟩ := p
      rintro ⟨hrank, pos, hpos, ht, hdst⟩
      simp only at hrank ht hdst
      subst hrank
      exact ⟨pos, hpos, t, ht, dst, hdst, rfl⟩

/-- **The mappings placed at the ends of a replaced stretch**: at each end that has a position in
the old text and a token in force there, that token, placed at the same end of the replacement. -/
theorem mem_boundaryTokens {map : SourceMap} {I O : LineIndex} {seg : Segment} {p : Placed} :
    p ∈ boundaryTokens map I O seg ↔ p.rank = .boundary ∧
      ((∃ pos, I.lineColUtf16 seg.input.start = some pos ∧ map.tokenAt pos = some p.token ∧
          O.lineColUtf16 seg.output.start = some p.dst) ∨
        (∃ pos, I.lineColUtf16 seg.input.stop = some pos ∧ map.tokenAt pos = some p.token ∧
          O.lineColUtf16 seg.output.stop = some p.dst)) := by
  obtain ⟨f, heq, hf⟩ := boundaryTokens_eq map I O seg
  rw [heq, List.mem_append, Option.mem_toList, Option.mem_toList, hf, hf]
  constructor
  · rintro (⟨hr, h⟩ | ⟨hr, h⟩)
    · exact ⟨hr, .inl h⟩
    · exact ⟨hr, .inr h⟩
  · rintro ⟨hr, h | h⟩
    · exact .inl ⟨hr, h⟩
    · exact .inr ⟨hr, h⟩

/-- The projected map is built with its lookup index. -/
theorem project_index (map : SourceMap) (input output : List Char) (offsets : OffsetMap) :
    (project map input output offsets).index =
      SourceMap.lookupIndex (project map input output offsets).mappings := by
  obtain ⟨b, -, heq⟩ := project_eq_foldl map input output offsets
  rw [heq]
  rfl

/-! ## (2) Where a placed mapping comes from -/

section Origins

variable {t : List Char}

/-- **Moving a mapping at a cut**: the mapping at a boundary of its line lands where the cut
went, when the new text's columns fit 32 bits. -/
theorem moveToken_of_cut {css : List Char} {offsets : OffsetMap}
    {k : SourceMap.Token} {K Y V : List Char}
    (hinput : inputOffset (LineIndex.ofChars t) ⟨k.dstLine, k.dstCol⟩ = some (utf8Length K, 0))
    (hcss : css = Y ++ V) (hy : offsets.outputOffset? (utf8Length K) = some (utf8Length Y))
    (hwide : utf16Length css < Nat.pow 2 32) :
    moveToken (LineIndex.ofChars t) (LineIndex.ofChars css) offsets k =
      some ⟨endPosition Y, rankAt offsets (utf8Length K), k⟩ := by
  have hdst := LineIndex.lineColUtf16_prefix Y V
  rw [← hcss] at hdst
  rw [moveToken_eq hinput hy hdst]
  -- the column fits 32 bits, so it is kept
  have hfit : (endPosition Y).col < Nat.pow 2 32 := by
    have := endPosition_col_le Y
    rw [hcss, utf16Length_append] at hwide
    omega
  rw [Nat.add_zero, Nat.mod_eq_of_lt hfit]

/-- **Where a placed mapping came from**: a mapping of the old map at a cut `X` of the old text,
moved to the cut `Y` of the new text where `X` went; or the token in force at an end `X` of a
replaced stretch, placed at the same end `Y` of its replacement. -/
inductive PlacedFrom (map : SourceMap) (t css : List Char) (offsets : OffsetMap) :
    List Char → List Char → Placed → Prop
  | moved {k : SourceMap.Token} {K U Y V : List Char} : k ∈ map.tokens → t = K ++ U →
      endPosition K = ⟨k.dstLine, k.dstCol⟩ → css = Y ++ V →
      offsets.outputOffset? (utf8Length K) = some (utf8Length Y) →
      PlacedFrom map t css offsets K Y ⟨endPosition Y, rankAt offsets (utf8Length K), k⟩
  | start {seg : Segment} {X U Y V : List Char} {v : SourceMap.Token} :
      seg ∈ offsets.replacements → t = X ++ U → utf8Length X = seg.input.start →
      css = Y ++ V → utf8Length Y = seg.output.start → map.tokenAt (endPosition X) = some v →
      PlacedFrom map t css offsets X Y ⟨endPosition Y, .boundary, v⟩
  | stop {seg : Segment} {X U Y V : List Char} {v : SourceMap.Token} :
      seg ∈ offsets.replacements → t = X ++ U → utf8Length X = seg.input.stop →
      css = Y ++ V → utf8Length Y = seg.output.stop → map.tokenAt (endPosition X) = some v →
      PlacedFrom map t css offsets X Y ⟨endPosition Y, .boundary, v⟩

/-- A placed mapping sits at the end of its landing, a cut of the new text. -/
theorem PlacedFrom.dst {map : SourceMap} {css : List Char} {offsets : OffsetMap} {X Y : List Char}
    {p : Placed} (h : PlacedFrom map t css offsets X Y p) : p.dst = endPosition Y ∧ Y <+: css := by
  cases h with
  | moved _ _ _ hcY => exact ⟨rfl, _, hcY.symm⟩
  | start _ _ _ hcY => exact ⟨rfl, _, hcY.symm⟩
  | stop _ _ _ hcY => exact ⟨rfl, _, hcY.symm⟩

/-- **Every placed mapping comes from the old map or an end of a replaced stretch**, when every
mapping on a line of the old text sits at a boundary of its line and the new text's columns fit
32 bits. -/
theorem placedFrom_of_mem {map : SourceMap} {css : List Char} {offsets : OffsetMap}
    (hcols : ∀ k ∈ map.tokens, ∀ line, (LineIndex.ofChars t).lines[k.dstLine]? = some line →
      ∃ p q, line = p ++ q ∧ k.dstCol = utf16Length p)
    (hwide : utf16Length css < Nat.pow 2 32) {p : Placed}
    (hp : p ∈ placedMappings map t css offsets) : ∃ X Y, PlacedFrom map t css offsets X Y p := by
  rcases mem_placedMappings.mp hp with ⟨k, hk, hmove⟩ | ⟨seg, hseg, hb⟩
  · -- a moved mapping sits on a line of the old text, at a boundary of it
    cases hline : (LineIndex.ofChars t).lines[k.dstLine]? with
    | none =>
      simp [moveToken, moveTokenBy, LineIndex.inputOffset_of_no_line ⟨k.dstLine, k.dstCol⟩ hline]
        at hmove
    | some line =>
      obtain ⟨p₀, q₀, hpq, hcol⟩ := hcols k hk line hline
      obtain ⟨K, U, ht, hK, hinput⟩ :=
        LineIndex.cut_of_column ⟨k.dstLine, k.dstCol⟩ hline hpq hcol
      cases hy : offsets.outputOffsetBy? Bisect.bisect (utf8Length K) with
      | none => simp [moveToken, moveTokenBy, hinput, hy] at hmove
      | some y =>
        cases hdst : (LineIndex.ofChars css).lineColUtf16 y with
        | none => simp [moveToken, moveTokenBy, hinput, hy, hdst] at hmove
        | some dst =>
          obtain ⟨Y, V, hcss, rfl, rfl⟩ := LineIndex.cut_of_lineColUtf16 hdst
          rw [moveToken_of_cut hinput hcss hy hwide, Option.some.injEq] at hmove
          subst hmove
          exact ⟨K, Y, .moved hk ht hK hcss hy⟩
  · obtain ⟨hrank, ⟨pos, hpos, htok, hdst⟩ | ⟨pos, hpos, htok, hdst⟩⟩ := mem_boundaryTokens.mp hb
    · obtain ⟨X, U, ht, hX, rfl⟩ := LineIndex.cut_of_lineColUtf16 hpos
      obtain ⟨Y, V, hcss, hY, hYdst⟩ := LineIndex.cut_of_lineColUtf16 hdst
      obtain ⟨dst, rank, v⟩ := p
      simp only at hrank htok hYdst
      subst hrank hYdst
      exact ⟨X, Y, .start hseg ht hX hcss hY htok⟩
    · obtain ⟨X, U, ht, hX, rfl⟩ := LineIndex.cut_of_lineColUtf16 hpos
      obtain ⟨Y, V, hcss, hY, hYdst⟩ := LineIndex.cut_of_lineColUtf16 hdst
      obtain ⟨dst, rank, v⟩ := p
      simp only at hrank htok hYdst
      subst hrank hYdst
      exact ⟨X, Y, .stop hseg ht hX hcss hY htok⟩

/-- **A placed mapping comes from a cut with a token of the old map on its line at or before
it**: the moved mapping itself, or the token in force at the end of the replaced stretch. -/
theorem PlacedFrom.token_before {M : SourceMap} {css : List Char} {offsets : OffsetMap}
    (hidx : M.index = SourceMap.lookupIndex M.mappings) {X Y : List Char} {p : Placed}
    (h : PlacedFrom M t css offsets X Y p) :
    ∃ k ∈ M.tokens, k.dstLine = (endPosition X).line ∧ k.dstCol ≤ (endPosition X).col := by
  cases h with
  | moved hk _ hK => exact ⟨_, hk, by simp [hK], by simp [hK]⟩
  | start _ _ _ _ _ hv =>
    obtain ⟨k, hk, hl, hc, -⟩ := SourceMap.tokenAt_eq_some hidx hv
    exact ⟨k, hk, hl, hc⟩
  | stop _ _ _ _ _ hv =>
    obtain ⟨k, hk, hl, hc, -⟩ := SourceMap.tokenAt_eq_some hidx hv
    exact ⟨k, hk, hl, hc⟩

end Origins

/-! ## (3) Ranks and columns of moved mappings -/

/-- **An offset of the text that no replaced stretch holds past its start keeps its place.** -/
theorem keeps_of_not_inside {m : OffsetMap} (hm : m.WellFormed) {o : Nat} (hin : ¬m.Inside o)
    (hle : o ≤ m.inputLen) : m.Keeps o := by
  rcases Nat.lt_or_ge o m.inputLen with hlt | hge
  · obtain ⟨seg, hseg, hcont⟩ := hm.exists_contains hlt
    cases hk : seg.kind with
    | copied => exact .inl ⟨seg, hseg, hk, hcont⟩
    | replaced =>
      rw [Span.contains_iff] at hcont
      refine .inr (.inl ⟨seg, hseg, hk, ?_⟩)
      by_contra hne
      exact hin ⟨seg, hseg, hk, by omega, hcont.2⟩
  · exact .inr (.inr (by omega))

/-- An offset moved with the best rank lies inside no replaced stretch. -/
theorem not_inside_of_rankAt {m : OffsetMap} (hm : m.WellFormed) {o : Nat}
    (h : rankAt m o = .exact) : ¬m.Inside o := by
  rintro ⟨seg, hseg, hk, h₁, h₂⟩
  unfold rankAt at h
  rw [hm.segmentAt?_of_contains hseg ((Span.contains_iff _ _).mpr ⟨by omega, h₂⟩)] at h
  simp [hk, Nat.ne_of_lt h₁] at h

/-- **Reading a carried token further along its line** is carrying the token read that much
further, while the columns stay within 32 bits. -/
theorem readAt_carriedTo {k : SourceMap.Token} {a z : Nat} (ha : k.dstCol ≤ a)
    (hz : a + z < Nat.pow 2 32) (pos : LineCol) :
    (carriedTo (k.readAt a) pos).readAt (pos.col + z) = carriedTo (k.readAt (a + z)) pos := by
  have hK : Nat.pow 2 32 = 4294967296 := rfl
  cases hr : k.isRange
  · simp [SourceMap.Token.readAt, carriedTo, hr]
  · simp only [SourceMap.Token.readAt, carriedTo, hr, if_true]
    congr 1
    rw [hK] at hz ⊢
    omega

end Rebase

end StyleRebase
