import StyleRebase.Proofs.LineColumns
import StyleRebase.Proofs.OffsetLookup
import StyleRebase.Rebase.Project

/-! # Which mappings a projected source map keeps

`project` moves every mapping of the old map to where its text went, adds the mappings in force
at the ends of each replacement, sorts them by position and rank, and keeps the first at each
position, so the projected map has one mapping per position. A mapping whose offset lies in a
copied stretch, at the start of a replacement or at the end of the text is moved with the best
rank; so at its new position the projected map holds the first mapping of the old map that
lands there so, carried with its source, original line and column, name and range flag. Two
mappings of the old map can land on one position (two written there, or the two ends of an
emptied reference); then only the first is kept.

The new column is the column, in the new text, of where the offset went, plus the columns the
old mapping ran past its line's end, added as a 32-bit number: when that sum reaches 2^32 it
wraps around.

The stretches of the splice are found by a search over their input starts. The proofs follow
`project`, which searches by bisection; on a splice of spans that hold input every search keeping
its promise finds the same stretches, and the carrying theorems are stated for all of them.

* **`Rebase.mergeSort_first_at`**, **`Rebase.firstPerPosition_distinct`** — sorting keeps the
  first exact mapping at a position in front, and thinning leaves one mapping per position.
* **`SourceMap.Builder.Extends`**, **`SourceMap.Builder.token_of_addMapping`** — a builder that
  only added to another, and a mapping added reads back from every later builder.
* **`Rebase.project_positions_distinct`** — the projected map has one mapping per position.
* **`Rebase.project_keeps_first_exact`** — where a mapping of the old map lands exactly, the
  projected map's mapping is the first such one.
* **`OffsetMap.Keeps`**, **`Rebase.rankAt_of_keeps`** — offsets that keep their place, and the
  best rank of what is moved from them.
* **`Rebase.SplicedExactly.outputOffset?_boundary`** — a splice takes boundaries to boundaries,
  and copied line ends to line ends.
* **`Rebase.not_emptyAt_of_splice`**, **`Rebase.projectBy_congr`** — a splice of spans holding
  input leaves no empty stretch, so every search keeping its promise finds what bisection finds
  and projects the same map.
* **`Rebase.Addresses`** — the byte offset a generated position addresses in a text.
* **`Rebase.project_carries_kept_token`**, **`Rebase.project_wraps_overshoot_column`** — the
  projected map carries every mapping whose offset keeps its place; past 2^32 its column wraps.
  `Rebase.project_keeps_one_of_two_at_position` shows a mapping lost to an earlier one at its
  position, and one lost to an empty span under the halving search. -/

namespace StyleRebase

/-! ## (1) Sorting and thinning the placed mappings -/

namespace Rebase

/-- **A mapping at a position carried over**: the token with its generated position replaced. -/
def carriedTo (t : SourceMap.Token) (pos : LineCol) : SourceMap.Token :=
  { t with dstLine := pos.line, dstCol := pos.col }

theorem Placed.le_trans (a b c : Placed) : a.le b → b.le c → a.le c := by
  simp only [Placed.le, Bool.or_eq_true, Bool.and_eq_true, decide_eq_true_eq, beq_iff_eq]
  omega

theorem Placed.le_total (a b : Placed) : (a.le b || b.le a) = true := by
  simp only [Placed.le, Bool.or_eq_true, Bool.and_eq_true, decide_eq_true_eq, beq_iff_eq]
  omega

/-- An exact mapping comes no later than any mapping at its position. -/
theorem Placed.le_of_exact {x y : Placed} (hx : x.rank = .exact) (hdst : y.dst = x.dst) :
    x.le y = true := by
  unfold Placed.le
  rw [hdst, hx]
  simp [Rank.index]

/-- Of two mappings at one position, one ordered before an exact one is exact too. -/
theorem Placed.exact_of_le {x y : Placed} (hx : x.rank = .exact) (hdst : y.dst = x.dst)
    (h : y.le x = true) : y.rank = .exact := by
  unfold Placed.le at h
  rw [hdst, hx] at h
  cases hr : y.rank with
  | exact => rfl
  | boundary => simp [hr, Rank.index] at h
  | collapsed => simp [hr, Rank.index] at h

/-- **Sorting keeps the first exact mapping at a position in front**: when no mapping before it
in the list is an exact one at its position, none before it in the sorted list is at its
position at all. The induction inserts the mappings before it one at a time: one inserted in
front of it is either at another position or, being sorted before an exact mapping at the
same position, exact there itself. -/
theorem mergeSort_first_at {x : Placed} (hx : x.rank = .exact) :
    ∀ (A C : List Placed), (∀ y ∈ A, ¬(y.dst = x.dst ∧ y.rank = .exact)) →
      ∃ A' C', (A ++ x :: C).mergeSort Placed.le = A' ++ x :: C' ∧ ∀ y ∈ A', y.dst ≠ x.dst
  | [], C, _ => by
    -- what sorting puts before `x` is not ordered before it, so it is at another position
    obtain ⟨l₁, l₂, hsort, -, hbefore⟩ :=
      List.mergeSort_cons Placed.le_trans Placed.le_total x C
    refine ⟨l₁, l₂, hsort, fun y hy hdst => ?_⟩
    have := hbefore y hy
    rw [Placed.le_of_exact hx hdst] at this
    cases this
  | a :: A, C, hA => by
    obtain ⟨A', C', hsort, hA'⟩ :=
      mergeSort_first_at hx A C (fun y hy => hA y (List.mem_cons_of_mem a hy))
    obtain ⟨l₁, l₂, hsort', hrest, -⟩ :=
      List.mergeSort_cons Placed.le_trans Placed.le_total a (A ++ x :: C)
    have hsorted := List.pairwise_mergeSort Placed.le_trans Placed.le_total (a :: (A ++ x :: C))
    rw [List.cons_append, hsort']
    rw [hrest] at hsort
    -- `a` lands in front of `x` only if it is at another position
    have ha_front : ∀ E, l₂ = E ++ x :: C' → a.dst ≠ x.dst := by
      intro E hE hdst
      rw [hsort', hE] at hsorted
      have hle : a.le x = true :=
        List.rel_of_pairwise_cons (List.pairwise_append.mp hsorted).2.1 (by simp)
      exact hA a List.mem_cons_self ⟨hdst, Placed.exact_of_le hx hdst hle⟩
    -- `x` comes after `a` in the sorted list, or before it within `l₁`
    have hsplit : (∃ E, A' = l₁ ++ E ∧ l₂ = E ++ x :: C') ∨ ∃ D, l₁ = A' ++ x :: D := by
      rcases List.append_eq_append_iff.mp hsort with ⟨E, h₁, h₂⟩ | ⟨c, h₁, h₂⟩
      · exact .inl ⟨E, h₁, h₂⟩
      · rcases c with _ | ⟨y, D⟩
        · exact .inl ⟨[], by simpa using h₁.symm, by simpa using h₂.symm⟩
        · simp only [List.cons_append, List.cons.injEq] at h₂
          obtain ⟨rfl, -⟩ := h₂
          exact .inr ⟨D, h₁⟩
    rcases hsplit with ⟨E, rfl, hE⟩ | ⟨D, rfl⟩
    · refine ⟨l₁ ++ a :: E, C', by rw [hE]; simp, fun y hy => ?_⟩
      simp only [List.mem_append, List.mem_cons] at hy
      rcases hy with hy | rfl | hy
      · exact hA' y (List.mem_append_left E hy)
      · exact ha_front E hE
      · exact hA' y (List.mem_append_right l₁ hy)
    · exact ⟨A', D ++ a :: l₂, by simp, hA'⟩

/-- A mapping ordered between two at one position is at that position too. -/
theorem Placed.dst_eq_of_le {a b c : Placed} (hab : a.le b = true) (hbc : b.le c = true)
    (hca : c.dst = a.dst) : b.dst = a.dst := by
  simp only [Placed.le, Bool.or_eq_true, Bool.and_eq_true, decide_eq_true_eq, beq_iff_eq] at hab hbc
  rw [hca] at hbc
  have hline : b.dst.line = a.dst.line := by omega
  have hcol : b.dst.col = a.dst.col := by omega
  show (⟨b.dst.line, b.dst.col⟩ : LineCol) = ⟨a.dst.line, a.dst.col⟩
  rw [hline, hcol]

theorem firstPerPosition_cons (p : Placed) (ps : List Placed) :
    ∃ rest, firstPerPosition (p :: ps) = p :: rest := by
  rw [firstPerPosition]
  split
  · split
    · exact ⟨_, rfl⟩
    · exact ⟨_, rfl⟩
  · exact ⟨_, rfl⟩

/-- **Thinning keeps the first mapping at a position**: of each run of mappings at one
position, the first stays. -/
theorem mem_firstPerPosition {x : Placed} :
    ∀ (A C : List Placed), (∀ y ∈ A, y.dst ≠ x.dst) → x ∈ firstPerPosition (A ++ x :: C)
  | [], C, _ => by
    obtain ⟨rest, h⟩ := firstPerPosition_cons x C
    rw [List.nil_append, h]
    exact List.mem_cons_self
  | a :: A, C, hA => by
    have ih := mem_firstPerPosition A C (fun y hy => hA y (List.mem_cons_of_mem a hy))
    rw [List.cons_append, firstPerPosition]
    split
    · rename_i q qs hq
      rw [hq] at ih
      split
      · -- the head of the rest is dropped for `a`, so it was not `x`
        rename_i hdst
        rcases List.mem_cons.mp ih with rfl | hx
        · exact absurd (beq_iff_eq.mp hdst).symm (hA a List.mem_cons_self)
        · exact List.mem_cons_of_mem a hx
      · exact List.mem_cons_of_mem a ih
    · rename_i hnil
      rw [hnil] at ih
      cases ih

/-- **Thinning a sorted list leaves one mapping per position**: the mappings kept are at pairwise
different positions, in the order of the list. The induction follows the thinning: the first
mapping either takes the place of the head of the thinned rest, at its position, or stands before
a head at another position, and then before every later one, the list being sorted. -/
theorem firstPerPosition_distinct :
    ∀ {L : List Placed}, L.Pairwise (fun a b => a.le b = true) →
      (firstPerPosition L).Pairwise (fun a b => a.dst ≠ b.dst) ∧ (firstPerPosition L).Sublist L
  | [], _ => ⟨List.Pairwise.nil, List.Sublist.slnil⟩
  | p :: ps, hsorted => by
    obtain ⟨hp, hps⟩ := List.pairwise_cons.mp hsorted
    obtain ⟨hdist, hsub⟩ := firstPerPosition_distinct hps
    rw [firstPerPosition]
    split
    · rename_i q qs hq
      rw [hq] at hdist hsub
      obtain ⟨hq_ne, hqs⟩ := List.pairwise_cons.mp hdist
      split
      · -- `q`, at the position of `p`, gives way to it; the rest is at other positions than `q`
        rename_i hdst
        have hdst : q.dst = p.dst := beq_iff_eq.mp hdst
        refine ⟨List.Pairwise.cons (fun r hr => hdst ▸ hq_ne r hr) hqs, ?_⟩
        exact ((List.sublist_cons_self q qs).trans hsub).cons_cons p
      · -- a later mapping at the position of `p` would put `q`, sorted between them, there too
        rename_i hdst
        have hq_sorted : (q :: qs).Pairwise (fun a b => a.le b = true) := hps.sublist hsub
        have hpq : p.le q = true := hp q (hsub.subset List.mem_cons_self)
        refine ⟨List.Pairwise.cons (fun r hr hpr => ?_) hdist, hsub.cons_cons p⟩
        rcases List.mem_cons.mp hr with rfl | hr
        · exact hdst (beq_iff_eq.mpr hpr.symm)
        · have hqr : q.le r = true := List.rel_of_pairwise_cons hq_sorted hr
          exact hdst (beq_iff_eq.mpr (Placed.dst_eq_of_le hpq hqr hpr.symm))
    · exact ⟨List.pairwise_singleton _ _, (List.nil_sublist ps).cons_cons p⟩

end Rebase

/-! ## (2) Building the projected map -/

namespace SourceMap.Builder

/-- **A builder that only added to another**: its sources, names and mappings extend the
other's. -/
structure Extends (b b' : Builder) : Prop where
  sources : b.sources.toList <+: b'.sources.toList
  names : b.names.toList <+: b'.names.toList
  mappings : b.mappings.toList <+: b'.mappings.toList

theorem Extends.refl (b : Builder) : b.Extends b :=
  ⟨List.prefix_refl _, List.prefix_refl _, List.prefix_refl _⟩

theorem Extends.trans {b b' b'' : Builder} (h : b.Extends b') (h' : b'.Extends b'') :
    b.Extends b'' :=
  ⟨h.sources.trans h'.sources, h.names.trans h'.names, h.mappings.trans h'.mappings⟩

/-- An entry of a prefix is an entry of the longer list. -/
theorem getElem?_of_prefix {α : Type} {l l' : List α} (h : l <+: l') {i : Nat} {x : α}
    (hx : l[i]? = some x) : l'[i]? = some x := by
  obtain ⟨t, rfl⟩ := h
  rw [List.getElem?_append_left (List.getElem?_eq_some_iff.mp hx).1, hx]

/-- **Adding a source gives its index**, where the source now stands. -/
theorem addSource_spec (b : Builder) (s : String) :
    b.Extends (b.addSource s).1 ∧ (b.addSource s).1.sources[(b.addSource s).2]? = some s := by
  unfold addSource
  split
  · rename_i i hi
    rw [Array.idxOf?_eq_map_finIdxOf?_val, Option.map_eq_some_iff] at hi
    obtain ⟨fi, hfi, rfl⟩ := hi
    exact ⟨.refl b, by simpa using (Array.finIdxOf?_eq_some_iff.mp hfi).1⟩
  · exact ⟨⟨by simp, List.prefix_refl _, List.prefix_refl _⟩, by simp⟩

/-- **Adding a name gives its index**, where the name now stands. -/
theorem addName_spec (b : Builder) (n : String) :
    b.Extends (b.addName n).1 ∧ (b.addName n).1.names[(b.addName n).2]? = some n ∧
      (b.addName n).1.sources = b.sources := by
  unfold addName
  split
  · rename_i i hi
    rw [Array.idxOf?_eq_map_finIdxOf?_val, Option.map_eq_some_iff] at hi
    obtain ⟨fi, hfi, rfl⟩ := hi
    exact ⟨.refl b, by simpa using (Array.finIdxOf?_eq_some_iff.mp hfi).1, rfl⟩
  · exact ⟨⟨List.prefix_refl _, by simp, List.prefix_refl _⟩, by simp, rfl⟩

@[simp] theorem addSource_mappings (b : Builder) (s : String) :
    (b.addSource s).1.mappings = b.mappings := by
  unfold addSource
  split <;> rfl

@[simp] theorem addName_mappings (b : Builder) (n : String) :
    (b.addName n).1.mappings = b.mappings := by
  unfold addName
  split <;> rfl

@[simp] theorem setContents_mappings (b : Builder) (i : Nat) (c : Option String) :
    (b.setContents i c).mappings = b.mappings := rfl

/-- **Adding a mapping by text** adds it as stored after adding its source and name, whose
indices then read back the source and the name (and are absent when they are). -/
theorem addMapping_spec (b : Builder) (l c sl sc : Nat) (src nm : Option String) (r : Bool) :
    ∃ b₁ si ni, b.addMapping l c sl sc src nm r = b₁.addRaw ⟨l, c, sl, sc, si, ni, r⟩ ∧
      b.Extends b₁ ∧ si.bind (b₁.sources[·]?) = src ∧ (src = none → si = none) ∧
      ni.bind (b₁.names[·]?) = nm ∧ (nm = none → ni = none) ∧ b₁.mappings = b.mappings := by
  cases src with
  | none =>
    cases nm with
    | none => exact ⟨b, none, none, rfl, .refl b, rfl, fun _ => rfl, rfl, fun _ => rfl, rfl⟩
    | some n =>
      obtain ⟨hext, hn, -⟩ := addName_spec b n
      exact ⟨(b.addName n).1, none, some (b.addName n).2, rfl, hext, rfl, fun _ => rfl,
        by simpa using hn, (fun h => by cases h), by simp⟩
  | some s =>
    obtain ⟨hext, hs⟩ := addSource_spec b s
    cases nm with
    | none => exact ⟨(b.addSource s).1, some (b.addSource s).2, none, rfl, hext,
        by simpa using hs, (fun h => by cases h), rfl, fun _ => rfl, by simp⟩
    | some n =>
      obtain ⟨hext', hn, hsrc⟩ := addName_spec (b.addSource s).1 n
      exact ⟨((b.addSource s).1.addName n).1, some (b.addSource s).2,
        some ((b.addSource s).1.addName n).2, rfl, hext.trans hext', by simpa [hsrc] using hs,
        (fun h => by cases h), by simpa using hn, (fun h => by cases h), by simp⟩

/-- **Adding a mapping appends one**, at the position given. -/
theorem addMapping_mappings (b : Builder) (l c sl sc : Nat) (src nm : Option String) (r : Bool) :
    ∃ m : Mapping, m.dstLine = l ∧ m.dstCol = c ∧
      (b.addMapping l c sl sc src nm r).mappings = b.mappings.push m := by
  obtain ⟨b₁, si, ni, heq, -, -, -, -, -, hmap⟩ := addMapping_spec b l c sl sc src nm r
  exact ⟨⟨l, c, sl, sc, si, ni, r⟩, rfl, rfl, by rw [heq, ← hmap]; rfl⟩

/-- Adding a mapping only adds to the builder. -/
theorem addMapping_extends (b : Builder) (l c sl sc : Nat) (src nm : Option String) (r : Bool) :
    b.Extends (b.addMapping l c sl sc src nm r) := by
  obtain ⟨b₁, si, ni, heq, hext, -⟩ := addMapping_spec b l c sl sc src nm r
  rw [heq]
  exact hext.trans ⟨List.prefix_refl _, List.prefix_refl _, by simp [addRaw]⟩

/-- An index that reads an entry, or is absent with it, reads the same in a longer list. -/
theorem bind_getElem?_of_prefix {xs ys : Array String} (hp : xs.toList <+: ys.toList)
    {i : Option Nat} {v : Option String} (h : i.bind (xs[·]?) = v) (hnone : v = none → i = none) :
    i.bind (ys[·]?) = v := by
  cases v with
  | none => rw [hnone rfl]; rfl
  | some s =>
    cases i with
    | none => cases h
    | some j =>
      have hj : xs.toList[j]? = some s := by simpa using h
      simpa using getElem?_of_prefix hp hj

/-- **A mapping added by text reads back as a token of any map built later**: its source and
name indices still read the same entries, and its source column is kept when it fits 32 bits. -/
theorem token_of_addMapping (b b' : Builder) (l c sl sc : Nat) (src nm : Option String) (r : Bool)
    (hext : (b.addMapping l c sl sc src nm r).Extends b') (hsc : sc ≤ Nat.pow 2 32 - 1) :
    (⟨l, c, sl, sc, src, nm, r⟩ : Token) ∈ b'.build.tokens := by
  obtain ⟨b₁, si, ni, heq, -, hsi, hsi0, hni, hni0, -⟩ := addMapping_spec b l c sl sc src nm r
  rw [heq] at hext
  have hmem : (⟨l, c, sl, sc, si, ni, r⟩ : Mapping) ∈ b'.mappings.toList :=
    hext.mappings.subset (by simp [addRaw])
  have hsrc : si.bind (b'.sources[·]?) = src := bind_getElem?_of_prefix hext.sources hsi hsi0
  have hname : ni.bind (b'.names[·]?) = nm := bind_getElem?_of_prefix hext.names hni hni0
  have hcol : min (sc + 0) (Nat.pow 2 32 - 1) = sc := by
    rw [Nat.add_zero]
    exact Nat.min_eq_left hsc
  refine List.mem_map.mpr ⟨_, hmem, ?_⟩
  simp only [SourceMap.tokenOf, build, SourceMap.make, hcol, hsrc, hname]

/-- The positions of the mappings of a built map, read back, are those of the mappings stored. -/
theorem build_tokens_positions (b : Builder) :
    b.build.tokens.map (fun u => (⟨u.dstLine, u.dstCol⟩ : LineCol)) =
      b.mappings.toList.map fun m => ⟨m.dstLine, m.dstCol⟩ := by
  simp [SourceMap.tokens, SourceMap.tokenOf, build, SourceMap.make]

/-- A fold of steps that each keep the mappings keeps them. -/
theorem foldl_mappings {α : Type} (f : Builder → α → Builder)
    (hf : ∀ b a, (f b a).mappings = b.mappings) :
    ∀ (xs : List α) (b : Builder), (xs.foldl f b).mappings = b.mappings
  | [], _ => rfl
  | x :: xs, b => by rw [List.foldl_cons, foldl_mappings f hf xs, hf]

end SourceMap.Builder

/-! ## (3) The mappings of the projected map -/

/-- A source column read back fits 32 bits. -/
theorem SourceMap.srcCol_le_of_mem_tokens {map : SourceMap} {t : SourceMap.Token}
    (h : t ∈ map.tokens) : t.srcCol ≤ Nat.pow 2 32 - 1 := by
  obtain ⟨m, -, rfl⟩ := List.mem_map.mp h
  exact Nat.min_le_right _ _

namespace Rebase

/-- **Adding a placed mapping** to the map being built, as the projection does. -/
def addPlaced (b : SourceMap.Builder) (p : Placed) : SourceMap.Builder :=
  b.addMapping p.dst.line p.dst.col p.token.srcLine p.token.srcCol p.token.source p.token.name
    p.token.isRange

/-- **The mappings a projection places**, before sorting: the old map's mappings moved into the
new text, then the mappings at the ends of each replacement. -/
def placedMappings (map : SourceMap) (input output : List Char) (offsets : OffsetMap) :
    List Placed :=
  map.tokens.filterMap (moveToken (LineIndex.ofChars input) (LineIndex.ofChars output) offsets) ++
    offsets.replacements.flatMap
      (boundaryTokens map (LineIndex.ofChars input) (LineIndex.ofChars output))

/-- **The projected map is built from the placed mappings**, sorted and thinned, added one by one
to a builder that holds the old map's sources and names and no mapping yet. -/
theorem project_eq_foldl (map : SourceMap) (input output : List Char) (offsets : OffsetMap) :
    ∃ b : SourceMap.Builder, b.mappings = #[] ∧ project map input output offsets =
      ((firstPerPosition ((placedMappings map input output offsets).mergeSort Placed.le)).foldl
        addPlaced b).build := by
  refine ⟨_, ?_, rfl⟩
  -- sources, their contents and names come first, and add no mapping
  rw [← Array.foldl_toList, SourceMap.Builder.foldl_mappings _ (fun b n => by simp),
    SourceMap.Builder.foldl_mappings _ (fun b i => by dsimp only; split <;> [split <;> simp; rfl])]

/-- Adding placed mappings only adds to the builder. -/
theorem foldl_addPlaced_extends :
    ∀ (ps : List Placed) (b : SourceMap.Builder), b.Extends (ps.foldl addPlaced b)
  | [], b => .refl b
  | p :: ps, b =>
    (SourceMap.Builder.addMapping_extends b _ _ _ _ _ _ _).trans
      (foldl_addPlaced_extends ps (addPlaced b p))

/-- **Every placed mapping added is in the map built**, carried to its position, when its source
column fits 32 bits. -/
theorem mem_tokens_foldl_addPlaced : ∀ (ps : List Placed) (b : SourceMap.Builder) {p : Placed},
    p ∈ ps → p.token.srcCol ≤ Nat.pow 2 32 - 1 →
      carriedTo p.token p.dst ∈ (ps.foldl addPlaced b).build.tokens
  | [], _, _, hp, _ => by cases hp
  | q :: ps, b, p, hp, hcol => by
    rw [List.foldl_cons]
    rcases List.mem_cons.mp hp with rfl | hp
    · exact SourceMap.Builder.token_of_addMapping b _ p.dst.line p.dst.col p.token.srcLine
        p.token.srcCol p.token.source p.token.name p.token.isRange
        (foldl_addPlaced_extends ps (addPlaced b p)) hcol
    · exact mem_tokens_foldl_addPlaced ps (addPlaced b q) hp hcol

/-- **The positions of the mappings added** follow those already there, in order. -/
theorem foldl_addPlaced_positions : ∀ (ps : List Placed) (b : SourceMap.Builder),
    (ps.foldl addPlaced b).mappings.toList.map (fun m => (⟨m.dstLine, m.dstCol⟩ : LineCol)) =
      b.mappings.toList.map (fun m => (⟨m.dstLine, m.dstCol⟩ : LineCol)) ++ ps.map (·.dst)
  | [], b => by simp
  | p :: ps, b => by
    obtain ⟨m, hl, hc, hm⟩ := SourceMap.Builder.addMapping_mappings b p.dst.line p.dst.col
      p.token.srcLine p.token.srcCol p.token.source p.token.name p.token.isRange
    rw [List.foldl_cons, foldl_addPlaced_positions ps, addPlaced, hm]
    simp [hl, hc]

/-- Placed mappings at distinct positions give a map with one mapping per position. -/
theorem foldl_addPlaced_distinct {ps : List Placed} {b : SourceMap.Builder}
    (hb : b.mappings = #[]) (hps : ps.Pairwise fun p q => p.dst ≠ q.dst) :
    (ps.foldl addPlaced b).build.tokens.Pairwise fun u v =>
      (⟨u.dstLine, u.dstCol⟩ : LineCol) ≠ ⟨v.dstLine, v.dstCol⟩ := by
  have h : ((ps.foldl addPlaced b).build.tokens.map
      fun u => (⟨u.dstLine, u.dstCol⟩ : LineCol)).Pairwise (· ≠ ·) := by
    rw [SourceMap.Builder.build_tokens_positions, foldl_addPlaced_positions, hb]
    simpa [List.pairwise_map] using hps
  exact List.pairwise_map.mp h

/-- **A mapping kept by the thinning is in the projected map**, carried to its position. -/
theorem mem_project_tokens {map : SourceMap} {input output : List Char} {offsets : OffsetMap}
    {p : Placed}
    (hp : p ∈ firstPerPosition ((placedMappings map input output offsets).mergeSort Placed.le))
    (hcol : p.token.srcCol ≤ Nat.pow 2 32 - 1) :
    carriedTo p.token p.dst ∈ (project map input output offsets).tokens := by
  obtain ⟨b, -, heq⟩ := project_eq_foldl map input output offsets
  rw [heq]
  exact mem_tokens_foldl_addPlaced _ b hp hcol

/-- **The projected map has one mapping per generated position.** -/
theorem project_positions_distinct (map : SourceMap) (input output : List Char)
    (offsets : OffsetMap) :
    (project map input output offsets).tokens.Pairwise fun u v =>
      (⟨u.dstLine, u.dstCol⟩ : LineCol) ≠ ⟨v.dstLine, v.dstCol⟩ := by
  obtain ⟨b, hb, heq⟩ := project_eq_foldl map input output offsets
  rw [heq]
  exact foldl_addPlaced_distinct hb (firstPerPosition_distinct
    (List.pairwise_mergeSort Placed.le_trans Placed.le_total _)).1

/-- Two mappings of the projected map at one position are one. -/
theorem eq_of_mem_project_tokens {map : SourceMap} {input output : List Char}
    {offsets : OffsetMap} {u v : SourceMap.Token}
    (hu : u ∈ (project map input output offsets).tokens)
    (hv : v ∈ (project map input output offsets).tokens)
    (hline : u.dstLine = v.dstLine) (hcol : u.dstCol = v.dstCol) : u = v := by
  rcases pairwise_eq_or_rel (project_positions_distinct map input output offsets) hu hv
    with h | h | h
  · exact h
  · exact absurd (by rw [hline, hcol]) h
  · exact absurd (by rw [hline, hcol]) h

/-! ## (4) Mappings moved with the best rank -/

/-- **The rank a mapping moved from an input offset gets**: collapsed when the offset lies inside
a replaced stretch past its start, exact otherwise. -/
def rankAt (offsets : OffsetMap) (offset : Nat) : Rank :=
  match offsets.segmentAt? offset with
  | some seg => if seg.kind == .replaced && seg.input.start != offset then .collapsed else .exact
  | none => .exact

/-- **Moving a mapping**: its offset in the old text is translated, read as a line and column of
the new text, and the columns it ran past its line's end are added back in 32 bits. -/
theorem moveToken_eq {inputIndex outputIndex : LineIndex} {offsets : OffsetMap}
    {t : SourceMap.Token} {o e o' : Nat} {dst : LineCol}
    (hin : inputOffset inputIndex ⟨t.dstLine, t.dstCol⟩ = some (o, e))
    (hout : offsets.outputOffset? o = some o') (hdst : outputIndex.lineColUtf16 o' = some dst) :
    moveToken inputIndex outputIndex offsets t =
      some ⟨⟨dst.line, (dst.col + e) % Nat.pow 2 32⟩, rankAt offsets o, t⟩ := by
  have hout' : offsets.outputOffsetBy? Bisect.bisect o = some o' := hout
  simp only [moveToken, moveTokenBy, hin, hout', hdst, Option.bind_eq_bind, Option.bind_some]
  rfl

/-- A moved mapping carries the mapping it was moved from, whatever the search. -/
theorem moveTokenBy_token {search : Bisect.Search Segment} {inputIndex outputIndex : LineIndex}
    {offsets : OffsetMap} {t : SourceMap.Token} {p : Placed}
    (h : moveTokenBy search inputIndex outputIndex offsets t = some p) : p.token = t := by
  simp only [moveTokenBy, Option.bind_eq_bind, Option.bind_eq_some_iff] at h
  obtain ⟨⟨o, e⟩, -, h⟩ := h
  simp only at h
  obtain ⟨o', -, dst, -, h⟩ := h
  simp only [Option.pure_def, Option.some.injEq] at h
  rw [← h]

/-- **Whether a mapping of the old map lands exactly at a position** of the new text: it is moved
there with the best rank, the stretches of the splice found by `search`. -/
def landsExactly (search : Bisect.Search Segment) (inputIndex outputIndex : LineIndex)
    (offsets : OffsetMap) (pos : LineCol) (t : SourceMap.Token) : Bool :=
  (moveTokenBy search inputIndex outputIndex offsets t).any fun p => p.dst == pos && p.rank == .exact

theorem landsExactly_eq_true {search : Bisect.Search Segment} {inputIndex outputIndex : LineIndex}
    {offsets : OffsetMap} {pos : LineCol} {t : SourceMap.Token} :
    landsExactly search inputIndex outputIndex offsets pos t = true ↔
      ∃ p, moveTokenBy search inputIndex outputIndex offsets t = some p ∧ p.dst = pos ∧
        p.rank = .exact := by
  unfold landsExactly
  cases moveTokenBy search inputIndex outputIndex offsets t <;> simp

/-- **The projected map carries the first mapping landing exactly at a position**: of the old
map's mappings, the first one moved to the position with the best rank is the projected map's
only mapping there, carried with its source, original line and column, name and range flag; the
stretches of the splice are found by `search`. -/
def CarriesFirstAt (search : Bisect.Search Segment) (map : SourceMap) (input output : List Char)
    (offsets : OffsetMap) (pos : LineCol) : Prop :=
  ∃ k, map.tokens.find?
      (landsExactly search (LineIndex.ofChars input) (LineIndex.ofChars output) offsets pos) =
        some k ∧
    carriedTo k pos ∈ (projectBy search map input output offsets).tokens ∧
    ∀ u ∈ (projectBy search map input output offsets).tokens, u.dstLine = pos.line →
      u.dstCol = pos.col → u = carriedTo k pos

/-- **Where a mapping of the old map lands exactly, the projected map carries the first such
mapping.** In the placed list it comes after the moved mappings of the ones before it, none exact
at its position; so sorting puts no mapping at its position before it, and the thinning keeps it. -/
theorem project_keeps_first_exact {map : SourceMap} {input output : List Char}
    {offsets : OffsetMap} {pos : LineCol} {k : SourceMap.Token} (hk : k ∈ map.tokens)
    (hlands : landsExactly Bisect.bisect (LineIndex.ofChars input) (LineIndex.ofChars output)
      offsets pos k) :
    CarriesFirstAt Bisect.bisect map input output offsets pos := by
  obtain ⟨k', hfind⟩ : ∃ k', map.tokens.find? (landsExactly Bisect.bisect (LineIndex.ofChars input)
      (LineIndex.ofChars output) offsets pos) = some k' := by
    cases h : map.tokens.find? (landsExactly Bisect.bisect (LineIndex.ofChars input)
        (LineIndex.ofChars output) offsets pos) with
    | none => exact absurd hlands (List.find?_eq_none.mp h k hk)
    | some k' => exact ⟨k', rfl⟩
  obtain ⟨hk'lands, A, B, htokens, hA⟩ := List.find?_eq_some_iff_append.mp hfind
  obtain ⟨x, hmove, hxdst, hxrank⟩ := landsExactly_eq_true.mp hk'lands
  replace hmove : moveToken (LineIndex.ofChars input) (LineIndex.ofChars output) offsets k' =
    some x := hmove
  -- the placed list: the moved mappings of `A`, then `x`, then the rest
  have hplaced : placedMappings map input output offsets =
      A.filterMap (moveToken (LineIndex.ofChars input) (LineIndex.ofChars output) offsets) ++
        x :: (B.filterMap (moveToken (LineIndex.ofChars input) (LineIndex.ofChars output) offsets) ++
          offsets.replacements.flatMap
            (boundaryTokens map (LineIndex.ofChars input) (LineIndex.ofChars output))) := by
    simp [placedMappings, htokens, List.filterMap_append, hmove]
  have hfront : ∀ y ∈ A.filterMap (moveToken (LineIndex.ofChars input)
      (LineIndex.ofChars output) offsets), ¬(y.dst = x.dst ∧ y.rank = .exact) := by
    rintro y hy ⟨hdst, hrank⟩
    obtain ⟨a, ha, hmv⟩ := List.mem_filterMap.mp hy
    have hnot := hA a ha
    rw [landsExactly_eq_true.mpr ⟨y, hmv, hdst.trans hxdst, hrank⟩] at hnot
    cases hnot
  obtain ⟨A', C', hsort, hA'⟩ := mergeSort_first_at hxrank _ _ hfront
  have hkept : x ∈ firstPerPosition ((placedMappings map input output offsets).mergeSort
      Placed.le) := by
    rw [hplaced, hsort]
    exact mem_firstPerPosition A' C' hA'
  have hk'mem : k' ∈ map.tokens := by
    rw [htokens]
    exact List.mem_append_right A List.mem_cons_self
  have hcarried : carriedTo k' pos ∈ (project map input output offsets).tokens := by
    have h := mem_project_tokens hkept
      (by rw [moveTokenBy_token hmove]; exact SourceMap.srcCol_le_of_mem_tokens hk'mem)
    rwa [moveTokenBy_token hmove, hxdst] at h
  exact ⟨k', hfind, hcarried, fun u hu hline hcol => eq_of_mem_project_tokens hu hcarried hline hcol⟩

end Rebase

/-! ## (5) Offsets through a splice -/

namespace OffsetMap

/-- **An input offset that keeps its place**: inside a copied stretch, at the start of a replaced
one, or at the end of the input. -/
def Keeps (m : OffsetMap) (o : Nat) : Prop :=
  (∃ seg ∈ m.segments.toList, seg.kind = .copied ∧ seg.input.contains o = true) ∨
    (∃ seg ∈ m.segments.toList, seg.kind = .replaced ∧ seg.input.start = o) ∨ o = m.inputLen

instance (m : OffsetMap) (o : Nat) : Decidable (m.Keeps o) :=
  inferInstanceAs (Decidable
    ((∃ seg ∈ m.segments.toList, seg.kind = .copied ∧ seg.input.contains o = true) ∨
      (∃ seg ∈ m.segments.toList, seg.kind = .replaced ∧ seg.input.start = o) ∨ o = m.inputLen))

end OffsetMap

/-- **A boundary inside a stretch read in two texts**: where two texts read the same piece, a
boundary of the first within the piece is a boundary of the second at the same distance into the
piece, with the same character after it while the piece goes on. -/
theorem Located.carry {text out piece a b : List Char} {sp sp' : Span}
    (h : Located text sp piece) (h' : Located out sp' piece) (hab : text = a ++ b)
    (hlo : sp.start ≤ utf8Length a) (hhi : utf8Length a ≤ sp.stop) :
    ∃ a' b', out = a' ++ b' ∧ utf8Length a' = sp'.start + (utf8Length a - sp.start) ∧
      (utf8Length a < sp.stop → b'.head? = b.head?) := by
  obtain ⟨pre, post, htext, hstart, hstop⟩ := h
  obtain ⟨pre', post', hout, hstart', -⟩ := h'
  -- `a` is the text before the piece and a part `x` of the piece
  have hpre : pre <+: a :=
    prefix_of_utf8Length_le ⟨piece ++ post, by rw [htext, List.append_assoc]⟩ ⟨b, hab.symm⟩
      (by omega)
  obtain ⟨x, rfl⟩ := hpre
  have hx : x <+: piece := by
    have hxp : pre ++ x <+: pre ++ piece :=
      prefix_of_utf8Length_le ⟨b, hab.symm⟩ ⟨post, htext.symm⟩
        (by simp only [utf8Length_append] at hhi hstop ⊢; omega)
    exact (List.prefix_append_right_inj pre).mp hxp
  obtain ⟨y, rfl⟩ := hx
  have hb : b = y ++ post := by
    have h := hab.symm.trans htext
    simpa using h
  simp only [utf8Length_append] at hstart hstart' hstop hlo
  refine ⟨pre' ++ x, y ++ post', by rw [hout]; simp, by simp only [utf8Length_append]; omega,
    fun hlt => ?_⟩
  -- a part of the piece is left after the boundary, and both texts go on with it
  cases y with
  | nil => simp only [utf8Length_append, utf8Length_nil] at hstop hlt; omega
  | cons c y => rw [hb]; rfl

namespace Rebase

/-- **An offset that keeps its place is moved with the best rank.** The stretch the lookup finds
holds the offset: it is the copied stretch holding it, or one starting there, since a replaced
stretch starting at the offset either holds it or, emptied, is followed by a stretch starting at
the same offset. -/
theorem rankAt_of_keeps {m : OffsetMap} (hm : m.WellFormed) {o : Nat} (hk : m.Keeps o) :
    rankAt m o = .exact := by
  unfold rankAt
  split
  · rename_i seg hseg
    obtain ⟨hmem, hcont⟩ := OffsetMap.segmentAt?_eq_some hseg
    have hkind : seg.kind = .copied ∨ seg.input.start = o := by
      rcases hk with ⟨s, hs, hkind, hcs⟩ | ⟨s, hs, -, hstart⟩ | hend
      · -- the lookup finds the copied stretch itself
        rw [hm.segmentAt?_of_contains hs hcs] at hseg
        cases hseg
        exact .inl hkind
      · -- the stretch holding `o` neither ends before `s` starts nor starts after `s` ends
        right
        rw [Span.contains_iff] at hcont
        have hb := hm.bounds hs
        rcases pairwise_eq_or_rel hm.pairwise hs hmem with rfl | h | h
        · exact hstart
        · omega
        · omega
      · -- no stretch holds the end of the input
        rw [hm.segmentAt?_of_le (Nat.le_of_eq hend.symm)] at hseg
        cases hseg
    rcases hkind with h | h <;> simp [h]
  · rfl

/-- A splice whose map describes it has a well-formed map. -/
theorem SplicedExactly.wellFormed {text : List Char} {ds : List Decision} {r : Spliced}
    (h : SplicedExactly text ds r) : r.offsets.WellFormed where
  input_tiles := by rw [h.input_len]; exact h.input_tiles
  output_tiles := by rw [h.output_len]; exact h.output_tiles
  copied_length seg hseg hkind := by
    obtain ⟨piece, ⟨pre, post, -, h₁, h₂⟩, ⟨pre', post', -, h₁', h₂'⟩⟩ := h.copied seg hseg hkind
    simp only [Span.length]
    omega

/-- **A splice takes boundaries to boundaries**: every character boundary of the text is
translated, by the splice's map, to a character boundary of the result. -/
theorem SplicedExactly.outputOffset?_boundary {text : List Char} {ds : List Decision}
    {r : Spliced} (h : SplicedExactly text ds r) {o : Nat} (ho : Css.Boundary text o) :
    ∃ o', r.offsets.outputOffset? o = some o' ∧ Css.Boundary r.css o' := by
  have hm := h.wellFormed
  rcases Nat.lt_or_ge o (utf8Length text) with hlt | hge
  · obtain ⟨seg, hseg, hcont⟩ := hm.exists_contains (by rw [h.input_len]; exact hlt)
    refine ⟨seg.carry o, hm.outputOffset?_of_contains hseg hcont, ?_⟩
    rw [Span.contains_iff] at hcont
    cases hkind : seg.kind with
    | copied =>
      -- the boundary lies in a stretch read the same in both texts
      obtain ⟨piece, hin, hout⟩ := h.copied seg hseg hkind
      obtain ⟨a, b, hab, rfl⟩ := ho
      obtain ⟨a', b', hout', hlen, -⟩ := hin.carry hout hab hcont.1 (Nat.le_of_lt hcont.2)
      exact ⟨a', b', hout', by simp only [Segment.carry, hkind, hlen]⟩
    | replaced =>
      -- a replaced stretch sends it to the start of the replacement
      have hrep : seg ∈ r.offsets.replacements := List.mem_filter.mpr ⟨hseg, by simp [hkind]⟩
      obtain ⟨d, -, -, pre, post, hcss, hstart, -⟩ := exists_of_forall₂ h.replaced hrep
      exact ⟨pre, d.replacement ++ post, by rw [hcss, List.append_assoc],
        by simp only [Segment.carry, hkind, hstart]⟩
  · obtain rfl : o = utf8Length text := Nat.le_antisymm ho.le_length hge
    refine ⟨utf8Length r.css, ?_, r.css, [], by simp, rfl⟩
    rw [OffsetMap.outputOffset?_eq, if_pos h.input_len.symm, h.output_len]

/-- **A splice takes a line end it copies, or the end of the text, to a line end.** -/
theorem SplicedExactly.outputOffset?_line_end {text : List Char} {ds : List Decision}
    {r : Spliced} (h : SplicedExactly text ds r) {a b : List Char} (hab : text = a ++ b)
    (hb : b = [] ∨ b.head? = some '\n')
    (hkeep : (∃ seg ∈ r.offsets.segments.toList, seg.kind = .copied ∧
      seg.input.contains (utf8Length a) = true) ∨ utf8Length a = utf8Length text) :
    ∃ a' b', r.offsets.outputOffset? (utf8Length a) = some (utf8Length a') ∧
      r.css = a' ++ b' ∧ (b' = [] ∨ b'.head? = some '\n') := by
  rcases hkeep with ⟨seg, hseg, hkind, hcont⟩ | hend
  · obtain ⟨piece, hin, hout⟩ := h.copied seg hseg hkind
    have hmoved := h.wellFormed.outputOffset?_of_contains hseg hcont
    rw [Span.contains_iff] at hcont
    obtain ⟨a', b', hcss, hlen, hhead⟩ := hin.carry hout hab hcont.1 (Nat.le_of_lt hcont.2)
    refine ⟨a', b', by rw [hmoved, hlen]; simp only [Segment.carry, hkind], hcss, ?_⟩
    -- the same character follows the boundary in both texts
    have hsame := hhead hcont.2
    rcases hb with rfl | hb
    · exact .inl (List.head?_eq_none_iff.mp hsame)
    · exact .inr (hsame.trans hb)
  · refine ⟨r.css, [], ?_, by simp, .inl rfl⟩
    rw [OffsetMap.outputOffset?_eq, if_pos (hend.trans h.input_len.symm), h.output_len]

/-- **The map of a splice of spans in order is built by a builder describing it.** -/
theorem describes_of_splice {text : List Char} {ds : List Decision} {r : Spliced}
    (hin : ∀ d ∈ ds, Css.SpanIn text d.occurrence.span)
    (hord : ds.Pairwise fun a b => a.occurrence.span.stop ≤ b.occurrence.span.start)
    (hr : splice text ds = .ok r) :
    r.records = ds.map Decision.record ∧ ∃ b : OffsetMap.Builder, r.offsets = b.build ∧
      b.Describes text r.css (ds.map Decision.edit) := by
  obtain ⟨out, hout⟩ := replaced_of_located (ds.map Decision.edit) [] text rfl
    (fun e he => by
      obtain ⟨d, hd, rfl⟩ := List.mem_map.mp he
      exact ⟨Nat.zero_le _, (hin d hd).located⟩)
    (by rw [List.pairwise_map]; exact hord)
  obtain ⟨r', hr', hcss, hrec, b, hb, hdesc⟩ := splice_describes hout
  rw [hr] at hr'
  cases hr'
  subst hcss
  exact ⟨hrec, b, hb, hdesc⟩

/-- **The map of a splice of spans in order describes it.** -/
theorem splicedExactly_of_splice {text : List Char} {ds : List Decision} {r : Spliced}
    (hin : ∀ d ∈ ds, Css.SpanIn text d.occurrence.span)
    (hord : ds.Pairwise fun a b => a.occurrence.span.stop ≤ b.occurrence.span.start)
    (hr : splice text ds = .ok r) : SplicedExactly text ds r := by
  obtain ⟨hrec, b, hb, hdesc⟩ := describes_of_splice hin hord hr
  exact .of_describes hb hrec hdesc

/-- **A splice of spans that hold input leaves no empty stretch**: a copied stretch holds input,
and the replaced stretches are the decisions' spans. -/
theorem not_emptyAt_of_splice {text : List Char} {ds : List Decision} {r : Spliced}
    (hin : ∀ d ∈ ds, Css.SpanIn text d.occurrence.span)
    (hord : ds.Pairwise fun a b => a.occurrence.span.stop ≤ b.occurrence.span.start)
    (hne : ∀ d ∈ ds, d.occurrence.span.start < d.occurrence.span.stop)
    (hr : splice text ds = .ok r) (o : Nat) : ¬r.offsets.EmptyAt o := by
  obtain ⟨-, b, hb, hdesc⟩ := describes_of_splice hin hord hr
  rintro ⟨seg, hseg, hstart, hstop⟩
  rw [hb] at hseg
  cases hk : seg.kind with
  | copied =>
    have := hdesc.copied_nonempty seg hseg hk
    omega
  | replaced =>
    have hrep : seg ∈ b.segments.toList.filter (·.kind == .replaced) :=
      List.mem_filter.mpr ⟨hseg, by simp [hk]⟩
    obtain ⟨e, he, hse, -⟩ := exists_of_forall₂ hdesc.replaced hrep
    obtain ⟨d, hd, rfl⟩ := List.mem_map.mp he
    have hspan : seg.input = d.occurrence.span := hse
    have := hne d hd
    rw [← hspan] at this
    omega

end Rebase

/-! ## (6) Any search keeping its promise

Projection reads the offset map only through the stretches the search finds. On a splice of
spans that hold input no stretch is empty, so every search keeping its promise finds what
bisection finds, and the projected map is the same. -/

namespace Rebase

section Congruence

variable {s₁ s₂ : Bisect.Search Segment} {offsets : OffsetMap}
  (h : ∀ o, offsets.segmentAtBy? s₁ o = offsets.segmentAtBy? s₂ o)
include h

theorem outputOffsetBy?_congr (o : Nat) :
    offsets.outputOffsetBy? s₁ o = offsets.outputOffsetBy? s₂ o := by
  simp only [OffsetMap.outputOffsetBy?, h]

theorem moveTokenBy_congr (inputIndex outputIndex : LineIndex) :
    moveTokenBy s₁ inputIndex outputIndex offsets = moveTokenBy s₂ inputIndex outputIndex offsets := by
  funext t
  simp only [moveTokenBy, h, outputOffsetBy?_congr h]

theorem projectBy_congr (map : SourceMap) (input output : List Char) :
    projectBy s₁ map input output offsets = projectBy s₂ map input output offsets := by
  simp only [projectBy, moveTokenBy_congr h]

theorem landsExactly_congr (inputIndex outputIndex : LineIndex) (pos : LineCol) :
    landsExactly s₁ inputIndex outputIndex offsets pos =
      landsExactly s₂ inputIndex outputIndex offsets pos := by
  funext t
  simp only [landsExactly, moveTokenBy_congr h]

theorem carriesFirstAt_congr (map : SourceMap) (input output : List Char) (pos : LineCol) :
    CarriesFirstAt s₁ map input output offsets pos ↔
      CarriesFirstAt s₂ map input output offsets pos := by
  simp only [CarriesFirstAt, landsExactly_congr h, projectBy_congr h]

end Congruence

/-- **Every search keeping its promise finds the stretches bisection finds on a splice of spans
that hold input.** -/
theorem segmentAtBy?_of_splice {text : List Char} {ds : List Decision} {r : Spliced}
    (hin : ∀ d ∈ ds, Css.SpanIn text d.occurrence.span)
    (hord : ds.Pairwise fun a b => a.occurrence.span.stop ≤ b.occurrence.span.start)
    (hne : ∀ d ∈ ds, d.occurrence.span.start < d.occurrence.span.stop)
    (hr : splice text ds = .ok r) {search : Bisect.Search Segment} (hs : Bisect.Lawful search)
    (o : Nat) : r.offsets.segmentAtBy? search o = r.offsets.segmentAtBy? Bisect.bisect o :=
  (splicedExactly_of_splice hin hord hr).wellFormed.segmentAtBy?_eq_segmentAt? hs
    (not_emptyAt_of_splice hin hord hne hr o)

end Rebase

/-! ## (7) Mappings carried through a rebase -/

namespace Rebase

/-- **The offset a generated position addresses in a text**, with the columns it runs past its
line's end: the line exists, and the column is the UTF-16 length of a part of the line before a
character boundary, which it addresses with nothing over; or the column runs past the line's
UTF-16 length, by `e`, and it addresses the line's end. -/
def Addresses (text : List Char) (pos : LineCol) (o e : Nat) : Prop :=
  ∃ line s, (LineIndex.ofChars text).lines[pos.line]? = some line ∧
    (LineIndex.ofChars text).lineStart pos.line = some s ∧
    ((∃ p q, line = p ++ q ∧ pos.col = utf16Length p ∧ o = s + utf8Length p ∧ e = 0) ∨
      (utf16Length line < pos.col ∧ o = s + utf8Length line ∧ e = pos.col - utf16Length line))

/-- **The offset and overshoot read off a generated position** are the ones it addresses. -/
theorem inputOffset_of_addresses {text : List Char} {pos : LineCol} {o e : Nat}
    (h : Addresses text pos o e) : inputOffset (LineIndex.ofChars text) pos = some (o, e) := by
  obtain ⟨line, s, hline, hs, ⟨p, q, hpq, hcol, rfl, rfl⟩ | ⟨hover, rfl, rfl⟩⟩ := h
  · -- a boundary of the line converts directly
    have hoff : (LineIndex.ofChars text).offsetUtf16 pos = some (s + utf8Length p) := by
      obtain ⟨l, c⟩ := pos
      dsimp only at hline hs hcol
      subst hcol
      exact LineIndex.offsetUtf16_within hline hs hpq
    simp [inputOffset, hoff]
  · -- past the line's end the conversion refuses the column, and the line's end is taken
    have hnone : (LineIndex.ofChars text).offsetUtf16 pos = none := by
      rw [LineIndex.offsetUtf16_of_line hs hline, Option.map_eq_none_iff,
        LineIndex.bytesOfUnits_eq_none]
      exact .inl hover
    obtain ⟨before, after, -, rfl, hend, -⟩ := LineIndex.ofChars_line_start hline hs
    simp [inputOffset, hnone, LineIndex.lineLenUtf16, hline, hover, hend]

/-- The offset a position addresses is a character boundary. -/
theorem Addresses.boundary {text : List Char} {pos : LineCol} {o e : Nat}
    (h : Addresses text pos o e) : Css.Boundary text o := by
  obtain ⟨line, s, hline, hs, ⟨p, q, hpq, -, rfl, -⟩ | ⟨-, rfl, -⟩⟩ := h
  · exact LineIndex.boundary_of_within hline hs hpq
  · exact LineIndex.boundary_of_within hline hs (List.append_nil line).symm

/-- **A position past its line's end addresses the line's end**, which a line feed or the end of
the text follows. -/
theorem Addresses.line_end {text : List Char} {pos : LineCol} {o e : Nat}
    (h : Addresses text pos o e) (he : 0 < e) :
    ∃ a b, text = a ++ b ∧ utf8Length a = o ∧ (b = [] ∨ b.head? = some '\n') := by
  obtain ⟨line, s, hline, hs, ⟨p, q, -, -, -, rfl⟩ | ⟨-, rfl, -⟩⟩ := h
  · exact absurd he (Nat.lt_irrefl 0)
  · obtain ⟨before, after, htext, rfl, -, hfeed⟩ := LineIndex.ofChars_line_start hline hs
    exact ⟨before ++ line, after, htext, utf8Length_append _ _, hfeed⟩

/-- **A mapping moved from an offset that keeps its place lands exactly**, at the line and column
where the offset went with the overshoot added in 32 bits, and the projected map carries the first
mapping landing exactly there. -/
theorem project_carries_moved {map : SourceMap} {t css : List Char} {offsets : OffsetMap}
    (hm : offsets.WellFormed) {k : SourceMap.Token} (hk : k ∈ map.tokens) {o e o' : Nat}
    {dst : LineCol} (hin : inputOffset (LineIndex.ofChars t) ⟨k.dstLine, k.dstCol⟩ = some (o, e))
    (hkeep : offsets.Keeps o) (hout : offsets.outputOffset? o = some o')
    (hdst : (LineIndex.ofChars css).lineColUtf16 o' = some dst) :
    landsExactly Bisect.bisect (LineIndex.ofChars t) (LineIndex.ofChars css) offsets
        ⟨dst.line, (dst.col + e) % Nat.pow 2 32⟩ k = true ∧
      CarriesFirstAt Bisect.bisect map t css offsets ⟨dst.line, (dst.col + e) % Nat.pow 2 32⟩ := by
  have hlands : landsExactly Bisect.bisect (LineIndex.ofChars t) (LineIndex.ofChars css) offsets
      ⟨dst.line, (dst.col + e) % Nat.pow 2 32⟩ k = true :=
    landsExactly_eq_true.mpr ⟨_, moveToken_eq hin hout hdst, rfl, rankAt_of_keeps hm hkeep⟩
  exact ⟨hlands, project_keeps_first_exact hk hlands⟩

/-- **Projection carries every mapping whose text kept its place.** For every text, decisions
whose spans are spans of the text in order, each holding input, the result of splicing them, every
search over the stretches keeping its promise, and every mapping of the old map whose generated
position addresses an offset of the text (a boundary of its line, or the line's end with the
columns it runs past): when that offset lies in a copied stretch, at the start of a replaced one
or at the end of the text, it is translated to a boundary of the new text; at that boundary's
line, and its column with the overshoot added in 32 bits, the mapping lands exactly, and the
projected map's only mapping there is the first mapping of the old map that lands exactly there,
carried with its source, original line and column, name and range flag. -/
theorem project_carries_kept_token {t : List Char} {ds : List Decision} {R : Spliced}
    (hin : ∀ d ∈ ds, Css.SpanIn t d.occurrence.span)
    (hord : ds.Pairwise fun a b => a.occurrence.span.stop ≤ b.occurrence.span.start)
    (hne : ∀ d ∈ ds, d.occurrence.span.start < d.occurrence.span.stop)
    (hR : splice t ds = .ok R) {search : Bisect.Search Segment} (hs : Bisect.Lawful search)
    (map : SourceMap) {k : SourceMap.Token} (hk : k ∈ map.tokens)
    {o e : Nat} (haddr : Addresses t ⟨k.dstLine, k.dstCol⟩ o e) (hkeep : R.offsets.Keeps o) :
    ∃ o' dst, R.offsets.outputOffsetBy? search o = some o' ∧
      (LineIndex.ofChars R.css).lineColUtf16 o' = some dst ∧
      landsExactly search (LineIndex.ofChars t) (LineIndex.ofChars R.css) R.offsets
        ⟨dst.line, (dst.col + e) % Nat.pow 2 32⟩ k = true ∧
      CarriesFirstAt search map t R.css R.offsets ⟨dst.line, (dst.col + e) % Nat.pow 2 32⟩ := by
  have hspliced := splicedExactly_of_splice hin hord hR
  have hsame := segmentAtBy?_of_splice hin hord hne hR hs
  -- the offset goes to a boundary of the new text, which has a line and column
  obtain ⟨o', hout, hb⟩ := hspliced.outputOffset?_boundary haddr.boundary
  obtain ⟨l, s, line, p, q, hline, hstart, hpq, rfl⟩ := LineIndex.boundary_within hb
  have hdst := LineIndex.lineColUtf16_within hline hstart hpq
  obtain ⟨hlands, hcarries⟩ := project_carries_moved hspliced.wellFormed hk
    (inputOffset_of_addresses haddr) hkeep hout hdst
  refine ⟨_, _, (outputOffsetBy?_congr hsame o).trans hout, hdst, ?_,
    (carriesFirstAt_congr hsame _ _ _ _).mpr hcarries⟩
  rw [landsExactly_congr hsame]
  exact hlands

/-- A decision writing `xy` over the `b` of `a⏎bc`. -/
def secondLineDecision : Decision :=
  { occurrence := { raw := ['b'], quote := .none, span := ⟨2, 3⟩, position := ⟨1, 0⟩ },
    source := [], resolved := [], rebased := ['x', 'y'] }

/-- A mapping at the `c` of `a⏎bc`, after `b` is rewritten as `xy`, is carried to its place, the
stretches found by halving. -/
theorem project_carries_kept_token_second_line :
    ∃ R, splice ['a', '\n', 'b', 'c'] [secondLineDecision] = .ok R ∧
      (∀ d ∈ [secondLineDecision], Css.SpanIn ['a', '\n', 'b', 'c'] d.occurrence.span) ∧
      (∀ d ∈ [secondLineDecision], d.occurrence.span.start < d.occurrence.span.stop) ∧
      Bisect.Lawful (Bisect.halve : Bisect.Search Segment) ∧
      (⟨1, 1, 0, 0, some "a.scss", none, false⟩ : SourceMap.Token) ∈
        (SourceMap.make none #[⟨1, 1, 0, 0, some 0, none, false⟩] #["a.scss"] #[] #[]).tokens ∧
      Addresses ['a', '\n', 'b', 'c'] ⟨1, 1⟩ 3 0 ∧ R.offsets.Keeps 3 ∧
      ∃ o' dst, R.offsets.outputOffsetBy? Bisect.halve 3 = some o' ∧
        (LineIndex.ofChars R.css).lineColUtf16 o' = some dst ∧
        landsExactly Bisect.halve (LineIndex.ofChars ['a', '\n', 'b', 'c'])
          (LineIndex.ofChars R.css) R.offsets ⟨dst.line, (dst.col + 0) % Nat.pow 2 32⟩
          ⟨1, 1, 0, 0, some "a.scss", none, false⟩ = true ∧
        CarriesFirstAt Bisect.halve
          (SourceMap.make none #[⟨1, 1, 0, 0, some 0, none, false⟩] #["a.scss"] #[] #[])
          ['a', '\n', 'b', 'c'] R.css R.offsets ⟨dst.line, (dst.col + 0) % Nat.pow 2 32⟩ := by
  refine ⟨_, rfl, ?_⟩
  have hin : ∀ d ∈ [secondLineDecision], Css.SpanIn ['a', '\n', 'b', 'c'] d.occurrence.span :=
    List.forall_mem_singleton.mpr
      ⟨⟨['a', '\n'], ['b', 'c'], rfl, rfl⟩, ⟨['a', '\n', 'b'], ['c'], rfl, rfl⟩, by decide⟩
  have hne : ∀ d ∈ [secondLineDecision], d.occurrence.span.start < d.occurrence.span.stop := by
    decide
  have hk : (⟨1, 1, 0, 0, some "a.scss", none, false⟩ : SourceMap.Token) ∈
      (SourceMap.make none #[⟨1, 1, 0, 0, some 0, none, false⟩] #["a.scss"] #[] #[]).tokens := by
    decide
  have haddr : Addresses ['a', '\n', 'b', 'c'] ⟨1, 1⟩ 3 0 :=
    ⟨['b', 'c'], 2, by decide, by decide, .inl ⟨['b'], ['c'], rfl, rfl, rfl, rfl⟩⟩
  -- the `c` is copied
  refine ⟨hin, hne, Bisect.halve_lawful, hk, haddr, ?_,
    project_carries_kept_token hin (List.pairwise_singleton _ _) hne rfl Bisect.halve_lawful _ hk
      haddr ?_⟩ <;> decide +kernel

/-- A decision writing `x` into the empty span between the letters of `ab`. -/
def insertionDecision : Decision :=
  { occurrence := { raw := [], quote := .none, span := ⟨1, 1⟩, position := ⟨0, 0⟩ },
    source := [], resolved := [], rebased := ['x'] }

/-- **Where projection loses a mapping whose text kept its place.** Two mappings at the start of
`.a{b:url(x.png)}`, copied unchanged, both land exactly at the start, and only the first is
carried there. And writing `x` into the empty span between the letters of `ab` leaves an empty
stretch at offset 1, where the halving search, keeping its promise, stops: the offset of the `b`,
copied, has no translation, and a mapping there lands nowhere. -/
theorem project_keeps_one_of_two_at_position :
    (∃ R, splice ".a{b:url(x.png)}".toList [] = .ok R ∧
      (⟨0, 0, 2, 0, some "a.scss", none, false⟩ : SourceMap.Token) ∈
        (SourceMap.make none #[⟨0, 0, 0, 0, some 0, none, false⟩, ⟨0, 0, 2, 0, some 0, none, false⟩]
          #["a.scss"] #[] #[]).tokens ∧
      Addresses ".a{b:url(x.png)}".toList ⟨0, 0⟩ 0 0 ∧ R.offsets.Keeps 0 ∧
      (⟨0, 0, 2, 0, some "a.scss", none, false⟩ : SourceMap.Token) ∉
        (project (SourceMap.make none #[⟨0, 0, 0, 0, some 0, none, false⟩,
          ⟨0, 0, 2, 0, some 0, none, false⟩] #["a.scss"] #[] #[])
          ".a{b:url(x.png)}".toList R.css R.offsets).tokens) ∧
    ∃ R, splice ['a', 'b'] [insertionDecision] = .ok R ∧
      Bisect.Lawful (Bisect.halve : Bisect.Search Segment) ∧
      Addresses ['a', 'b'] ⟨0, 1⟩ 1 0 ∧ R.offsets.Keeps 1 ∧
      R.offsets.outputOffsetBy? Bisect.halve 1 = none ∧
      ∀ pos, landsExactly Bisect.halve (LineIndex.ofChars ['a', 'b']) (LineIndex.ofChars R.css)
        R.offsets pos ⟨0, 1, 0, 0, some "a.scss", none, false⟩ = false := by
  constructor
  · -- two mappings at the start of an unchanged text: only the first is kept
    have htokens : (SourceMap.make none #[⟨0, 0, 0, 0, some 0, none, false⟩,
        ⟨0, 0, 2, 0, some 0, none, false⟩] #["a.scss"] #[] #[]).tokens =
        [⟨0, 0, 0, 0, some "a.scss", none, false⟩, ⟨0, 0, 2, 0, some "a.scss", none, false⟩] := by
      decide
    have hline : (LineIndex.ofChars ".a{b:url(x.png)}".toList).lines[0]? =
        some ".a{b:url(x.png)}".toList := by
      decide
    have hs : (LineIndex.ofChars ".a{b:url(x.png)}".toList).lineStart 0 = some 0 := by decide
    have haddr : Addresses ".a{b:url(x.png)}".toList ⟨0, 0⟩ 0 0 :=
      ⟨_, 0, hline, hs, .inl ⟨[], _, rfl, rfl, rfl, rfl⟩⟩
    have hspliced := splicedExactly_of_splice (fun _ h => by cases h) List.Pairwise.nil
      (splice_nil ".a{b:url(x.png)}".toList)
    have hkeep : ((({} : OffsetMap.Builder).addSource
        (utf8Length ".a{b:url(x.png)}".toList)).build).Keeps 0 := by
      decide
    refine ⟨_, splice_nil _, by rw [htokens]; simp, haddr, hkeep, fun hmem => ?_⟩
    -- the first mapping lands exactly at the start too
    have hfirst : landsExactly Bisect.bisect (LineIndex.ofChars ".a{b:url(x.png)}".toList)
        (LineIndex.ofChars ".a{b:url(x.png)}".toList)
        (({} : OffsetMap.Builder).addSource (utf8Length ".a{b:url(x.png)}".toList)).build ⟨0, 0⟩
        ⟨0, 0, 0, 0, some "a.scss", none, false⟩ = true :=
      landsExactly_eq_true.mpr ⟨_, moveToken_eq (inputOffset_of_addresses haddr)
        (outputOffset?_copy (Nat.zero_le _))
        (LineIndex.lineColUtf16_within hline hs (List.nil_append _).symm),
        rfl, rankAt_of_keeps hspliced.wellFormed hkeep⟩
    obtain ⟨k', hfind, -, hone⟩ := project_keeps_first_exact
      (by rw [htokens]; exact List.mem_cons_self) hfirst
    rw [htokens, List.find?_cons_of_pos hfirst] at hfind
    cases hfind
    -- so the one mapping at the start is the first, whose original line is 0, not 2
    exact absurd (hone _ hmem rfl rfl) (by decide)
  · -- an insertion between the letters: the halving search stops at its empty stretch
    refine ⟨⟨['a', 'x', 'b'], (((({} : OffsetMap.Builder).addSource 1).push ⟨1, 1⟩ 1
      .replaced).addSource 1).build, _⟩, rfl, Bisect.halve_lawful, ⟨['a', 'b'], 0, by decide,
      by decide, .inl ⟨['a'], ['b'], rfl, rfl, rfl, rfl⟩⟩, by decide, by decide +kernel,
      fun pos => ?_⟩
    -- the mapping's offset has no translation, so it is not moved
    have hnone : moveTokenBy Bisect.halve (LineIndex.ofChars ['a', 'b'])
        (LineIndex.ofChars ['a', 'x', 'b'])
        (((({} : OffsetMap.Builder).addSource 1).push ⟨1, 1⟩ 1 .replaced).addSource 1).build
        ⟨0, 1, 0, 0, some "a.scss", none, false⟩ = none :=
      Option.isNone_iff_eq_none.mp (by decide +kernel)
    rw [landsExactly, hnone]
    rfl

/-- **Columns past a line's end wrap at 2^32.** For every text, decisions whose spans are spans
of the text in order, each holding input, the result of splicing them, every search over the
stretches keeping its promise, and every mapping of the old map whose column runs `e` columns
past its line's end, where that line's end is copied or is the end of the text: the line's end
goes to the end of a line of the new text, of some UTF-16 length `c`, and on that line, at column
`(c + e) mod 2^32`, the mapping lands exactly and the projected map carries the first mapping of
the old map that lands exactly there. That column is `c + e` only when the sum is below 2^32. -/
theorem project_wraps_overshoot_column {t : List Char} {ds : List Decision} {R : Spliced}
    (hin : ∀ d ∈ ds, Css.SpanIn t d.occurrence.span)
    (hord : ds.Pairwise fun a b => a.occurrence.span.stop ≤ b.occurrence.span.start)
    (hne : ∀ d ∈ ds, d.occurrence.span.start < d.occurrence.span.stop)
    (hR : splice t ds = .ok R) {search : Bisect.Search Segment} (hs : Bisect.Lawful search)
    (map : SourceMap) {k : SourceMap.Token} (hk : k ∈ map.tokens)
    {o e : Nat} (haddr : Addresses t ⟨k.dstLine, k.dstCol⟩ o e) (he : 0 < e)
    (hkeep : (∃ seg ∈ R.offsets.segments.toList, seg.kind = .copied ∧
      seg.input.contains o = true) ∨ o = utf8Length t) :
    ∃ l c, (LineIndex.ofChars R.css).lineLenUtf16 l = some c ∧
      landsExactly search (LineIndex.ofChars t) (LineIndex.ofChars R.css) R.offsets
        ⟨l, (c + e) % Nat.pow 2 32⟩ k = true ∧
      CarriesFirstAt search map t R.css R.offsets ⟨l, (c + e) % Nat.pow 2 32⟩ ∧
      ((c + e) % Nat.pow 2 32 = c + e ↔ c + e < Nat.pow 2 32) := by
  have hspliced := splicedExactly_of_splice hin hord hR
  have hsame := segmentAtBy?_of_splice hin hord hne hR hs
  -- the line's end goes to the end of a line of the new text
  obtain ⟨a, b, hab, rfl, hb⟩ := haddr.line_end he
  obtain ⟨a', b', hout, hcss, hb'⟩ := hspliced.outputOffset?_line_end hab hb hkeep
  obtain ⟨l, line, hline, hdst⟩ := LineIndex.lineColUtf16_line_end hcss hb'
  have hkeeps : R.offsets.Keeps (utf8Length a) := by
    rcases hkeep with hcopied | hend
    · exact .inl hcopied
    · exact .inr (.inr (hend.trans hspliced.input_len.symm))
  obtain ⟨hlands, hcarries⟩ := project_carries_moved hspliced.wellFormed hk
    (inputOffset_of_addresses haddr) hkeeps hout hdst
  refine ⟨l, utf16Length line, by simp [LineIndex.lineLenUtf16, hline], ?_,
    (carriesFirstAt_congr hsame _ _ _ _).mpr hcarries, Nat.mod_eq_iff_lt (by decide)⟩
  rw [landsExactly_congr hsame]
  exact hlands

/-- A decision writing `xyz` over the `a` of `ab`. -/
def firstLetterDecision : Decision :=
  { occurrence := { raw := ['a'], quote := .none, span := ⟨0, 1⟩, position := ⟨0, 0⟩ },
    source := [], resolved := [], rebased := ['x', 'y', 'z'] }

/-- A mapping at the last 32-bit column of the line `ab`, after `a` is rewritten as `xyz`, is
carried past the end of the line `xyzb` of four columns, where the sum of four and its overshoot
wraps to column 1. -/
theorem project_wraps_overshoot_column_first_line :
    ∃ R, splice ['a', 'b'] [firstLetterDecision] = .ok R ∧
      (∀ d ∈ [firstLetterDecision], Css.SpanIn ['a', 'b'] d.occurrence.span) ∧
      (∀ d ∈ [firstLetterDecision], d.occurrence.span.start < d.occurrence.span.stop) ∧
      Bisect.Lawful (Bisect.halve : Bisect.Search Segment) ∧
      (⟨0, 4294967295, 0, 0, some "a.scss", none, false⟩ : SourceMap.Token) ∈
        (SourceMap.make none #[⟨0, 4294967295, 0, 0, some 0, none, false⟩] #["a.scss"] #[]
          #[]).tokens ∧
      Addresses ['a', 'b'] ⟨0, 4294967295⟩ 2 4294967293 ∧ 0 < 4294967293 ∧
      ((∃ seg ∈ R.offsets.segments.toList, seg.kind = .copied ∧ seg.input.contains 2 = true) ∨
        2 = utf8Length ['a', 'b']) ∧
      ∃ l c, (LineIndex.ofChars R.css).lineLenUtf16 l = some c ∧
        landsExactly Bisect.halve (LineIndex.ofChars ['a', 'b']) (LineIndex.ofChars R.css)
          R.offsets ⟨l, (c + 4294967293) % Nat.pow 2 32⟩
          ⟨0, 4294967295, 0, 0, some "a.scss", none, false⟩ = true ∧
        CarriesFirstAt Bisect.halve
          (SourceMap.make none #[⟨0, 4294967295, 0, 0, some 0, none, false⟩] #["a.scss"] #[] #[])
          ['a', 'b'] R.css R.offsets ⟨l, (c + 4294967293) % Nat.pow 2 32⟩ ∧
        ((c + 4294967293) % Nat.pow 2 32 = c + 4294967293 ↔ c + 4294967293 < Nat.pow 2 32) ∧
        Nat.pow 2 32 ≤ c + 4294967293 ∧ (c + 4294967293) % Nat.pow 2 32 = 1 := by
  have hR : splice ['a', 'b'] [firstLetterDecision] = .ok ⟨['x', 'y', 'z', 'b'],
      (((({} : OffsetMap.Builder).addSource 0).push ⟨0, 1⟩ 3 .replaced).addSource 1).build,
      [firstLetterDecision.record]⟩ := rfl
  refine ⟨_, hR, ?_⟩
  have hin : ∀ d ∈ [firstLetterDecision], Css.SpanIn ['a', 'b'] d.occurrence.span :=
    List.forall_mem_singleton.mpr
      ⟨⟨[], ['a', 'b'], rfl, rfl⟩, ⟨['a'], ['b'], rfl, rfl⟩, by decide⟩
  have hne : ∀ d ∈ [firstLetterDecision], d.occurrence.span.start < d.occurrence.span.stop := by
    decide
  have hk : (⟨0, 4294967295, 0, 0, some "a.scss", none, false⟩ : SourceMap.Token) ∈
      (SourceMap.make none #[⟨0, 4294967295, 0, 0, some 0, none, false⟩] #["a.scss"] #[]
        #[]).tokens := by
    decide
  have haddr : Addresses ['a', 'b'] ⟨0, 4294967295⟩ 2 4294967293 :=
    ⟨['a', 'b'], 0, by decide, by decide, .inr ⟨by decide, rfl, rfl⟩⟩
  have hkeep : (∃ seg ∈ ((((({} : OffsetMap.Builder).addSource 0).push ⟨0, 1⟩ 3
      .replaced).addSource 1).build).segments.toList, seg.kind = .copied ∧
      seg.input.contains 2 = true) ∨ 2 = utf8Length ['a', 'b'] := .inr rfl
  obtain ⟨l, c, hlen, hlands, hcarries, hwrap⟩ := project_wraps_overshoot_column hin
    (List.pairwise_singleton _ _) hne hR Bisect.halve_lawful _ hk haddr (by decide) hkeep
  -- the new text `xyzb` has one line, of four columns
  have hc : c = 4 := by
    rcases l with _ | l
    · exact Option.some.inj (hlen.symm.trans (by decide +kernel))
    · have hsize : (LineIndex.ofChars ['x', 'y', 'z', 'b']).lines.size = 1 := by decide
      dsimp only at hlen
      rw [LineIndex.lineLenUtf16, Array.getElem?_eq_none (by omega)] at hlen
      cases hlen
  subst hc
  exact ⟨hin, hne, Bisect.halve_lawful, hk, haddr, by decide, hkeep, l, 4, hlen, hlands, hcarries,
    hwrap, by decide, by decide⟩

end Rebase

end StyleRebase
