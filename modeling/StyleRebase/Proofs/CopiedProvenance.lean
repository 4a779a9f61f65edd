import StyleRebase.Proofs.ProjectedOrigins

/-! # Projection keeps the provenance of copied text

Splice into a text decisions whose spans hold input but no line feed, each replaced by some text,
and project a source map of the text with one mapping per position, each at a boundary of its
line, finding the stretches of the splice by any search that keeps its promise. At every offset
that a copied stretch holds, or at the end of the text, the projected map resolves the new line
and column as the old map resolved the old ones, whatever replacements stand before it on its
line and however they change the line numbers.

The mapping in force at the query, if any, stands at a cut before it on its line. If no
replacement ends between that cut and the query, the mapping moves with the best rank to where
its cut went, and the new text runs from there to the new query as the old did. Otherwise the
last replacement ending in between places the same token at its end, from where the text is
copied to the query. In both cases no placed mapping lands later on the query's line at or before
it, so the projected map reads that token there.

* **`Rebase.Candidate.resolve_eq`** — a placed mapping kept in force at the new query resolves it
  as the old map resolves the old one.
* **`Rebase.candidate_of_moved`**, **`Rebase.candidate_at_stop`** — the two places the token in
  force is kept.
* **`Rebase.project_resolves_copied_text`** — projection keeps the provenance of copied text.
* **`Rebase.project_loses_copied_provenance`** — without each condition it is lost: a replacement
  by nothing, a replaced span across a line feed, an empty span looked up by halving, a mapping
  between the two UTF-16 units of a character. -/

namespace StyleRebase

namespace Rebase

/-! ## (1) The query's line -/

section Query

variable {M : SourceMap} {t : List Char} {ds : List Decision} {R : Spliced} {A A' : List Char}

/-- **A placed mapping on the query's line at or before it came from the query's line at or
before it.** A moved mapping came from an offset no earlier than which nothing lands earlier; a
mapping at an end of a replaced stretch came from that end. -/
theorem PlacedFrom.on_query_line (hL : LineKeeping t ds R) (hq : KeptCut t R A A')
    {X Y : List Char} {p : Placed} (hfrom : PlacedFrom M t R.css R.offsets X Y p)
    (hon : p.dst.line = (endPosition A').line ∧ p.dst.col ≤ (endPosition A').col) :
    ∃ W, A = X ++ W ∧ '\n' ∉ W := by
  have h := hL.exact
  have hm := h.wellFormed
  have hne := h.output_nonempty hL.written
  have hA := h.not_inside_of_kept hq.kept
  obtain ⟨B, hB⟩ := hq.old
  obtain ⟨B', hB'⟩ := hq.new
  cases hfrom with
  | @moved k K U Y V hk htK hK hcY hy =>
    obtain ⟨W', hW', hnl⟩ := (endPosition_le_iff (hcY.symm.trans hB'.symm)).mp hon
    refine h.origin_on_line hL.spans hL.one_line hne hB.symm hB'.symm hA hq.goes htK hcY
      (fun hlt => ?_) (fun z w hz _ hzw => hm.outputOffset?_mono hz hy hzw) hW' hnl
    -- past the query, a moved offset lands past where the query went
    by_cases hKin : R.offsets.Inside (utf8Length X)
    · obtain ⟨e, he, hek, h₁, h₂⟩ := hKin
      rw [hm.inside_output he hek ⟨by omega, h₂⟩, Option.some.injEq] at hy
      rw [← hy]
      exact h.lt_output_start_of_kept hq.kept hq.goes he hek (by omega)
    · exact hm.output_lt hne hlt hA hKin hq.goes hy
  | @start seg X U Y V v hseg htX hX hcY hY hv =>
    obtain ⟨W', hW', hnl⟩ := (endPosition_le_iff (hcY.symm.trans hB'.symm)).mp hon
    obtain ⟨hmem, hk⟩ := OffsetMap.mem_replacements.mp hseg
    refine h.origin_on_line hL.spans hL.one_line hne hB.symm hB'.symm hA hq.goes htX hcY
      (fun hlt => ?_) (fun z w hz _ hzw => hY ▸ hm.output_start_le hmem (hX ▸ hz) hzw) hW' hnl
    have := h.lt_output_start_of_kept hq.kept hq.goes hmem hk
      (by have := (hm.bounds hmem).1; omega)
    omega
  | @stop seg X U Y V v hseg htX hX hcY hY hv =>
    obtain ⟨W', hW', hnl⟩ := (endPosition_le_iff (hcY.symm.trans hB'.symm)).mp hon
    obtain ⟨hmem, hk⟩ := OffsetMap.mem_replacements.mp hseg
    refine h.origin_on_line hL.spans hL.one_line hne hB.symm hB'.symm hA hq.goes htX hcY
      (fun hlt => ?_) (fun z w hz _ hzw => hY ▸ hm.output_stop_le hmem (hX ▸ hz) hzw) hW' hnl
    have := h.lt_output_start_of_kept hq.kept hq.goes hmem hk (by omega)
    have := (hm.bounds hmem).2.2.1
    omega

/-- **The token in force at a cut stands at a cut before it on its line**, when every mapping on
a line of the text sits at a boundary of its line. -/
theorem cut_of_inForce
    (hcols : ∀ k ∈ M.tokens, ∀ line, (LineIndex.ofChars t).lines[k.dstLine]? = some line →
      ∃ p q, line = p ++ q ∧ k.dstCol = utf16Length p)
    {B : List Char} (ht : t = A ++ B) {k : SourceMap.Token}
    (hk : SourceMap.InForce M.tokens (endPosition A) k) :
    ∃ K W, A = K ++ W ∧ '\n' ∉ W ∧ endPosition K = ⟨k.dstLine, k.dstCol⟩ ∧
      inputOffset (LineIndex.ofChars t) ⟨k.dstLine, k.dstCol⟩ = some (utf8Length K, 0) := by
  obtain ⟨hmem, hline, hcol, -⟩ := hk
  have hpos := LineIndex.lineColUtf16_prefix A B
  rw [← ht] at hpos
  obtain ⟨s, line, -, -, hl, -⟩ := LineIndex.lineColUtf16_eq_some hpos
  rw [← hline] at hl
  obtain ⟨p, q, hpq, hc⟩ := hcols k hmem line hl
  obtain ⟨K, U, htK, hK, hinput⟩ :=
    LineIndex.cut_of_column ⟨k.dstLine, k.dstCol⟩ hl hpq hc
  obtain ⟨W, hW, hnl⟩ := (endPosition_le_iff (htK.symm.trans ht)).mp
    ⟨by rw [hK]; exact hline, by rw [hK]; exact hcol⟩
  exact ⟨K, W, hW, hnl, hK, hinput⟩

/-- **A mapping on the query's line at or before it stands at or before the token in force.** -/
theorem origin_le_of_inForce {B K W K₁ U₁ : List Char} {k k₁ : SourceMap.Token}
    (ht : t = A ++ B) (hk : SourceMap.InForce M.tokens (endPosition A) k) (hKW : A = K ++ W)
    (hK : endPosition K = ⟨k.dstLine, k.dstCol⟩) (hk₁ : k₁ ∈ M.tokens) (ht₁ : t = K₁ ++ U₁)
    (hK₁ : endPosition K₁ = ⟨k₁.dstLine, k₁.dstCol⟩) (hon : ∃ W₁, A = K₁ ++ W₁ ∧ '\n' ∉ W₁) :
    utf8Length K₁ ≤ utf8Length K := by
  obtain ⟨hon₁, hon₂⟩ := (endPosition_le_iff (ht₁.symm.trans ht)).mpr hon
  rw [hK₁] at hon₁ hon₂
  have hcol := hk.2.2.2 k₁ hk₁ hon₁ hon₂
  have hK' : (endPosition K).line = (endPosition A).line := by rw [hK]; exact hk.2.1
  obtain ⟨w, rfl, -⟩ := (endPosition_le_iff (show K₁ ++ U₁ = K ++ (W ++ B) by
    rw [← ht₁, ht, hKW, List.append_assoc])).mp
    ⟨by rw [hK₁, hK']; exact hon₁, by rw [hK₁, hK]; exact hcol⟩
  rw [utf8Length_append]
  exact Nat.le_add_right _ _

/-- **Of two landings on the query's line at or before it, the shorter is no further along.** -/
theorem col_le_of_landing {css Y Z Y₁ : List Char} (hA' : A' <+: css) (hY : A' = Y ++ Z)
    (hY₁ : Y₁ <+: css)
    (hon : (endPosition Y₁).line = (endPosition A').line ∧
      (endPosition Y₁).col ≤ (endPosition A').col)
    (hlen : utf8Length Y₁ ≤ utf8Length Y) : (endPosition Y₁).col ≤ (endPosition Y).col := by
  obtain ⟨B', hB'⟩ := hA'
  obtain ⟨V₁, hV₁⟩ := hY₁
  obtain ⟨W, hW, hnl⟩ := (endPosition_le_iff (hV₁.trans hB'.symm)).mp hon
  obtain ⟨D, rfl⟩ : Y₁ <+: Y :=
    prefix_of_utf8Length_le ⟨V₁, hV₁⟩ ⟨Z ++ B', by rw [← List.append_assoc, ← hY, hB']⟩ hlen
  -- the text from the shorter landing to the query runs through the longer one
  have hD : '\n' ∉ D := by
    rw [hY, List.append_assoc] at hW
    rw [← List.append_cancel_left hW] at hnl
    exact fun h => hnl (List.mem_append_left Z h)
  rw [endPosition_append_of_no_newline hD]
  exact Nat.le_add_right _ _

/-- **How far a placed mapping from the query's line lands**: a moved mapping of the old map
stands at or before the token in force and lands where its cut went; a mapping at an end of a
replaced stretch comes from a stretch ending at or before the query, and lands no later than the
end of its replacement. -/
theorem PlacedFrom.lands_before (hL : LineKeeping t ds R) (hq : KeptCut t R A A')
    {k : SourceMap.Token} (hk : SourceMap.InForce M.tokens (endPosition A) k) {K W : List Char}
    (hKW : A = K ++ W) (hK : endPosition K = ⟨k.dstLine, k.dstCol⟩) {X₁ Y₁ : List Char}
    {q : Placed} (hfrom : PlacedFrom M t R.css R.offsets X₁ Y₁ q)
    (hon : ∃ W₁, A = X₁ ++ W₁ ∧ '\n' ∉ W₁) :
    (utf8Length X₁ ≤ utf8Length K ∧
      R.offsets.outputOffset? (utf8Length X₁) = some (utf8Length Y₁)) ∨
    ∃ S ∈ R.offsets.segments.toList, S.kind = .replaced ∧ S.input.stop ≤ utf8Length A ∧
      utf8Length Y₁ ≤ S.output.stop := by
  have h := hL.exact
  obtain ⟨B, hB⟩ := hq.old
  obtain ⟨W₁, hW₁, hnl₁⟩ := hon
  have hX₁ : utf8Length X₁ ≤ utf8Length A := by rw [hW₁, utf8Length_append]; omega
  cases hfrom with
  | moved hk₁ ht₁ hK₁ _ hy₁ =>
    exact .inl ⟨origin_le_of_inForce hB.symm hk hKW hK hk₁ ht₁ hK₁ ⟨W₁, hW₁, hnl₁⟩, hy₁⟩
  | @start S _ U₁ _ V₁ v hS _ hX _ hY =>
    obtain ⟨hmem, hSk⟩ := OffsetMap.mem_replacements.mp hS
    refine .inr ⟨S, hmem, hSk, h.stop_le_of_kept hq.kept hmem hSk (by omega), ?_⟩
    have := (h.wellFormed.bounds hmem).2.2.1
    omega
  | @stop S _ U₁ _ V₁ v hS _ hX _ hY =>
    obtain ⟨hmem, hSk⟩ := OffsetMap.mem_replacements.mp hS
    exact .inr ⟨S, hmem, hSk, by omega, by omega⟩

/-- **A mapping of the projected map on the new query's line at or before it was placed from
the query's line at or before it.** -/
theorem KeptCut.project_token_origin
    (hcols : ∀ k ∈ M.tokens, ∀ line, (LineIndex.ofChars t).lines[k.dstLine]? = some line →
      ∃ p q, line = p ++ q ∧ k.dstCol = utf16Length p)
    (hwide : utf16Length R.css < Nat.pow 2 32) (hL : LineKeeping t ds R) (hq : KeptCut t R A A')
    {u : SourceMap.Token} (hu : u ∈ (project M t R.css R.offsets).tokens)
    (hline : u.dstLine = (endPosition A').line) (hcol : u.dstCol ≤ (endPosition A').col) :
    ∃ X₁ Y₁ q, PlacedFrom M t R.css R.offsets X₁ Y₁ q ∧
      (⟨u.dstLine, u.dstCol⟩ : LineCol) = endPosition Y₁ ∧ ∃ W₁, A = X₁ ++ W₁ ∧ '\n' ∉ W₁ := by
  obtain ⟨q, hq', hdst⟩ := project_token_placed hu
  obtain ⟨X₁, Y₁, hfrom⟩ := placedFrom_of_mem hcols hwide hq'
  refine ⟨X₁, Y₁, q, hfrom, hdst.trans hfrom.dst.1, hfrom.on_query_line hL hq ?_⟩
  rw [← hdst]
  exact ⟨hline, hcol⟩

/-- **No token before the query, none after the splice**: when no mapping of the old map stands
on the query's line at or before it, the projected map has none on the new query's line at or
before it either. -/
theorem KeptCut.project_tokenAt_eq_none (hidx : M.index = SourceMap.lookupIndex M.mappings)
    (hcols : ∀ k ∈ M.tokens, ∀ line, (LineIndex.ofChars t).lines[k.dstLine]? = some line →
      ∃ p q, line = p ++ q ∧ k.dstCol = utf16Length p)
    (hwide : utf16Length R.css < Nat.pow 2 32) (hL : LineKeeping t ds R) (hq : KeptCut t R A A')
    (hnone : ∀ k ∈ M.tokens, k.dstLine = (endPosition A).line → (endPosition A).col < k.dstCol) :
    (project M t R.css R.offsets).tokenAt (endPosition A') = none := by
  refine SourceMap.tokenAt_eq_none (project_index ..) fun u hu hline => ?_
  by_contra hcol
  obtain ⟨X, Y, p, hfrom, -, W, hW, hnl⟩ :=
    hq.project_token_origin hcols hwide hL hu hline (Nat.le_of_not_lt hcol)
  -- the mapping came from a cut with a token of the old map before it, on the query's line
  obtain ⟨k, hk, hkline, hkcol⟩ := hfrom.token_before hidx
  have hA : endPosition A = ⟨(endPosition X).line, (endPosition X).col + utf16Length W⟩ := by
    rw [hW, endPosition_append_of_no_newline hnl]
  have := hnone k hk (by rw [hA]; exact hkline)
  rw [hA] at this
  simp only at this
  omega

/-- **A placed mapping at a cut copied to the query came from the query's line**: it lands at
that very cut, and its origin stands on the query's line at or before it. -/
theorem PlacedFrom.of_landing
    (hcols : ∀ k ∈ M.tokens, ∀ line, (LineIndex.ofChars t).lines[k.dstLine]? = some line →
      ∃ p q, line = p ++ q ∧ k.dstCol = utf16Length p)
    (hwide : utf16Length R.css < Nat.pow 2 32) (hL : LineKeeping t ds R) (hq : KeptCut t R A A')
    {Y Z : List Char} (hYZ : A' = Y ++ Z) (hZ : '\n' ∉ Z) {q : Placed}
    (hq' : q ∈ placedMappings M t R.css R.offsets) (hdst : q.dst = endPosition Y) :
    ∃ X₁, PlacedFrom M t R.css R.offsets X₁ Y q ∧ ∃ W₁, A = X₁ ++ W₁ ∧ '\n' ∉ W₁ := by
  obtain ⟨X₁, Y₁, hfrom⟩ := placedFrom_of_mem hcols hwide hq'
  obtain ⟨hq₁, V₁, hV₁⟩ := hfrom.dst
  obtain ⟨B', hB'⟩ := hq.new
  -- the landing is the cut itself: two cuts of the new text at one position
  obtain rfl : Y₁ = Y := eq_of_endPosition_eq
    (show Y₁ ++ V₁ = Y ++ (Z ++ B') by rw [hV₁, ← hB', hYZ, List.append_assoc])
    (hq₁.symm.trans hdst)
  have hon : q.dst.line = (endPosition A').line ∧ q.dst.col ≤ (endPosition A').col := by
    rw [hdst]
    exact (endPosition_le_iff (show Y₁ ++ (Z ++ B') = A' ++ B' by
      rw [hYZ, List.append_assoc])).mpr ⟨Z, hYZ, hZ⟩
  exact ⟨X₁, hfrom, hfrom.on_query_line hL hq hon⟩

/-! ## (2) The candidate in force -/

/-- **A placed mapping the projected map keeps in force at the new query** `A'`, where the query
`A` of the old text went: it is placed at the end of `Y`, from which the new text runs to `A'` as
the old text runs from `X` to `A`, on one line; it carries the token `k` read at `X`; no placed
mapping from the query's line at or before it lands past `Y`; and every placed mapping at its
position of no worse rank carries its token. -/
structure Candidate (M : SourceMap) (t css : List Char) (offsets : OffsetMap) (A A' : List Char)
    (k : SourceMap.Token) (X Y Z : List Char) (p : Placed) : Prop where
  mem : p ∈ placedMappings M t css offsets
  old : A = X ++ Z
  new : A' = Y ++ Z
  one_line : '\n' ∉ Z
  dst : p.dst = endPosition Y
  token : p.token = k.readAt (endPosition X).col
  before : k.dstCol ≤ (endPosition X).col
  last : ∀ X₁ Y₁ q, PlacedFrom M t css offsets X₁ Y₁ q → (∃ W₁, A = X₁ ++ W₁ ∧ '\n' ∉ W₁) →
    utf8Length Y₁ ≤ utf8Length Y
  best : ∀ q ∈ placedMappings M t css offsets, q.dst = p.dst → q.rank.index ≤ p.rank.index →
    q.token = p.token

/-- **A candidate resolves the new query as the old map resolves the old one.** The projected
map keeps the candidate, carried to its position; no mapping of the projected map stands between
it and the new query on the line; read at the new query, it reads the token in force at the old
query, which the old map reads there. -/
theorem Candidate.resolve_eq (hidx : M.index = SourceMap.lookupIndex M.mappings)
    (hone : M.tokens.Pairwise fun u v => (⟨u.dstLine, u.dstCol⟩ : LineCol) ≠ ⟨v.dstLine, v.dstCol⟩)
    (hcols : ∀ k ∈ M.tokens, ∀ line, (LineIndex.ofChars t).lines[k.dstLine]? = some line →
      ∃ p q, line = p ++ q ∧ k.dstCol = utf16Length p)
    (hwide : utf16Length t < Nat.pow 2 32 ∧ utf16Length R.css < Nat.pow 2 32)
    (hL : LineKeeping t ds R) (hq : KeptCut t R A A') {k : SourceMap.Token}
    (hk : SourceMap.InForce M.tokens (endPosition A) k) {X Y Z : List Char} {p : Placed}
    (hc : Candidate M t R.css R.offsets A A' k X Y Z p) :
    (project M t R.css R.offsets).resolve (endPosition A') = M.resolve (endPosition A) := by
  have hA' : endPosition A' = ⟨(endPosition Y).line, (endPosition Y).col + utf16Length Z⟩ := by
    rw [hc.new, endPosition_append_of_no_newline hc.one_line]
  have hA : endPosition A = ⟨(endPosition X).line, (endPosition X).col + utf16Length Z⟩ := by
    rw [hc.old, endPosition_append_of_no_newline hc.one_line]
  have hsrc : p.token.srcCol ≤ Nat.pow 2 32 - 1 := by
    rw [hc.token]
    exact SourceMap.readAt_srcCol_le (SourceMap.srcCol_le_of_mem_tokens hk.1) _
  -- the carried candidate is the token in force at the new query
  have hin : SourceMap.InForce (project M t R.css R.offsets).tokens (endPosition A')
      (carriedTo p.token p.dst) := by
    refine ⟨project_carries_best hc.mem hc.best hsrc, by simp [carriedTo, hc.dst, hA'],
      by simp [carriedTo, hc.dst, hA'], fun u hu hline hcol => ?_⟩
    obtain ⟨X₁, Y₁, q, hfrom, hpos, hon⟩ := hq.project_token_origin hcols hwide.2 hL hu hline hcol
    have hlen := hc.last X₁ Y₁ q hfrom hon
    have hY₁ : (endPosition Y₁).line = (endPosition A').line ∧
        (endPosition Y₁).col ≤ (endPosition A').col := by
      rw [← hpos]
      exact ⟨hline, hcol⟩
    have := col_le_of_landing hq.new hc.new hfrom.dst.2 hY₁ hlen
    have hu' : u.dstCol = (endPosition Y₁).col := by rw [← hpos]
    simp only [carriedTo, hc.dst]
    omega
  have hP := SourceMap.tokenAt_of_inForce (project_index ..) (project_positions_distinct ..) hin
  have hM := SourceMap.tokenAt_of_inForce hidx hone hk
  -- the old query's column fits 32 bits
  have hfit : (endPosition X).col + utf16Length Z < Nat.pow 2 32 := by
    obtain ⟨B, hB⟩ := hq.old
    have := endPosition_col_le A
    rw [hA] at this
    have : utf16Length A ≤ utf16Length t := by rw [← hB, utf16Length_append]; omega
    simp only at *
    omega
  have hcolA' : (endPosition A').col = (endPosition Y).col + utf16Length Z := by rw [hA']
  have hcolA : (endPosition A).col = (endPosition X).col + utf16Length Z := by rw [hA]
  rw [hcolA', hc.token, hc.dst, readAt_carriedTo hc.before hfit] at hP
  rw [hcolA] at hM
  simp [SourceMap.resolve, hP, hM, carriedTo]

/-- **With no replaced stretch ending between the token in force and the query, the token in
force is the candidate**: moved with the best rank to where its cut went, from which the new text
runs to the new query as the old runs to the query. -/
theorem candidate_of_moved
    (hone : M.tokens.Pairwise fun u v => (⟨u.dstLine, u.dstCol⟩ : LineCol) ≠ ⟨v.dstLine, v.dstCol⟩)
    (hcols : ∀ k ∈ M.tokens, ∀ line, (LineIndex.ofChars t).lines[k.dstLine]? = some line →
      ∃ p q, line = p ++ q ∧ k.dstCol = utf16Length p)
    (hwide : utf16Length R.css < Nat.pow 2 32) (hL : LineKeeping t ds R) (hq : KeptCut t R A A')
    {k : SourceMap.Token} (hk : SourceMap.InForce M.tokens (endPosition A) k) {K W : List Char}
    (hKW : A = K ++ W) (hW : '\n' ∉ W) (hK : endPosition K = ⟨k.dstLine, k.dstCol⟩)
    (hinput : inputOffset (LineIndex.ofChars t) ⟨k.dstLine, k.dstCol⟩ = some (utf8Length K, 0))
    (hfree : ∀ S ∈ R.offsets.segments.toList, S.kind = .replaced → utf8Length K < S.input.stop →
      utf8Length A < S.input.stop) :
    ∃ Y p, Candidate M t R.css R.offsets A A' k K Y W p := by
  have h := hL.exact
  have hm := h.wellFormed
  have hne := h.output_nonempty hL.written
  obtain ⟨B, hB⟩ := hq.old
  have hlenKA : utf8Length A = utf8Length K + utf8Length W := by rw [hKW, utf8Length_append]
  -- the token's cut lies inside no replaced stretch: one holding it would end past the query
  have hKin : ¬R.offsets.Inside (utf8Length K) := by
    rintro ⟨S, hS, hSk, h₁, h₂⟩
    have := h.stop_le_of_kept hq.kept hS hSk (by omega)
    have := hfree S hS hSk h₂
    omega
  obtain ⟨X', hXA, hX'⟩ := hq.copied_from hL hKW hKin hfree
  obtain ⟨B', hB'⟩ := hq.new
  have hcss : R.css = X' ++ (W ++ B') := by rw [← hB', hXA, List.append_assoc]
  have hexact : rankAt R.offsets (utf8Length K) = .exact := by
    refine rankAt_of_keeps hm (keeps_of_not_inside hm hKin ?_)
    rw [h.input_len, ← hB, utf8Length_append]
    omega
  have hmove := moveToken_of_cut hinput hcss hX' hwide
  rw [hexact] at hmove
  refine ⟨X', ⟨endPosition X', .exact, k⟩, mem_placedMappings.mpr (.inl ⟨k, hk.1, hmove⟩), hKW,
    hXA, hW, rfl, ?_, Nat.le_of_eq (congrArg LineCol.col hK).symm, ?_, ?_⟩
  · rw [hK]
    exact (SourceMap.readAt_self (SourceMap.srcCol_le_of_mem_tokens hk.1)).symm
  · intro X₁ Y₁ q hfrom hon
    rcases hfrom.lands_before hL hq hk hKW hK hon with ⟨hle, hy⟩ | ⟨S, hS, hSk, hSA, hY⟩
    · exact hm.outputOffset?_mono hle hy hX'
    · -- a replaced stretch ending at or before the query ends at or before the token's cut
      have hSK : S.input.stop ≤ utf8Length K := by
        by_contra hlt
        have := hfree S hS hSk (by omega)
        omega
      have := hm.output_stop_le hS hSK hX'
      omega
  · intro q hq' hdst hrank
    obtain ⟨X₁, hfrom, W₁, hW₁, hnl₁⟩ := PlacedFrom.of_landing hcols hwide hL hq hXA hW hq' hdst
    cases hfrom with
    | @moved k₁ _ U₁ _ V₁' hk₁ ht₁ hK₁ _ hy₁ =>
      -- a mapping moved with the best rank to the candidate's cut came from the token's cut
      have hex₁ : rankAt R.offsets (utf8Length X₁) = .exact := by
        revert hrank
        cases rankAt R.offsets (utf8Length X₁) <;> simp [Rank.index]
      have hle := origin_le_of_inForce hB.symm hk hKW hK hk₁ ht₁ hK₁ ⟨W₁, hW₁, hnl₁⟩
      have heq : utf8Length X₁ = utf8Length K := by
        by_contra hne'
        have := hm.output_lt hne (by omega) (not_inside_of_rankAt hm hex₁) hKin hy₁ hX'
        omega
      have hXK : X₁ = K := eq_of_prefix_of_utf8Length_eq ⟨U₁, ht₁.symm⟩
        ⟨W ++ B, by rw [← List.append_assoc, ← hKW, hB]⟩ heq
      subst hXK
      rw [hK] at hK₁
      exact SourceMap.eq_of_same_position hone hk₁ hk.1 (congrArg LineCol.line hK₁).symm
        (congrArg LineCol.col hK₁).symm
    | start => simp [Rank.index] at hrank
    | stop => simp [Rank.index] at hrank

/-- **With a replaced stretch ending between the token in force and the query, the candidate is
at the end of the last such replacement**: the token in force at the query is in force at the
stretch's end, and from that end the new text runs to the new query as the old runs to the
query. -/
theorem candidate_at_stop (hidx : M.index = SourceMap.lookupIndex M.mappings)
    (hone : M.tokens.Pairwise fun u v => (⟨u.dstLine, u.dstCol⟩ : LineCol) ≠ ⟨v.dstLine, v.dstCol⟩)
    (hcols : ∀ k ∈ M.tokens, ∀ line, (LineIndex.ofChars t).lines[k.dstLine]? = some line →
      ∃ p q, line = p ++ q ∧ k.dstCol = utf16Length p)
    (hwide : utf16Length R.css < Nat.pow 2 32) (hL : LineKeeping t ds R) (hq : KeptCut t R A A')
    {k : SourceMap.Token} (hk : SourceMap.InForce M.tokens (endPosition A) k) {K W : List Char}
    (hKW : A = K ++ W) (hW : '\n' ∉ W) (hK : endPosition K = ⟨k.dstLine, k.dstCol⟩)
    {S : Segment} (hS : R.offsets.LastIn (utf8Length K) (utf8Length A) S) :
    ∃ X Y Z p, Candidate M t R.css R.offsets A A' k X Y Z p := by
  have h := hL.exact
  have hm := h.wellFormed
  have hne := h.output_nonempty hL.written
  obtain ⟨B, hB⟩ := hq.old
  have ⟨hSmem, hSk, hlo, hhi, _⟩ := hS
  -- the end of the stretch is a cut of the text, between the token's cut and the query
  have hrep := OffsetMap.mem_replacements.mpr ⟨hSmem, hSk⟩
  obtain ⟨d, hd, hspan, -⟩ := exists_of_forall₂ h.replaced hrep
  obtain ⟨X, U, htX, hX⟩ := (hL.spans d hd).stop
  rw [← hspan] at hX
  obtain ⟨Z, hXZ⟩ : X <+: A := prefix_of_utf8Length_le ⟨U, htX.symm⟩ ⟨B, hB⟩ (by omega)
  obtain ⟨D, hKD⟩ : K <+: X := prefix_of_utf8Length_le
    ⟨W ++ B, by rw [← List.append_assoc, ← hKW, hB]⟩ ⟨U, htX.symm⟩ (by omega)
  have hWDZ : W = D ++ Z := by
    have hsplit : K ++ W = K ++ (D ++ Z) := by rw [← hKW, ← hXZ, ← hKD, List.append_assoc]
    exact List.append_cancel_left hsplit
  have hD : '\n' ∉ D := fun h' => hW (hWDZ ▸ List.mem_append_left Z h')
  have hZ : '\n' ∉ Z := fun h' => hW (hWDZ ▸ List.mem_append_right D h')
  -- the token in force at the query is in force at the stretch's end
  have hXpos : endPosition X = ⟨k.dstLine, k.dstCol + utf16Length D⟩ := by
    rw [← hKD, endPosition_append_of_no_newline hD, hK]
  have hApos : endPosition A = ⟨(endPosition X).line, (endPosition X).col + utf16Length Z⟩ := by
    rw [← hXZ, endPosition_append_of_no_newline hZ]
  have hkX : SourceMap.InForce M.tokens (endPosition X) k :=
    hk.of_before (by rw [hApos]) (by rw [hApos]; exact Nat.le_add_right _ _)
      (by rw [hXpos]; exact Nat.le_add_right _ _)
  have hv := SourceMap.tokenAt_of_inForce hidx hone hkX
  -- from the stretch's end, the text is copied to the query
  obtain ⟨Y, hYA, hY⟩ := hq.copied_from hL hXZ.symm (hX ▸ hm.not_inside_stop hSmem)
    (fun e he hek hlt => hm.lt_stop_of_lastIn hne hS he hek (hX ▸ hlt))
  rw [hX, hm.output_at_stop_of_lastIn hne hS, Option.some.injEq] at hY
  obtain ⟨B', hB'⟩ := hq.new
  have hcss : R.css = Y ++ (Z ++ B') := by rw [← hB', hYA, List.append_assoc]
  refine ⟨X, Y, Z, ⟨endPosition Y, .boundary, k.readAt (endPosition X).col⟩, ?_, hXZ.symm, hYA,
    hZ, rfl, rfl, hkX.2.2.1, ?_, ?_⟩
  · refine mem_placedMappings.mpr (.inr ⟨S, hrep, mem_boundaryTokens.mpr
      ⟨rfl, .inr ⟨endPosition X, ?_, hv, ?_⟩⟩⟩)
    · rw [← hX, htX]
      exact LineIndex.lineColUtf16_prefix X U
    · rw [hY, hcss]
      exact LineIndex.lineColUtf16_prefix Y (Z ++ B')
  · intro X₁ Y₁ q hfrom hon
    rcases hfrom.lands_before hL hq hk hKW hK hon with ⟨hle, hy⟩ | ⟨e, he, hek, heA, hY₁⟩
    · have := hm.le_output_stop hSmem (by omega) hy
      omega
    · have := hm.output_stop_le_of_lastIn hS he hek heA
      omega
  · intro q hq' hdst hrank
    obtain ⟨X₁, hfrom, W₁, hW₁, hnl₁⟩ := PlacedFrom.of_landing hcols hwide hL hq hYA hZ hq' hdst
    have hX₁A : utf8Length X₁ ≤ utf8Length A := by rw [hW₁, utf8Length_append]; omega
    cases hfrom with
    | @moved k₁ _ U₁ _ V₁' hk₁ ht₁ hK₁ _ hy₁ =>
      -- a moved mapping from before the stretch's end lands before its replacement's end
      have hle := origin_le_of_inForce hB.symm hk hKW hK hk₁ ht₁ hK₁ ⟨W₁, hW₁, hnl₁⟩
      have := hm.lt_output_stop hSmem hSk (hne S hSmem hSk) (by omega) hy₁
      omega
    | @start e _ U₁ _ V₁' v he ht₁ hX₁ _ hY₁ hv₁ =>
      -- a replacement starting there ends later than the last one
      obtain ⟨hemem, hek⟩ := OffsetMap.mem_replacements.mp he
      have := hm.output_stop_le_of_lastIn hS hemem hek
        (h.stop_le_of_kept hq.kept hemem hek (by omega))
      have := hne e hemem hek
      omega
    | @stop e _ U₁ _ V₁' v he ht₁ hX₁ _ hY₁ hv₁ =>
      -- the only replacement ending there is the last one, so the mapping comes from its end
      obtain ⟨hemem, hek⟩ := OffsetMap.mem_replacements.mp he
      have hee : e = S := hm.eq_of_output_stop_eq hne hemem hek hSmem hSk (by rw [← hY₁, hY])
      subst hee
      have hXX : X₁ = X := eq_of_prefix_of_utf8Length_eq ⟨U₁, ht₁.symm⟩ ⟨U, htX.symm⟩ (by omega)
      subst hXX
      rw [hv, Option.some.injEq] at hv₁
      exact hv₁.symm

/-- **The projected map resolves a kept query as the old map does.** With no token of the old
map on the query's line at or before it, neither map resolves it; otherwise the token in force
has a candidate: moved itself, or at the end of the last replacement between it and the query. -/
theorem KeptCut.project_resolve_eq (hidx : M.index = SourceMap.lookupIndex M.mappings)
    (hone : M.tokens.Pairwise fun u v => (⟨u.dstLine, u.dstCol⟩ : LineCol) ≠ ⟨v.dstLine, v.dstCol⟩)
    (hcols : ∀ k ∈ M.tokens, ∀ line, (LineIndex.ofChars t).lines[k.dstLine]? = some line →
      ∃ p q, line = p ++ q ∧ k.dstCol = utf16Length p)
    (hwide : utf16Length t < Nat.pow 2 32 ∧ utf16Length R.css < Nat.pow 2 32)
    (hL : LineKeeping t ds R) (hq : KeptCut t R A A') :
    (project M t R.css R.offsets).resolve (endPosition A') = M.resolve (endPosition A) := by
  by_cases hex : ∃ k ∈ M.tokens, k.dstLine = (endPosition A).line ∧
      k.dstCol ≤ (endPosition A).col
  · obtain ⟨k, hk⟩ := SourceMap.exists_inForce hex
    obtain ⟨B, hB⟩ := hq.old
    obtain ⟨K, W, hKW, hW, hK, hinput⟩ := cut_of_inForce hcols hB.symm hk
    by_cases hwin : ∃ S ∈ R.offsets.segments.toList, S.kind = .replaced ∧
        utf8Length K < S.input.stop ∧ S.input.stop ≤ utf8Length A
    · obtain ⟨S, hS⟩ := R.offsets.exists_lastIn hwin
      obtain ⟨X, Y, Z, p, hc⟩ := candidate_at_stop hidx hone hcols hwide.2 hL hq hk hKW hW hK hS
      exact hc.resolve_eq hidx hone hcols hwide hL hq hk
    · obtain ⟨Y, p, hc⟩ := candidate_of_moved hone hcols hwide.2 hL hq hk hKW hW hK hinput
        fun S hS hSk hlt => Nat.lt_of_not_le fun hle => hwin ⟨S, hS, hSk, hlt, hle⟩
      exact hc.resolve_eq hidx hone hcols hwide hL hq hk
  · -- no token stands before the query: neither map resolves it
    have hnone : ∀ k ∈ M.tokens, k.dstLine = (endPosition A).line →
        (endPosition A).col < k.dstCol :=
      fun k hk hl => Nat.lt_of_not_le fun hc => hex ⟨k, hk, hl, hc⟩
    simp only [SourceMap.resolve, SourceMap.tokenAt_eq_none hidx hnone,
      hq.project_tokenAt_eq_none hidx hcols hwide.2 hL hnone, Option.bind_eq_bind,
      Option.bind_none]

end Query

/-! ## (3) Copied text keeps its provenance -/

/-- **Projection keeps the provenance of copied text.** Splice into a text decisions whose spans
are spans of the text, in order, each holding input but no line feed and replaced by some text;
take a source map of the text with its lookup index, one mapping per position, each at a boundary
of its line, columns of both texts within 32 bits, and any search over the stretches that keeps
its promise. Then every offset between characters that a copied stretch holds, or the end of the
text, goes to an offset of the new text, and the projected map resolves its line and column to
what the old map resolves the old line and column to: the same source, line, column and name, or
nothing. -/
theorem project_resolves_copied_text {M : SourceMap} {t : List Char} {ds : List Decision}
    {R : Spliced} (hidx : M.index = SourceMap.lookupIndex M.mappings)
    (hone : M.tokens.Pairwise fun u v => (⟨u.dstLine, u.dstCol⟩ : LineCol) ≠ ⟨v.dstLine, v.dstCol⟩)
    (hcols : ∀ k ∈ M.tokens, ∀ line, (LineIndex.ofChars t).lines[k.dstLine]? = some line →
      ∃ p q, line = p ++ q ∧ k.dstCol = utf16Length p)
    (hin : ∀ d ∈ ds, Css.SpanIn t d.occurrence.span)
    (hord : ds.Pairwise fun a b => a.occurrence.span.stop ≤ b.occurrence.span.start)
    (hne : ∀ d ∈ ds, d.occurrence.span.start < d.occurrence.span.stop)
    (hlocal : ∀ d ∈ ds, d.replacement ≠ [] ∧
      ∀ piece, Located t d.occurrence.span piece → '\n' ∉ piece)
    (hwide : utf16Length t < Nat.pow 2 32 ∧ utf16Length R.css < Nat.pow 2 32)
    (hR : splice t ds = .ok R) {search : Bisect.Search Segment} (hs : Bisect.Lawful search)
    {o : Nat} (ho : Css.Boundary t o)
    (hkeep : (∃ seg ∈ R.offsets.segments.toList, seg.kind = .copied ∧
      seg.input.contains o = true) ∨ o = utf8Length t) :
    ∃ o' pos pos', R.offsets.outputOffsetBy? search o = some o' ∧
      (LineIndex.ofChars t).lineColUtf16 o = some pos ∧
      (LineIndex.ofChars R.css).lineColUtf16 o' = some pos' ∧
      (projectBy search M t R.css R.offsets).resolve pos' = M.resolve pos := by
  have h := splicedExactly_of_splice hin hord hR
  -- no stretch is empty, so the search finds what bisection finds
  have hsame := segmentAtBy?_of_splice hin hord hne hR hs
  have hL : LineKeeping t ds R :=
    ⟨h, hin, fun d hd => (hlocal d hd).2, fun d hd => (hlocal d hd).1⟩
  obtain ⟨A, B, ht, rfl⟩ := ho
  have hA := h.not_inside_of_kept hkeep
  -- the query is copied to a cut of the new text
  obtain ⟨A', T', hcss, hA', -⟩ := h.copies 0 (X := A) (W := []) (T := B) rfl (by simp [ht]) hA
    (by simpa using hA) (fun e _ _ hlt => by simpa using hlt)
  rw [List.append_nil] at hcss
  have hq : KeptCut t R A A' := ⟨⟨B, ht.symm⟩, ⟨T', hcss.symm⟩, hkeep, hA'⟩
  refine ⟨utf8Length A', endPosition A, endPosition A', (outputOffsetBy?_congr hsame _).trans hA',
    ?_, ?_, ?_⟩
  · rw [ht]
    exact LineIndex.lineColUtf16_prefix A B
  · rw [hcss]
    exact LineIndex.lineColUtf16_prefix A' T'
  · rw [projectBy_congr hsame]
    exact hq.project_resolve_eq hidx hone hcols hwide hL

/-- A map of `ab⏎cd` with a mapping at the start of each line. -/
def twoLineMap : SourceMap :=
  { file := none,
    mappings := #[⟨0, 0, 0, 0, some 0, none, false⟩, ⟨1, 0, 4, 2, some 0, none, false⟩],
    sources := #["a.scss"], contents := #[], names := #[] }

/-- A decision writing `x⏎y` over the `b` of `ab⏎cd`. -/
def lineBreakDecision : Decision :=
  { occurrence := { raw := ['b'], quote := .none, span := ⟨1, 2⟩, position := ⟨0, 0⟩ },
    source := [], resolved := [], rebased := ['x', '\n', 'y'] }

/-- **A replacement that breaks the line keeps the provenance after it**: the end of the `b` of
`ab⏎cd`, rewritten as `x⏎y`, goes to the second line of the new text, where the projected map,
the stretches found by halving, resolves it to the first mapping, as the old map resolved the
first line. -/
theorem project_resolves_after_line_break :
    ∃ R, splice ['a', 'b', '\n', 'c', 'd'] [lineBreakDecision] = .ok R ∧
      ∃ o' pos', R.offsets.outputOffsetBy? Bisect.halve 2 = some o' ∧
        (LineIndex.ofChars R.css).lineColUtf16 o' = some pos' ∧ pos'.line = 1 ∧
        (projectBy Bisect.halve twoLineMap ['a', 'b', '\n', 'c', 'd'] R.css R.offsets).resolve
          pos' = some ⟨"a.scss", 0, 0, none⟩ := by
  refine ⟨_, rfl, ?_⟩
  have hcol : ∀ k ∈ twoLineMap.tokens, k.dstCol = 0 := by decide +kernel
  have hone : twoLineMap.tokens.Pairwise fun u v =>
      (⟨u.dstLine, u.dstCol⟩ : LineCol) ≠ ⟨v.dstLine, v.dstCol⟩ := by decide +kernel
  have hin : ∀ d ∈ [lineBreakDecision],
      Css.SpanIn ['a', 'b', '\n', 'c', 'd'] d.occurrence.span :=
    List.forall_mem_singleton.mpr
      ⟨⟨['a'], ['b', '\n', 'c', 'd'], rfl, rfl⟩, ⟨['a', 'b'], ['\n', 'c', 'd'], rfl, rfl⟩,
        by decide⟩
  have hne : ∀ d ∈ [lineBreakDecision], d.occurrence.span.start < d.occurrence.span.stop := by
    decide
  -- the replaced `b` holds no line feed: it is the only piece at its span
  have hlocal : ∀ d ∈ [lineBreakDecision], d.replacement ≠ [] ∧
      ∀ piece, Located ['a', 'b', '\n', 'c', 'd'] d.occurrence.span piece → '\n' ∉ piece := by
    refine List.forall_mem_singleton.mpr ⟨by decide, fun piece hpiece => ?_⟩
    have hslice := Located.sliceBytes_eq hpiece
    rw [show sliceBytes ['a', 'b', '\n', 'c', 'd'] lineBreakDecision.occurrence.span.start
      lineBreakDecision.occurrence.span.stop = some ['b'] by decide +kernel,
      Option.some.injEq] at hslice
    rw [← hslice]
    decide
  obtain ⟨o', pos, pos', hout, hpos, hpos', hres⟩ :=
    @project_resolves_copied_text _ _ [lineBreakDecision] _ rfl hone
      (fun k hk line _ => ⟨[], line, rfl, hcol k hk⟩) hin (List.pairwise_singleton _ _) hne hlocal
      (by decide +kernel) rfl _ Bisect.halve_lawful 2 ⟨['a', 'b'], ['\n', 'c', 'd'], rfl, rfl⟩
      (by decide +kernel)
  -- the offset goes to the second line, after `x⏎y`
  obtain rfl : o' = 4 := Option.some.inj (hout.symm.trans (by decide +kernel))
  obtain rfl : pos' = ⟨1, 1⟩ := Option.some.inj (hpos'.symm.trans (by decide +kernel))
  obtain rfl : pos = ⟨0, 2⟩ := Option.some.inj (hpos.symm.trans (by decide +kernel))
  refine ⟨4, ⟨1, 1⟩, hout, hpos', rfl, ?_⟩
  -- the old map resolves the first line by its first mapping
  have hk : SourceMap.InForce twoLineMap.tokens ⟨0, 2⟩
      ⟨0, 0, 0, 0, some "a.scss", none, false⟩ := by
    unfold SourceMap.InForce
    decide +kernel
  rw [hres, SourceMap.resolve, SourceMap.tokenAt_of_inForce rfl hone hk]
  rfl

/-! ## (4) Where provenance is lost

Each condition of `project_resolves_copied_text` is needed. -/

/-- **A projection that places every mapping at one position** carries there the first mapping of
the old map landing exactly at it, and reads that mapping at every later column of the line. -/
theorem project_tokenAt_of_one_position {map : SourceMap} {input output : List Char}
    {offsets : OffsetMap} {pos : LineCol} {k : SourceMap.Token}
    (hall : ∀ p ∈ placedMappings map input output offsets, p.dst = pos)
    (hfirst : map.tokens.find? (landsExactly Bisect.bisect (LineIndex.ofChars input)
      (LineIndex.ofChars output) offsets pos) = some k)
    {col : Nat} (hcol : pos.col ≤ col) :
    (project map input output offsets).tokenAt ⟨pos.line, col⟩ =
      some ((carriedTo k pos).readAt col) := by
  obtain ⟨hlands, -⟩ := List.find?_eq_some_iff_append.mp hfirst
  obtain ⟨k', hfind, hmem, -⟩ :=
    project_keeps_first_exact (List.mem_of_find?_eq_some hfirst) hlands
  obtain rfl : k' = k := Option.some.inj (hfind.symm.trans hfirst)
  -- every mapping of the projected map stands at `pos`, so none is later on its line
  refine SourceMap.tokenAt_of_inForce (project_index ..) (project_positions_distinct ..)
    ⟨hmem, rfl, hcol, fun u hu _ _ => ?_⟩
  obtain ⟨p, hp, hdst⟩ := project_token_placed hu
  rw [hall p hp] at hdst
  exact Nat.le_of_eq (congrArg LineCol.col hdst)

/-- **Every placed mapping stands at one position** when every moved mapping lands there and both
ends of every replacement are there. -/
theorem placedMappings_dst_of_ends {map : SourceMap} {input output : List Char}
    {offsets : OffsetMap} {pos : LineCol}
    (hmoved : ∀ k ∈ map.tokens, ∀ p, moveToken (LineIndex.ofChars input)
      (LineIndex.ofChars output) offsets k = some p → p.dst = pos)
    (hends : ∀ seg ∈ offsets.replacements,
      (LineIndex.ofChars output).lineColUtf16 seg.output.start = some pos ∧
        (LineIndex.ofChars output).lineColUtf16 seg.output.stop = some pos) :
    ∀ p ∈ placedMappings map input output offsets, p.dst = pos := by
  intro p hp
  rcases mem_placedMappings.mp hp with ⟨k, hk, hmove⟩ | ⟨seg, hseg, hb⟩
  · exact hmoved k hk p hmove
  · -- a boundary mapping is placed at one end of its replacement
    obtain ⟨-, ⟨-, -, -, hdst⟩ | ⟨-, -, -, hdst⟩⟩ := mem_boundaryTokens.mp hb
    · exact Option.some.inj (hdst.symm.trans (hends seg hseg).1)
    · exact Option.some.inj (hdst.symm.trans (hends seg hseg).2)

/-- A decision writing nothing over the `bc` of `abcd`. -/
def emptyingDecision : Decision :=
  { occurrence := { raw := ['b', 'c'], quote := .none, span := ⟨1, 3⟩, position := ⟨0, 0⟩ },
    source := [], resolved := [], rebased := [] }

/-- A map of `abcd` with a mapping at the `b` from one source and at the `d` from another. -/
def emptiedMap : SourceMap :=
  SourceMap.make none #[⟨0, 1, 0, 0, some 0, none, false⟩, ⟨0, 3, 0, 0, some 1, none, false⟩]
    #["s0", "s1"] #[] #[]

/-- A decision writing `X` over the `b⏎c` of `ab⏎cd`. -/
def lineJoinDecision : Decision :=
  { occurrence := { raw := ['b', '\n', 'c'], quote := .none, span := ⟨1, 4⟩, position := ⟨0, 0⟩ },
    source := [], resolved := [], rebased := ['X'] }

/-- A map of `ab⏎cd` with one mapping, at the `b`. -/
def joinedMap : SourceMap :=
  SourceMap.make none #[⟨0, 1, 0, 0, some 0, none, false⟩] #["s0"] #[] #[]

/-- A map of `😀a` with a mapping between the two UTF-16 units of `😀`. -/
def surrogateMap : SourceMap :=
  SourceMap.make none #[⟨0, 1, 0, 0, some 0, none, false⟩] #["a.scss"] #[] #[]

/-- **Where projection loses the provenance of copied text.** Writing nothing over the `bc` of
`abcd` sends both ends of it, and the copied `d`, to one place, where the mapping at the `b` is
kept, though the old map read the `d` from the mapping at the `d`. Writing `X` over `b⏎c` in
`ab⏎cd` joins the lines, and the copied `d` is read from the mapping at the `b`, though the old
map read nothing on the second line. Writing `x` into the empty span between the letters of `ab`
leaves an empty stretch, where the halving search stops, so the copied `b` has no translation.
And a mapping between the two UTF-16 units of `😀` is dropped. -/
theorem project_loses_copied_provenance :
    (∃ R, splice ['a', 'b', 'c', 'd'] [emptyingDecision] = .ok R ∧
      (∃ seg ∈ R.offsets.segments.toList, seg.kind = .copied ∧ seg.input.contains 3 = true) ∧
      R.offsets.outputOffset? 3 = some 1 ∧
      (LineIndex.ofChars ['a', 'b', 'c', 'd']).lineColUtf16 3 = some ⟨0, 3⟩ ∧
      (LineIndex.ofChars R.css).lineColUtf16 1 = some ⟨0, 1⟩ ∧
      (project emptiedMap ['a', 'b', 'c', 'd'] R.css R.offsets).resolve ⟨0, 1⟩ =
        some ⟨"s0", 0, 0, none⟩ ∧
      emptiedMap.resolve ⟨0, 3⟩ = some ⟨"s1", 0, 0, none⟩) ∧
    (∃ R, splice ['a', 'b', '\n', 'c', 'd'] [lineJoinDecision] = .ok R ∧
      (∃ seg ∈ R.offsets.segments.toList, seg.kind = .copied ∧ seg.input.contains 4 = true) ∧
      R.offsets.outputOffset? 4 = some 2 ∧
      (LineIndex.ofChars ['a', 'b', '\n', 'c', 'd']).lineColUtf16 4 = some ⟨1, 1⟩ ∧
      (LineIndex.ofChars R.css).lineColUtf16 2 = some ⟨0, 2⟩ ∧
      (project joinedMap ['a', 'b', '\n', 'c', 'd'] R.css R.offsets).resolve ⟨0, 2⟩ =
        some ⟨"s0", 0, 0, none⟩ ∧
      joinedMap.resolve ⟨1, 1⟩ = none) ∧
    (∃ R, splice ['a', 'b'] [insertionDecision] = .ok R ∧
      Bisect.Lawful (Bisect.halve : Bisect.Search Segment) ∧
      (∃ seg ∈ R.offsets.segments.toList, seg.kind = .copied ∧ seg.input.contains 1 = true) ∧
      R.offsets.outputOffsetBy? Bisect.halve 1 = none) ∧
    (∃ R, splice ['😀', 'a'] [] = .ok R ∧
      (∃ seg ∈ R.offsets.segments.toList, seg.kind = .copied ∧ seg.input.contains 4 = true) ∧
      R.offsets.outputOffset? 4 = some 4 ∧
      (LineIndex.ofChars ['😀', 'a']).lineColUtf16 4 = some ⟨0, 2⟩ ∧
      (LineIndex.ofChars R.css).lineColUtf16 4 = some ⟨0, 2⟩ ∧
      (project surrogateMap ['😀', 'a'] R.css R.offsets).resolve ⟨0, 2⟩ = none ∧
      surrogateMap.resolve ⟨0, 2⟩ = some ⟨"a.scss", 0, 0, none⟩) := by
  refine ⟨?_, ?_, ⟨_, rfl, Bisect.halve_lawful, by decide +kernel, by decide +kernel⟩,
    ⟨_, rfl, by decide +kernel⟩⟩
  · -- the mappings at the `b` and the `d` both land at the place of the emptied `bc`
    have hR : splice ['a', 'b', 'c', 'd'] [emptyingDecision] = .ok ⟨['a', 'd'],
        (((({} : OffsetMap.Builder).addSource 1).push ⟨1, 3⟩ 0 .replaced).addSource 1).build,
        [emptyingDecision.record]⟩ := rfl
    have hall : ∀ p ∈ placedMappings emptiedMap ['a', 'b', 'c', 'd'] ['a', 'd']
        (((({} : OffsetMap.Builder).addSource 1).push ⟨1, 3⟩ 0 .replaced).addSource 1).build,
        p.dst = ⟨0, 1⟩ := by
      -- the old map's two mappings do not evaluate: count the moved ones and the ends apart
      have hmoved : ∀ k ∈ emptiedMap.tokens, (moveToken (LineIndex.ofChars ['a', 'b', 'c', 'd'])
          (LineIndex.ofChars ['a', 'd']) (((({} : OffsetMap.Builder).addSource 1).push ⟨1, 3⟩ 0
          .replaced).addSource 1).build k).map (·.dst) = some ⟨0, 1⟩ := by
        decide +kernel
      refine placedMappings_dst_of_ends (fun k hk p hmove => ?_) (by decide +kernel)
      have := hmoved k hk
      rw [hmove] at this
      exact Option.some.inj this
    have hfirst : emptiedMap.tokens.find? (landsExactly Bisect.bisect
        (LineIndex.ofChars ['a', 'b', 'c', 'd']) (LineIndex.ofChars ['a', 'd'])
        (((({} : OffsetMap.Builder).addSource 1).push ⟨1, 3⟩ 0 .replaced).addSource 1).build
        ⟨0, 1⟩) = some ⟨0, 1, 0, 0, some "s0", none, false⟩ := by
      decide +kernel
    -- the old map reads the `d` from the mapping at the `d`
    have hone : emptiedMap.tokens.Pairwise fun u v =>
        (⟨u.dstLine, u.dstCol⟩ : LineCol) ≠ ⟨v.dstLine, v.dstCol⟩ := by decide +kernel
    have hd : SourceMap.InForce emptiedMap.tokens ⟨0, 3⟩ ⟨0, 3, 0, 0, some "s1", none, false⟩ := by
      unfold SourceMap.InForce
      decide +kernel
    refine ⟨_, hR, by decide +kernel, by decide +kernel, by decide +kernel, by decide +kernel, ?_,
      ?_⟩
    · rw [SourceMap.resolve, project_tokenAt_of_one_position hall hfirst (Nat.le_refl 1)]
      rfl
    · rw [SourceMap.resolve, SourceMap.tokenAt_of_inForce rfl hone hd]
      rfl
  · -- the mapping at the `b` is placed at the start of `X`; nothing is in force at the `c`
    have hR : splice ['a', 'b', '\n', 'c', 'd'] [lineJoinDecision] = .ok ⟨['a', 'X', 'd'],
        (((({} : OffsetMap.Builder).addSource 1).push ⟨1, 4⟩ 1 .replaced).addSource 1).build,
        [lineJoinDecision.record]⟩ := rfl
    have hall : ∀ p ∈ placedMappings joinedMap ['a', 'b', '\n', 'c', 'd'] ['a', 'X', 'd']
        (((({} : OffsetMap.Builder).addSource 1).push ⟨1, 4⟩ 1 .replaced).addSource 1).build,
        p.dst = ⟨0, 1⟩ := by
      have hall : (placedMappings joinedMap ['a', 'b', '\n', 'c', 'd'] ['a', 'X', 'd']
          (((({} : OffsetMap.Builder).addSource 1).push ⟨1, 4⟩ 1 .replaced).addSource 1).build).all
          (fun p => p.dst == ⟨0, 1⟩) = true := by
        decide +kernel
      intro p hp
      exact beq_iff_eq.mp (List.all_eq_true.mp hall p hp)
    have hfirst : joinedMap.tokens.find? (landsExactly Bisect.bisect
        (LineIndex.ofChars ['a', 'b', '\n', 'c', 'd']) (LineIndex.ofChars ['a', 'X', 'd'])
        (((({} : OffsetMap.Builder).addSource 1).push ⟨1, 4⟩ 1 .replaced).addSource 1).build
        ⟨0, 1⟩) = some ⟨0, 1, 0, 0, some "s0", none, false⟩ := by
      decide +kernel
    refine ⟨_, hR, by decide +kernel, by decide +kernel, by decide +kernel, by decide +kernel, ?_,
      by decide +kernel⟩
    rw [SourceMap.resolve, project_tokenAt_of_one_position hall hfirst (by decide)]
    rfl

end Rebase

end StyleRebase
