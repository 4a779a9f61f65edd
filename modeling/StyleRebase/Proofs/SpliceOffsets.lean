import Mathlib.Data.List.Forall2
import StyleRebase.Proofs.SyntaxSpans
import StyleRebase.Text.Utf8Codec

/-! # The offset map of a splice

Writing decisions into a text builds two things side by side: the new text, and an offset map
that lists the stretches of the edit in order, each copied or replaced, with its range in the
text before the edit and in the text after it. When the decisions' spans are spans of the text,
in order, the map describes the new text exactly:

* its stretches tile the old text and the new one, each from its start to its end;
* a copied stretch reads the same characters in both texts;
* the replaced stretches are the decisions' spans, one for each decision and in their order,
  and each is written as the decision's new value in its quotes;
* so every byte of the old text outside the decisions' spans comes through unchanged.

Without decisions the text is copied whole, and every offset stays where it is.

* **`Tiles`** — spans that cover a range one after another.
* **`OffsetMap.Builder.Describes`** — a builder whose stretches describe the edit of one text
  into another, so far.
* **`Rebase.SplicedExactly`** — a splice result that its offset map describes.
* **`Rebase.splice_agrees_with_offsets`** — every splice of ordered spans of the text is
  described by its offset map, and the splice without decisions is the identity. -/

namespace StyleRebase

/-! ## (1) Tilings -/

/-- **Spans that tile `[lo, hi)`**: the first starts at `lo`, each starts where the one before
it stops, none runs backwards, and the last stops at `hi`. -/
def Tiles : Nat → List Span → Nat → Prop
  | lo, [], hi => lo = hi
  | lo, s :: ss, hi => s.start = lo ∧ s.start ≤ s.stop ∧ Tiles s.stop ss hi

namespace Tiles

/-- **A tiling grows by a span that starts where it stops.** -/
theorem snoc : ∀ {lo mid : Nat} {ss : List Span} {s : Span}, Tiles lo ss mid →
    s.start = mid → s.start ≤ s.stop → Tiles lo (ss ++ [s]) s.stop
  | _, _, [], _, h, hs, hle => ⟨hs.trans h.symm, hle, rfl⟩
  | _, _, _ :: _, _, ⟨h₁, h₂, h⟩, hs, hle => ⟨h₁, h₂, snoc h hs hle⟩

/-- **Every offset of a tiled range lies in one of the spans.** -/
theorem cover : ∀ {lo hi o : Nat} {ss : List Span}, Tiles lo ss hi → lo ≤ o → o < hi →
    ∃ s ∈ ss, s.start ≤ o ∧ o < s.stop
  | _, _, _, [], h, hlo, hhi => by
    simp only [Tiles] at h
    omega
  | _, _, o, s :: ss, ⟨h₁, _, h⟩, hlo, hhi => by
    by_cases ho : o < s.stop
    · exact ⟨s, List.mem_cons_self, by omega, ho⟩
    · obtain ⟨s', hs', h'⟩ := cover h (by omega) hhi
      exact ⟨s', List.mem_cons_of_mem s hs', h'⟩

end Tiles

/-! ## (2) Pieces of a text and their bytes -/

/-- A piece read in a text is read at the same span in any longer text. -/
theorem Located.append {text more piece : List Char} {sp : Span} (h : Located text sp piece) :
    Located (text ++ more) sp piece := by
  obtain ⟨pre, post, rfl, h₁, h₂⟩ := h
  exact ⟨pre, post ++ more, by simp only [List.append_assoc], h₁, h₂⟩

/-- **A span of the text reads a piece of it**: the text before its start is a prefix of the
text before its stop. -/
theorem Css.SpanIn.located {text : List Char} {sp : Span} (h : Css.SpanIn text sp) :
    ∃ piece, Located text sp piece := by
  obtain ⟨⟨pre, post, htext, hpre⟩, ⟨pre', post', htext', hpre'⟩, hle⟩ := h
  have hprefix : pre <+: pre' :=
    prefix_of_utf8Length_le ⟨post, htext.symm⟩ ⟨post', htext'.symm⟩ (by omega)
  obtain ⟨piece, rfl⟩ := hprefix
  exact ⟨piece, pre, post', by rw [htext'], hpre.symm, by rw [← hpre', utf8Length_append]⟩

/-- **The bytes of a located piece are the text's bytes at its span.** -/
theorem Located.getElem?_utf8Encode {text piece : List Char} {sp : Span}
    (h : Located text sp piece) {i : Nat} (hi : i < utf8Length piece) :
    (utf8Encode text)[sp.start + i]? = (utf8Encode piece)[i]? := by
  obtain ⟨pre, post, rfl, hstart, -⟩ := h
  have hlen : (utf8Encode pre).length = sp.start := by rw [utf8Encode_length, hstart]
  have hpiece : i < (utf8Encode piece).length := by rw [utf8Encode_length]; exact hi
  rw [utf8Encode_append, utf8Encode_append, List.append_assoc,
    List.getElem?_append_right (by omega), hlen, Nat.add_sub_cancel_left,
    List.getElem?_append_left hpiece]

/-! ## (3) Recording an edit -/

namespace OffsetMap.Builder

@[simp] theorem push_segments (b : Builder) (input : Span) (len : Nat) (kind : SegmentKind) :
    (b.push input len kind).segments.toList =
      b.segments.toList ++ [⟨input, ⟨b.outputOffset, b.outputOffset + len⟩, kind⟩] := by
  simp [push]

@[simp] theorem push_outputOffset (b : Builder) (input : Span) (len : Nat) (kind : SegmentKind) :
    (b.push input len kind).outputOffset = b.outputOffset + len := rfl

/-- **A builder that describes the edit of `inp` into `out`**, the replaced stretches being
`edits` (each a span of `inp` and the text written for it): the builder stands at the ends of
both texts, its stretches tile both, each copied stretch holds input and reads the same
characters in both, and its replaced stretches are the edits, in order, each written in `out`. -/
structure Describes (b : Builder) (inp out : List Char) (edits : List (Span × List Char)) :
    Prop where
  input_stop : b.inputOffset = utf8Length inp
  output_stop : b.outputOffset = utf8Length out
  input_tiles : Tiles 0 (b.segments.toList.map Segment.input) b.inputOffset
  output_tiles : Tiles 0 (b.segments.toList.map Segment.output) b.outputOffset
  copied : ∀ seg ∈ b.segments.toList, seg.kind = .copied →
    ∃ piece, Located inp seg.input piece ∧ Located out seg.output piece
  copied_nonempty : ∀ seg ∈ b.segments.toList, seg.kind = .copied →
    seg.input.start < seg.input.stop
  replaced : List.Forall₂ (fun seg e => seg.input = e.1 ∧ Located out seg.output e.2)
    (b.segments.toList.filter (·.kind == .replaced)) edits

namespace Describes

variable {b : Builder} {inp out : List Char} {edits : List (Span × List Char)}

/-- The empty builder describes the empty edit. -/
theorem empty : Describes {} [] [] [] :=
  ⟨rfl, rfl, rfl, rfl, by simp, by simp, by simp⟩

/-- **Copying a gap** extends both texts by it. -/
theorem copy (h : Describes b inp out edits) (gap : List Char) :
    Describes (b.addSource (utf8Length gap)) (inp ++ gap) (out ++ gap) edits := by
  by_cases hgap : utf8Length gap = 0
  · -- nothing is recorded for an empty gap
    have hnil : gap = [] := eq_nil_of_utf8Length_eq_zero hgap
    subst hnil
    simp only [List.append_nil, addSource, hgap, beq_self_eq_true, if_true]
    exact h
  · have hb : b.addSource (utf8Length gap) =
        b.push ⟨b.inputOffset, b.inputOffset + utf8Length gap⟩ (utf8Length gap) .copied := by
      simp [addSource, hgap]
    rw [hb]
    refine ⟨by simp [h.input_stop], by simp [h.output_stop], ?_, ?_, ?_, ?_, ?_⟩
    · simp only [push_segments, List.map_append, List.map_cons, List.map_nil, push_inputOffset]
      exact h.input_tiles.snoc rfl (Nat.le_add_right _ _)
    · simp only [push_segments, List.map_append, List.map_cons, List.map_nil, push_outputOffset]
      exact h.output_tiles.snoc rfl (Nat.le_add_right _ _)
    · intro seg hseg hk
      rw [push_segments, List.mem_append, List.mem_singleton] at hseg
      rcases hseg with hseg | rfl
      · obtain ⟨piece, hin, hout⟩ := h.copied seg hseg hk
        exact ⟨piece, hin.append, hout.append⟩
      · -- the new stretch reads the gap in both texts
        refine ⟨gap, ⟨inp, [], by simp, h.input_stop, by rw [h.input_stop]⟩,
          ⟨out, [], by simp, h.output_stop, by rw [h.output_stop]⟩⟩
    · intro seg hseg hk
      rw [push_segments, List.mem_append, List.mem_singleton] at hseg
      rcases hseg with hseg | rfl
      · exact h.copied_nonempty seg hseg hk
      · -- the gap is not empty
        dsimp only
        omega
    · rw [push_segments, List.filter_append]
      simp only [List.filter_cons, List.filter_nil, beq_iff_eq, reduceCtorEq, if_false,
        List.append_nil]
      exact h.replaced.imp fun _ _ he => ⟨he.1, he.2.append⟩

/-- **Replacing the stretch `old` by `new`** extends the texts by them and the edits by one. -/
theorem replace (h : Describes b inp out edits) (old new : List Char) :
    Describes (b.push ⟨utf8Length inp, utf8Length inp + utf8Length old⟩ (utf8Length new) .replaced)
      (inp ++ old) (out ++ new)
      (edits ++ [(⟨utf8Length inp, utf8Length inp + utf8Length old⟩, new)]) := by
  refine ⟨by simp, by simp [h.output_stop], ?_, ?_, ?_, ?_, ?_⟩
  · simp only [push_segments, List.map_append, List.map_cons, List.map_nil, push_inputOffset]
    exact h.input_tiles.snoc h.input_stop.symm (Nat.le_add_right _ _)
  · simp only [push_segments, List.map_append, List.map_cons, List.map_nil, push_outputOffset]
    exact h.output_tiles.snoc rfl (Nat.le_add_right _ _)
  · intro seg hseg hk
    rw [push_segments, List.mem_append, List.mem_singleton] at hseg
    rcases hseg with hseg | rfl
    · obtain ⟨piece, hin, hout⟩ := h.copied seg hseg hk
      exact ⟨piece, hin.append, hout.append⟩
    · cases hk
  · intro seg hseg hk
    rw [push_segments, List.mem_append, List.mem_singleton] at hseg
    rcases hseg with hseg | rfl
    · exact h.copied_nonempty seg hseg hk
    · cases hk
  · rw [push_segments, List.filter_append]
    simp only [List.filter_cons, List.filter_nil, beq_self_eq_true, if_true]
    refine List.rel_append (h.replaced.imp fun _ _ he => ⟨he.1, he.2.append⟩) ?_
    -- the new stretch reads `new` in the output
    exact .cons ⟨rfl, ⟨out, [], by simp, h.output_stop, by rw [h.output_stop]⟩⟩ .nil

end Describes

end OffsetMap.Builder

/-! ## (4) The splice records its edit -/

namespace Rebase

/-- **Decisions applied one after another record their edits**: when their edits replace spans
of the text after the cursor, the fold succeeds, and its offset map describes the edit of the
text read so far into the chunks written so far, with the new edits after the old ones. -/
theorem foldlM_apply_describes {text : List Char} {pos : Nat} {rest : List Char}
    {edits : List (Span × List Char)} {out : List Char} (h : Replaced pos rest edits out) :
    ∀ (ds : List Decision) (consumed : List Char) (st : SpliceState)
      (done : List (Span × List Char)),
      ds.map Decision.edit = edits → text = consumed ++ rest → utf8Length consumed = pos →
      st.cursor = pos → st.offsets.Describes consumed st.chunks.reverse.flatten done →
      ∃ st' consumed' rest', ds.foldlM (SpliceState.apply text) st = .ok st' ∧
        text = consumed' ++ rest' ∧ utf8Length consumed' = st'.cursor ∧
        st'.chunks.reverse.flatten ++ rest' = st.chunks.reverse.flatten ++ out ∧
        st'.offsets.Describes consumed' st'.chunks.reverse.flatten (done ++ edits) := by
  induction h with
  | done pos rest =>
    intro ds consumed st done hds htext hlen hcur hdesc
    rw [List.map_eq_nil_iff] at hds
    subst hds
    exact ⟨st, consumed, rest, rfl, htext, by omega, rfl, by rw [List.append_nil]; exact hdesc⟩
  | edit pos gap old rest new edits out _ ih =>
    intro ds consumed st done hds htext hlen hcur hdesc
    obtain ⟨d, ds', rfl, hd, rfl⟩ := List.map_eq_cons_iff.mp hds
    simp only [Decision.edit, Prod.mk.injEq] at hd
    obtain ⟨hspan, hnew⟩ := hd
    have hspan' : d.occurrence.span = ⟨utf8Length consumed + utf8Length gap,
        utf8Length consumed + utf8Length gap + utf8Length old⟩ := by
      rw [hspan, hlen]
    have htext1 : text = consumed ++ gap ++ old ++ rest := by
      rw [htext]
      simp only [List.append_assoc]
    have hcur1 : st.cursor = utf8Length consumed := by omega
    have hin1 : st.offsets.inputOffset = st.cursor := by rw [hdesc.input_stop, hcur, hlen]
    have happly := SpliceState.apply_eq htext1 hcur1 hin1 hspan'
    -- the state after the decision: the gap copied, then the replacement written
    have hdesc' := (hdesc.copy gap).replace old d.replacement
    rw [utf8Length_append, ← hspan'] at hdesc'
    have hwritten : (d.replacement :: gap :: st.chunks).reverse.flatten =
        st.chunks.reverse.flatten ++ gap ++ d.replacement := by
      simp
    obtain ⟨st', consumed', rest', hfold, htext', hlen', hchunks, hdesc''⟩ :=
      ih ds' (consumed ++ gap ++ old)
        { chunks := d.replacement :: gap :: st.chunks
          offsets := (st.offsets.addSource (utf8Length gap)).push d.occurrence.span
            (utf8Length d.replacement) .replaced
          cursor := d.occurrence.span.stop }
        (done ++ [(d.occurrence.span, d.replacement)]) rfl
        (by rw [htext]; simp only [List.append_assoc])
        (by simp only [utf8Length_append]; omega) (by rw [hspan]) (by rw [hwritten]; exact hdesc')
    refine ⟨st', consumed', rest', ?_, htext', hlen', ?_, ?_⟩
    · rw [List.foldlM_cons, happly]
      exact hfold
    · rw [hchunks, hwritten, ← hnew]
      simp only [List.append_assoc]
    · rw [List.append_assoc, List.singleton_append, hspan] at hdesc''
      rw [← hnew]
      exact hdesc''

/-- **The splice records its edit**: when the decisions' edits replace spans of the text in order,
the splice succeeds, its text is the replaced text, its records are the decisions' records, and
its offset map is built by a builder that describes the edit of the text into the new one. -/
theorem splice_describes {text : List Char} {ds : List Decision} {out : List Char}
    (h : Replaced 0 text (ds.map Decision.edit) out) :
    ∃ r, splice text ds = .ok r ∧ r.css = out ∧ r.records = ds.map Decision.record ∧
      ∃ b : OffsetMap.Builder, r.offsets = b.build ∧ b.Describes text out (ds.map Decision.edit) := by
  obtain ⟨st', consumed', rest', hfold, htext', hlen', hchunks, hdesc⟩ :=
    foldlM_apply_describes h ds [] {} [] rfl rfl rfl rfl OffsetMap.Builder.Describes.empty
  simp only [List.nil_append] at hfold htext' hchunks hdesc
  have hsplit : splitAtByte text st'.cursor = some (consumed', rest') := by
    rw [htext', ← hlen']
    exact splitAtByte_append consumed' rest'
  have hout : (rest' :: st'.chunks).reverse.flatten = out := by simpa using hchunks
  refine ⟨{ css := (rest' :: st'.chunks).reverse.flatten
            offsets := (st'.offsets.addSource (utf8Length rest')).build
            records := ds.map Decision.record }, ?_, hout, rfl, _, rfl, ?_⟩
  · simp only [splice, hfold, hsplit, Option.elim, bind, Except.bind, pure, Except.pure]
  · -- the text after the last decision is copied
    have hlast := hdesc.copy rest'
    rw [← htext', List.reverse_cons, List.flatten_append, List.flatten_singleton] at *
    rw [← hout]
    simpa using hlast

/-! ## (5) The offset map describes the splice -/

/-- **A splice result that its offset map describes exactly**, for a text and the decisions
written into it: the map's stretches tile the text and the result, from start to end; a copied
stretch reads the same characters in both; the replaced stretches are the decisions' spans, one
for each and in order, each written as the decision's new value in its quotes; every byte of
the text outside the decisions' spans lies in a copied stretch and is the byte at the same
distance into that stretch's output; and the records are the decisions', in order. -/
structure SplicedExactly (text : List Char) (ds : List Decision) (r : Spliced) : Prop where
  input_len : r.offsets.inputLen = utf8Length text
  output_len : r.offsets.outputLen = utf8Length r.css
  input_tiles : Tiles 0 (r.offsets.segments.toList.map Segment.input) (utf8Length text)
  output_tiles : Tiles 0 (r.offsets.segments.toList.map Segment.output) (utf8Length r.css)
  copied : ∀ seg ∈ r.offsets.segments.toList, seg.kind = .copied →
    ∃ piece, Located text seg.input piece ∧ Located r.css seg.output piece
  replaced : List.Forall₂
    (fun seg d => seg.input = d.occurrence.span ∧ Located r.css seg.output d.replacement)
    r.offsets.replacements ds
  outside : ∀ o < utf8Length text, (∀ d ∈ ds, d.occurrence.span.contains o = false) →
    ∃ seg ∈ r.offsets.segments.toList, seg.kind = .copied ∧ seg.input.contains o ∧
      (utf8Encode text)[o]? = (utf8Encode r.css)[seg.output.start + (o - seg.input.start)]?
  records : r.records = ds.map Decision.record

/-- A member of the first list of a relation between lists is related to a member of the other. -/
theorem exists_of_forall₂ {α β : Type} {R : α → β → Prop} {xs : List α} {ys : List β}
    (h : List.Forall₂ R xs ys) {x : α} (hx : x ∈ xs) : ∃ y ∈ ys, R x y := by
  induction h with
  | nil => cases hx
  | cons hr _ ih =>
    rcases List.mem_cons.mp hx with rfl | hx
    · exact ⟨_, List.mem_cons_self, hr⟩
    · obtain ⟨y, hy, hxy⟩ := ih hx
      exact ⟨y, List.mem_cons_of_mem _ hy, hxy⟩

/-- **A byte outside every replaced stretch comes through a copied one**: the stretches tile
the text, and those replaced are the decisions' spans. -/
theorem outside_of_describes {text out : List Char} {ds : List Decision}
    {b : OffsetMap.Builder} (h : b.Describes text out (ds.map Decision.edit)) {o : Nat}
    (ho : o < utf8Length text) (hfree : ∀ d ∈ ds, d.occurrence.span.contains o = false) :
    ∃ seg ∈ b.segments.toList, seg.kind = .copied ∧ seg.input.contains o ∧
      (utf8Encode text)[o]? = (utf8Encode out)[seg.output.start + (o - seg.input.start)]? := by
  have htiles := h.input_tiles
  rw [h.input_stop] at htiles
  obtain ⟨sp, hsp, hin⟩ := htiles.cover (Nat.zero_le o) ho
  obtain ⟨seg, hseg, rfl⟩ := List.mem_map.mp hsp
  have hcontains : seg.input.contains o = true := (Span.contains_iff _ _).mpr hin
  -- the stretch holding `o` is no decision's span, so it was copied
  have hk : seg.kind = .copied := by
    cases hkind : seg.kind with
    | copied => rfl
    | replaced =>
      have hmem : seg ∈ b.segments.toList.filter (·.kind == .replaced) :=
        List.mem_filter.mpr ⟨hseg, by simp [hkind]⟩
      obtain ⟨e, he, hse, -⟩ := exists_of_forall₂ h.replaced hmem
      obtain ⟨d, hd, rfl⟩ := List.mem_map.mp he
      have := hfree d hd
      have hse' : seg.input = d.occurrence.span := hse
      rw [← hse', hcontains] at this
      cases this
  obtain ⟨piece, hpin, hpout⟩ := h.copied seg hseg hk
  have hlen : o - seg.input.start < utf8Length piece := by
    obtain ⟨pre, post, -, h₁, h₂⟩ := hpin
    omega
  refine ⟨seg, hseg, hk, hcontains, ?_⟩
  rw [hpout.getElem?_utf8Encode hlen, ← hpin.getElem?_utf8Encode hlen, Nat.add_sub_cancel' hin.1]

/-- **A result whose map a describing builder built is described by it.** -/
theorem SplicedExactly.of_describes {text : List Char} {ds : List Decision} {r : Spliced}
    {b : OffsetMap.Builder} (hb : r.offsets = b.build) (hrec : r.records = ds.map Decision.record)
    (h : b.Describes text r.css (ds.map Decision.edit)) : SplicedExactly text ds r := by
  obtain ⟨css, offsets, records⟩ := r
  dsimp only at hb hrec h ⊢
  subst hb
  refine ⟨h.input_stop, h.output_stop, ?_, ?_, h.copied, ?_,
    fun o ho hfree => outside_of_describes h ho hfree, hrec⟩
  · rw [← h.input_stop]
    exact h.input_tiles
  · rw [← h.output_stop]
    exact h.output_tiles
  · exact List.forall₂_map_right_iff.mp h.replaced

/-- **The map of a splice of the whole text, copied**: one copied stretch, or none for the
empty text; every offset up to the end stays where it is. -/
theorem outputOffset?_copy {n o : Nat} (ho : o ≤ n) :
    (({} : OffsetMap.Builder).addSource n).build.outputOffset? o = some o := by
  by_cases hn : n = 0
  · subst hn
    obtain rfl : o = 0 := by omega
    simp [OffsetMap.outputOffset?, OffsetMap.outputOffsetBy?, OffsetMap.Builder.build,
      OffsetMap.Builder.addSource]
  have hb : ({} : OffsetMap.Builder).addSource n =
      ⟨#[⟨⟨0, n⟩, ⟨0, n⟩, .copied⟩], n, n⟩ := by
    simp [OffsetMap.Builder.addSource, OffsetMap.Builder.push, hn]
  rw [hb]
  by_cases hon : o = n
  · simp [OffsetMap.outputOffset?, OffsetMap.outputOffsetBy?, OffsetMap.Builder.build, hon]
  -- one stretch: the bisection lands on it, and it holds `o`
  have hbis : Bisect.bisect (fun s : Segment => compare s.input.start o)
      #[⟨⟨0, n⟩, ⟨0, n⟩, .copied⟩] = if o = 0 then .found 0 else .insertAt 1 := by
    rw [Bisect.bisect, Bisect.narrow]
    by_cases ho0 : o = 0
    · simp [ho0, Bisect.compareAt]
    · have hlt : compare 0 o = .lt := Nat.compare_eq_lt.mpr (by omega)
      simp [ho0, Bisect.compareAt, hlt]
  have hlast : (Bisect.bisect (fun s : Segment => compare s.input.start o)
      #[⟨⟨0, n⟩, ⟨0, n⟩, .copied⟩]).lastNotAbove? = some 0 := by
    rw [hbis]
    split <;> rfl
  have hcontains : (Span.mk 0 n).contains o = true :=
    (Span.contains_iff _ _).mpr ⟨Nat.zero_le o, show o < n by omega⟩
  simp [OffsetMap.outputOffset?, OffsetMap.outputOffsetBy?, OffsetMap.segmentAtBy?,
    OffsetMap.Builder.build, hon, hlast, hcontains]

/-- **Splicing no decisions copies the text.** -/
theorem splice_nil (text : List Char) :
    splice text [] = .ok { css := text
                           offsets := (({} : OffsetMap.Builder).addSource (utf8Length text)).build
                           records := [] } := by
  have hsplit : splitAtByte text 0 = some ([], text) := by
    cases text <;> rfl
  simp [splice, hsplit, bind, Except.bind, pure, Except.pure]

/-- **Rewrite and offset map agree.** For every text and every list of decisions whose spans
are spans of the text (both ends between characters) in order, each ending before the next
starts, the splice succeeds and its offset map describes it exactly; and the splice without
decisions gives the text back, with every offset up to its end carried to itself. -/
theorem splice_agrees_with_offsets (text : List Char) :
    (∀ ds : List Decision, (∀ d ∈ ds, Css.SpanIn text d.occurrence.span) →
      ds.Pairwise (fun a b => a.occurrence.span.stop ≤ b.occurrence.span.start) →
      ∃ r, splice text ds = .ok r ∧ SplicedExactly text ds r) ∧
    ∃ r, splice text [] = .ok r ∧ r.css = text ∧
      ∀ o ≤ utf8Length text, r.offsets.outputOffset? o = some o := by
  refine ⟨fun ds hin hord => ?_, ⟨_, splice_nil text, rfl, fun o ho => outputOffset?_copy ho⟩⟩
  obtain ⟨out, hout⟩ := replaced_of_located (ds.map Decision.edit) [] text rfl
    (fun e he => by
      obtain ⟨d, hd, rfl⟩ := List.mem_map.mp he
      exact ⟨Nat.zero_le _, (hin d hd).located⟩)
    (by rw [List.pairwise_map]; exact hord)
  obtain ⟨r, hr, hcss, hrec, b, hb, hdesc⟩ := splice_describes hout
  subst hcss
  exact ⟨r, hr, .of_describes hb hrec hdesc⟩

/-- Writing `x` over the middle letter of `abc`. -/
theorem splice_agrees_with_offsets_middle_letter :
    (∀ d ∈ [(⟨⟨['b'], .none, ⟨1, 2⟩, ⟨0, 1⟩⟩, [], ['x'], ['x']⟩ : Decision)],
      Css.SpanIn ['a', 'b', 'c'] d.occurrence.span) ∧
    [(⟨⟨['b'], .none, ⟨1, 2⟩, ⟨0, 1⟩⟩, [], ['x'], ['x']⟩ : Decision)].Pairwise
      (fun a b => a.occurrence.span.stop ≤ b.occurrence.span.start) ∧
    ∃ r, splice ['a', 'b', 'c'] [⟨⟨['b'], .none, ⟨1, 2⟩, ⟨0, 1⟩⟩, [], ['x'], ['x']⟩] = .ok r ∧
      SplicedExactly ['a', 'b', 'c'] [⟨⟨['b'], .none, ⟨1, 2⟩, ⟨0, 1⟩⟩, [], ['x'], ['x']⟩] r := by
  have hin : ∀ d ∈ [(⟨⟨['b'], .none, ⟨1, 2⟩, ⟨0, 1⟩⟩, [], ['x'], ['x']⟩ : Decision)],
      Css.SpanIn ['a', 'b', 'c'] d.occurrence.span := by
    intro d hd
    rw [List.mem_singleton.mp hd]
    exact ⟨⟨['a'], ['b', 'c'], rfl, rfl⟩, ⟨['a', 'b'], ['c'], rfl, rfl⟩, by decide⟩
  have hord : [(⟨⟨['b'], .none, ⟨1, 2⟩, ⟨0, 1⟩⟩, [], ['x'], ['x']⟩ : Decision)].Pairwise
      (fun a b => a.occurrence.span.stop ≤ b.occurrence.span.start) := List.pairwise_singleton _ _
  exact ⟨hin, hord, (splice_agrees_with_offsets ['a', 'b', 'c']).1 _ hin hord⟩

end Rebase

end StyleRebase
