import Mathlib.Data.Set.Finite.Lemmas
import StyleRebase.Proofs.ProjectedMappings

/-! # What a splice copies

A splice copies the text between the decisions' spans and writes each replacement in place of its
span, and its offset map records where each stretch went. Outside replaced stretches translation
is strictly increasing when every replacement is some text; a stretch that no replacement touches
is copied whole; a line feed outside every span is copied. So a cut of the old text kept in place
reaches its line in the new text the way it did in the old.

* **`OffsetMap.WellFormed.output_lt`** — translation is strictly increasing on offsets outside
  replaced stretches, when every replacement is some text.
* **`Rebase.SplicedExactly.copies`** — a stretch that no replacement touches is copied whole.
* **`Rebase.SplicedExactly.origin_on_line`** — what lands on a kept cut's line before it came from
  that line before the cut.
* **`Rebase.KeptCut.copied_from`** — with no replacement ending in between, the new text runs to a
  kept cut as the old one did. -/

namespace StyleRebase

/-! ## (1) Offsets inside replaced stretches -/

namespace OffsetMap

/-- **An offset strictly inside a replaced stretch**, past its start. -/
def Inside (m : OffsetMap) (o : Nat) : Prop :=
  ∃ seg ∈ m.segments.toList, seg.kind = .replaced ∧ seg.input.start < o ∧ o < seg.input.stop

/-- **The replacements of a map** are its replaced stretches. -/
theorem mem_replacements {m : OffsetMap} {seg : Segment} :
    seg ∈ m.replacements ↔ seg ∈ m.segments.toList ∧ seg.kind = .replaced := by
  simp [replacements]

/-- An offset before the end of the input is carried by a stretch holding it. -/
theorem holding {m : OffsetMap} {o y : Nat} (h : m.outputOffset? o = some y)
    (ho : o < m.inputLen) :
    ∃ seg ∈ m.segments.toList, seg.input.contains o = true ∧ y = seg.carry o := by
  rcases outputOffset?_eq_some h with ⟨rfl, -⟩ | hseg
  · exact absurd ho (Nat.lt_irrefl _)
  · exact hseg

/-- **The replacement written last among those ending after `lo` and at or before `hi`.** -/
def LastIn (m : OffsetMap) (lo hi : Nat) (seg : Segment) : Prop :=
  seg ∈ m.segments.toList ∧ seg.kind = .replaced ∧ lo < seg.input.stop ∧ seg.input.stop ≤ hi ∧
    ∀ e ∈ m.segments.toList, e.kind = .replaced → lo < e.input.stop → e.input.stop ≤ hi →
      e.output.stop ≤ seg.output.stop

/-- Where a replacement ends in a window, one is written last. -/
theorem exists_lastIn (m : OffsetMap) {lo hi : Nat}
    (h : ∃ seg ∈ m.segments.toList, seg.kind = .replaced ∧ lo < seg.input.stop ∧
      seg.input.stop ≤ hi) : ∃ seg, m.LastIn lo hi seg := by
  obtain ⟨s₀, hs₀, h₀⟩ := h
  obtain ⟨seg, ⟨hseg, hk, hlo, hhi⟩, hmax⟩ := Set.exists_max_image
    {seg | seg ∈ m.segments.toList ∧ seg.kind = .replaced ∧ lo < seg.input.stop ∧
      seg.input.stop ≤ hi}
    (fun seg => seg.output.stop) ((List.finite_toSet _).subset fun s hs => hs.1) ⟨s₀, hs₀, h₀⟩
  exact ⟨seg, hseg, hk, hlo, hhi, fun e he hek hel heh => hmax e ⟨he, hek, hel, heh⟩⟩

/-- **The stretch holding the start of a free range is copied**: a range of some length that
starts and ends outside replaced stretches, where every replaced stretch ending after its start
ends after its end, starts in no replaced stretch. -/
theorem copied_of_free {m : OffsetMap} {seg : Segment} (hseg : seg ∈ m.segments.toList)
    {x w : Nat} (hcont : seg.input.start ≤ x ∧ x < seg.input.stop) (hw : 0 < w)
    (hx : ¬m.Inside x) (hxw : ¬m.Inside (x + w))
    (hfree : ∀ e ∈ m.segments.toList, e.kind = .replaced → x < e.input.stop →
      x + w < e.input.stop) :
    seg.kind = .copied := by
  cases hk : seg.kind with
  | copied => rfl
  | replaced =>
    -- a replaced stretch holding `x` starts there, or `x` would be inside it; so it holds the
    -- range's end
    have hstart : seg.input.start = x := by
      by_contra hne
      exact hx ⟨seg, hseg, hk, by omega, hcont.2⟩
    exact absurd ⟨seg, hseg, hk, by omega, hfree seg hseg hk hcont.2⟩ hxw

namespace WellFormed

variable {m : OffsetMap} (hm : m.WellFormed)
include hm

/-- **An offset before a stretch's end lands no later than the end of its output.** -/
theorem le_output_stop {seg : Segment} (hseg : seg ∈ m.segments.toList) {o y : Nat}
    (ho : o < seg.input.stop) (h : m.outputOffset? o = some y) : y ≤ seg.output.stop := by
  have hb := hm.bounds hseg
  obtain ⟨e, he, hcont, rfl⟩ := holding h (by omega)
  have hc := hm.carry_le he hcont
  rw [Span.contains_iff] at hcont
  rcases pairwise_eq_or_rel hm.pairwise he hseg with rfl | hord | hord
  · exact hc.2
  · omega
  · omega

/-- **An offset at or past a stretch's end lands at or past the end of its output.** -/
theorem output_stop_le {seg : Segment} (hseg : seg ∈ m.segments.toList) {o y : Nat}
    (ho : seg.input.stop ≤ o) (h : m.outputOffset? o = some y) : seg.output.stop ≤ y := by
  have hb := hm.bounds hseg
  rcases outputOffset?_eq_some h with ⟨-, rfl⟩ | ⟨e, he, hcont, rfl⟩
  · exact hb.2.2.2
  have hc := hm.carry_le he hcont
  have hbe := hm.bounds he
  rw [Span.contains_iff] at hcont
  rcases pairwise_eq_or_rel hm.pairwise he hseg with rfl | hord | hord
  · omega
  · omega
  · omega

/-- **An offset before a stretch, or at the start of a stretch that is not empty, lands no later
than the start of its output.** -/
theorem le_output_start {seg : Segment} (hseg : seg ∈ m.segments.toList) {o y : Nat}
    (ho : o < seg.input.start ∨ (o = seg.input.start ∧ seg.input.start < seg.input.stop))
    (h : m.outputOffset? o = some y) : y ≤ seg.output.start := by
  have hb := hm.bounds hseg
  obtain ⟨e, he, hcont, rfl⟩ := holding h (by omega)
  have hc := hm.carry_le he hcont
  have hbe := hm.bounds he
  rw [Span.contains_iff] at hcont
  rcases pairwise_eq_or_rel hm.pairwise he hseg with rfl | hord | hord
  · -- the stretch itself holds its start, and carries it to the start of its output
    have hstart : o = e.input.start := by omega
    subst hstart
    unfold Segment.carry
    split <;> omega
  · omega
  · omega

/-- **An offset inside a replaced stretch lands at the start of its replacement.** -/
theorem inside_output {seg : Segment} (hseg : seg ∈ m.segments.toList)
    (hkind : seg.kind = .replaced) {o : Nat} (ho : seg.input.start ≤ o ∧ o < seg.input.stop) :
    m.outputOffset? o = some seg.output.start := by
  rw [hm.outputOffset?_of_contains hseg ((Span.contains_iff _ _).mpr ho), Segment.carry, hkind]

/-- **Translation is strictly increasing on offsets outside replaced stretches**, when every
replacement is written as some text: a copied stretch keeps distances, and a replaced one that
starts at the first offset is left before the second reaches its end. -/
theorem output_lt (hout : ∀ seg ∈ m.segments.toList, seg.kind = .replaced →
      seg.output.start < seg.output.stop)
    {o o' y y' : Nat} (hlt : o < o') (hin : ¬m.Inside o) (hin' : ¬m.Inside o')
    (h : m.outputOffset? o = some y) (h' : m.outputOffset? o' = some y') : y < y' := by
  have hlen : o' ≤ m.inputLen := by
    by_contra hgt
    rw [outputOffset?_eq, if_neg (by omega), hm.segmentAt?_of_le (by omega)] at h'
    cases h'
  obtain ⟨e, he, hcont, rfl⟩ := holding h (by omega)
  have hbe := hm.bounds he
  rw [Span.contains_iff] at hcont
  cases hkind : e.kind with
  | copied =>
    have hlen_eq := hm.copied_length e he hkind
    simp only [Span.length] at hlen_eq
    by_cases hstop : o' < e.input.stop
    · -- both offsets lie in the copied stretch
      rw [hm.outputOffset?_of_contains he ((Span.contains_iff _ _).mpr ⟨by omega, hstop⟩)] at h'
      cases h'
      simp only [Segment.carry, hkind]
      omega
    · have := hm.output_stop_le he (by omega) h'
      simp only [Segment.carry, hkind]
      omega
  | replaced =>
    -- the first offset starts the replaced stretch, and the second lies past its end
    have hstart : o = e.input.start := by
      by_contra hne
      exact hin ⟨e, he, hkind, by omega, hcont.2⟩
    have hpast : e.input.stop ≤ o' := by
      by_contra hlt'
      exact hin' ⟨e, he, hkind, by omega, by omega⟩
    have := hm.output_stop_le he hpast h'
    have := hout e he hkind
    simp only [Segment.carry, hkind]
    omega

/-- **An offset at or past a stretch's start lands at or past the start of its output.** -/
theorem output_start_le {seg : Segment} (hseg : seg ∈ m.segments.toList) {o y : Nat}
    (ho : seg.input.start ≤ o) (h : m.outputOffset? o = some y) : seg.output.start ≤ y := by
  by_cases hstop : seg.input.stop ≤ o
  · have := hm.output_stop_le hseg hstop h
    have := (hm.bounds hseg).2.2.1
    omega
  · rw [hm.outputOffset?_of_contains hseg ((Span.contains_iff _ _).mpr ⟨ho, by omega⟩)] at h
    cases h
    exact (hm.carry_le hseg ((Span.contains_iff _ _).mpr ⟨ho, by omega⟩)).1

/-- No stretch's end lies strictly inside a replaced stretch. -/
theorem not_inside_stop {seg : Segment} (hseg : seg ∈ m.segments.toList) :
    ¬m.Inside seg.input.stop := by
  rintro ⟨e, he, -, h₁, h₂⟩
  have hb := hm.bounds hseg
  rcases pairwise_eq_or_rel hm.pairwise he hseg with rfl | hord | hord
  · omega
  · omega
  · have := (hm.bounds he).1
    omega

/-- **The end of a stretch lands at the end of its output**, unless an emptied stretch is
replaced right there: the output between them would be a stretch of no input, which only a
replacement has. -/
theorem output_at_stop {seg : Segment} (hseg : seg ∈ m.segments.toList)
    (hnone : ∀ e ∈ m.segments.toList, e.kind = .replaced → e.input.start = seg.input.stop →
      e.input.stop = seg.input.stop → e.output.start = seg.output.stop → False) :
    m.outputOffset? seg.input.stop = some seg.output.stop := by
  have hb := hm.bounds hseg
  -- a stretch after `seg` whose output holds the end of `seg`'s output is empty in the input
  -- and holds some output, so it is an emptied replacement at `seg`'s end
  have hgap : ∀ e ∈ m.segments.toList, seg.input.stop ≤ e.input.start →
      e.input.stop ≤ seg.input.stop → e.output.start ≤ seg.output.stop →
      seg.output.stop < e.output.stop → False := by
    intro e he hs hst hos hot
    have hbe := hm.bounds he
    have hafter : seg.output.stop ≤ e.output.start := by
      rcases pairwise_eq_or_rel hm.pairwise he hseg with rfl | hord | hord
      · omega
      · omega
      · exact hord.2
    cases hk : e.kind with
    | copied =>
      have := hm.copied_length e he hk
      simp only [Span.length] at this
      omega
    | replaced => exact hnone e he hk (by omega) (by omega) (by omega)
  rw [outputOffset?_eq]
  split
  · -- at the end of the input, no output follows `seg`'s
    rename_i hend
    congr 1
    by_contra hne
    have hlt : seg.output.stop < m.outputLen := by omega
    obtain ⟨sp, hsp, hcov⟩ := hm.output_tiles.cover (Nat.zero_le _) hlt
    obtain ⟨e, he, rfl⟩ := List.mem_map.mp hsp
    have hbe := hm.bounds he
    rcases pairwise_eq_or_rel hm.pairwise he hseg with rfl | hord | hord
    · omega
    · omega
    · exact hgap e he hord.1 (by omega) hcov.1 hcov.2
  · rename_i hne
    obtain ⟨f, hf, hcont⟩ := hm.exists_contains (o := seg.input.stop) (by omega)
    rw [hm.segmentAt?_of_contains hf hcont]
    rw [Span.contains_iff] at hcont
    have hbf := hm.bounds hf
    -- the stretch holding `seg`'s end starts there
    have hford : seg.input.stop ≤ f.input.start ∧ seg.output.stop ≤ f.output.start := by
      rcases pairwise_eq_or_rel hm.pairwise hf hseg with rfl | hord | hord
      · omega
      · omega
      · exact hord
    have hfstart : f.input.start = seg.input.stop := by omega
    simp only [Option.map_some, Option.some.injEq]
    have hcarry : f.carry seg.input.stop = f.output.start := by
      unfold Segment.carry
      split <;> omega
    rw [hcarry]
    by_contra hne'
    have hlt : seg.output.stop < f.output.start := by omega
    obtain ⟨sp, hsp, hcov⟩ := hm.output_tiles.cover (Nat.zero_le _)
      (show seg.output.stop < m.outputLen by omega)
    obtain ⟨e, he, rfl⟩ := List.mem_map.mp hsp
    have hbe := hm.bounds he
    have hes : seg.input.stop ≤ e.input.start := by
      rcases pairwise_eq_or_rel hm.pairwise he hseg with rfl | hord | hord
      · omega
      · omega
      · exact hord.1
    have hef : e.input.stop ≤ f.input.start := by
      rcases pairwise_eq_or_rel hm.pairwise he hf with rfl | hord | hord
      · omega
      · exact hord.1
      · omega
    exact hgap e he hes (by omega) hcov.1 hcov.2

/-- **A copied stretch moves its offsets by a fixed amount**, its end included unless an emptied
stretch is replaced right there. -/
theorem outputOffset?_copied {seg : Segment} (hseg : seg ∈ m.segments.toList)
    (hk : seg.kind = .copied) {o : Nat} (hlo : seg.input.start ≤ o) (hhi : o ≤ seg.input.stop)
    (hnone : o = seg.input.stop → ∀ e ∈ m.segments.toList, e.kind = .replaced →
      e.input.start = seg.input.stop → e.input.stop = seg.input.stop →
      e.output.start = seg.output.stop → False) :
    m.outputOffset? o = some (seg.output.start + (o - seg.input.start)) := by
  rcases Nat.lt_or_eq_of_le hhi with hlt | rfl
  · rw [hm.outputOffset?_of_contains hseg ((Span.contains_iff _ _).mpr ⟨hlo, hlt⟩),
      Segment.carry, hk]
  · rw [hm.output_at_stop hseg (hnone rfl)]
    have := hm.copied_length seg hseg hk
    simp only [Span.length] at this
    have := (hm.bounds hseg).2.2.1
    congr 1
    omega

/-- **An offset before the end of a replaced stretch lands before the end of its replacement**,
when the replacement is some text. -/
theorem lt_output_stop {seg : Segment} (hseg : seg ∈ m.segments.toList)
    (hk : seg.kind = .replaced) (hne : seg.output.start < seg.output.stop) {o y : Nat}
    (ho : o < seg.input.stop) (h : m.outputOffset? o = some y) : y < seg.output.stop := by
  by_cases hs : seg.input.start < o
  · rw [hm.inside_output hseg hk ⟨Nat.le_of_lt hs, ho⟩, Option.some.injEq] at h
    omega
  · have := hm.le_output_start hseg (by omega) h
    omega

/-- **Two replacements of some text ending at one place of the output are one.** -/
theorem eq_of_output_stop_eq (hout : ∀ seg ∈ m.segments.toList, seg.kind = .replaced →
      seg.output.start < seg.output.stop)
    {a b : Segment} (ha : a ∈ m.segments.toList) (hak : a.kind = .replaced)
    (hb : b ∈ m.segments.toList) (hbk : b.kind = .replaced)
    (h : a.output.stop = b.output.stop) : a = b := by
  have := hout a ha hak
  have := hout b hb hbk
  rcases pairwise_eq_or_rel hm.pairwise ha hb with rfl | hord | hord
  · rfl
  · omega
  · omega

/-- **The last replacement in a window ends, in the output, after every replacement ending at or
before the window's end**: one ending at or before the window's start comes before it. -/
theorem output_stop_le_of_lastIn {lo hi : Nat} {seg : Segment} (hs : m.LastIn lo hi seg)
    {e : Segment} (he : e ∈ m.segments.toList) (hek : e.kind = .replaced)
    (hle : e.input.stop ≤ hi) : e.output.stop ≤ seg.output.stop := by
  obtain ⟨hseg, -, hlo, -, hmax⟩ := hs
  by_cases hel : lo < e.input.stop
  · exact hmax e he hek hel hle
  · have hb := hm.bounds hseg
    have hbe := hm.bounds he
    rcases pairwise_eq_or_rel hm.pairwise he hseg with rfl | hord | hord
    · exact Nat.le_refl _
    · omega
    · omega

/-- **Replacements of some text ending past the last replacement in a window end past the
window.** -/
theorem lt_stop_of_lastIn (hout : ∀ seg ∈ m.segments.toList, seg.kind = .replaced →
      seg.output.start < seg.output.stop)
    {lo hi : Nat} {seg : Segment} (hs : m.LastIn lo hi seg) {e : Segment}
    (he : e ∈ m.segments.toList) (hek : e.kind = .replaced)
    (hlt : seg.input.stop < e.input.stop) : hi < e.input.stop := by
  obtain ⟨hseg, -, hlo, -, hmax⟩ := hs
  by_contra hle
  have := hmax e he hek (by omega) (by omega)
  have := hout e he hek
  have := (hm.bounds hseg).1
  rcases pairwise_eq_or_rel hm.pairwise he hseg with rfl | hord | hord
  · omega
  · omega
  · omega

/-- **The end of the last replacement of some text in a window lands at the end of its
output**: an emptied replacement right there would be written after it, in the window. -/
theorem output_at_stop_of_lastIn (hout : ∀ seg ∈ m.segments.toList, seg.kind = .replaced →
      seg.output.start < seg.output.stop)
    {lo hi : Nat} {seg : Segment} (hs : m.LastIn lo hi seg) :
    m.outputOffset? seg.input.stop = some seg.output.stop := by
  obtain ⟨hseg, -, hlo, hhi, hmax⟩ := hs
  refine hm.output_at_stop hseg fun e he hek h₁ h₂ h₃ => ?_
  have := hmax e he hek (by omega) (by omega)
  have := hout e he hek
  omega

end WellFormed

end OffsetMap

/-! ## (2) Cuts of located pieces -/

/-- **A cut inside a located piece splits the piece** between the two sides of the cut. -/
theorem Located.split {text piece X Y : List Char} {sp : Span} (h : Located text sp piece)
    (hXY : text = X ++ Y) (hlo : sp.start ≤ utf8Length X) (hhi : utf8Length X ≤ sp.stop) :
    ∃ pre p₁ p₂ post, text = pre ++ piece ++ post ∧ piece = p₁ ++ p₂ ∧ X = pre ++ p₁ ∧
      Y = p₂ ++ post ∧ utf8Length pre = sp.start ∧
      sp.stop = utf8Length pre + utf8Length piece := by
  obtain ⟨pre, post, htext, hstart, hstop⟩ := h
  have hpre : pre <+: X :=
    prefix_of_utf8Length_le ⟨piece ++ post, by rw [htext, List.append_assoc]⟩ ⟨Y, hXY.symm⟩
      (by omega)
  obtain ⟨p₁, rfl⟩ := hpre
  have hp₁ : pre ++ p₁ <+: pre ++ piece :=
    prefix_of_utf8Length_le ⟨Y, hXY.symm⟩ ⟨post, htext.symm⟩
      (by simp only [utf8Length_append] at hhi ⊢; omega)
  obtain ⟨p₂, hp₂⟩ := (List.prefix_append_right_inj pre).mp hp₁
  subst hp₂
  refine ⟨pre, p₁, p₂, post, htext, rfl, rfl, ?_, hstart.symm, hstop⟩
  have h := hXY.symm.trans htext
  simp only [List.append_assoc] at h
  exact (List.append_cancel_left (List.append_cancel_left h))

/-- A character just after a cut inside a located piece belongs to the piece. -/
theorem Located.mem_of_cut {text piece U V : List Char} {c : Char} {sp : Span}
    (h : Located text sp piece) (ht : text = U ++ c :: V) (hlo : sp.start ≤ utf8Length U)
    (hhi : utf8Length U < sp.stop) : c ∈ piece := by
  obtain ⟨pre, p₁, p₂, post, -, rfl, rfl, hY, -, hstop⟩ := h.split ht hlo (Nat.le_of_lt hhi)
  cases p₂ with
  | nil =>
    simp only [List.append_nil, utf8Length_append] at hstop hhi
    omega
  | cons d p₂ =>
    obtain ⟨rfl, -⟩ := List.cons.inj hY
    exact List.mem_append_right p₁ List.mem_cons_self

/-- A located piece is the bytes cut from its span. -/
theorem Located.sliceBytes_eq {text piece : List Char} {sp : Span} (h : Located text sp piece) :
    sliceBytes text sp.start sp.stop = some piece := by
  obtain ⟨pre, post, rfl, h₁, h₂⟩ := h
  rw [h₁, h₂]
  exact sliceBytes_append pre piece post

namespace Rebase

/-! ## (3) Copied line feeds and stretches -/

/-- **A line feed of the text is copied**, when no replaced stretch holds one: it lies outside
every replaced stretch, and the new text has a line feed where its offset went. -/
theorem SplicedExactly.newline_copied {t : List Char} {ds : List Decision} {R : Spliced}
    (h : SplicedExactly t ds R) (hin : ∀ d ∈ ds, Css.SpanIn t d.occurrence.span)
    (hlocal : ∀ d ∈ ds, ∀ piece, Located t d.occurrence.span piece → '\n' ∉ piece)
    {U V : List Char} (ht : t = U ++ '\n' :: V) :
    ¬R.offsets.Inside (utf8Length U) ∧ ∃ U' V', R.css = U' ++ '\n' :: V' ∧
      R.offsets.outputOffset? (utf8Length U) = some (utf8Length U') := by
  have hm := h.wellFormed
  have hlt : utf8Length U < R.offsets.inputLen := by
    rw [h.input_len, ht, utf8Length_append, utf8Length_cons]
    have := utf8Size_pos '\n'
    omega
  obtain ⟨e, he, hcont⟩ := hm.exists_contains hlt
  -- the stretch holding the line feed is not replaced, as no replaced stretch holds one
  have hkind : e.kind = .copied := by
    cases hk : e.kind with
    | copied => rfl
    | replaced =>
      have hrep := OffsetMap.mem_replacements.mpr ⟨he, hk⟩
      obtain ⟨d, hd, hspan, -⟩ := exists_of_forall₂ h.replaced hrep
      obtain ⟨piece, hloc⟩ := (hin d hd).located
      rw [Span.contains_iff, hspan] at hcont
      exact absurd (hloc.mem_of_cut ht hcont.1 hcont.2) (hlocal d hd piece hloc)
  refine ⟨fun ⟨s, hs, hsk, h₁, h₂⟩ => ?_, ?_⟩
  · have hs' := hm.segmentAt?_of_contains hs ((Span.contains_iff _ _).mpr ⟨by omega, h₂⟩)
    rw [hm.segmentAt?_of_contains he hcont] at hs'
    cases hs'
    rw [hkind] at hsk
    cases hsk
  · obtain ⟨piece, hpin, hpout⟩ := h.copied e he hkind
    rw [Span.contains_iff] at hcont
    obtain ⟨a', b', hcss, hlen, hhead⟩ := hpin.carry hpout ht hcont.1 (Nat.le_of_lt hcont.2)
    obtain ⟨V', rfl⟩ : ∃ V', b' = '\n' :: V' := by
      cases b' with
      | nil => cases hhead hcont.2
      | cons c V' =>
        obtain rfl : c = '\n' := by simpa using hhead hcont.2
        exact ⟨V', rfl⟩
    refine ⟨a', V', hcss, ?_⟩
    rw [hm.outputOffset?_of_contains he ((Span.contains_iff _ _).mpr hcont), hlen]
    simp [Segment.carry, hkind]

/-- **A stretch of the text that no replacement touches is copied whole.** Between two offsets
outside replaced stretches, with no replaced stretch ending after the first and at or before the
second, the new text reads the same characters, from where the first offset went to where the
second went. The induction is on the length of the stretch: the copied stretch holding its
start copies a first part, and the rest starts at that stretch's end. -/
theorem SplicedExactly.copies {t : List Char} {ds : List Decision} {R : Spliced}
    (h : SplicedExactly t ds R) (n : Nat) :
    ∀ {X W T : List Char}, utf8Length W = n → t = X ++ W ++ T →
      ¬R.offsets.Inside (utf8Length X) → ¬R.offsets.Inside (utf8Length X + utf8Length W) →
      (∀ e ∈ R.offsets.segments.toList, e.kind = .replaced → utf8Length X < e.input.stop →
        utf8Length X + utf8Length W < e.input.stop) →
      ∃ X' T', R.css = X' ++ W ++ T' ∧
        R.offsets.outputOffset? (utf8Length X) = some (utf8Length X') ∧
        R.offsets.outputOffset? (utf8Length X + utf8Length W) =
          some (utf8Length X' + utf8Length W) := by
  have hm := h.wellFormed
  induction n using Nat.strongRecOn with
  | ind n ih =>
  intro X W T hn ht hx hxw hfree
  by_cases hW : W = []
  · -- an empty stretch: its offset goes to a boundary of the new text
    subst hW
    obtain ⟨o', hout, X', T', hcss, hlen⟩ :=
      h.outputOffset?_boundary ⟨X, T, by simpa using ht, rfl⟩
    exact ⟨X', T', by simpa using hcss, by rw [hout, hlen], by simpa [hlen] using hout⟩
  have hWpos : 0 < utf8Length W := by
    obtain ⟨c, W', rfl⟩ := List.exists_cons_of_ne_nil hW
    have := utf8Size_pos c
    simp only [utf8Length_cons]
    omega
  have hlt : utf8Length X < R.offsets.inputLen := by
    rw [h.input_len, ht]
    simp only [utf8Length_append]
    omega
  obtain ⟨e, he, hcont⟩ := hm.exists_contains hlt
  rw [Span.contains_iff] at hcont
  have hkind := OffsetMap.copied_of_free he hcont hWpos hx hxw hfree
  obtain ⟨piece, hpin, hpout⟩ := h.copied e he hkind
  obtain ⟨pre, p₁, p₂, post, htext, rfl, rfl, hrest, hpre, hstop⟩ :=
    hpin.split (X := X) (Y := W ++ T) (by rw [ht, List.append_assoc]) hcont.1
      (Nat.le_of_lt hcont.2)
  obtain ⟨pre', post', hcss, hpre', hstop'⟩ := hpout
  have hlen := hm.copied_length e he hkind
  simp only [Span.length] at hlen
  simp only [utf8Length_append] at hstop hstop'
  have hX := utf8Length_append pre p₁
  have hX' := utf8Length_append pre' p₁
  -- up to where the range ends, `e` moves offsets by a fixed amount: an emptied stretch
  -- replaced at its end would end after the range's start and not after its end
  have hmove : ∀ o, e.input.start ≤ o → o ≤ e.input.stop →
      o ≤ utf8Length (pre ++ p₁) + utf8Length W →
      R.offsets.outputOffset? o = some (e.output.start + (o - e.input.start)) :=
    fun o h₁ h₂ h₃ => hm.outputOffset?_copied he hkind h₁ h₂ fun _ f hf hfk _ hfstop _ => by
      have := hfree f hf hfk (by omega)
      omega
  have hcarry : R.offsets.outputOffset? (utf8Length (pre ++ p₁)) =
      some (utf8Length (pre' ++ p₁)) := by
    rw [hmove _ (by omega) (by omega) (by omega)]
    congr 1
    omega
  rcases List.prefix_or_prefix_of_prefix (List.prefix_append W T)
    (hrest ▸ List.prefix_append p₂ post) with ⟨p₃, rfl⟩ | ⟨W₂, rfl⟩
  · -- the stretch ends within `e`
    refine ⟨pre' ++ p₁, p₃ ++ post', by rw [hcss]; simp, hcarry, ?_⟩
    have hW := utf8Length_append W p₃
    rw [hmove _ (by omega) (by omega) (Nat.le_refl _)]
    congr 1
    omega
  · -- the stretch runs past `e`; the rest is copied on from where `e`'s output ends
    have hpost : post = W₂ ++ T := by
      simpa using hrest.symm
    subst hpost
    have hW := utf8Length_append p₂ W₂
    have hsmall : utf8Length W₂ < n := by
      omega
    have hmid : utf8Length (pre ++ p₁ ++ p₂) = e.input.stop := by
      simp only [utf8Length_append]
      omega
    have hmid_in : ¬R.offsets.Inside (utf8Length (pre ++ p₁ ++ p₂)) := by
      rw [hmid]
      exact hm.not_inside_stop he
    have hend_in : ¬R.offsets.Inside (utf8Length (pre ++ p₁ ++ p₂) + utf8Length W₂) := by
      simpa [utf8Length_append, Nat.add_assoc] using hxw
    have hfree' : ∀ f ∈ R.offsets.segments.toList, f.kind = .replaced →
        utf8Length (pre ++ p₁ ++ p₂) < f.input.stop →
        utf8Length (pre ++ p₁ ++ p₂) + utf8Length W₂ < f.input.stop := by
      intro f hf hfk hlt'
      have := hfree f hf hfk (by omega)
      omega
    obtain ⟨Y, T₂, hcss', hY, hYW⟩ :=
      ih _ hsmall rfl (show t = pre ++ p₁ ++ p₂ ++ W₂ ++ T by rw [htext]; simp) hmid_in hend_in
        hfree'
    -- where `e`'s end went, the two descriptions of the new text meet
    have hYeq : Y = pre' ++ p₁ ++ p₂ := by
      have hlenY : utf8Length Y = utf8Length (pre' ++ p₁ ++ p₂) := by
        rw [hmid, hmove _ (by omega) (Nat.le_refl _) (by omega)] at hY
        have := Option.some.inj hY
        simp only [utf8Length_append]
        omega
      have hYpre : Y <+: R.css := ⟨W₂ ++ T₂, by rw [hcss', List.append_assoc]⟩
      have hepre : pre' ++ p₁ ++ p₂ <+: R.css := ⟨post', by rw [hcss]; simp⟩
      exact eq_of_prefix_of_utf8Length_eq hYpre hepre hlenY
    subst hYeq
    refine ⟨pre' ++ p₁, T₂, by rw [hcss']; simp, hcarry, ?_⟩
    have hin_eq : utf8Length (pre ++ p₁) + utf8Length (p₂ ++ W₂) =
        utf8Length (pre ++ p₁ ++ p₂) + utf8Length W₂ := by
      simp only [utf8Length_append]
      omega
    have hout_eq : utf8Length (pre' ++ p₁ ++ p₂) + utf8Length W₂ =
        utf8Length (pre' ++ p₁) + utf8Length (p₂ ++ W₂) := by
      simp only [utf8Length_append]
      omega
    rw [hin_eq, hYW, hout_eq]

/-! ## (4) Cuts kept by a splice -/

section Kept

variable {t : List Char} {ds : List Decision} {R : Spliced}

/-- **Replacements written as some text have some output.** -/
theorem SplicedExactly.output_nonempty (h : SplicedExactly t ds R)
    (hne : ∀ d ∈ ds, d.replacement ≠ []) :
    ∀ seg ∈ R.offsets.segments.toList, seg.kind = .replaced →
      seg.output.start < seg.output.stop := by
  intro seg hseg hk
  have hrep := OffsetMap.mem_replacements.mpr ⟨hseg, hk⟩
  obtain ⟨d, hd, -, pre, post, -, h₁, h₂⟩ := exists_of_forall₂ h.replaced hrep
  have hpos : utf8Length d.replacement ≠ 0 := fun h0 => hne d hd (eq_nil_of_utf8Length_eq_zero h0)
  omega

/-- An offset kept by a copied stretch, or the end of the text, lies inside no replaced
stretch. -/
theorem SplicedExactly.not_inside_of_kept (h : SplicedExactly t ds R) {o : Nat}
    (hkeep : (∃ seg ∈ R.offsets.segments.toList, seg.kind = .copied ∧
      seg.input.contains o = true) ∨ o = utf8Length t) : ¬R.offsets.Inside o := by
  have hm := h.wellFormed
  rintro ⟨e, he, hk, h₁, h₂⟩
  rcases hkeep with ⟨c, hc, hck, hcont⟩ | rfl
  · have := hm.segmentAt?_of_contains he ((Span.contains_iff _ _).mpr ⟨by omega, h₂⟩)
    rw [hm.segmentAt?_of_contains hc hcont] at this
    cases this
    rw [hck] at hk
    cases hk
  · have := (hm.bounds he).2.1
    rw [h.input_len] at this
    omega

/-- **A replaced stretch ending past a kept offset is written after where the offset went.** -/
theorem SplicedExactly.lt_output_start_of_kept (h : SplicedExactly t ds R) {o o' : Nat}
    (hkeep : (∃ seg ∈ R.offsets.segments.toList, seg.kind = .copied ∧
      seg.input.contains o = true) ∨ o = utf8Length t) (hout : R.offsets.outputOffset? o = some o')
    {seg : Segment} (hseg : seg ∈ R.offsets.segments.toList) (hk : seg.kind = .replaced)
    (hlt : o < seg.input.stop) : o' < seg.output.start := by
  have hm := h.wellFormed
  have hb := hm.bounds hseg
  rcases hkeep with ⟨c, hc, hck, hcont⟩ | rfl
  · rw [hm.outputOffset?_of_contains hc hcont] at hout
    cases hout
    have hbc := hm.bounds hc
    have hlen := hm.copied_length c hc hck
    simp only [Span.length] at hlen
    rw [Span.contains_iff] at hcont
    rcases pairwise_eq_or_rel hm.pairwise hc hseg with rfl | hord | hord
    · rw [hck] at hk
      cases hk
    · simp only [Segment.carry, hck]
      omega
    · omega
  · rw [h.input_len] at hb
    omega

/-- **A replaced stretch starting at or before a kept offset ends at or before it.** -/
theorem SplicedExactly.stop_le_of_kept (h : SplicedExactly t ds R) {o : Nat}
    (hkeep : (∃ seg ∈ R.offsets.segments.toList, seg.kind = .copied ∧
      seg.input.contains o = true) ∨ o = utf8Length t)
    {seg : Segment} (hseg : seg ∈ R.offsets.segments.toList) (hk : seg.kind = .replaced)
    (hle : seg.input.start ≤ o) : seg.input.stop ≤ o := by
  have hm := h.wellFormed
  have hlen : o ≤ R.offsets.inputLen := by
    rcases hkeep with ⟨c, hc, -, hcont⟩ | rfl
    · have := (hm.bounds hc).2.1
      rw [Span.contains_iff] at hcont
      omega
    · exact Nat.le_of_eq h.input_len.symm
  obtain ⟨o', hout⟩ : ∃ o', R.offsets.outputOffset? o = some o' :=
    Option.isSome_iff_exists.mp ((hm.isSome_outputOffset? o).mpr hlen)
  by_contra hlt
  have := h.lt_output_start_of_kept hkeep hout hseg hk (by omega)
  have := hm.output_start_le hseg hle hout
  omega

/-- **What lands on the query's line at or before it came from the query's line at or before
it.** Take a cut `A` of the old text kept in place, going to the cut `A'` of the new text, and a
landing `Y` of the new text on the line of `A'` at or before it, reached from a cut `X` of the old
text such that cuts past `A` land past `A'`, and the landing is no later than where any offset at
or past `X`, outside replaced stretches, went. Then `X` is on the line of `A` at or before it: a
line feed between them would be copied between the landing and `A'`. -/
theorem SplicedExactly.origin_on_line (h : SplicedExactly t ds R)
    (hin : ∀ d ∈ ds, Css.SpanIn t d.occurrence.span)
    (hlocal : ∀ d ∈ ds, ∀ piece, Located t d.occurrence.span piece → '\n' ∉ piece)
    (hne : ∀ seg ∈ R.offsets.segments.toList, seg.kind = .replaced →
      seg.output.start < seg.output.stop)
    {A B A' B' : List Char} (ht : t = A ++ B) (hcss : R.css = A' ++ B')
    (hA : ¬R.offsets.Inside (utf8Length A))
    (hout : R.offsets.outputOffset? (utf8Length A) = some (utf8Length A'))
    {X U Y V : List Char} (htX : t = X ++ U) (hcY : R.css = Y ++ V)
    (hafter : utf8Length A < utf8Length X → utf8Length A' < utf8Length Y)
    (hbefore : ∀ z w, utf8Length X ≤ z → ¬R.offsets.Inside z →
      R.offsets.outputOffset? z = some w → utf8Length Y ≤ w)
    {W' : List Char} (hon : A' = Y ++ W') (hW' : '\n' ∉ W') :
    ∃ W, A = X ++ W ∧ '\n' ∉ W := by
  have hle : utf8Length X ≤ utf8Length A := by
    by_contra hlt
    have := hafter (by omega)
    rw [hon, utf8Length_append] at this
    omega
  obtain ⟨W, rfl⟩ := prefix_of_utf8Length_le ⟨U, htX.symm⟩ ⟨B, ht.symm⟩ hle
  refine ⟨W, rfl, fun hw => ?_⟩
  -- a line feed in between is copied to a place between the landing and `A'`
  obtain ⟨W₁, W₂, rfl⟩ := List.append_of_mem hw
  obtain ⟨hz, U', V', hcss', hzout⟩ :=
    h.newline_copied hin hlocal (U := X ++ W₁) (V := W₂ ++ B) (by rw [ht]; simp)
  have hnl : utf8Length ['\n'] = 1 := rfl
  have hnl' : '\n'.utf8Size = 1 := rfl
  have h₁ : utf8Length Y ≤ utf8Length U' :=
    hbefore _ _ (by simp only [utf8Length_append]; omega) hz hzout
  have h₂ : utf8Length U' < utf8Length A' :=
    h.wellFormed.output_lt hne (by simp only [utf8Length_append, utf8Length_cons]; omega) hz hA
      hzout hout
  obtain ⟨Q, rfl⟩ : Y <+: U' :=
    prefix_of_utf8Length_le ⟨V, hcY.symm⟩ ⟨'\n' :: V', hcss'.symm⟩ h₁
  have hfeed : Y ++ Q ++ ['\n'] <+: A' :=
    prefix_of_utf8Length_le ⟨V', by rw [hcss']; simp⟩ ⟨B', hcss.symm⟩
      (by simp only [utf8Length_append] at h₂ ⊢; omega)
  rw [hon, List.append_assoc] at hfeed
  obtain ⟨R', hR'⟩ := (List.prefix_append_right_inj Y).mp hfeed
  exact hW' (by rw [← hR']; simp)

/-- **A splice that keeps lines**: its offset map describes it, each decision's span is a span of
the text holding no line feed, and each replacement is written as some text. -/
structure LineKeeping (t : List Char) (ds : List Decision) (R : Spliced) : Prop where
  exact : SplicedExactly t ds R
  spans : ∀ d ∈ ds, Css.SpanIn t d.occurrence.span
  one_line : ∀ d ∈ ds, ∀ piece, Located t d.occurrence.span piece → '\n' ∉ piece
  written : ∀ d ∈ ds, d.replacement ≠ []

/-- **A cut kept in place**: a cut `A` of the old text at an offset that a copied stretch holds,
or at the end, and the cut `A'` of the new text where that offset went. -/
structure KeptCut (t : List Char) (R : Spliced) (A A' : List Char) : Prop where
  old : A <+: t
  new : A' <+: R.css
  kept : (∃ seg ∈ R.offsets.segments.toList, seg.kind = .copied ∧
    seg.input.contains (utf8Length A) = true) ∨ utf8Length A = utf8Length t
  goes : R.offsets.outputOffset? (utf8Length A) = some (utf8Length A')

/-- **The query's line from a cut outside replaced stretches is copied**, when no replaced
stretch ends between the cut and the query: the new query runs the same way from where the cut
went. -/
theorem KeptCut.copied_from {A A' : List Char} (hL : LineKeeping t ds R) (hq : KeptCut t R A A')
    {X W : List Char}
    (hXW : A = X ++ W) (hX : ¬R.offsets.Inside (utf8Length X))
    (hfree : ∀ e ∈ R.offsets.segments.toList, e.kind = .replaced → utf8Length X < e.input.stop →
      utf8Length A < e.input.stop) :
    ∃ X', A' = X' ++ W ∧ R.offsets.outputOffset? (utf8Length X) = some (utf8Length X') := by
  have h := hL.exact
  obtain ⟨B, hB⟩ := hq.old
  have hlen : utf8Length A = utf8Length X + utf8Length W := by rw [hXW, utf8Length_append]
  obtain ⟨X', T', hcss, hX', hA'⟩ := h.copies _ (X := X) (W := W) (T := B) rfl
    (by rw [← hB, hXW]) hX (hlen ▸ h.not_inside_of_kept hq.kept)
    (fun e he hk hlt => hlen ▸ hfree e he hk hlt)
  refine ⟨X', ?_, hX'⟩
  -- both are cuts of the new text of one length
  rw [← hlen, hq.goes, Option.some.injEq] at hA'
  exact eq_of_prefix_of_utf8Length_eq hq.new ⟨T', hcss.symm⟩ (by rw [hA', utf8Length_append])

end Kept

end Rebase

end StyleRebase
