import StyleRebase.Rebase.Splice

/-! # What writing decisions into a text produces

A decision replaces a byte span of the text. When the spans come in order, do not overlap and
fall between characters, the splice succeeds, and its result is the text with each span
replaced by the decision's replacement and everything else copied in order.

* **`Located`** — a text reads a given stretch of characters at a byte span.
* **`Replaced`** — the declarative reading of a splice: the text cut into copied gaps and
  replaced stretches, in order, and the output made of the same gaps and the replacements.
* **`splice_of_replaced`** — the splice computes exactly that.
* **`replaced_of_located`** — spans that are located in the text and in order can always be
  replaced. -/

namespace StyleRebase

/-! ## (1) Stretches of a text at byte spans -/

/-- **`text` reads `piece` at `span`**: the text is `piece` with something before and after it,
and the span's bounds are the byte offsets of the piece's two ends. -/
def Located (text : List Char) (span : Span) (piece : List Char) : Prop :=
  ∃ pre post, text = pre ++ piece ++ post ∧ span.start = utf8Length pre ∧
    span.stop = utf8Length pre + utf8Length piece

theorem Located.start_le_stop {text piece : List Char} {span : Span}
    (h : Located text span piece) : span.start ≤ span.stop := by
  obtain ⟨pre, post, -, h1, h2⟩ := h
  omega

theorem Located.stop_le {text piece : List Char} {span : Span} (h : Located text span piece) :
    span.stop ≤ utf8Length text := by
  obtain ⟨pre, post, rfl, -, h2⟩ := h
  simp only [utf8Length_append]
  omega

/-- A list with no bytes is empty. -/
theorem eq_nil_of_utf8Length_eq_zero {cs : List Char} (h : utf8Length cs = 0) : cs = [] := by
  cases cs with
  | nil => rfl
  | cons c cs =>
    have := utf8Size_pos c
    simp only [utf8Length_cons] at h
    omega

/-- **Of two prefixes of one text, the one with fewer bytes is a prefix of the other.** -/
theorem prefix_of_utf8Length_le {a b text : List Char} (ha : a <+: text) (hb : b <+: text)
    (hle : utf8Length a ≤ utf8Length b) : a <+: b := by
  rcases List.prefix_or_prefix_of_prefix ha hb with hab | hba
  · exact hab
  · obtain ⟨x, rfl⟩ := hba
    simp only [utf8Length_append] at hle
    have hx : x = [] := eq_nil_of_utf8Length_eq_zero (by omega)
    exact ⟨[], by rw [hx, List.append_nil, List.append_nil]⟩

/-- **Cutting a located stretch out of a suffix**: when the text is `consumed ++ rest` and a
stretch lies at or after the end of `consumed`, `rest` is a gap, the stretch and what follows. -/
theorem Located.cut {text consumed rest piece : List Char} {span : Span}
    (h : Located text span piece) (htext : text = consumed ++ rest)
    (hle : utf8Length consumed ≤ span.start) :
    ∃ gap post, rest = gap ++ piece ++ post ∧
      span.start = utf8Length consumed + utf8Length gap := by
  obtain ⟨pre, post, hpre, h1, -⟩ := h
  have hprefix : consumed <+: pre := by
    refine prefix_of_utf8Length_le ⟨rest, htext.symm⟩ ⟨piece ++ post, ?_⟩ (by omega)
    rw [hpre, List.append_assoc]
  obtain ⟨gap, rfl⟩ := hprefix
  refine ⟨gap, post, ?_, by rw [h1, utf8Length_append]⟩
  rw [htext, List.append_assoc, List.append_assoc] at hpre
  have := List.append_cancel_left hpre
  rw [this, List.append_assoc]

/-- **Cutting bytes out of a located stretch** gives the stretch. -/
theorem sliceBytes_append (pre mid post : List Char) :
    sliceBytes (pre ++ mid ++ post) (utf8Length pre) (utf8Length pre + utf8Length mid) =
      some mid := by
  rw [sliceBytes, List.append_assoc, splitAtByte_append]
  simp [splitAtByte_append]

/-! ## (2) Replacing spans -/

/-- **`out` is `rest` with the spans of `edits` replaced**, the byte offsets of `rest` counted
from `pos`: the edits' spans come in order, each is replaced by its text, and the text between
them is copied. -/
inductive Replaced : Nat → List Char → List (Span × List Char) → List Char → Prop
  /-- Nothing left to replace: the rest is copied. -/
  | done (pos : Nat) (rest : List Char) : Replaced pos rest [] rest
  /-- A gap is copied, then the stretch at the first span is replaced. -/
  | edit (pos : Nat) (gap old rest new : List Char) (edits : List (Span × List Char))
      (out : List Char) :
      Replaced (pos + utf8Length gap + utf8Length old) rest edits out →
      Replaced pos (gap ++ old ++ rest)
        ((⟨pos + utf8Length gap, pos + utf8Length gap + utf8Length old⟩, new) :: edits)
        (gap ++ new ++ out)

/-- **The edit of a decision**: its span and the text written there. -/
def Decision.edit (d : Rebase.Decision) : Span × List Char := (d.occurrence.span, d.replacement)

/-! ## (3) The splice computes the replacement -/

namespace Rebase

/-- **One decision applied at the cursor**, the state it leaves spelled out: the gap before the
decision's stretch is copied, its replacement written, and both recorded in the offset map. -/
theorem SpliceState.apply_eq {text consumed gap old rest : List Char} {st : SpliceState}
    {d : Decision} (htext : text = consumed ++ gap ++ old ++ rest)
    (hcur : st.cursor = utf8Length consumed) (hin : st.offsets.inputOffset = st.cursor)
    (hspan : d.occurrence.span = ⟨utf8Length consumed + utf8Length gap,
      utf8Length consumed + utf8Length gap + utf8Length old⟩) :
    st.apply text d = .ok { chunks := d.replacement :: gap :: st.chunks
                            offsets := (st.offsets.addSource (utf8Length gap)).push
                              d.occurrence.span (utf8Length d.replacement) .replaced
                            cursor := d.occurrence.span.stop } := by
  have hslice : sliceBytes text st.cursor d.occurrence.span.start = some gap := by
    rw [hcur, hspan, htext, List.append_assoc _ old]
    exact sliceBytes_append consumed gap (old ++ rest)
  have hstart : d.occurrence.span.start =
      (st.offsets.addSource (utf8Length gap)).inputOffset := by
    rw [OffsetMap.Builder.addSource_inputOffset, hin, hcur, hspan]
  simp only [SpliceState.apply, hslice, Option.elim, bind, Except.bind, pure, Except.pure,
    OffsetMap.Builder.addTransformed_of_start _ hstart]

/-- **Decisions applied one after another**: when their edits replace spans of the text after
the cursor, the chunks written so far followed by the text left after the last stretch are the
chunks before followed by the replaced text. -/
theorem foldlM_apply_of_replaced {text : List Char} {pos : Nat} {rest : List Char}
    {edits : List (Span × List Char)} {out : List Char} (h : Replaced pos rest edits out) :
    ∀ (ds : List Decision) (consumed : List Char) (st : SpliceState),
      ds.map Decision.edit = edits → text = consumed ++ rest → utf8Length consumed = pos →
      st.cursor = pos → st.offsets.inputOffset = pos →
      ∃ st' consumed' rest', ds.foldlM (SpliceState.apply text) st = .ok st' ∧
        text = consumed' ++ rest' ∧ utf8Length consumed' = st'.cursor ∧
        st'.chunks.reverse.flatten ++ rest' = st.chunks.reverse.flatten ++ out := by
  induction h with
  | done pos rest =>
    intro ds consumed st hds htext hlen _ _
    rw [List.map_eq_nil_iff] at hds
    subst hds
    exact ⟨st, consumed, rest, rfl, htext, by omega, rfl⟩
  | edit pos gap old rest new edits out _ ih =>
    intro ds consumed st hds htext hlen hcur hin
    obtain ⟨d, ds', rfl, hd, rfl⟩ := List.map_eq_cons_iff.mp hds
    simp only [Decision.edit, Prod.mk.injEq] at hd
    obtain ⟨hspan, hnew⟩ := hd
    have htext1 : text = consumed ++ gap ++ old ++ rest := by
      rw [htext]
      simp only [List.append_assoc]
    have hcur1 : st.cursor = utf8Length consumed := by omega
    have hin1 : st.offsets.inputOffset = st.cursor := by omega
    have hspan1 : d.occurrence.span = ⟨utf8Length consumed + utf8Length gap,
        utf8Length consumed + utf8Length gap + utf8Length old⟩ := by
      rw [hspan, hlen]
    have happly := SpliceState.apply_eq htext1 hcur1 hin1 hspan1
    have htext2 : text = (consumed ++ gap ++ old) ++ rest := htext1
    obtain ⟨st', consumed', rest', hfold, htext', hlen', hchunks⟩ :=
      ih ds' (consumed ++ gap ++ old)
        { chunks := d.replacement :: gap :: st.chunks
          offsets := (st.offsets.addSource (utf8Length gap)).push d.occurrence.span
            (utf8Length d.replacement) .replaced
          cursor := d.occurrence.span.stop }
        rfl htext2 (by simp only [utf8Length_append]; omega) (by simp [hspan]) (by simp [hspan])
    refine ⟨st', consumed', rest', ?_, htext', hlen', ?_⟩
    · rw [List.foldlM_cons, happly]
      exact hfold
    · rw [hchunks, ← hnew]
      simp [List.append_assoc]

/-- **The splice replaces**: when the decisions' edits replace spans of the text in order, the
splice succeeds, its text is the replaced text and its records are the decisions' records. -/
theorem splice_of_replaced {text : List Char} {ds : List Decision} {out : List Char}
    (h : Replaced 0 text (ds.map Decision.edit) out) :
    ∃ r, splice text ds = .ok r ∧ r.css = out ∧ r.records = ds.map Decision.record := by
  obtain ⟨st', consumed', rest', hfold, htext', hlen', hchunks⟩ :=
    foldlM_apply_of_replaced h ds [] {} rfl rfl rfl rfl rfl
  simp only [List.nil_append] at hfold htext'
  have hsplit : splitAtByte text st'.cursor = some (consumed', rest') := by
    rw [htext', ← hlen']
    exact splitAtByte_append consumed' rest'
  refine ⟨{ css := (rest' :: st'.chunks).reverse.flatten
            offsets := (st'.offsets.addSource (utf8Length rest')).build
            records := ds.map Decision.record }, ?_, ?_, rfl⟩
  · simp only [splice, hfold, hsplit, Option.elim, bind, Except.bind, pure, Except.pure]
  · simpa using hchunks

end Rebase

/-! ## (4) Located spans can be replaced -/

/-- **Spans located in order can be replaced**: edits whose spans are located in the text after
`consumed`, each ending before the next starts, replace that part of the text. -/
theorem replaced_of_located {text : List Char} :
    ∀ (edits : List (Span × List Char)) (consumed rest : List Char), text = consumed ++ rest →
      (∀ e ∈ edits, utf8Length consumed ≤ e.1.start ∧ ∃ piece, Located text e.1 piece) →
      edits.Pairwise (fun a b => a.1.stop ≤ b.1.start) →
      ∃ out, Replaced (utf8Length consumed) rest edits out
  | [], consumed, rest, _, _, _ => ⟨rest, .done _ _⟩
  | (span, new) :: edits, consumed, rest, htext, hloc, hpair => by
    obtain ⟨hle, piece, hpiece⟩ := hloc (span, new) List.mem_cons_self
    dsimp only at hle hpiece
    obtain ⟨gap, post, hrest, hstart⟩ := hpiece.cut htext hle
    have hstop : span.stop = span.start + utf8Length piece := by
      obtain ⟨pre, post', -, h1, h2⟩ := hpiece
      omega
    have hspan : span = ⟨utf8Length consumed + utf8Length gap,
        utf8Length consumed + utf8Length gap + utf8Length piece⟩ := by
      cases span
      simp only [Span.mk.injEq] at hstart hstop ⊢
      omega
    obtain ⟨hhead, htail⟩ := List.pairwise_cons.mp hpair
    dsimp only at hhead
    obtain ⟨out, hout⟩ := replaced_of_located edits (consumed ++ gap ++ piece) post
      (by rw [htext, hrest, List.append_assoc, List.append_assoc, List.append_assoc])
      (fun e he => ⟨by have := hhead e he; simp only [utf8Length_append]; omega,
        (hloc e (List.mem_cons_of_mem _ he)).2⟩) htail
    refine ⟨gap ++ new ++ out, ?_⟩
    rw [hspan, hrest]
    simp only [utf8Length_append] at hout
    exact .edit _ gap piece post new edits out hout

end StyleRebase
