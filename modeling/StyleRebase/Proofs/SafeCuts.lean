import StyleRebase.Proofs.SyntaxSpans
import StyleRebase.Proofs.LexedText
import StyleRebase.Proofs.LinePositions

/-! # Every cut the rebase makes lies in the text

Rebasing a stylesheet parses it, finds its references and writes new values over them. Each of
these steps cuts pieces out of the text at byte offsets, and a cut is only good when both ends
fall between characters of the text. This module shows that all of them do, for every text:

* the parser cuts the name of an at-keyword after its `@`, the name of a function before its
  `(`, the value of a string between its quotes and the body of a reference between `url(` and
  `)`: each piece is found in the text at those offsets (**`tokenize_cuts`**);
* every reference of the parse has a line and a UTF-16 column, so none is left out when the
  references are located (**`Rebase.locate_keeps_urls`**);
* writing new values over any of the located references, in order, succeeds whatever the new
  values are (**`Rebase.splice_of_sublist_locate`**).

**`Rebase.pipeline_cuts_in_text`** states the three together. -/

namespace StyleRebase

/-- **A piece inside a located piece is located**, its ends moved in by the bytes before and after
it. -/
theorem Located.inner {text a mid b : List Char} {sp : Span} {i j : Nat}
    (h : Located text sp (a ++ mid ++ b)) (ha : utf8Length a = i) (hb : utf8Length b = j) :
    Located text ⟨sp.start + i, sp.stop - j⟩ mid := by
  obtain ⟨pre, post, htext, hstart, hstop⟩ := h
  refine ⟨pre ++ a, b ++ post, by rw [htext]; simp only [List.append_assoc], ?_, ?_⟩
  · rw [hstart, utf8Length_append, ha]
  · simp only [utf8Length_append] at hstop ⊢
    omega

namespace Css

/-! ## (1) The delimiters of a token -/

/-- **The delimiters the parser cuts off a token**: an at-keyword starts with `@` and a function
name ends with `(`. -/
def Delimited (kind : TokenKind) (text : List Char) : Prop :=
  (kind = .atKeyword → ∃ name, text = '@' :: name) ∧ (kind = .function → ∃ name, text = name ++ ['('])

namespace Lexer

/-- The first `k + 1` characters, when the one at `k` is `c`. -/
theorem take_succ_of_drop {cs z : List Char} {k : Nat} {c : Char} (h : cs.drop k = c :: z) :
    cs.take (k + 1) = cs.take k ++ [c] := by
  have hget : cs[k]? = some c := by rw [← List.head?_drop, h, List.head?_cons]
  rw [List.take_add_one, hget, Option.toList_some]

/-- **The longest candidate is one of the candidates**, and no shorter than a delimiter when a
delimiter is one of them. -/
theorem best_of_kind {cands : List (TokenKind × Nat × Nat)} {k : TokenKind} {n : Nat}
    (hdelim : (TokenKind.delim, 1, 0) ∈ cands) (hk : (best cands).1 = k) (hn : (best cands).2.1 = n) :
    (∃ p, (k, n, p) ∈ cands) ∧ 1 ≤ n := by
  have hmem : best cands ∈ cands := best_mem (List.ne_nil_of_mem hdelim)
  have hle : 1 ≤ (best cands).2.1 := le_best _ hdelim
  generalize best cands = b at hmem hle hk hn
  obtain ⟨k', n', p⟩ := b
  dsimp only at hk hn hle
  subst hk hn
  exact ⟨⟨p, hmem⟩, hle⟩

/-- **A name candidate is as long as its rule says**: a function its function length and an
at-keyword its at-keyword length. -/
theorem candidates_len {cs : List Char} {k : TokenKind} {n p : Nat} (h : (k, n, p) ∈ candidates cs) :
    (k = .function → n = functionLen cs) ∧ (k = .atKeyword → n = atKeywordLen cs) := by
  simp only [candidates, List.mem_cons, List.not_mem_nil, or_false, Prod.mk.injEq] at h
  rcases h with ⟨rfl, rfl, -⟩ | ⟨rfl, rfl, -⟩ | ⟨rfl, -⟩ | ⟨rfl, -⟩ | ⟨rfl, -⟩ | ⟨rfl, -⟩ <;> simp

/-- **An at-keyword starts with `@`.** -/
theorem step_atKeyword {cs : List Char} {n : Nat} (h : step cs = (.atKeyword, n)) :
    ∃ name, cs.take (max 1 n) = '@' :: name := by
  unfold step at h
  split at h
  case h_13 =>
    split at h
    · have hk := afterUrl_kind (cs.drop 4)
      rw [h] at hk
      rcases hk with hk | hk | hk <;> cases hk
    · dsimp only at h
      simp only [Prod.mk.injEq] at h
      obtain ⟨hk, hn⟩ := h
      obtain ⟨⟨p, hmem⟩, hpos⟩ := best_of_kind (by simp) hk hn
      have hlen : atKeywordLen cs = n := ((candidates_len hmem).2 rfl).symm
      -- an at-keyword of positive length starts with `@`
      unfold atKeywordLen at hlen
      split at hlen
      · obtain ⟨m, hm⟩ : ∃ m, max 1 n = m + 1 := ⟨max 1 n - 1, by omega⟩
        rw [hm, List.take_succ_cons]
        exact ⟨_, rfl⟩
      · omega
  -- the comment and string arms, then the one-character punctuation
  case h_10 => split at h <;> cases h
  case h_11 | h_12 => split at h; split at h <;> cases h
  all_goals cases h

/-- **A function name ends with `(`**: the `url(` of a quoted reference, or a name and its `(`. -/
theorem step_function {cs : List Char} {n : Nat} (h : step cs = (.function, n)) :
    ∃ name, cs.take (max 1 n) = name ++ ['('] := by
  unfold step at h
  split at h
  case h_13 =>
    split at h
    · -- after `url(` a quote: the function is the four characters `url(`
      rename_i hs
      obtain ⟨u, r, l, z, rfl, -⟩ := startsWithUrl_inv hs
      rw [afterUrl_eq] at h
      split at h
      · obtain ⟨-, rfl⟩ := Prod.mk.inj h
        exact ⟨[u, r, l], rfl⟩
      · split at h <;> cases h
    · dsimp only at h
      simp only [Prod.mk.injEq] at h
      obtain ⟨hk, hn⟩ := h
      obtain ⟨⟨p, hmem⟩, hpos⟩ := best_of_kind (by simp) hk hn
      have hlen : functionLen cs = n := ((candidates_len hmem).1 rfl).symm
      -- a function of positive length is an identifier and its `(`
      unfold functionLen at hlen
      dsimp only at hlen
      split at hlen
      · omega
      · split at hlen
        · rename_i z hdrop
          rw [show max 1 n = identLen cs + 1 by omega, take_succ_of_drop hdrop]
          exact ⟨_, rfl⟩
        · omega
  case h_10 => split at h <;> cases h
  case h_11 | h_12 => split at h; split at h <;> cases h
  all_goals cases h

/-- **What the scanner takes has the delimiters of its kind.** -/
theorem step_delimited (cs : List Char) :
    Delimited (step cs).1 (cs.take (max 1 (step cs).2)) := by
  refine ⟨fun hk => ?_, fun hk => ?_⟩
  · exact step_atKeyword (by rw [← hk])
  · exact step_function (by rw [← hk])

/-- **Every token of a scan has the delimiters of its kind.** The induction follows the scan. -/
theorem tokensFrom_delimited (size : Nat) (cs : List Char) (pos : Nat) :
    ∀ t ∈ tokensFrom size cs pos, Delimited t.kind t.text := by
  induction cs, pos using tokensFrom.induct with
  | case1 pos =>
    rw [tokensFrom]
    intro t ht
    rw [List.mem_singleton.mp ht]
    exact ⟨fun h => (by cases h), fun h => (by cases h)⟩
  | case2 pos c rest hsp ih =>
    rw [tokensFrom, if_pos hsp]
    exact ih
  | case3 pos c rest hsp kind n hstep taken stop ih =>
    rw [tokensFrom, if_neg hsp]
    simp only [hstep]
    intro t ht
    rcases List.mem_cons.mp ht with rfl | ht
    · have hd := step_delimited (c :: rest)
      rw [hstep] at hd
      exact hd
    · exact ih t ht

end Lexer

/-- **Every token of a text has the delimiters of its kind.** -/
theorem tokenize_delimited (s : String) : ∀ t ∈ tokenize s, Delimited t.kind t.text :=
  Lexer.tokensFrom_delimited _ _ _

/-! ## (2) The cuts in a token -/

/-- **The cuts the parser makes in a token**, each a piece of the text at the offsets it is cut
at: the whole token; the name of an at-keyword, after its `@`; the name of a function, before its
`(`; the value of a string, between its quotes; the body of a reference, between `url(` and
`)`. -/
structure TokenCuts (text : List Char) (t : Token) : Prop where
  whole : Located text t.span t.text
  atKeyword : t.kind = .atKeyword → Located text ⟨t.span.start + 1, t.span.stop⟩ (t.text.drop 1)
  function : t.kind = .function → Located text ⟨t.span.start, t.span.stop - 1⟩ t.text.dropLast
  string : t.kind = .string →
    Located text ⟨t.span.start + 1, t.span.stop - 1⟩ (t.text.drop 1).dropLast
  url : t.kind = .url → Located text ⟨t.span.start + 4, t.span.stop - 1⟩ (t.text.drop 4).dropLast

/-- **A token read at its span, with its delimiters, can be cut**: every delimiter the parser cuts
off is one byte, and `url(` four. -/
theorem tokenCuts_of {text : List Char} {t : Token} (ht : TokenOk text t)
    (hd : Delimited t.kind t.text) : TokenCuts text t := by
  refine ⟨ht.located, fun hk => ?_, fun hk => ?_, fun hk => ?_, fun hk => ?_⟩
  · obtain ⟨name, hname⟩ := hd.1 hk
    have h : Located text t.span (['@'] ++ name ++ []) := by
      rw [List.append_nil, List.singleton_append, ← hname]
      exact ht.located
    have hcut := h.inner (i := 1) (j := 0) rfl rfl
    rw [Nat.sub_zero] at hcut
    rw [hname, List.drop_one, List.tail_cons]
    exact hcut
  · obtain ⟨name, hname⟩ := hd.2 hk
    have h : Located text t.span ([] ++ name ++ ['(']) := by
      rw [List.nil_append, ← hname]
      exact ht.located
    have hcut := h.inner (i := 0) (j := 1) rfl rfl
    rw [Nat.add_zero] at hcut
    rw [hname, List.dropLast_concat]
    exact hcut
  · obtain ⟨q, body, hshape, hq⟩ := ht.string_shape hk
    have h : Located text t.span ([q] ++ body ++ [q]) := by
      rw [List.singleton_append, List.cons_append, ← hshape]
      exact ht.located
    -- a quote is one byte
    have hq1 : utf8Length [q] = 1 := by rcases hq with rfl | rfl <;> rfl
    rw [hshape, List.drop_one, List.tail_cons, List.dropLast_concat]
    exact h.inner hq1 hq1
  · obtain ⟨u, r, l, body, hshape, hu, hr, hl⟩ := ht.url_shape hk
    have h : Located text t.span ([u, r, l, '('] ++ body ++ [')']) := by
      simp only [List.cons_append, List.nil_append]
      rw [← hshape]
      exact ht.located
    have h4 : utf8Length [u, r, l, '('] = 4 := by
      simp only [utf8Length_cons, utf8Length_nil, hu, hr, hl]
      rfl
    rw [hshape, List.drop_succ_cons, List.drop_succ_cons, List.drop_succ_cons, List.drop_succ_cons,
      List.drop_zero, List.dropLast_concat]
    exact h.inner h4 rfl

/-- **Every cut the parser makes in a token of a text is a piece of the text.** -/
theorem tokenize_cuts (s : String) : ∀ t ∈ tokenize s, TokenCuts s.toList t :=
  fun t ht => tokenCuts_of (tokenize_ok s t ht) (tokenize_delimited s t ht)

/-! ## (3) The spans of the references -/

theorem mem_valuesUrls {u : UrlValue} {vs : List ComponentValue} (h : u ∈ valuesUrls vs) :
    ∃ v ∈ vs, u ∈ v.urls := by
  induction vs with
  | nil =>
    rw [valuesUrls] at h
    cases h
  | cons v vs ih =>
    rw [valuesUrls, List.mem_append] at h
    rcases h with h | h
    · exact ⟨v, List.mem_cons_self, h⟩
    · obtain ⟨w, hw, hu⟩ := ih h
      exact ⟨w, List.mem_cons_of_mem v hw, hu⟩

theorem mem_itemsUrls {u : UrlValue} {items : List BlockItem} (h : u ∈ itemsUrls items) :
    ∃ i ∈ items, u ∈ i.urls := by
  induction items with
  | nil =>
    rw [itemsUrls] at h
    cases h
  | cons i items ih =>
    rw [itemsUrls, List.mem_append] at h
    rcases h with h | h
    · exact ⟨i, List.mem_cons_self, h⟩
    · obtain ⟨j, hj, hu⟩ := ih h
      exact ⟨j, List.mem_cons_of_mem i hj, hu⟩

/-- **Every reference in a value has the spans of a reference**: its span and its value span
are spans of the text, the one within the other. The induction follows the spans of the value. -/
theorem ValueSpans.urls_url {text : List Char} {v : ComponentValue} (h : ValueSpans text v) :
    ∀ u ∈ v.urls, ValueSpans text (.url u) := by
  induction h with
  | url hs hv hw =>
    intro u hu
    rw [ComponentValue.urls, List.mem_singleton] at hu
    rw [hu]
    exact .url hs hv hw
  | function _ _ _ _ ih | block _ _ _ _ ih =>
    intro u hu
    rw [ComponentValue.urls] at hu
    obtain ⟨w, hw, hu⟩ := mem_valuesUrls hu
    exact ih w hw u hu
  | token _ =>
    intro u hu
    rw [ComponentValue.urls] at hu
    cases hu

theorem valuesUrls_url {text : List Char} {vs : List ComponentValue}
    (h : ∀ v ∈ vs, ValueSpans text v) : ∀ u ∈ valuesUrls vs, ValueSpans text (.url u) := by
  intro u hu
  obtain ⟨v, hv, hu⟩ := mem_valuesUrls hu
  exact (h v hv).urls_url u hu

/-- **Every reference in a rule has the spans of a reference**: those of its prelude and of its
block, down through nested rules. The induction follows the spans of rules, blocks and items
together. -/
theorem RuleSpans.urls_url {text : List Char} {r : Rule} (h : RuleSpans text r) :
    ∀ u ∈ r.urls, ValueSpans text (.url u) := by
  refine @RuleSpans.rec text (fun r _ => ∀ u ∈ r.urls, ValueSpans text (.url u))
    (fun b _ => ∀ u ∈ b.urls, ValueSpans text (.url u))
    (fun i _ => ∀ u ∈ i.urls, ValueSpans text (.url u)) ?_ ?_ ?_ ?_ ?_ r h
  · -- an at-rule: its prelude, then its block if it has one
    intro name prelude body sp _ hpre _ _ _ _ ih u hu
    rw [Rule.urls, List.mem_append] at hu
    rcases hu with hu | hu
    · exact valuesUrls_url hpre u hu
    · cases body with
      | none =>
        rw [optionBlockUrls] at hu
        cases hu
      | some b =>
        rw [optionBlockUrls] at hu
        exact ih b rfl u hu
  · -- a qualified rule: its prelude, then its block
    intro prelude body sp _ hpre _ _ _ _ ih u hu
    rw [Rule.urls, List.mem_append] at hu
    rcases hu with hu | hu
    · exact valuesUrls_url hpre u hu
    · exact ih u hu
  · -- a block: its items
    intro items sp _ _ _ _ ih u hu
    rw [Block.urls] at hu
    obtain ⟨i, hi, hu⟩ := mem_itemsUrls hu
    exact ih i hi u hu
  · -- a declaration: its values
    intro d hd u hu
    rw [BlockItem.urls] at hu
    exact valuesUrls_url hd.values u hu
  · -- a nested rule
    intro r _ ih u hu
    rw [BlockItem.urls] at hu
    exact ih u hu

/-- **Every reference in a rule spans text.** -/
theorem RuleSpans.urls_spanIn {text : List Char} {r : Rule} (h : RuleSpans text r) :
    ∀ u ∈ r.urls, SpanIn text u.span :=
  fun u hu => (h.urls_url u hu).spanIn

/-- **Every reference of a parse spans text.** -/
theorem parse_urls_spanIn (s : String) :
    ∀ u ∈ (parse s).stylesheet.urls, SpanIn s.toList u.span := by
  intro u hu
  obtain ⟨r, hr, hu⟩ := List.mem_flatMap.mp hu
  exact ((parse_rules_spans s).1 r hr).urls_spanIn u hu

end Css

/-! ## (4) Locating and writing -/

namespace Rebase

/-- **Every reference of a parse is located**: its span starts between two characters, so it has a
line and a UTF-16 column, and locating the references leaves none out and keeps their order and
their values. -/
theorem locate_keeps_urls (s : String) :
    (locate (Css.parse s).stylesheet (LineIndex.ofString s)).map (fun o => (o.raw, o.quote, o.span)) =
      (Css.parse s).stylesheet.urls.map (fun u => (u.value, u.quote, u.valueSpan)) := by
  have hsome : ∀ u ∈ (Css.parse s).stylesheet.urls,
      (occurrenceOf (LineIndex.ofString s) u).map (fun o => (o.raw, o.quote, o.span)) =
        some (u.value, u.quote, u.valueSpan) := by
    intro u hu
    obtain ⟨pre, post, htext, hstart⟩ := (Css.parse_urls_spanIn s u hu).start
    have hpos := LineIndex.lineColUtf16_isSome htext
    rw [hstart] at hpos
    obtain ⟨position, hposition⟩ := Option.isSome_iff_exists.mp hpos
    simp [occurrenceOf, LineIndex.ofString, hposition]
  rw [locate_eq_filterMap, List.map_filterMap, List.filterMap_congr hsome]
  exact congrFun List.filterMap_eq_map _

/-- **Writing over located references succeeds**: for any of the references located in a text,
taken in order, and any values to write over them, the splice cuts the text only between
characters and never goes back. -/
theorem splice_of_sublist_locate (s : String) (ds : List Decision)
    (hds : (ds.map Decision.occurrence).Sublist
      (locate (Css.parse s).stylesheet (LineIndex.ofString s))) :
    ∃ r, splice s.toList ds = .ok r := by
  have hloc := locate_located s (LineIndex.ofString s)
  have hord := (locate_ordered s (LineIndex.ofString s)).sublist hds
  rw [List.pairwise_map] at hord
  obtain ⟨out, hout⟩ := replaced_of_located (ds.map Decision.edit) [] s.toList rfl
    (fun e he => by
      obtain ⟨d, hd, rfl⟩ := List.mem_map.mp he
      exact ⟨Nat.zero_le _, _, hloc d.occurrence (hds.subset (List.mem_map_of_mem hd))⟩)
    (by rw [List.pairwise_map]; exact hord)
  obtain ⟨r, hr, -⟩ := splice_of_replaced hout
  exact ⟨r, hr⟩

/-- **Every cut the rebase makes lies in the text.** Whatever the text, the pieces the parser cuts
out of its tokens are pieces of the text at the offsets they are cut at; every reference of the
parse is located, none left out; and writing any values over any of the located references, in
order, succeeds. -/
theorem pipeline_cuts_in_text (s : String) :
    (∀ t ∈ Css.tokenize s, Css.TokenCuts s.toList t) ∧
    (locate (Css.parse s).stylesheet (LineIndex.ofString s)).map (fun o => (o.raw, o.quote, o.span)) =
      (Css.parse s).stylesheet.urls.map (fun u => (u.value, u.quote, u.valueSpan)) ∧
    ∀ ds : List Decision,
      (ds.map Decision.occurrence).Sublist (locate (Css.parse s).stylesheet (LineIndex.ofString s)) →
      ∃ r, splice s.toList ds = .ok r :=
  ⟨Css.tokenize_cuts s, locate_keeps_urls s, splice_of_sublist_locate s⟩

/-- Writing a new value over every reference of a small stylesheet succeeds. -/
theorem pipeline_cuts_in_text_one_rule :
    (((locate (Css.parse "a{b:url(x)}").stylesheet (LineIndex.ofString "a{b:url(x)}")).map
        fun o => (⟨o, [], [], "y".toList⟩ : Decision)).map Decision.occurrence).Sublist
      (locate (Css.parse "a{b:url(x)}").stylesheet (LineIndex.ofString "a{b:url(x)}")) ∧
    ∃ r, splice "a{b:url(x)}".toList
      ((locate (Css.parse "a{b:url(x)}").stylesheet (LineIndex.ofString "a{b:url(x)}")).map
        fun o => ⟨o, [], [], "y".toList⟩) = .ok r := by
  have hsub : (((locate (Css.parse "a{b:url(x)}").stylesheet
      (LineIndex.ofString "a{b:url(x)}")).map fun o => (⟨o, [], [], "y".toList⟩ : Decision)).map
        Decision.occurrence).Sublist
      (locate (Css.parse "a{b:url(x)}").stylesheet (LineIndex.ofString "a{b:url(x)}")) := by
    have hid : ∀ L : List Occurrence,
        (L.map fun o => (⟨o, [], [], "y".toList⟩ : Decision)).map Decision.occurrence = L := by
      intro L
      rw [List.map_map]
      exact (List.map_congr_left fun _ _ => rfl).trans (List.map_id' L)
    rw [hid]
  exact ⟨hsub, (pipeline_cuts_in_text "a{b:url(x)}").2.2 _ hsub⟩

end Rebase

end StyleRebase
