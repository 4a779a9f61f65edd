import Mathlib.Data.List.Nodup
import StyleRebase.Proofs.MalformedTokens
import StyleRebase.Proofs.Relexing
import StyleRebase.Proofs.LinePositions
import StyleRebase.Proofs.RebaseOutcome
import StyleRebase.Proofs.SafeCuts

/-! # A rebased stylesheet reads back

Rebasing writes each new path into its reference as it is, in the reference's old quotes. When
every path written is safe for its quotes — no whitespace, quote, bracket, backslash or control
character in an unquoted `url(...)`, neither the quote, a backslash nor a line break in a
string — the rebased stylesheet reads back as the old one did: it parses without errors, and it
has the same references in the same order and quotes, each rewritten one holding the path
written and every other one its old value.

* **`Token.valueSpan` distinct** — the tokens of a text have distinct value spans
  (`tokenize_valueSpan_nodup`), and the references and occurrences of the text sit at some of
  them, in order (`locate_spans_sublist`).
* **`editsFor_lookup`** — the edits of a run are what its table of edits writes into the tokens.
* **`Quote.admits`** — a path that its quotes hold as it is.
* **`Retexted.alike`** — a token with a safe path written in is one the parser reads alike.
* **`ReadsBack`** — new occurrences against old ones and the records of the rewritten ones.
* **`splice_reads_back`** — safe decisions about a text's references, spliced in, give a text
  that reads back.
* **`runIn_reads_back`** — a run that writes safe paths gives a stylesheet that reads back;
  `runIn_spaced_path_breaks` shows a path with a space that does not. -/

namespace StyleRebase

/-- A list picked out of another, each value picked being `k` of the element it was picked from,
is a sublist of `k` of the other. -/
theorem filterMap_sublist_map {α β : Type} {f : α → Option β} {k : α → β}
    (hf : ∀ a b, f a = some b → b = k a) : ∀ l : List α, List.Sublist (l.filterMap f) (l.map k)
  | [] => .slnil
  | a :: l => by
    rw [List.map_cons]
    cases h : f a with
    | none =>
      rw [List.filterMap_cons_none h]
      exact (filterMap_sublist_map hf l).cons _
    | some b =>
      rw [List.filterMap_cons_some h, hf a b h]
      exact (filterMap_sublist_map hf l).cons_cons _

/-- In a table of rows whose keys are distinct, looking up a row's key gives that row's value. -/
theorem lookup_map_of_mem {α β γ : Type} [DecidableEq β] {k : α → β} {f : α → γ} :
    ∀ {l : List α}, (l.map k).Nodup → ∀ {a : α}, a ∈ l →
      (l.map fun a => (k a, f a)).lookup (k a) = some (f a)
  | [], _, _, ha => nomatch ha
  | b :: l, hnd, a, ha => by
    rw [List.map_cons, List.nodup_cons] at hnd
    rw [List.map_cons, List.lookup_cons]
    rcases List.mem_cons.mp ha with rfl | ha
    · rw [beq_self_eq_true]
    · have hne : (k a == k b) = false :=
        beq_false_of_ne fun h => hnd.1 (h ▸ List.mem_map_of_mem ha)
      rw [hne]
      exact lookup_map_of_mem hnd.2 ha

/-- A value looked up in a table of rows is the value of a row with that key. -/
theorem exists_of_lookup_map {α β γ : Type} [DecidableEq β] {k : α → β} {f : α → γ}
    {l : List α} {b : β} {c : γ} (h : (l.map fun a => (k a, f a)).lookup b = some c) :
    ∃ a ∈ l, k a = b ∧ f a = c := by
  obtain ⟨l₁, l₂, hl, -⟩ := List.lookup_eq_some_iff.mp h
  have hmem : (b, c) ∈ l.map fun a => (k a, f a) := by
    rw [hl]
    exact List.mem_append_right _ List.mem_cons_self
  obtain ⟨a, ha, hac⟩ := List.mem_map.mp hmem
  obtain ⟨hk, hf⟩ := Prod.mk.inj hac
  exact ⟨a, ha, hk, hf⟩

namespace Css

/-! ## (1) Tokens have distinct value spans -/

/-- **Every token but the last takes some text**: each step of the scan takes at least one
character, and only the end-of-file token, last, takes none. -/
theorem Lexer.tokensFrom_text_ne_nil (size : Nat) (cs : List Char) (pos : Nat) :
    (Lexer.tokensFrom size cs pos).Pairwise fun a _ => a.text ≠ [] := by
  induction cs, pos using Lexer.tokensFrom.induct with
  | case1 pos =>
    rw [Lexer.tokensFrom]
    exact List.pairwise_singleton _ _
  | case2 pos c rest hsp ih =>
    rw [Lexer.tokensFrom, if_pos hsp]
    exact ih
  | case3 pos c rest hsp kind n hstep taken stop ih =>
    rw [Lexer.tokensFrom, if_neg hsp]
    simp only [hstep]
    refine List.Pairwise.cons (fun _ _ => ?_) ih
    rw [ne_eq, List.take_eq_nil_iff, not_or]
    exact ⟨by omega, List.cons_ne_nil _ _⟩

/-- **A token's value starts before the token ends**, when the token takes some text: an
unquoted reference's value starts before its `)`. -/
theorem TokenOk.valueSpan_start_lt {text : List Char} {t : Token} (ht : TokenOk text t)
    (hne : t.text ≠ []) : t.valueSpan.start < t.span.stop := by
  obtain ⟨pre, post, -, hstart, hstop⟩ := ht.located
  by_cases hk : t.kind = .url
  · obtain ⟨a, b, c, A, B, htext, -, -, -, hA, -, hlead⟩ := ht.url_split hk
    have hAlen : utf8Length A = A.length := utf8Length_of_isCssSpace hA
    rw [Token.valueSpan_url hk, hstop, hstart, ← hlead, htext]
    simp only [utf8Length_cons, utf8Length_append, utf8Length_nil]
    have := utf8Size_pos a
    have := utf8Size_pos b
    have := utf8Size_pos c
    have := utf8Size_pos '('
    have := utf8Size_pos ')'
    omega
  · rw [Token.valueSpan_of_ne hk, hstop, hstart]
    obtain ⟨d, ds, hd⟩ := List.exists_cons_of_ne_nil hne
    rw [hd, utf8Length_cons]
    have := utf8Size_pos d
    omega

/-- **The value spans of a text's tokens start in increasing order.** -/
theorem tokenize_valueSpan_increasing (s : String) :
    (tokenize s).Pairwise fun a b => a.valueSpan.start < b.valueSpan.start := by
  have hall := (tokenize_ordered s).and (Lexer.tokensFrom_text_ne_nil _ s.toList 0)
  refine hall.imp_of_mem fun ha hb ⟨hab, hne⟩ => ?_
  have h₁ := TokenOk.valueSpan_start_lt (tokenize_ok s _ ha) hne
  have h₂ := (tokenize_ok s _ hb).start_le_valueSpan
  omega

/-- **The tokens of a text have distinct value spans.** -/
theorem tokenize_valueSpan_nodup (s : String) : ((tokenize s).map Token.valueSpan).Nodup := by
  rw [List.Nodup, List.pairwise_map]
  exact (tokenize_valueSpan_increasing s).imp fun h heq => by rw [heq] at h; omega

/-! ## (2) References sit at value spans of tokens -/

/-- **A reference is read at its token's value span.** -/
theorem ReadsOff.valueSpan_eq {u : UrlValue} {t : Token} (h : ReadsOff u t) :
    u.valueSpan = t.valueSpan := by
  cases h with
  | unquoted hk => rw [Token.valueSpan, if_pos hk]
  | quoted span hk => rw [Token.valueSpan_of_ne (by rw [hk]; decide)]

/-- References read off tokens sit, in order, at value spans of some of them. -/
theorem ReadFrom.valueSpans_sublist {ts : List Token} {urls : List UrlValue}
    (h : ReadFrom ts urls) :
    List.Sublist (urls.map UrlValue.valueSpan) (ts.map Token.valueSpan) := by
  induction h with
  | nil => exact .slnil
  | skip t _ ih => exact ih.cons _
  | read hu _ ih =>
    rw [List.map_cons, List.map_cons, hu.valueSpan_eq]
    exact ih.cons_cons _

/-! ## (3) Edits from a table -/

/-- **The edits a table makes into tokens**: when the tokens have distinct value spans and the
table's spans are some of them, in order, the tokens pick out the whole table. The induction
runs over the tokens: the first either carries the table's first edit or none. -/
theorem editsFor_lookup : ∀ {ts : List Token} {E : List (Span × List Char)},
    (ts.map Token.valueSpan).Nodup → List.Sublist (E.map Prod.fst) (ts.map Token.valueSpan) →
    editsFor (fun sp => E.lookup sp) ts = E
  | [], E, _, hE => by
    rw [List.map_nil, List.sublist_nil, List.map_eq_nil_iff] at hE
    subst hE
    rfl
  | t :: ts, E, hnd, hE => by
    rw [List.map_cons, List.nodup_cons] at hnd
    rw [List.map_cons, List.sublist_cons_iff] at hE
    rcases hE with hE | ⟨r, hr, hsub⟩
    · -- the first token carries no edit
      have hnone : E.lookup t.valueSpan = none := by
        rw [List.lookup_eq_none_iff]
        intro p hp
        have hmem : p.1 ∈ ts.map Token.valueSpan := hE.subset (List.mem_map_of_mem hp)
        rw [bne_iff_ne]
        exact fun h => hnd.1 (h ▸ hmem)
      rw [editsFor_cons_none hnone, editsFor_lookup hnd.2 hE]
    · -- the first token carries the first edit, and no other token its span
      cases E with
      | nil => simp at hr
      | cons e E' =>
        obtain ⟨k, v⟩ := e
        rw [List.map_cons, List.cons.injEq] at hr
        obtain ⟨rfl, hE'⟩ := hr
        have hsome : ((t.valueSpan, v) :: E').lookup t.valueSpan = some v := by
          rw [List.lookup_cons, beq_self_eq_true]
        have hrest : editsFor (fun sp => ((t.valueSpan, v) :: E').lookup sp) ts =
            editsFor (fun sp => E'.lookup sp) ts := by
          refine List.filterMap_congr fun x hx => ?_
          have hne : x.valueSpan ≠ t.valueSpan := fun h => hnd.1 (h ▸ List.mem_map_of_mem hx)
          dsimp only
          rw [List.lookup_cons, beq_false_of_ne hne]
        rw [editsFor_cons_some hsome, hrest, editsFor_lookup hnd.2 (hE' ▸ hsub)]

/-! ## (4) Paths that quotes hold -/

/-- **A path its quotes hold as it is**: safe characters only, for an unquoted reference or for a
string in those quotes. -/
def Quote.admits : Quote → List Char → Bool
  | .none, w => w.all urlSafe
  | .double, w => w.all (stringSafe '"')
  | .single, w => w.all (stringSafe '\'')

/-- **The quotes of a string**: the quote character it starts with, which its quote style
writes, and whose strings hold what that style admits. -/
theorem TokenOk.string_quote {text : List Char} {a : Token} (ht : TokenOk text a)
    (hk : a.kind = .string) :
    ∃ q, a.text.head? = some q ∧
      (if a.text.head? == some '\'' then Quote.single else .double).mark = [q] ∧
      ∀ w, (if a.text.head? == some '\'' then Quote.single else .double).admits w =
        w.all (stringSafe q) := by
  obtain ⟨q, body, hshape, hq⟩ := ht.string_shape hk
  refine ⟨q, by rw [hshape]; rfl, ?_⟩
  rw [hshape]
  rcases hq with rfl | rfl
  · exact ⟨rfl, fun _ => rfl⟩
  · exact ⟨rfl, fun _ => rfl⟩

/-- **Two references read off one token** have the same value and quotes. -/
theorem ReadsOff.same {u v : UrlValue} {t : Token} (hu : ReadsOff u t) (hv : ReadsOff v t) :
    v.value = u.value ∧ v.quote = u.quote := by
  cases hu with
  | unquoted hk =>
    cases hv with
    | unquoted => exact ⟨rfl, rfl⟩
    | quoted _ hk' => rw [hk] at hk'; cases hk'
  | quoted _ hk =>
    cases hv with
    | unquoted hk' => rw [hk] at hk'; cases hk'
    | quoted => exact ⟨rfl, rfl⟩

/-! ## (5) References of retexted tokens -/

/-- **Trimming a value between two trimmed runs** gives the value back, when none of its
characters is trimmed. -/
theorem trimBy_between {p : Char → Bool} {A w B : List Char} (hA : ∀ c ∈ A, p c = true)
    (hB : ∀ c ∈ B, p c = true) (hw : ∀ c ∈ w, p c = false) : trimBy p (A ++ w ++ B) = w := by
  rcases w with _ | ⟨c, w⟩
  · have hall : ∀ x ∈ A ++ B, p x = true := by
      intro x hx
      rcases List.mem_append.mp hx with hx | hx
      · exact hA x hx
      · exact hB x hx
    have hnil : (A ++ B).dropWhile p = [] := by
      rw [← List.append_nil (A ++ B), List.dropWhile_append_of_pos hall]
      rfl
    rw [trimBy, trimStartBy, List.append_nil, hnil]
    rfl
  · have hfront : trimStartBy p (A ++ c :: w ++ B) = c :: w ++ B := by
      rw [trimStartBy, List.append_assoc, List.dropWhile_append_of_pos hA, List.cons_append,
        List.dropWhile_cons_of_neg (by simp [hw c List.mem_cons_self])]
    -- from the back, the trailing run goes and the value's last character stops the trim
    have hback : (c :: w ++ B).reverse.dropWhile p = (c :: w).reverse := by
      rw [List.reverse_append,
        List.dropWhile_append_of_pos (fun x hx => hB x (List.mem_reverse.mp hx))]
      obtain ⟨x, xs, hx⟩ := List.exists_cons_of_ne_nil
        (List.reverse_ne_nil_iff.mpr (List.cons_ne_nil c w))
      have hmem : x ∈ c :: w := List.mem_reverse.mp (hx ▸ List.mem_cons_self)
      rw [hx, List.dropWhile_cons_of_neg (by simp [hw x hmem])]
    rw [trimBy, hfront, trimEndBy, hback, List.reverse_reverse]

/-- Characters an unquoted reference holds are no whitespace. -/
theorem isCssSpace_of_urlSafe {c : Char} (h : urlSafe c = true) : isCssSpace c = false := by
  simp only [urlSafe, Bool.and_eq_true, Bool.not_eq_eq_eq_not, Bool.not_true] at h
  exact h.1.1.1.1.1.1

/-- **A reference read off a token with its old text** has the old value and quotes. -/
theorem ReadsOff.of_same_text {u u' : UrlValue} {t t' : Token} (hu : ReadsOff u t)
    (hu' : ReadsOff u' t') (hk : t'.kind = t.kind) (htext : t'.text = t.text) :
    u'.value = u.value ∧ u'.quote = u.quote := by
  cases hu with
  | unquoted hk₀ =>
    cases hu' with
    | unquoted _ => simp only [Parser.unquotedUrl, htext, and_self]
    | quoted _ hk' => rw [hk, hk₀] at hk'; cases hk'
  | quoted _ hk₀ =>
    cases hu' with
    | unquoted hk' => rw [hk, hk₀] at hk'; cases hk'
    | quoted _ _ => simp only [htext, and_self]

/-- **A reference read off a token with a safe value written in its old quotes** holds that
value, in those quotes: an unquoted one keeps its whitespace around the value, which trimming
takes off again; a string is the value between its quotes. -/
theorem ReadsOff.of_respliced {text w : List Char} {u u' : UrlValue} {t t' : Token}
    (hu : ReadsOff u t) (hu' : ReadsOff u' t') (ht : TokenOk text t) (hk : t'.kind = t.kind)
    (htext : t'.text = t.respliced (u.quote.mark ++ w ++ u.quote.mark))
    (hw : u.quote.admits w = true) : u'.value = w ∧ u'.quote = u.quote := by
  cases hu with
  | unquoted hk₀ =>
    cases hu' with
    | quoted _ hk' => rw [hk, hk₀] at hk'; cases hk'
    | unquoted _ =>
      obtain ⟨a, b, c, A, B, hsplit, -, -, -, hA, hB, hlead⟩ := ht.url_split hk₀
      have hsafe : ∀ d ∈ w, isCssSpace d = false := fun d hd =>
        isCssSpace_of_urlSafe (List.all_eq_true.mp hw d hd)
      simp only [Parser.unquotedUrl, Quote.mark, List.nil_append, List.append_nil] at htext
      rw [Token.respliced_url hk₀ hsplit hlead] at htext
      refine ⟨?_, rfl⟩
      simp only [Parser.unquotedUrl, htext, List.drop_succ_cons, List.drop_zero,
        List.append_assoc]
      rw [← List.append_assoc, ← List.append_assoc, List.dropLast_concat]
      exact trimBy_between hA hB hsafe
  | quoted _ hk₀ =>
    cases hu' with
    | unquoted hk' => rw [hk, hk₀] at hk'; cases hk'
    | quoted _ _ =>
      obtain ⟨q, hq, hmark, -⟩ := ht.string_quote hk₀
      rw [hmark, Token.respliced, if_neg (by rw [hk₀]; decide)] at htext
      refine ⟨by rw [htext]; simp, ?_⟩
      simp only [htext, hq, List.cons_append, List.head?_cons]

/-! ## (6) Safe paths are writable, and leave tokens alike -/

/-- **A safe path in a reference's own quotes may be written into its token.** -/
theorem ReadsOff.writable {text w : List Char} {u : UrlValue} {t : Token}
    {new : Span → Option (List Char)} (hu : ReadsOff u t) (ht : TokenOk text t)
    (hw : u.quote.admits w = true)
    (hnew : new t.valueSpan = some (u.quote.mark ++ w ++ u.quote.mark)) : Writable new t := by
  intro m hm
  rw [hnew, Option.some.injEq] at hm
  subst hm
  cases hu with
  | unquoted hk =>
    have hq : (Parser.unquotedUrl t).quote = .none := rfl
    rw [hq, Quote.admits] at hw
    rw [hq]
    exact .inl ⟨hk, by simpa [Quote.mark] using List.all_eq_true.mp hw⟩
  | quoted span hk =>
    obtain ⟨q, hq, hmark, hadmits⟩ := ht.string_quote hk
    rw [hadmits] at hw
    exact .inr ⟨hk, q, w, hq, by rw [hmark]; rfl, List.all_eq_true.mp hw⟩

/-- **A token with a writable value written in is alike the old one** to the parser: a reference
or a string changes its value only, and a string keeps its opening quote. -/
theorem Retexted.alike {new : Span → Option (List Char)} {t t' : Token} (hw : Writable new t)
    (h : Retexted new t t') : Alike t t' where
  kind := h.1
  text hu hs := by rw [h.2, hw.eq_none hu hs]; rfl
  quote hs := by
    cases hnew : new t.valueSpan with
    | none => rw [h.2, hnew]; rfl
    | some m =>
      rcases hw m hnew with ⟨hu, -⟩ | ⟨-, q, w, hq, rfl, -⟩
      · rw [hs] at hu
        cases hu
      · rw [h.2, hnew, Option.map_some, Option.getD_some, Token.respliced,
          if_neg (by rw [hs]; decide), hq]
        rfl

end Css

namespace Rebase

/-- **The occurrences of a parsed text sit, in order, at value spans of its tokens.** -/
theorem locate_spans_sublist (s : String) (index : LineIndex) :
    List.Sublist ((locate (Css.parse s).stylesheet index).map Occurrence.span)
      ((Css.tokenize s).map Css.Token.valueSpan) := by
  refine List.Sublist.trans ?_ (Css.urls_readFrom s).valueSpans_sublist
  rw [locate_eq_filterMap, List.map_filterMap]
  refine filterMap_sublist_map (fun u sp h => ?_) _
  obtain ⟨o, ho, rfl⟩ := Option.map_eq_some_iff.mp h
  obtain ⟨_, _, rfl⟩ := Option.map_eq_some_iff.mp ho
  rfl

/-- The pending references of a stylesheet are some of its occurrences, in order. -/
theorem eligible_occurrences_sublist (css : String) (sheet : Css.Stylesheet) (map : SourceMap)
    (options : Options) :
    List.Sublist ((eligible css sheet map options).map Pending.occurrence)
      (locate sheet (LineIndex.ofString css)) := by
  rw [eligible, List.map_filterMap]
  conv => rhs; rw [← List.map_id (locate sheet (LineIndex.ofString css))]
  refine filterMap_sublist_map (fun o o' h => ?_) _
  obtain ⟨p, hp, rfl⟩ := Option.map_eq_some_iff.mp h
  exact pendingOf_occurrence hp

/-! ## (7) Occurrences at tokens -/

section Occurrences

variable (s : String)

/-- **The occurrences of a parsed text have distinct spans.** -/
theorem locate_spans_nodup :
    ((locate (Css.parse s).stylesheet (LineIndex.ofString s)).map Occurrence.span).Nodup :=
  (locate_spans_sublist s _).nodup (Css.tokenize_valueSpan_nodup s)

/-- **Each occurrence is read off a token**, at the token's value span. -/
theorem locate_reads_off :
    ∀ o ∈ locate (Css.parse s).stylesheet (LineIndex.ofString s), ∃ u t,
      t ∈ Css.tokenize s ∧ Css.ReadsOff u t ∧ o.raw = u.value ∧ o.quote = u.quote ∧
        o.span = t.valueSpan := by
  rw [locate_eq_filterMap]
  intro o ho
  obtain ⟨u, hu, ho⟩ := List.mem_filterMap.mp ho
  obtain ⟨_, _, rfl⟩ := Option.map_eq_some_iff.mp ho
  obtain ⟨t, ht, hr⟩ := (Css.urls_readFrom s).exists_token u hu
  exact ⟨u, t, ht, hr, rfl, rfl, hr.valueSpan_eq⟩

end Occurrences

/-! ## (8) What decisions write -/

/-- **What decisions write at a span**, quotes included, if one is about the reference there. -/
def replacementAt (ds : List Decision) (sp : Span) : Option (List Char) :=
  (ds.map fun d => (d.occurrence.span, d.replacement)).lookup sp

/-- **The path decisions write at a span**, if one is about the reference there. -/
def rebasedAt (ds : List Decision) (sp : Span) : Option (List Char) :=
  (ds.map fun d => (d.occurrence.span, d.rebased)).lookup sp

section Decisions

variable {css : String} {ds : List Decision}
  (hds : List.Sublist (ds.map Decision.occurrence)
    (locate (Css.parse css).stylesheet (LineIndex.ofString css)))
include hds

/-- Decisions about distinct occurrences are at distinct spans. -/
theorem decisions_spans_nodup : (ds.map fun d => d.occurrence.span).Nodup := by
  have h := (hds.map Occurrence.span).nodup (locate_spans_nodup css)
  rwa [List.map_map] at h

theorem rebasedAt_of_mem {d : Decision} (hd : d ∈ ds) :
    rebasedAt ds d.occurrence.span = some d.rebased :=
  lookup_map_of_mem (decisions_spans_nodup hds) hd

/-- Where the decisions write no replacement they write no path. -/
theorem rebasedAt_eq_none {sp : Span} (h : replacementAt ds sp = none) :
    rebasedAt ds sp = none := by
  cases hreb : rebasedAt ds sp with
  | none => rfl
  | some w =>
    obtain ⟨d, hd, rfl, -⟩ := exists_of_lookup_map hreb
    have hrep : replacementAt ds d.occurrence.span = some d.replacement :=
      lookup_map_of_mem (decisions_spans_nodup hds) hd
    rw [h] at hrep
    cases hrep

/-- **A splice of decisions about a text's occurrences makes their edits**, and records them. -/
theorem splice_replaced {rw : Spliced} (hsplice : splice css.toList ds = .ok rw) :
    Replaced 0 css.toList (ds.map Decision.edit) rw.css ∧ rw.records = ds.map Decision.record := by
  have hocc : ∀ d ∈ ds,
      d.occurrence ∈ locate (Css.parse css).stylesheet (LineIndex.ofString css) :=
    fun d hd => hds.subset (List.mem_map_of_mem hd)
  have hord : (ds.map Decision.edit).Pairwise fun e e' => e.1.stop ≤ e'.1.start := by
    have h := (locate_ordered css _).sublist hds
    rw [List.pairwise_map] at h ⊢
    exact h
  obtain ⟨out, hout⟩ := replaced_of_located (ds.map Decision.edit) [] css.toList rfl
    (fun e he => by
      obtain ⟨d, hd, rfl⟩ := List.mem_map.mp he
      exact ⟨Nat.zero_le _, _, locate_located css _ d.occurrence (hocc d hd)⟩) hord
  obtain ⟨rw', hsplice', hcss, hrecords⟩ := splice_of_replaced hout
  rw [hsplice] at hsplice'
  cases hsplice'
  exact ⟨hcss ▸ hout, hrecords⟩

section Safe

variable (hsafe : ∀ d ∈ ds, d.occurrence.quote.admits d.rebased = true)
include hsafe

/-- **What the decisions write into a token**: a path, in the quotes the token reads in, that
those quotes admit. -/
theorem replacementAt_token {t : Css.Token} (ht : t ∈ Css.tokenize css) {m : List Char}
    (hm : replacementAt ds t.valueSpan = some m) :
    ∃ u w, Css.ReadsOff u t ∧ m = u.quote.mark ++ w ++ u.quote.mark ∧ u.quote.admits w = true ∧
      rebasedAt ds t.valueSpan = some w := by
  obtain ⟨d, hd, hsp, rfl⟩ := exists_of_lookup_map hm
  obtain ⟨u, t₀, ht₀, hu, -, hquote, hsp₀⟩ :=
    locate_reads_off css d.occurrence (hds.subset (List.mem_map_of_mem hd))
  -- the decision's occurrence is read off a token at the same value span: this one
  obtain rfl : t₀ = t :=
    List.inj_on_of_nodup_map (Css.tokenize_valueSpan_nodup css) ht₀ ht (hsp₀.symm.trans hsp)
  refine ⟨u, d.rebased, hu, by rw [Decision.replacement, hquote], hquote ▸ hsafe d hd, ?_⟩
  rw [← hsp]
  exact rebasedAt_of_mem hds hd

/-- **Safe decisions write only what tokens hold.** -/
theorem writable_of_safe : ∀ t ∈ Css.tokenize css, Css.Writable (replacementAt ds) t := by
  intro t ht m hm
  obtain ⟨u, w, hu, rfl, hadmits, -⟩ := replacementAt_token hds hsafe ht hm
  exact hu.writable (Css.tokenize_ok css t ht) hadmits hm _ hm

section Spliced

variable (hparse : (Css.parse css).errors = []) {out : List Char}
  (hrep : Replaced 0 css.toList (ds.map Decision.edit) out)
include hparse hrep

/-- **The tokens of the spliced text** are the old ones, one for one, each with what the
decisions write at its value span. -/
theorem tokenize_retexted :
    List.Forall₂ (fun t t' => t ∈ Css.tokenize css ∧ Css.Retexted (replacementAt ds) t t')
      (Css.tokenize css) (Css.tokenize (String.ofList out)) := by
  have hedits : Css.editsFor (replacementAt ds) (Css.tokenize css) = ds.map Decision.edit := by
    refine Css.editsFor_lookup (Css.tokenize_valueSpan_nodup css) ?_
    have h := (hds.map Occurrence.span).trans (locate_spans_sublist css _)
    rw [List.map_map] at h
    rw [List.map_map]
    exact h
  have hret := Css.Lexer.tokensFrom_retexted (replacementAt ds) css.utf8ByteSize
    (String.ofList out).utf8ByteSize css.toList 0 [] rfl (utf8ByteSize_eq_utf8Length css)
    (Css.not_badUrl_of_errors_nil hparse) (writable_of_safe hds hsafe) out 0
    (by rw [← Css.tokenize, hedits]; exact hrep)
  rw [List.forall₂_and_left]
  refine ⟨fun _ h => h, ?_⟩
  rw [Css.tokenize, Css.tokenize, String.toList_ofList]
  exact hret

/-- **The references of the spliced text**: it parses without errors, and has the old references
one for one, in their old quotes, each holding the path written at its value, if any, and its
old value otherwise. -/
theorem urls_read_back :
    (Css.parse (String.ofList out)).errors = [] ∧
      List.Forall₂ (fun u u' => u'.quote = u.quote ∧
          u'.value = (rebasedAt ds u.valueSpan).getD u.value)
        (Css.parse css).stylesheet.urls (Css.parse (String.ofList out)).stylesheet.urls := by
  have hw := writable_of_safe hds hsafe
  obtain ⟨herr, hurls⟩ := Css.parse_congr (fun h => h.2.alike (hw _ h.1))
    (tokenize_retexted hds hsafe hparse hrep)
  refine ⟨by rwa [hparse, List.length_nil, List.length_eq_zero_iff] at herr, ?_⟩
  refine hurls.imp fun u u' ⟨_, _, t, t', _, ⟨ht, hret⟩, hu, hu', _, _⟩ => ?_
  rw [hu.valueSpan_eq]
  cases hm : replacementAt ds t.valueSpan with
  | none =>
    -- nothing written: the token keeps its text, the reference its value
    obtain ⟨hv, hq⟩ := hu.of_same_text hu' hret.1 (by rw [hret.2, hm]; rfl)
    rw [rebasedAt_eq_none hds hm]
    exact ⟨hq, hv⟩
  | some m =>
    obtain ⟨u₀, w, hu₀, rfl, hadmits, hreb⟩ := replacementAt_token hds hsafe ht hm
    obtain ⟨-, hq⟩ := hu₀.same hu
    rw [← hq] at hadmits hm
    obtain ⟨hv, hq'⟩ := hu.of_respliced hu' (Css.tokenize_ok css t ht) hret.1
      (by rw [hret.2, hm]; rfl) hadmits
    rw [hreb]
    exact ⟨hq', hv⟩

/-- **The occurrences of the spliced text**: the old ones, one for one, in their old quotes, each
holding the path written at its span, if any, and its old value otherwise. -/
theorem locate_read_back :
    List.Forall₂ (fun o o' => o'.quote = o.quote ∧ o'.raw = (rebasedAt ds o.span).getD o.raw)
      (locate (Css.parse css).stylesheet (LineIndex.ofString css))
      (locate (Css.parse (String.ofList out)).stylesheet
        (LineIndex.ofString (String.ofList out))) := by
  -- both sides are read through value, quote and span, which locating keeps
  have h : List.Forall₂ (fun x y : List Char × Css.Quote × Span =>
        y.2.1 = x.2.1 ∧ y.1 = (rebasedAt ds x.2.2).getD x.1)
      ((Css.parse css).stylesheet.urls.map fun u => (u.value, u.quote, u.valueSpan))
      ((Css.parse (String.ofList out)).stylesheet.urls.map
        fun u => (u.value, u.quote, u.valueSpan)) := by
    rw [List.forall₂_map_left_iff, List.forall₂_map_right_iff]
    exact (urls_read_back hds hsafe hparse hrep).2
  rw [← locate_keeps_urls, ← locate_keeps_urls, List.forall₂_map_left_iff,
    List.forall₂_map_right_iff] at h
  exact h

end Spliced

end Safe

end Decisions

/-! ## (9) Reading back -/

/-- **Occurrences read back after a rebase**, against the records of the references rewritten, in
text order: one new occurrence for each old one, in the same quotes, holding the path its record
wrote if it was rewritten, and its old value otherwise. -/
inductive ReadsBack : List Record → List Occurrence → List Occurrence → Prop
  | nil : ReadsBack [] [] []
  | kept {recs : List Record} {os os' : List Occurrence} {o o' : Occurrence} :
      o'.quote = o.quote → o'.raw = o.raw → ReadsBack recs os os' →
      ReadsBack recs (o :: os) (o' :: os')
  | rewritten {recs : List Record} {os os' : List Occurrence} {r : Record} {o o' : Occurrence} :
      r.raw = o.raw → o'.quote = o.quote → o'.raw = r.rebased → ReadsBack recs os os' →
      ReadsBack (r :: recs) (o :: os) (o' :: os')

/-- **Reading back by a table of paths**: when the new occurrences hold what a table writes at the
old ones' spans, and the table writes just the paths of decisions about some of the old
occurrences, in order, they read back against the decisions' records. The induction runs over
the old occurrences; a decision is used up at its own. -/
theorem readsBack_of_table {w : Span → Option (List Char)} :
    ∀ {os os' : List Occurrence} {ds : List Decision}, (os.map Occurrence.span).Nodup →
      List.Sublist (ds.map Decision.occurrence) os →
      (∀ d ∈ ds, w d.occurrence.span = some d.rebased) →
      (∀ o ∈ os, (w o.span).isSome → ∃ d ∈ ds, d.occurrence.span = o.span) →
      List.Forall₂ (fun o o' => o'.quote = o.quote ∧ o'.raw = (w o.span).getD o.raw) os os' →
      ReadsBack (ds.map Decision.record) os os'
  | [], _, ds, _, hsub, _, _, .nil => by
    rw [List.sublist_nil, List.map_eq_nil_iff] at hsub
    subst hsub
    exact .nil
  | o :: os, _, ds, hnd, hsub, hw, hcover, .cons ⟨hq, hraw⟩ hrest => by
    rw [List.map_cons, List.nodup_cons] at hnd
    have hcover' : ∀ o₁ ∈ os, (w o₁.span).isSome → ∃ d ∈ ds, d.occurrence.span = o₁.span :=
      fun o₁ ho₁ => hcover o₁ (List.mem_cons_of_mem _ ho₁)
    rcases List.sublist_cons_iff.mp hsub with hsub | ⟨r, hr, hsub⟩
    · -- no decision is about `o`: its span is none of theirs, and it keeps its value
      have hnone : w o.span = none := by
        cases hwo : w o.span with
        | none => rfl
        | some c =>
          obtain ⟨d, hd, hsp⟩ := hcover o List.mem_cons_self (by rw [hwo]; rfl)
          have hmem : d.occurrence ∈ os := hsub.subset (List.mem_map_of_mem hd)
          exact absurd (hsp ▸ List.mem_map_of_mem hmem) hnd.1
      rw [hnone, Option.getD_none] at hraw
      exact .kept hq hraw (readsBack_of_table hnd.2 hsub hw hcover' hrest)
    · -- the first decision is about `o`, and the others about later occurrences
      obtain ⟨d, ds', rfl, hdo, rfl⟩ := List.map_eq_cons_iff.mp hr
      have hlater : ∀ o₁ ∈ os, (w o₁.span).isSome →
          ∃ d₁ ∈ ds', d₁.occurrence.span = o₁.span := by
        intro o₁ ho₁ hsome
        obtain ⟨d₁, hd₁, hsp⟩ := hcover' o₁ ho₁ hsome
        rcases List.mem_cons.mp hd₁ with rfl | hd₁
        · rw [hdo] at hsp
          exact absurd (hsp ▸ List.mem_map_of_mem ho₁) hnd.1
        · exact ⟨d₁, hd₁, hsp⟩
      have hwo : w o.span = some d.rebased := hdo ▸ hw d List.mem_cons_self
      rw [hwo, Option.getD_some] at hraw
      exact .rewritten (by rw [← hdo]; rfl) hq hraw (readsBack_of_table hnd.2 hsub
        (fun d₁ hd₁ => hw d₁ (List.mem_cons_of_mem _ hd₁)) hlater hrest)

/-- **Splicing safe paths into a text's references gives a text that reads back**: for
decisions about some of the occurrences of a text that parses without errors, in order, each
writing a path its reference's quotes admit, the spliced text parses without errors, and its
occurrences read back against the splice's records. -/
theorem splice_reads_back {css : String} {ds : List Decision}
    (hds : List.Sublist (ds.map Decision.occurrence)
      (locate (Css.parse css).stylesheet (LineIndex.ofString css)))
    (hparse : (Css.parse css).errors = [])
    (hsafe : ∀ d ∈ ds, d.occurrence.quote.admits d.rebased = true) {rw : Spliced}
    (hsplice : splice css.toList ds = .ok rw) :
    (Css.parse (String.ofList rw.css)).errors = [] ∧
      ReadsBack rw.records (locate (Css.parse css).stylesheet (LineIndex.ofString css))
        (locate (Css.parse (String.ofList rw.css)).stylesheet
          (LineIndex.ofString (String.ofList rw.css))) := by
  obtain ⟨hrep, hrecords⟩ := splice_replaced hds hsplice
  refine ⟨(urls_read_back hds hsafe hparse hrep).1, ?_⟩
  rw [hrecords]
  refine readsBack_of_table (locate_spans_nodup css) hds (fun d hd => rebasedAt_of_mem hds hd)
    (fun o _ hsome => ?_) (locate_read_back hds hsafe hparse hrep)
  obtain ⟨c, hc⟩ := Option.isSome_iff_exists.mp hsome
  obtain ⟨d, hd, hsp, -⟩ := exists_of_lookup_map hc
  exact ⟨d, hd, hsp⟩

/-! ## (10) A run that writes safe paths -/

/-- **A verdict's decision** is about its reference, and writes the path the verdict writes. -/
theorem Pending.decision_eq_some {p : Pending} {v : Verdict} {d : Decision}
    (h : p.decision v = some d) :
    d.occurrence = p.occurrence ∧ v.written p.resolved = some d.rebased := by
  obtain ⟨w, hw, rfl⟩ := Option.map_eq_some_iff.mp h
  exact ⟨rfl, hw⟩

/-- **Answers read without failure are all verdicts**, and give those verdicts' decisions. The
induction runs over the answers. -/
theorem decisionsOf_eq_ok : ∀ {xs : List (Pending × Outcome)} {ds : List Decision},
    decisionsOf xs = .ok ds → ∃ vs : List (Pending × Verdict),
      xs = vs.map (fun x => (x.1, .decided x.2)) ∧ ds = vs.filterMap fun x => x.1.decision x.2
  | [], _, h => ⟨[], rfl, (Except.ok.inj h).symm⟩
  | (p, o) :: rest, ds, h => by
    rw [decisionsOf_cons] at h
    cases o with
    | decided v =>
      rw [Pending.decide_eq_decision] at h
      cases hr : decisionsOf rest with
      | error e =>
        rw [hr] at h
        cases h
      | ok ds' =>
        rw [hr] at h
        obtain ⟨vs, rfl, rfl⟩ := decisionsOf_eq_ok hr
        refine ⟨(p, v) :: vs, rfl, ?_⟩
        rw [← Except.ok.inj h, List.filterMap_cons]
        cases p.decision v <;> rfl
    | failed e => cases h
    | crashed => cases h

/-- An answer is the policy's answer, at some index, about a pending reference. -/
theorem mem_answersOf {policy : Policy} {pending : List Pending} {p : Pending} {o : Outcome}
    (h : (p, o) ∈ answersOf policy pending) : p ∈ pending ∧ ∃ i, policy i p.request = o := by
  obtain ⟨⟨p', i⟩, hmem, heq⟩ := List.mem_map.mp h
  obtain ⟨rfl, rfl⟩ := Prod.mk.inj heq
  have hp := List.mem_map_of_mem (f := Prod.fst) hmem
  rw [List.zipIdx_map_fst] at hp
  exact ⟨hp, i, rfl⟩

/-- The answers are about the pending references, in order. -/
theorem answersOf_occurrences (policy : Policy) (pending : List Pending) :
    (answersOf policy pending).map (fun a => a.1.occurrence) = pending.map Pending.occurrence := by
  rw [answersOf, List.map_map]
  conv => rhs; rw [← List.zipIdx_map_fst 0 pending, List.map_map]
  rfl

section Answers

variable {policy : Policy} {pending : List Pending} {ds : List Decision}
  (h : decisionsOf (answersOf policy pending) = .ok ds)
include h

/-- **The decisions read off the answers are about pending references**, in order. -/
theorem decisionsOf_occurrences :
    List.Sublist (ds.map Decision.occurrence) (pending.map Pending.occurrence) := by
  obtain ⟨vs, hxs, rfl⟩ := decisionsOf_eq_ok h
  have hvs : vs.map (fun x => x.1.occurrence) = pending.map Pending.occurrence := by
    rw [← answersOf_occurrences policy, hxs, List.map_map]
    rfl
  rw [List.map_filterMap, ← hvs]
  refine filterMap_sublist_map (fun x d hd => ?_) vs
  obtain ⟨d', hd', rfl⟩ := Option.map_eq_some_iff.mp hd
  exact (Pending.decision_eq_some hd').1

/-- **Each decision read off the answers writes what the policy decided** about its reference. -/
theorem decisionsOf_written : ∀ d ∈ ds, ∃ p ∈ pending, ∃ i v,
    policy i p.request = .decided v ∧ d.occurrence = p.occurrence ∧
      v.written p.resolved = some d.rebased := by
  obtain ⟨vs, hxs, rfl⟩ := decisionsOf_eq_ok h
  intro d hd
  obtain ⟨x, hx, hdx⟩ := List.mem_filterMap.mp hd
  have hans : (x.1, Outcome.decided x.2) ∈ answersOf policy pending := by
    rw [hxs]
    exact List.mem_map_of_mem hx
  obtain ⟨hp, i, hi⟩ := mem_answersOf hans
  exact ⟨x.1, hp, i, x.2, hi, Pending.decision_eq_some hdx⟩

end Answers

section Run

variable (schedule : Schedule) (css : String) (given : Option SourceMap) (policy : Policy)
  (options : Options)

/-- **A successful run** read decisions off every answer and spliced them into the text. -/
theorem runIn_eq_ok {map : SourceMap} {r : Rebased} (hparse : (Css.parse css).errors = [])
    (hmap : mapFor given (Css.parse css).stylesheet = .ok map)
    (hrun : (runIn schedule css given policy options).result = .ok r) :
    ∃ ds rw, decisionsOf (answersOf policy (eligible css (Css.parse css).stylesheet map options)) =
        .ok ds ∧ splice css.toList ds = .ok rw ∧ r.css = rw.css ∧ r.rebases = rw.records := by
  rw [runIn_of_map schedule css given policy options hparse hmap, Run.ofResult_result] at hrun
  cases hds : decisionsOf (answersOf policy (eligible css (Css.parse css).stylesheet map options))
    with
  | error e =>
    rw [hds] at hrun
    cases hrun
  | ok ds =>
    cases hsplice : splice css.toList ds with
    | error e => simp only [hds, hsplice, Except.bind, Except.mapError, reduceCtorEq] at hrun
    | ok rw =>
      simp only [hds, hsplice, Except.bind, Except.mapError, Except.ok.injEq] at hrun
      subst hrun
      exact ⟨ds, rw, rfl, hsplice, rfl, rfl⟩

/-- **A rebased stylesheet reads back.** For every stylesheet that parses without errors, every
source map found for it, every options and every policy, when every path the policy's answers
write for an eligible reference is one its quotes admit (no whitespace, quote, bracket,
backslash or control character unquoted; neither the quote, a backslash nor a line break in a
string), a successful run gives a stylesheet that parses without errors, whose occurrences are
the old ones one for one, in the same order and quotes, each rewritten one holding the path its
record wrote and every other one its old value. -/
theorem runIn_reads_back {map : SourceMap} {r : Rebased} (hparse : (Css.parse css).errors = [])
    (hmap : mapFor given (Css.parse css).stylesheet = .ok map)
    (hsafe : ∀ p ∈ eligible css (Css.parse css).stylesheet map options, ∀ i v,
      policy i p.request = .decided v → ∀ w ∈ v.written p.resolved,
        p.occurrence.quote.admits w = true)
    (hrun : (runIn schedule css given policy options).result = .ok r) :
    (Css.parse (String.ofList r.css)).errors = [] ∧
      ReadsBack r.rebases (locate (Css.parse css).stylesheet (LineIndex.ofString css))
        (locate (Css.parse (String.ofList r.css)).stylesheet
          (LineIndex.ofString (String.ofList r.css))) := by
  obtain ⟨ds, rw, hds, hsplice, hcss, hrecords⟩ :=
    runIn_eq_ok schedule css given policy options hparse hmap hrun
  -- the decisions are about eligible references, in order, and write safe paths
  have hsub := (decisionsOf_occurrences hds).trans (eligible_occurrences_sublist css _ map options)
  have hsafe' : ∀ d ∈ ds, d.occurrence.quote.admits d.rebased = true := by
    intro d hd
    obtain ⟨p, hp, i, v, hi, hocc, hw⟩ := decisionsOf_written hds d hd
    rw [hocc]
    exact hsafe p hp i v hi d.rebased hw
  rw [hcss, hrecords]
  exact splice_reads_back hsub hparse hsafe' hsplice

/-- **A map for one-line stylesheets**: all of the first line comes from `src/a.scss`. -/
def firstLineFromA : SourceMap :=
  SourceMap.make none #[⟨0, 0, 0, 0, some 0, none, false⟩] #["src/a.scss"] #[] #[]

/-- Renaming `x.png` to `y.png`: the path is safe, and the rebased stylesheet reads back. -/
theorem runIn_reads_back_renamed :
    (Css.parse ".a{b:url(x.png)}").errors = [] ∧
      mapFor (some firstLineFromA) (Css.parse ".a{b:url(x.png)}").stylesheet = .ok firstLineFromA ∧
      (∀ p ∈ eligible ".a{b:url(x.png)}" (Css.parse ".a{b:url(x.png)}").stylesheet
          firstLineFromA {}, ∀ i v, (fun _ _ => .decided (.override "y.png".toList) : Policy) i p.request = .decided v →
          ∀ w ∈ v.written p.resolved, p.occurrence.quote.admits w = true) ∧
      (runIn .inOrder ".a{b:url(x.png)}" (some firstLineFromA)
          (fun _ _ => .decided (.override "y.png".toList)) {}).result =
        .ok ⟨".a{b:url(y.png)}".toList, none,
          [⟨"x.png".toList, "src/x.png".toList, "y.png".toList⟩]⟩ ∧
      (Css.parse (String.ofList ".a{b:url(y.png)}".toList)).errors = [] ∧
      ReadsBack [⟨"x.png".toList, "src/x.png".toList, "y.png".toList⟩]
        (locate (Css.parse ".a{b:url(x.png)}").stylesheet (LineIndex.ofString ".a{b:url(x.png)}"))
        (locate (Css.parse (String.ofList ".a{b:url(y.png)}".toList)).stylesheet
          (LineIndex.ofString (String.ofList ".a{b:url(y.png)}".toList))) := by
  have hparse : (Css.parse ".a{b:url(x.png)}").errors = [] := by decide +kernel
  have hsafe : ∀ p ∈ eligible ".a{b:url(x.png)}" (Css.parse ".a{b:url(x.png)}").stylesheet
      firstLineFromA {}, ∀ i v,
        (fun _ _ => .decided (.override "y.png".toList) : Policy) i p.request = .decided v →
          ∀ w ∈ v.written p.resolved, p.occurrence.quote.admits w = true := by
    intro p _ i v hv w hw
    cases hv
    cases hw
    cases p.occurrence.quote <;> decide
  -- the run's result, read through what can be compared
  have hrun : (runIn .inOrder ".a{b:url(x.png)}" (some firstLineFromA)
      (fun _ _ => .decided (.override "y.png".toList)) {}).result =
        .ok ⟨".a{b:url(y.png)}".toList, none,
          [⟨"x.png".toList, "src/x.png".toList, "y.png".toList⟩]⟩ := by
    have h : ((runIn .inOrder ".a{b:url(x.png)}" (some firstLineFromA)
        (fun _ _ => .decided (.override "y.png".toList)) {}).result.toOption.map
          fun r => (r.css, r.map.isNone, r.rebases)) =
        some (".a{b:url(y.png)}".toList, true,
          [⟨"x.png".toList, "src/x.png".toList, "y.png".toList⟩]) := by
      decide +kernel
    cases hres : (runIn .inOrder ".a{b:url(x.png)}" (some firstLineFromA)
      (fun _ _ => .decided (.override "y.png".toList)) {}).result with
    | error e =>
      rw [hres] at h
      cases h
    | ok r =>
      rw [hres] at h
      obtain ⟨css, map, rebases⟩ := r
      simp only [Except.toOption, Option.map_some, Option.some.injEq, Prod.mk.injEq,
        Option.isNone_iff_eq_none] at h
      obtain ⟨rfl, rfl, rfl⟩ := h
      rfl
  exact ⟨hparse, rfl, hsafe, hrun, runIn_reads_back .inOrder ".a{b:url(x.png)}"
    (some firstLineFromA) _ {} hparse rfl hsafe hrun⟩

/-- **An unsafe path breaks its reference**: written as it is into an unquoted reference, a path
with a space leaves a stylesheet that records an error and has no reference. -/
theorem runIn_spaced_path_breaks :
    (Css.parse ".a{b:url(x.png)}").errors = [] ∧
      ((runIn .inOrder ".a{b:url(x.png)}" (some firstLineFromA)
          (fun _ _ => .decided (.override "my dir/x.png".toList)) {}).result.toOption.map
        fun r => (String.ofList r.css, (Css.parse (String.ofList r.css)).errors.length,
          (locate (Css.parse (String.ofList r.css)).stylesheet
            (LineIndex.ofString (String.ofList r.css))).length)) =
        some (".a{b:url(my dir/x.png)}", 1, 0) := by
  decide +kernel

end Run

end Rebase

end StyleRebase
