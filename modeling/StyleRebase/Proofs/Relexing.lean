import Mathlib.Data.List.Forall2
import StyleRebase.Proofs.ReferenceSpans
import StyleRebase.Proofs.ScanLocality

/-! # Scanning a text with references rewritten

Rebasing writes a path into each reference it rewrites, as it is. When the path is safe for its
place — no whitespace, quote, bracket, backslash or control character in an unquoted `url(...)`,
neither the quote, a backslash nor a line break in a string — the scanner reads the rewritten
text as it read the old one: the same tokens, one for one and of the same kinds, each with its
old text except the rewritten ones, which hold the new value.

* **`Token.valueSpan`**, **`Token.respliced`** — where a reference token's value is written, and
  the token's text with another value there.
* **`Writable`** — what may be written into a token: a safe path.
* **`Retexted`** — a token of the rewritten text against the old one.
* **`Lexer.tokensFrom_retexted`** — the scan of a rewritten text, token for token. -/

namespace StyleRebase

namespace Css

/-! ## (1) Values and safe paths -/

/-- **The span a token's value is written at**: the trimmed body of an unquoted reference, the
whole of any other token (quotes included for a string). -/
def Token.valueSpan (t : Token) : Span :=
  if t.kind = .url then (Parser.unquotedUrl t).valueSpan else t.span

/-- **The whitespace at the head of a reference body.** -/
def Token.urlLead (t : Token) : Nat := ((t.text.drop 4).dropLast.takeWhile isCssSpace).length

/-- **A token's text with its value replaced by `new`**: `url(`, the leading whitespace, `new`,
the trailing whitespace and `)` for an unquoted reference; `new` itself otherwise. -/
def Token.respliced (t : Token) (new : List Char) : List Char :=
  if t.kind = .url then
    t.text.take (4 + t.urlLead) ++ new ++
      t.text.drop (4 + t.urlLead + (Parser.unquotedUrl t).value.length)
  else new

/-- **Characters an unquoted reference holds as they are**: no CSS whitespace, quote, bracket,
backslash or control character. -/
def urlSafe (c : Char) : Bool :=
  !isCssSpace c && c != '"' && c != '\'' && c != '(' && c != ')' && c != '\\' && !isControlChar c

/-- **Characters a string quoted with `q` holds as they are**: not `q`, no backslash and no line
break. -/
def stringSafe (q c : Char) : Bool := c != q && c != '\\' && !isCssNewline c

/-- **What may be written into a token**: a path of safe characters into an unquoted reference,
the string's own quotes around a path of safe characters into a string, and nothing into any
other token. -/
def Writable (new : Span → Option (List Char)) (t : Token) : Prop :=
  ∀ m, new t.valueSpan = some m →
    (t.kind = .url ∧ ∀ c ∈ m, urlSafe c = true) ∨
    (t.kind = .string ∧ ∃ q w, t.text.head? = some q ∧ m = q :: (w ++ [q]) ∧
      ∀ c ∈ w, stringSafe q c = true)

/-- **The edits that `new` makes to a list of tokens**, in order: each token's value span with
what is written there. -/
def editsFor (new : Span → Option (List Char)) (ts : List Token) : List (Span × List Char) :=
  ts.filterMap fun t => (new t.valueSpan).map fun m => (t.valueSpan, m)

/-- **A token of the rewritten text against the old one**: the same kind, and the old text with
the value that `new` writes at its value span, if any. -/
def Retexted (new : Span → Option (List Char)) (t t' : Token) : Prop :=
  t'.kind = t.kind ∧ t'.text = ((new t.valueSpan).map t.respliced).getD t.text

variable {new : Span → Option (List Char)} {text : List Char} {t : Token} {ts : List Token}

theorem Token.valueSpan_url (hk : t.kind = .url) :
    t.valueSpan = ⟨t.span.start + 4 + t.urlLead,
      t.span.start + 4 + t.urlLead + utf8Length (Parser.unquotedUrl t).value⟩ := by
  rw [Token.valueSpan, if_pos hk]
  rfl

theorem Token.valueSpan_of_ne (hk : t.kind ≠ .url) : t.valueSpan = t.span := by
  rw [Token.valueSpan, if_neg hk]

/-- **A token's value starts within it.** -/
theorem TokenOk.start_le_valueSpan (ht : TokenOk text t) : t.span.start ≤ t.valueSpan.start := by
  by_cases hk : t.kind = .url
  · rw [Token.valueSpan, if_pos hk]
    exact (ReadsOff.unquoted_located ht hk).2.1
  · exact Nat.le_of_eq (congrArg Span.start (Token.valueSpan_of_ne hk)).symm

/-- **An unquoted reference token cut at its value**: `url(`, the leading whitespace, the
value, the trailing whitespace and `)`. -/
theorem TokenOk.url_split (ht : TokenOk text t) (hk : t.kind = .url) :
    ∃ a b c A B, t.text = a :: b :: c :: '(' :: (A ++ (Parser.unquotedUrl t).value ++ B ++ [')']) ∧
      a.utf8Size = 1 ∧ b.utf8Size = 1 ∧ c.utf8Size = 1 ∧ (∀ d ∈ A, isCssSpace d = true) ∧
      (∀ d ∈ B, isCssSpace d = true) ∧ A.length = t.urlLead := by
  obtain ⟨a, b, c, body, hshape, ha, hb, hc⟩ := ht.url_shape hk
  obtain ⟨back, hbody, hback⟩ := trimBy_split isCssSpace body
  have hinner : (t.text.drop 4).dropLast = body := by
    rw [hshape]
    simp
  refine ⟨a, b, c, body.takeWhile isCssSpace, back, ?_, ha, hb, hc,
    fun d hd => List.all_eq_true.mp List.all_takeWhile d hd, hback, by rw [Token.urlLead, hinner]⟩
  simp only [Parser.unquotedUrl, hinner]
  rw [hshape]
  conv => lhs; rw [hbody]

/-- **Respliced reference text**: the new value between the old whitespace. -/
theorem Token.respliced_url {a b c : Char} {A B : List Char} (hk : t.kind = .url)
    (htext : t.text = a :: b :: c :: '(' :: (A ++ (Parser.unquotedUrl t).value ++ B ++ [')']))
    (hA : A.length = t.urlLead) (m : List Char) :
    t.respliced m = a :: b :: c :: '(' :: (A ++ m ++ B ++ [')']) := by
  rw [Token.respliced, if_pos hk, ← hA]
  generalize (Parser.unquotedUrl t).value = V at htext ⊢
  rw [htext, show 4 + A.length + V.length = (A.length + V.length) + 1 + 1 + 1 + 1 by omega,
    show 4 + A.length = A.length + 1 + 1 + 1 + 1 by omega]
  simp [List.drop_append]

/-- Nothing is written into a token that is neither a reference nor a string. -/
theorem Writable.eq_none (h : Writable new t) (hu : t.kind ≠ .url) (hs : t.kind ≠ .string) :
    new t.valueSpan = none := by
  cases hm : new t.valueSpan with
  | none => rfl
  | some m =>
    rcases h m hm with ⟨hk, -⟩ | ⟨hk, -⟩
    · exact absurd hk hu
    · exact absurd hk hs

theorem Retexted.of_none (h : new t.valueSpan = none) {t' : Token} (hk : t'.kind = t.kind)
    (htext : t'.text = t.text) : Retexted new t t' :=
  ⟨hk, by rw [h, htext]; rfl⟩

theorem editsFor_cons_none (h : new t.valueSpan = none) :
    editsFor new (t :: ts) = editsFor new ts := by
  simp [editsFor, h]

theorem editsFor_cons_some {m : List Char} (h : new t.valueSpan = some m) :
    editsFor new (t :: ts) = (t.valueSpan, m) :: editsFor new ts := by
  simp [editsFor, h]

/-- **Every edit writes at the value span of one of the tokens.** -/
theorem mem_editsFor {e : Span × List Char} (he : e ∈ editsFor new ts) :
    ∃ t ∈ ts, e.1 = t.valueSpan ∧ new t.valueSpan = some e.2 := by
  obtain ⟨t, ht, hmap⟩ := List.mem_filterMap.mp he
  obtain ⟨m, hm, rfl⟩ := Option.map_eq_some_iff.mp hmap
  exact ⟨t, ht, rfl, hm⟩

/-- Edits into tokens that start at or after `p` start at or after `p`. -/
theorem editsFor_start_ge {p : Nat} (hts : ∀ t ∈ ts, TokenOk text t ∧ p ≤ t.span.start) :
    ∀ e ∈ editsFor new ts, p ≤ e.1.start := by
  intro e he
  obtain ⟨t, ht, he1, -⟩ := mem_editsFor he
  rw [he1]
  exact Nat.le_trans (hts t ht).2 (hts t ht).1.start_le_valueSpan

end Css

/-! ## (2) Cutting replaced texts -/

/-- **Two prefixes of one text with as many bytes are equal.** -/
theorem append_eq_of_utf8Length {a b r r' : List Char} (h : a ++ r = b ++ r')
    (hlen : utf8Length a = utf8Length b) : a = b ∧ r = r' := by
  obtain ⟨x, rfl⟩ : a <+: b :=
    prefix_of_utf8Length_le ⟨r, rfl⟩ ⟨r', h.symm⟩ (Nat.le_of_eq hlen)
  simp only [utf8Length_append] at hlen
  obtain rfl : x = [] := eq_nil_of_utf8Length_eq_zero (by omega)
  rw [List.append_nil] at h ⊢
  exact ⟨rfl, List.append_cancel_left h⟩

/-- With no edit, the text is copied. -/
theorem Replaced.nil_inv {pos : Nat} {cs out : List Char} (h : Replaced pos cs [] out) :
    out = cs := by
  generalize he : ([] : List (Span × List Char)) = es at h
  cases h with
  | done => rfl
  | edit => exact absurd he.symm (List.cons_ne_nil _ _)

/-- **A stretch copied at the head**: when every edit starts after `p`, the output starts with
`p` too, and the rest is replaced from the end of `p` on. -/
theorem Replaced.drop_prefix {pos : Nat} {p rest out : List Char}
    {edits : List (Span × List Char)} (h : Replaced pos (p ++ rest) edits out)
    (hle : ∀ e ∈ edits, pos + utf8Length p ≤ e.1.start) :
    ∃ out', out = p ++ out' ∧ Replaced (pos + utf8Length p) rest edits out' := by
  generalize hcs : p ++ rest = cs at h
  cases h with
  | done => exact ⟨rest, hcs.symm, .done _ _⟩
  | edit _ gap old rest0 new edits out0 hrest =>
    have hge := hle _ List.mem_cons_self
    dsimp only at hge
    -- `p` is a prefix of the gap before the first edit
    obtain ⟨g, rfl⟩ : p <+: gap := prefix_of_utf8Length_le ⟨rest, rfl⟩
      ⟨old ++ rest0, by rw [hcs, List.append_assoc]⟩ (by omega)
    have hrest' : rest = g ++ old ++ rest0 := by
      simp only [List.append_assoc] at hcs ⊢
      exact List.append_cancel_left hcs
    have hsplit : pos + utf8Length (p ++ g) = pos + utf8Length p + utf8Length g := by
      rw [utf8Length_append, Nat.add_assoc]
    rw [hsplit] at hrest ⊢
    refine ⟨g ++ new ++ out0, by simp only [List.append_assoc], ?_⟩
    rw [hrest']
    exact .edit _ g old rest0 new edits out0 hrest

/-- **The first edit of a replacement**: a copied gap, the old stretch at the edit's span, and the
rest replaced from there. -/
theorem Replaced.cons_inv {pos : Nat} {cs out : List Char} {sp : Span} {m : List Char}
    {edits : List (Span × List Char)} (h : Replaced pos cs ((sp, m) :: edits) out) :
    ∃ gap old rest out', cs = gap ++ old ++ rest ∧ out = gap ++ m ++ out' ∧
      sp = ⟨pos + utf8Length gap, pos + utf8Length gap + utf8Length old⟩ ∧
      Replaced (pos + utf8Length gap + utf8Length old) rest edits out' := by
  generalize he : (sp, m) :: edits = es at h
  cases h with
  | done => exact absurd he (List.cons_ne_nil _ _)
  | edit _ gap old rest new es' out' hrest =>
    obtain ⟨hsp, rfl⟩ := List.cons.inj he
    obtain ⟨rfl, rfl⟩ := Prod.mk.inj hsp
    exact ⟨gap, old, rest, out', rfl, rfl, rfl, hrest⟩

/-- **The text up to the next rewritten value agrees up to a stop character.** The next edit
writes into a reference token that starts at or after `pos`: the `(` of its `url(` comes before
an unquoted value, and a string's opening quote is written back in place. -/
theorem Replaced.agree {pos : Nat} {pre rest out : List Char} {sp : Span} {m : List Char}
    {edits : List (Span × List Char)} {t : Css.Token} (h : Replaced pos rest ((sp, m) :: edits) out)
    (hpos : pos = utf8Length pre) (ht : Css.TokenOk (pre ++ rest) t) (hle : pos ≤ t.span.start)
    (hsp : sp = t.valueSpan)
    (hw : t.kind = .url ∨ (t.kind = .string ∧ ∃ q w, t.text.head? = some q ∧ m = q :: (w ++ [q]))) :
    ∃ x c y y', Css.Lexer.isStopChar c = true ∧ rest = x ++ c :: y ∧ out = x ++ c :: y' := by
  obtain ⟨gap, old, rest0, out0, hrest, hout, hspan, -⟩ := h.cons_inv
  obtain ⟨P, Q, htext, hstart, hstop⟩ := ht.located
  -- the token starts after `pre`, in `rest`
  obtain ⟨g, rfl⟩ : pre <+: P := prefix_of_utf8Length_le ⟨rest, rfl⟩
    ⟨t.text ++ Q, by rw [htext, List.append_assoc]⟩ (by omega)
  have hrest' : rest = g ++ t.text ++ Q := by
    simp only [List.append_assoc] at htext ⊢
    exact List.append_cancel_left htext
  simp only [utf8Length_append] at hstart hstop
  rcases hw with hk | ⟨hk, q, w, hq, hm⟩
  · -- the `(` of `url(` is copied before the value
    obtain ⟨a, b, c, body, hshape, ha, hb, hc⟩ := ht.url_shape hk
    have hvs : sp.start = t.span.start + 4 + t.urlLead := by
      rw [hsp, Css.Token.valueSpan, if_pos hk]
      rfl
    rw [hspan] at hvs
    dsimp only at hvs
    obtain ⟨g2, hg2⟩ : g ++ [a, b, c, '('] <+: gap := by
      refine @prefix_of_utf8Length_le _ _ rest ⟨body ++ [')'] ++ Q, ?_⟩ ⟨old ++ rest0, ?_⟩ ?_
      · rw [hrest', hshape]
        simp
      · rw [hrest, List.append_assoc]
      · simp only [utf8Length_append, utf8Length_cons, utf8Length_nil, ha, hb, hc]
        have : '('.utf8Size = 1 := rfl
        omega
    refine ⟨g ++ [a, b, c], '(', g2 ++ old ++ rest0, g2 ++ m ++ out0, rfl, ?_, ?_⟩
    · rw [hrest, ← hg2]
      simp
    · rw [hout, ← hg2]
      simp
  · -- a string's opening quote is the first character of both the old and the new text
    have hvs : sp = t.span := by rw [hsp, Css.Token.valueSpan, if_neg (by rw [hk]; decide)]
    rw [hspan] at hvs
    obtain ⟨q', body, hshape, hq'⟩ := ht.string_shape hk
    have hqq : q = q' := by rw [hshape] at hq; exact (Option.some.inj hq).symm
    subst hqq
    have hg : gap = g ∧ old ++ rest0 = t.text ++ Q := by
      refine append_eq_of_utf8Length ?_ ?_
      · rw [← List.append_assoc, ← hrest, hrest', List.append_assoc]
      · have := congrArg Span.start hvs
        dsimp only at this
        omega
    obtain ⟨rfl, hold⟩ := hg
    have hold' : old = t.text := by
      refine (append_eq_of_utf8Length hold ?_).1
      have := congrArg Span.stop hvs
      dsimp only at this
      omega
    refine ⟨gap, q, body ++ [q] ++ rest0, w ++ [q] ++ out0, by rcases hq' with rfl | rfl <;> rfl,
      ?_, ?_⟩
    · rw [hrest, hold', hshape]
      simp
    · rw [hout, hm]
      simp

namespace Css

/-! ## (3) Scanning safe values -/

namespace Lexer

/-- **A string of safe characters closes at its quote.** -/
theorem stringRest_safe (q : Char) (z : List Char) :
    ∀ w : List Char, (∀ c ∈ w, stringSafe q c = true) →
      stringRest q (w ++ q :: z) = (w.length + 1, true)
  | [], _ => by rw [List.nil_append, stringRest.eq_def]; simp
  | d :: w, hw => by
    have hd := hw d List.mem_cons_self
    simp only [stringSafe, Bool.and_eq_true, bne_iff_ne, ne_eq, Bool.not_eq_true'] at hd
    obtain ⟨⟨hq, hb⟩, hn⟩ := hd
    rw [List.cons_append, stringRest.eq_def]
    simp only [beq_iff_eq, hq, hb, hn, if_false, Bool.false_eq_true]
    rw [stringRest_safe q z w (fun c hc => hw c (List.mem_cons_of_mem d hc))]
    simp

/-- **A string of safe characters between quotes is one string token.** -/
theorem step_string_safe {q : Char} (hq : q = '"' ∨ q = '\'') {w : List Char}
    (hw : ∀ c ∈ w, stringSafe q c = true) (z : List Char) :
    step (q :: (w ++ q :: z)) = (.string, w.length + 2) := by
  rcases hq with rfl | rfl
  · rw [step.eq_11, stringRest_safe _ z w hw]
    rfl
  · rw [step.eq_12, stringRest_safe _ z w hw]
    rfl

/-- Whitespace ended by `)` closes a reference body, whatever the body scan saw before. -/
theorem urlRest_spaces_close (lead : Nat) (z : List Char) :
    ∀ (b : List Char) (i : Nat) (tr : Bool), (∀ c ∈ b, isCssSpace c = true) →
      urlRest lead i tr (b ++ ')' :: z) = some (i + b.length + 1)
  | [], i, tr, _ => by rw [List.nil_append, urlRest.eq_def]; simp
  | d :: b, i, tr, hb => by
    have hd := hb d List.mem_cons_self
    have hne : (d == ')') = false := by
      cases h : d == ')'
      · rfl
      · rw [beq_iff_eq] at h
        subst h
        exact absurd hd (by decide)
    rw [List.cons_append, urlRest.eq_def]
    simp only [hne, hd, if_true, if_false, Bool.false_eq_true]
    rw [urlRest_spaces_close lead z b (i + 1) _ (fun c hc => hb c (List.mem_cons_of_mem d hc)),
      List.length_cons, Option.some.injEq]
    omega

/-- Safe characters are taken one by one by the body scan. -/
theorem urlRest_safe (lead : Nat) (z : List Char) :
    ∀ (m : List Char) (i : Nat), (∀ c ∈ m, urlSafe c = true) →
      urlRest lead i false (m ++ z) = urlRest lead (i + m.length) false z
  | [], i, _ => by simp
  | d :: m, i, hm => by
    have hd := hm d List.mem_cons_self
    simp only [urlSafe, Bool.and_eq_true, Bool.not_eq_true', bne_iff_ne, ne_eq] at hd
    obtain ⟨⟨⟨⟨⟨⟨hsp, h1⟩, h2⟩, h3⟩, h4⟩, h5⟩, hctl⟩ := hd
    rw [List.cons_append, urlRest.eq_def]
    simp only [beq_iff_eq, Bool.or_eq_true, h1, h2, h3, h4, h5, hsp, hctl, or_self, if_false,
      Bool.false_eq_true]
    rw [urlRest_safe lead z m (i + 1) (fun c hc => hm c (List.mem_cons_of_mem d hc))]
    simp only [List.length_cons]
    congr 1
    omega

/-- The leading whitespace of a body is skipped without marking what follows as trailing. -/
theorem urlRest_lead (lead : Nat) (z : List Char) :
    ∀ (a : List Char) (i : Nat), (∀ c ∈ a, isCssSpace c = true) → i + a.length ≤ lead →
      urlRest lead i false (a ++ z) = urlRest lead (i + a.length) false z
  | [], i, _, _ => by simp
  | d :: a, i, ha, hlen => by
    have hd := ha d List.mem_cons_self
    have hne : (d == ')') = false := by
      cases h : d == ')'
      · rfl
      · rw [beq_iff_eq] at h
        subst h
        exact absurd hd (by decide)
    simp only [List.length_cons] at hlen
    rw [List.cons_append, urlRest.eq_def]
    simp only [hne, hd, if_true, if_false, Bool.false_eq_true,
      show decide (lead ≤ i) = false from decide_eq_false (by omega), Bool.or_false]
    rw [urlRest_lead lead z a (i + 1) (fun c hc => ha c (List.mem_cons_of_mem d hc)) (by omega)]
    simp only [List.length_cons]
    congr 1
    omega

theorem spaceRun_spaces (z : List Char) :
    ∀ a : List Char, (∀ c ∈ a, isCssSpace c = true) → spaceRun (a ++ z) = a.length + spaceRun z
  | [], _ => by simp
  | d :: a, ha => by
    rw [List.cons_append, spaceRun, if_pos (ha d List.mem_cons_self),
      spaceRun_spaces z a (fun c hc => ha c (List.mem_cons_of_mem d hc)), List.length_cons]
    omega

/-- **A safe path in `url(`, between whitespace, closed by `)`, is an unquoted reference.** -/
theorem afterUrl_safe {a m b : List Char} (ha : ∀ c ∈ a, isCssSpace c = true)
    (hm : ∀ c ∈ m, urlSafe c = true) (hb : ∀ c ∈ b, isCssSpace c = true) (z : List Char) :
    afterUrl (a ++ m ++ b ++ ')' :: z) = (.url, 4 + (a.length + m.length + b.length + 1)) := by
  have hclose : spaceRun (')' :: z) = 0 := by rw [spaceRun, if_neg (by decide)]
  simp only [List.append_assoc]
  rw [afterUrl_eq]
  cases m with
  | nil =>
    -- an empty path: the whitespace runs on to the `)`
    rw [List.nil_append, spaceRun_spaces _ a ha, spaceRun_spaces _ b hb, hclose, Nat.add_zero,
      List.drop_append, List.drop_eq_nil_of_le (by omega), List.nil_append,
      show a.length + b.length - a.length = b.length by omega, List.drop_left,
      show quoteAhead (')' :: z) = false from rfl, urlRest_lead _ _ a 0 ha (by omega),
      urlRest_spaces_close _ z b _ _ hb]
    simp only [if_false, Bool.false_eq_true, List.length_nil]
    congr 2
    omega
  | cons d m =>
    have hd := hm d List.mem_cons_self
    simp only [urlSafe, Bool.and_eq_true, Bool.not_eq_true', bne_iff_ne, ne_eq] at hd
    obtain ⟨⟨⟨⟨⟨⟨hsp, h1⟩, h2⟩, -⟩, -⟩, -⟩, -⟩ := hd
    have hq : quoteAhead (d :: (m ++ (b ++ ')' :: z))) = false := by
      show (some d == some '"' || some d == some '\'') = false
      simp [h1, h2]
    have hrun : spaceRun (a ++ d :: (m ++ (b ++ ')' :: z))) = a.length := by
      rw [spaceRun_spaces _ a ha, spaceRun, if_neg (show ¬isCssSpace d = true by simp [hsp]),
        Nat.add_zero]
    rw [List.cons_append, hrun, List.drop_left, hq, urlRest_lead _ _ a 0 ha (by omega), ← List.cons_append,
      urlRest_safe _ _ (d :: m) _ hm, urlRest_spaces_close _ z b _ _ hb]
    simp only [if_false, Bool.false_eq_true, List.length_cons]
    congr 2
    omega

/-- **A reference token starts with `url(`.** -/
theorem startsWithUrl_of_step_url {cs : List Char} {n : Nat} (h : step cs = (.url, n)) :
    startsWithUrl cs = true := by
  unfold step at h
  split at h
  case h_13 =>
    split at h
    · assumption
    · refine absurd (congrArg Prod.fst h) (best_kind_ne (List.cons_ne_nil _ _) ?_)
      simp
  case h_10 => split at h <;> simp at h
  case h_11 | h_12 => split at h; split at h <;> simp at h
  all_goals simp at h

/-- **A text that starts with `url(` is scanned by the reference rule.** -/
theorem step_of_startsWithUrl {cs : List Char} (h : startsWithUrl cs = true) :
    step cs = afterUrl (cs.drop 4) := by
  obtain ⟨u, r, l, e, z, rfl⟩ : ∃ u r l e z, cs = u :: r :: l :: e :: z := by
    rcases cs with _ | ⟨u, _ | ⟨r, _ | ⟨l, _ | ⟨e, z⟩⟩⟩⟩
    all_goals first
      | exact ⟨u, r, l, e, z, rfl⟩
      | exact absurd h (by rw [startsWithUrl_short (by simp)]; decide)
  have hu : u.toLower = 'u' := by
    rw [startsWithUrl_cons4] at h
    simp only [Bool.and_eq_true, beq_iff_eq, decide_eq_true_eq] at h
    exact h.1.1.2
  -- the head lowers to `u`, so it is no bracket, separator, quote or slash
  have hne : ∀ d : Char, d.toLower ≠ 'u' → u ≠ d := fun d hd hud => hd (hud ▸ hu)
  have hs : u ∉ singles := by
    simp only [singles, List.mem_cons, List.not_mem_nil, or_false]
    rintro (rfl | rfl | rfl | rfl | rfl | rfl | rfl | rfl | rfl) <;> exact absurd hu (by decide)
  rw [step_default hs (fun h => hne '/' (by decide) h.1) (hne '"' (by decide))
    (hne '\'' (by decide)), if_pos h]
/-! ## (4) The scan of a rewritten text -/

/-- **One step of the scan**: the token of the step's kind and length, then the scan of what is
left. -/
theorem tokensFrom_cons_step {size pos : Nat} {c : Char} {rest : List Char} {k : TokenKind}
    {n : Nat} (hc : isCssSpace c = false) (hstep : step (c :: rest) = (k, n)) :
    tokensFrom size (c :: rest) pos =
      ⟨k, ⟨pos, pos + utf8Length ((c :: rest).take (max 1 n))⟩, (c :: rest).take (max 1 n)⟩ ::
        tokensFrom size ((c :: rest).drop (max 1 n))
          (pos + utf8Length ((c :: rest).take (max 1 n))) := by
  rw [tokensFrom.eq_2, if_neg (by simp [hc])]
  simp only [hstep]

/-- **A token the step takes whole**, then the scan of what follows it. -/
theorem tokensFrom_token {size pos : Nat} {d : Char} {w z : List Char} {k : TokenKind}
    (hd : isCssSpace d = false) (hstep : step (d :: (w ++ z)) = (k, w.length + 1)) :
    tokensFrom size (d :: (w ++ z)) pos =
      ⟨k, ⟨pos, pos + utf8Length (d :: w)⟩, d :: w⟩ ::
        tokensFrom size z (pos + utf8Length (d :: w)) := by
  rw [tokensFrom_cons_step hd hstep, show max 1 (w.length + 1) = (d :: w).length by simp,
    ← List.cons_append, List.take_left, List.drop_left]

/-- A token followed by more text takes as many characters as the step says. -/
theorem max_eq_of_take {c : Char} {w D : List Char} {n : Nat}
    (htake : (c :: (w ++ D)).take (max 1 n) = c :: w) (hD : D ≠ []) :
    max 1 n = w.length + 1 := by
  have h := congrArg List.length htake
  have hpos := List.length_pos_iff.mpr hD
  simp only [List.length_take, List.length_cons, List.length_append] at h
  omega

section Heads

variable {new : Span → Option (List Char)} {size' pos pos' n : Nat} {pre w D cs' : List Char}
  {c : Char} {k : TokenKind} {ts : List Token} {es : List (Span × List Char)}

/-- **A token nothing is written into is scanned again as it was.** What follows it is copied up
to the next edit, which starts past a stop character of its own: the step cannot tell the
texts apart. -/
theorem retexted_kept (hc : isCssSpace c = false) (hstep : step (c :: (w ++ D)) = (k, n))
    (htake : (c :: (w ++ D)).take (max 1 n) = c :: w) (hdrop : (c :: (w ++ D)).drop (max 1 n) = D)
    (hk : k ≠ .badUrl) (hpos : pos = utf8Length pre)
    (hts : ∀ t ∈ ts, TokenOk (pre ++ c :: (w ++ D)) t ∧ pos + utf8Length (c :: w) ≤ t.span.start)
    (hw : ∀ t ∈ ts, Writable new t) (hrep : Replaced pos (c :: (w ++ D)) (editsFor new ts) cs') :
    ∃ out p', tokensFrom size' cs' pos' = ⟨k, ⟨pos', p'⟩, c :: w⟩ :: tokensFrom size' out p' ∧
      Replaced (pos + utf8Length (c :: w)) D (editsFor new ts) out := by
  have hrep' : Replaced pos ((c :: w) ++ D) (editsFor new ts) cs' := hrep
  obtain ⟨out, rfl, hout⟩ := Replaced.drop_prefix hrep' (editsFor_start_ge hts)
  refine ⟨out, pos' + utf8Length (c :: w), ?_, hout⟩
  cases hes : editsFor new ts with
  | nil =>
    -- nothing is written further on: the text is the old one
    rw [hes] at hout
    obtain rfl := hout.nil_inv
    rw [List.cons_append, tokensFrom_cons_step hc hstep, htake, hdrop]
  | cons e es =>
    -- the next edit writes into a reference or a string further on
    obtain ⟨sp, m⟩ := e
    obtain ⟨t1, ht1, hsp, hm⟩ := mem_editsFor (hes ▸ List.mem_cons_self : (sp, m) ∈ editsFor new ts)
    have hshape : t1.kind = .url ∨
        (t1.kind = .string ∧ ∃ q v, t1.text.head? = some q ∧ m = q :: (v ++ [q])) := by
      rcases hw t1 ht1 m hm with ⟨hk1, -⟩ | ⟨hk1, q, v, hq, hmv, -⟩
      · exact .inl hk1
      · exact .inr ⟨hk1, q, v, hq, hmv⟩
    have hok1 : TokenOk ((pre ++ c :: w) ++ D) t1 := by simpa using (hts t1 ht1).1
    rw [hes] at hout
    obtain ⟨x, c', y, y', hc', rfl, rfl⟩ :=
      Replaced.agree hout (by rw [hpos, utf8Length_append]) hok1 (hts t1 ht1).2 hsp hshape
    have hmax : max 1 n = w.length + 1 := max_eq_of_take htake (by simp)
    have hn : n = w.length + 1 := by
      have := le_step (c :: (w ++ (x ++ c' :: y)))
      rw [hstep] at this
      simp only at this
      omega
    -- the step ends before the stop character, so it reads the new text the same way
    have hold : step ((c :: (w ++ x)) ++ c' :: y) = (k, n) := by simpa using hstep
    have hnew : step (c :: (w ++ (x ++ c' :: y'))) = (k, w.length + 1) := by
      rw [← hn]
      simpa using step_stopsAt hc' hold hk (by simp; omega)
    rw [List.cons_append, tokensFrom_token hc hnew]

/-- **A path written into a string between its own quotes is scanned as one string token.** -/
theorem retexted_string {v m : List Char} (hshape : StringShape (c :: w))
    (hm : m = c :: (v ++ [c])) (hv : ∀ d ∈ v, stringSafe c d = true)
    (hrep : Replaced pos (c :: (w ++ D)) ((⟨pos, pos + utf8Length (c :: w)⟩, m) :: es) cs') :
    ∃ out p', tokensFrom size' cs' pos' = ⟨.string, ⟨pos', p'⟩, m⟩ :: tokensFrom size' out p' ∧
      Replaced (pos + utf8Length (c :: w)) D es out := by
  obtain ⟨gap, old, rest0, out0, hcs, rfl, hspan, hout⟩ := Replaced.cons_inv hrep
  have hs := congrArg Span.start hspan
  have hst := congrArg Span.stop hspan
  dsimp only at hs hst
  -- the edit's span is the whole string token
  obtain rfl : gap = [] := eq_nil_of_utf8Length_eq_zero (by omega)
  have hcut : old ++ rest0 = (c :: w) ++ D := by simpa using hcs.symm
  obtain ⟨rfl, rfl⟩ := append_eq_of_utf8Length hcut (by simp only [utf8Length_nil] at hst; omega)
  obtain ⟨q, body, hqb, hq⟩ := hshape
  obtain rfl : c = q := (List.cons.inj hqb).1
  subst hm
  refine ⟨out0, pos' + utf8Length (c :: (v ++ [c])), ?_, by simpa using hout⟩
  have hstep : step (c :: ((v ++ [c]) ++ out0)) = (.string, (v ++ [c]).length + 1) := by
    rw [List.append_assoc, List.singleton_append, step_string_safe hq hv]
    simp
  rw [List.nil_append, List.cons_append]
  exact tokensFrom_token (by rcases hq with rfl | rfl <;> rfl) hstep

/-- **A safe path written into an unquoted reference is scanned as one reference token**, with
the old whitespace around it. -/
theorem retexted_url {a b c0 : Char} {A V B m : List Char}
    (htext : c :: w = a :: b :: c0 :: '(' :: (A ++ V ++ B ++ [')']))
    (hstart : startsWithUrl (c :: (w ++ D)) = true) (hc : isCssSpace c = false)
    (ha : a.utf8Size = 1) (hb : b.utf8Size = 1) (hc0 : c0.utf8Size = 1)
    (hA : ∀ d ∈ A, isCssSpace d = true) (hB : ∀ d ∈ B, isCssSpace d = true)
    (hm : ∀ d ∈ m, urlSafe d = true)
    (hge : ∀ e ∈ es, pos + utf8Length (c :: w) ≤ e.1.start)
    (hrep : Replaced pos (c :: (w ++ D))
      ((⟨pos + 4 + A.length, pos + 4 + A.length + utf8Length V⟩, m) :: es) cs') :
    ∃ out p', tokensFrom size' cs' pos' =
        ⟨.url, ⟨pos', p'⟩, a :: b :: c0 :: '(' :: (A ++ m ++ B ++ [')'])⟩ ::
          tokensFrom size' out p' ∧
      Replaced (pos + utf8Length (c :: w)) D es out := by
  obtain ⟨gap, old, rest0, out0, hcs, rfl, hspan, hout⟩ := Replaced.cons_inv hrep
  have hs := congrArg Span.start hspan
  have hst := congrArg Span.stop hspan
  dsimp only at hs hst
  have hAlen := utf8Length_of_isCssSpace hA
  have hBlen := utf8Length_of_isCssSpace hB
  have hgap : utf8Length ([a, b, c0, '('] ++ A) = 4 + A.length := by
    simp only [utf8Length_append, utf8Length_cons, utf8Length_nil, ha, hb, hc0, hAlen]
    have : '('.utf8Size = 1 := rfl
    omega
  have hclose : utf8Length (B ++ [')']) = B.length + 1 := by
    rw [utf8Length_append, hBlen]
    rfl
  -- the copied gap is `url(` with the leading whitespace, the old stretch is the value
  have hcut : gap ++ (old ++ rest0) = ([a, b, c0, '('] ++ A) ++ (V ++ ((B ++ [')']) ++ D)) := by
    rw [← List.append_assoc, ← hcs, ← List.cons_append, htext]
    simp
  obtain ⟨rfl, hcut'⟩ := append_eq_of_utf8Length hcut (by omega)
  obtain ⟨rfl, rfl⟩ := append_eq_of_utf8Length hcut' (by omega)
  have htot : utf8Length (c :: w) = 4 + A.length + utf8Length old + (B.length + 1) := by
    rw [htext, ← List.singleton_append, ← hclose, ← hgap]
    simp only [utf8Length_append, utf8Length_cons, utf8Length_nil, List.cons_append,
      List.nil_append, List.append_assoc]
    omega
  -- the trailing whitespace and `)` are copied after the new value
  obtain ⟨out1, rfl, hout1⟩ := Replaced.drop_prefix hout (fun e he => by
    have := hge e he
    rw [hgap, hclose]
    omega)
  refine ⟨out1, pos' + utf8Length (a :: b :: c0 :: '(' :: (A ++ m ++ B ++ [')'])), ?_, ?_⟩
  · have hstart' : startsWithUrl (a :: ((b :: c0 :: '(' :: (A ++ m ++ B ++ [')'])) ++ out1)) = true := by
      rw [← List.cons_append, htext] at hstart
      simp only [List.cons_append, startsWithUrl_cons4] at hstart ⊢
      exact hstart
    have hstep : step (a :: ((b :: c0 :: '(' :: (A ++ m ++ B ++ [')'])) ++ out1)) =
        (.url, (b :: c0 :: '(' :: (A ++ m ++ B ++ [')'])).length + 1) := by
      rw [step_of_startsWithUrl hstart']
      simp only [List.cons_append, List.drop_succ_cons, List.drop_zero, List.append_assoc,
        List.nil_append]
      rw [← List.append_assoc, ← List.append_assoc, afterUrl_safe hA hm hB out1]
      simp
      omega
    have hhd : a = c := (List.cons.inj htext).1.symm
    subst hhd
    rw [show ([a, b, c0, '('] ++ A) ++ m ++ ((B ++ [')']) ++ out1) =
      a :: ((b :: c0 :: '(' :: (A ++ m ++ B ++ [')'])) ++ out1) by simp]
    exact tokensFrom_token hc hstep
  · rw [hgap, hclose] at hout1
    have hp : pos + utf8Length (c :: w) = pos + (4 + A.length) + utf8Length old + (B.length + 1) := by
      omega
    rw [hp]
    exact hout1

/-- **One token of the old text against the new one**: the step of the scan of a rewritten
text. The head token is scanned again with its new text, and the rest of the new text is the
rest of the old one with the remaining edits made. -/
theorem retexted_head (hc : isCssSpace c = false) (hstep : step (c :: (w ++ D)) = (k, n))
    (htake : (c :: (w ++ D)).take (max 1 n) = c :: w) (hdrop : (c :: (w ++ D)).drop (max 1 n) = D)
    (hk : k ≠ .badUrl) (hpos : pos = utf8Length pre)
    (hok : TokenOk (pre ++ c :: (w ++ D)) ⟨k, ⟨pos, pos + utf8Length (c :: w)⟩, c :: w⟩)
    (hts : ∀ t ∈ ts, TokenOk (pre ++ c :: (w ++ D)) t ∧ pos + utf8Length (c :: w) ≤ t.span.start)
    (hw0 : Writable new ⟨k, ⟨pos, pos + utf8Length (c :: w)⟩, c :: w⟩)
    (hw : ∀ t ∈ ts, Writable new t)
    (hrep : Replaced pos (c :: (w ++ D))
      (editsFor new (⟨k, ⟨pos, pos + utf8Length (c :: w)⟩, c :: w⟩ :: ts)) cs') :
    ∃ t' out p', tokensFrom size' cs' pos' = t' :: tokensFrom size' out p' ∧
      Retexted new ⟨k, ⟨pos, pos + utf8Length (c :: w)⟩, c :: w⟩ t' ∧
      Replaced (pos + utf8Length (c :: w)) D (editsFor new ts) out := by
  cases hnew : new (Token.valueSpan ⟨k, ⟨pos, pos + utf8Length (c :: w)⟩, c :: w⟩) with
  | none =>
    rw [editsFor_cons_none hnew] at hrep
    obtain ⟨out, p', hscan, hout⟩ := retexted_kept hc hstep htake hdrop hk hpos hts hw hrep
    exact ⟨_, out, p', hscan, .of_none hnew rfl rfl, hout⟩
  | some m =>
    rw [editsFor_cons_some hnew] at hrep
    rcases hw0 m hnew with ⟨hku, hm⟩ | ⟨hks, q, v, hq, rfl, hv⟩
    · -- a path written into an unquoted reference, between its old whitespace
      obtain ⟨a, b, c0, A, B, htext, ha, hb, hc0, hA, hB, hlead⟩ := hok.url_split hku
      rw [Token.valueSpan_url hku, ← hlead] at hrep
      have hurl : step (c :: (w ++ D)) = (.url, n) := by rw [← hku]; exact hstep
      obtain ⟨out, p', hscan, hout⟩ := retexted_url htext (startsWithUrl_of_step_url hurl) hc
        ha hb hc0 hA hB hm (editsFor_start_ge hts) hrep
      refine ⟨_, out, p', hscan, ⟨hku.symm, ?_⟩, hout⟩
      rw [hnew, Option.map_some, Option.getD_some, Token.respliced_url hku htext hlead]
    · -- a string written between the string's own quotes
      obtain rfl : q = c := (Option.some.inj hq).symm
      rw [Token.valueSpan_of_ne (by rw [hks]; decide)] at hrep
      obtain ⟨out, p', hscan, hout⟩ := retexted_string (hok.string_shape hks) rfl hv hrep
      refine ⟨_, out, p', hscan, ⟨hks.symm, ?_⟩, hout⟩
      rw [hnew, Option.map_some, Option.getD_some, Token.respliced, if_neg (by rw [hks]; decide)]

end Heads

/-- **The scan of a rewritten text, token for token.** Scanning `cs`, which follows `pre` in a
text of `size` bytes, gives tokens with no malformed reference among them; `new` writes a safe
value into some of them. The text with those values written in, scanned from anywhere, gives
as many tokens, one for one: each of the same kind, with its old text or, where a value was
written, the old text around the new value. The induction follows the scan of the old text. -/
theorem tokensFrom_retexted (new : Span → Option (List Char)) (size size' : Nat) (cs : List Char)
    (pos : Nat) (pre : List Char) (hpos : pos = utf8Length pre)
    (hsize : size = utf8Length (pre ++ cs))
    (hbad : ∀ t ∈ tokensFrom size cs pos, t.kind ≠ .badUrl)
    (hw : ∀ t ∈ tokensFrom size cs pos, Writable new t) (cs' : List Char) (pos' : Nat)
    (hrep : Replaced pos cs (editsFor new (tokensFrom size cs pos)) cs') :
    List.Forall₂ (Retexted new) (tokensFrom size cs pos) (tokensFrom size' cs' pos') := by
  induction cs, pos using tokensFrom.induct generalizing pre cs' pos' with
  | case1 pos =>
    -- the end-of-file token, into which nothing is written
    rw [tokensFrom.eq_1] at hw hrep ⊢
    have hnone := (hw _ List.mem_cons_self).eq_none (fun h => by cases h) (fun h => by cases h)
    rw [editsFor_cons_none hnone] at hrep
    obtain rfl := hrep.nil_inv
    rw [tokensFrom.eq_1]
    exact .cons (.of_none hnone rfl rfl) .nil
  | case2 pos c rest hsp ih =>
    -- a space, copied
    rw [tokensFrom.eq_2, if_pos hsp] at hbad hw hrep ⊢
    have hc : c.utf8Size = 1 := utf8Size_of_isCssSpace hsp
    have hpos' : pos + 1 = utf8Length (pre ++ [c]) := by simp [hpos, hc]
    have hsize' : size = utf8Length ((pre ++ [c]) ++ rest) := by simp [hsize]
    have hge : ∀ e ∈ editsFor new (tokensFrom size rest (pos + 1)), pos + 1 ≤ e.1.start :=
      editsFor_start_ge (tokensFrom_ok size rest (pos + 1) (pre ++ [c]) hpos' hsize').1
    obtain ⟨out, rfl, hout⟩ := Replaced.drop_prefix (hrep : Replaced pos ([c] ++ rest) _ cs')
      (fun e he => by rw [utf8Length_cons, utf8Length_nil, hc]; exact hge e he)
    rw [List.singleton_append, tokensFrom.eq_2, if_pos hsp]
    exact ih (pre ++ [c]) hpos' hsize' hbad hw out (pos' + 1)
      (by rw [utf8Length_cons, utf8Length_nil, hc] at hout; exact hout)
  | case3 pos c rest hsp kind n hstep taken stop ih =>
    have hc : isCssSpace c = false := by simpa using hsp
    have hscan : tokensFrom size (c :: rest) pos = ⟨kind, ⟨pos, stop⟩, taken⟩ ::
        tokensFrom size ((c :: rest).drop (max 1 n)) stop := tokensFrom_cons_step hc hstep
    have hok := ((tokensFrom_ok size (c :: rest) pos pre hpos hsize).1 _
      (by rw [hscan]; exact List.mem_cons_self)).1
    rw [hscan] at hbad hw hrep ⊢
    -- name the head token's text `c :: w` and what is left to scan `D`
    have hstop : stop = pos + utf8Length taken := rfl
    have htaken : (c :: rest).take (max 1 n) = taken := rfl
    clear_value stop taken
    subst hstop
    obtain ⟨w, rfl⟩ : ∃ w, taken = c :: w := by
      exact ⟨rest.take (max 1 n - 1), by rw [← htaken, List.take_cons (by omega)]⟩
    generalize hD : (c :: rest).drop (max 1 n) = D at hbad hw hrep ih ⊢
    obtain rfl : rest = w ++ D := by
      have h := List.take_append_drop (max 1 n) (c :: rest)
      rw [htaken, hD, List.cons_append] at h
      exact (List.cons.inj h).2.symm
    have hstop' : pos + utf8Length (c :: w) = utf8Length (pre ++ c :: w) := by
      rw [hpos, utf8Length_append]
    have hsize' : size = utf8Length ((pre ++ c :: w) ++ D) := by rw [hsize]; simp
    have hts : ∀ t ∈ tokensFrom size D (pos + utf8Length (c :: w)),
        TokenOk (pre ++ c :: (w ++ D)) t ∧ pos + utf8Length (c :: w) ≤ t.span.start := by
      intro t ht
      obtain ⟨hokt, hle⟩ := (tokensFrom_ok size D _ (pre ++ c :: w) hstop' hsize').1 t ht
      exact ⟨by simpa using hokt, hle⟩
    obtain ⟨t', out, p', hscan', hret, hout⟩ := retexted_head hc hstep htaken hD
      (hbad _ List.mem_cons_self) hpos hok hts (hw _ List.mem_cons_self)
      (fun t ht => hw t (List.mem_cons_of_mem _ ht)) hrep
    rw [hscan']
    exact .cons hret (ih (pre ++ c :: w) hstop' hsize'
      (fun t ht => hbad t (List.mem_cons_of_mem _ ht))
      (fun t ht => hw t (List.mem_cons_of_mem _ ht)) out p' hout)

end Lexer

end Css

end StyleRebase
