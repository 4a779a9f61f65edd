import StyleRebase.Css.Lexer
import StyleRebase.Proofs.SpliceSpec

/-! # Where the tokens of a stylesheet are

The scanner cuts a text into tokens: each token reads its own characters at its byte span, the
tokens come in order without overlapping, and the end-of-file token sits at the end. A
reference token keeps its `url(` and `)`, and a string token its two quotes, which is what the
parser relies on when it cuts a reference's value out of them.

* **`UrlShape`**, **`StringShape`** — the delimiters of a reference and of a string token.
* **`TokenOk`** — a token reads its text at its span and has the delimiters of its kind.
* **`step_url`**, **`step_string`** — the scanner's step gives a reference only through the
  `url(` rule, a string only when the closing quote is found.
* **`tokenize_ok`**, **`tokenize_ordered`** — every token of a text is located in it, and the
  tokens are in order. -/

namespace StyleRebase

/-- The byte size of a string is the byte length of its characters. -/
theorem utf8ByteSize_ofList (cs : List Char) : (String.ofList cs).utf8ByteSize = utf8Length cs := by
  induction cs with
  | nil => simp
  | cons c cs ih =>
    rw [← List.singleton_append, String.ofList_append, String.utf8ByteSize_append, ih]
    simp [String.utf8ByteSize_singleton]

theorem utf8ByteSize_eq_utf8Length (s : String) : s.utf8ByteSize = utf8Length s.toList := by
  conv => lhs; rw [← String.ofList_toList (s := s)]
  exact utf8ByteSize_ofList _

/-- CSS whitespace is one byte. -/
theorem utf8Size_of_isCssSpace {c : Char} (h : isCssSpace c = true) : c.utf8Size = 1 := by
  simp only [isCssSpace, Bool.or_eq_true, beq_iff_eq] at h
  rcases h with (((h | h) | h) | h) | h <;> subst h <;> rfl

/-- Characters of ASCII case-blind comparison with a lower-case ASCII letter are one byte. -/
theorem utf8Size_of_toLower_eq {c d : Char} (h : c.toLower = d) (hd : d.val ≤ 127) :
    c.utf8Size = 1 := by
  rw [Char.utf8Size_eq_one_iff]
  unfold Char.toLower at h
  split at h
  · rename_i hu
    exact UInt32.le_trans hu.2 (by decide)
  · rw [h]
    exact hd

namespace Css

/-! ## (1) Token shapes -/

/-- **The shape of a reference token**: `url(`, in any ASCII case, then the body and `)`. -/
def UrlShape (text : List Char) : Prop :=
  ∃ u r l body, text = u :: r :: l :: '(' :: (body ++ [')']) ∧
    u.utf8Size = 1 ∧ r.utf8Size = 1 ∧ l.utf8Size = 1

/-- **The shape of a string token**: the same quote at both ends. -/
def StringShape (text : List Char) : Prop :=
  ∃ q body, text = q :: (body ++ [q]) ∧ (q = '"' ∨ q = '\'')

/-- **A token as found in a text**: it reads its own characters at its span, and a reference or
a string token has the delimiters of its kind. -/
structure TokenOk (text : List Char) (t : Token) : Prop where
  located : Located text t.span t.text
  url_shape : t.kind = .url → UrlShape t.text
  string_shape : t.kind = .string → StringShape t.text

/-! ## (2) The scanner's step -/

namespace Lexer

/-- **An unquoted reference body that closes** ends with its `)`: the body scan from index `i`
stops after the first `)` it meets. -/
theorem urlRest_some (lead : Nat) (i : Nat) (trailing : Bool) (cs : List Char) {n : Nat}
    (h : urlRest lead i trailing cs = some n) :
    i < n ∧ ∃ body, cs.take (n - i) = body ++ [')'] := by
  induction i, trailing, cs using urlRest.induct lead generalizing n with
  | case1 => simp [urlRest] at h
  | case2 i trailing c rest hc =>
    rw [urlRest.eq_def] at h
    simp only [hc, if_true, Option.some.injEq] at h
    subst h
    refine ⟨Nat.lt_succ_self i, [], ?_⟩
    simp only [beq_iff_eq] at hc
    simp [hc]
  | case3 i trailing c rest hc hsp ih =>
    rw [urlRest.eq_def] at h
    simp only [hc, hsp, if_true, if_false, Bool.false_eq_true] at h
    obtain ⟨hlt, body, hbody⟩ := ih h
    refine ⟨by omega, c :: body, ?_⟩
    rw [show n - i = (n - (i + 1)) + 1 by omega, List.take_succ_cons, hbody, List.cons_append]
  | case4 i c rest hc hsp =>
    rw [urlRest.eq_def] at h
    simp [hc, hsp] at h
  | case5 i trailing c rest hc hsp htr hq =>
    rw [urlRest.eq_def] at h
    simp [hc, hsp, htr, hq] at h
  | case6 i trailing c hc hsp htr hq hbs d rest hnl =>
    rw [urlRest.eq_def] at h
    simp [hc, hsp, htr, hq, hbs, hnl] at h
  | case7 i trailing c hc hsp htr hq hbs d rest hnl ih =>
    rw [Bool.not_eq_true] at htr
    subst htr
    rw [urlRest.eq_def] at h
    simp only [hc, hsp, hq, hbs, hnl, if_true, if_false, Bool.false_eq_true] at h
    obtain ⟨hlt, body, hbody⟩ := ih h
    refine ⟨by omega, c :: d :: body, ?_⟩
    rw [show n - i = (n - (i + 2)) + 1 + 1 by omega, List.take_succ_cons, List.take_succ_cons,
      hbody, List.cons_append, List.cons_append]
  | case8 i trailing c hc hsp htr hq hbs =>
    rw [urlRest.eq_def] at h
    simp [hc, hsp, htr, hq, hbs] at h
  | case9 i trailing c rest hc hsp htr hq hbs hctl =>
    rw [urlRest.eq_def] at h
    simp [hc, hsp, htr, hq, hbs, hctl] at h
  | case10 i trailing c rest hc hsp htr hq hbs hctl ih =>
    rw [Bool.not_eq_true] at htr
    subst htr
    rw [urlRest.eq_def] at h
    simp only [hc, hsp, hq, hbs, hctl, if_false, Bool.false_eq_true] at h
    obtain ⟨hlt, body, hbody⟩ := ih h
    refine ⟨by omega, c :: body, ?_⟩
    rw [show n - i = (n - (i + 1)) + 1 by omega, List.take_succ_cons, hbody, List.cons_append]

/-- **A string body that closes** ends with its quote. -/
theorem stringRest_closed (q : Char) (cs : List Char) {n : Nat}
    (h : stringRest q cs = (n, true)) : ∃ body, cs.take n = body ++ [q] := by
  induction cs using stringRest.induct q generalizing n with
  | case1 => simp [stringRest] at h
  | case2 c rest hc =>
    rw [stringRest.eq_def] at h
    simp only [hc, if_true, Prod.mk.injEq] at h
    obtain ⟨rfl, -⟩ := h
    refine ⟨[], ?_⟩
    simp only [beq_iff_eq] at hc
    simp [hc]
  | case3 c hc hbs =>
    rw [stringRest.eq_def] at h
    simp [hc, hbs] at h
  | case4 c hc hbs r n' ok hr ih =>
    rw [stringRest.eq_def] at h
    simp only [hc, hbs, if_true, if_false, Bool.false_eq_true, hr, Prod.mk.injEq] at h
    obtain ⟨rfl, rfl⟩ := h
    obtain ⟨body, hbody⟩ := ih hr
    exact ⟨c :: '\r' :: '\n' :: body, by simp [hbody]⟩
  | case5 c hc hbs head r hnot n' ok hr ih =>
    rw [stringRest.eq_def] at h
    simp only [hc, hbs, if_true, if_false, Bool.false_eq_true] at h
    rw [hr] at h
    simp only [Prod.mk.injEq] at h
    obtain ⟨rfl, rfl⟩ := h
    obtain ⟨body, hbody⟩ := ih hr
    exact ⟨c :: head :: body, by simp [hbody]⟩
  | case6 c rest hc hbs hnl =>
    rw [stringRest.eq_def] at h
    simp [hc, hbs, hnl] at h
  | case7 c rest hc hbs hnl n' ok hr ih =>
    rw [stringRest.eq_def] at h
    simp only [hc, hbs, hnl, if_false, Bool.false_eq_true, hr, Prod.mk.injEq] at h
    obtain ⟨rfl, rfl⟩ := h
    obtain ⟨body, hbody⟩ := ih hr
    exact ⟨c :: body, by simp [hbody]⟩

/-- **The best candidate** of a nonempty list is one of its candidates. -/
theorem best_mem : ∀ {cands : List (TokenKind × Nat × Nat)}, cands ≠ [] → best cands ∈ cands
  | [c], _ => by simp [best]
  | c :: d :: cs, _ => by
    have ih : best (d :: cs) ∈ d :: cs := best_mem (List.cons_ne_nil d cs)
    rw [best.eq_def]
    dsimp only
    split
    · exact List.mem_cons_of_mem c ih
    · exact List.mem_cons_self

/-- **The best candidate has none of the kinds that no candidate has.** -/
theorem best_kind_ne {cands : List (TokenKind × Nat × Nat)} (hne : cands ≠ []) {k : TokenKind}
    (hk : ∀ c ∈ cands, c.1 ≠ k) : (best cands).1 ≠ k :=
  hk _ (best_mem hne)

/-- **A closed string token** keeps both of its quotes. -/
theorem string_of_stringRest {q : Char} {rest : List Char} {m n : Nat} {ok : Bool}
    (hq : q = '"' ∨ q = '\'') (hs : stringRest q rest = (m, ok))
    (h : (if ok then TokenKind.string else .badString, m + 1) = (TokenKind.string, n)) :
    StringShape ((q :: rest).take (max 1 n)) := by
  cases ok
  · simp at h
  · simp only [if_true, Prod.mk.injEq, true_and] at h
    subst h
    obtain ⟨body, hbody⟩ := stringRest_closed q rest hs
    refine ⟨q, body, ?_, hq⟩
    rw [show max 1 (m + 1) = m + 1 by omega, List.take_succ_cons, hbody]

/-- **An unquoted reference token** reads `url(`, its body and `)`. -/
theorem afterUrl_url {cs : List Char} {n : Nat} (hs : startsWithUrl cs = true)
    (h : afterUrl (cs.drop 4) = (.url, n)) : UrlShape (cs.take (max 1 n)) := by
  unfold startsWithUrl at hs
  split at hs
  · rename_i u r l rest
    simp only [Bool.and_eq_true, beq_iff_eq] at hs
    obtain ⟨⟨hu, hr⟩, hl⟩ := hs
    simp only [List.drop_succ_cons, List.drop_zero] at h
    unfold afterUrl at h
    dsimp only at h
    split at h
    · simp at h
    · simp at h
    · split at h
      · rename_i m hm
        simp only [Prod.mk.injEq, true_and] at h
        subst h
        obtain ⟨hpos, body, hbody⟩ := urlRest_some _ 0 false rest hm
        refine ⟨u, r, l, body, ?_, utf8Size_of_toLower_eq hu (by decide),
          utf8Size_of_toLower_eq hr (by decide), utf8Size_of_toLower_eq hl (by decide)⟩
        rw [show max 1 (4 + m) = m + 1 + 1 + 1 + 1 by omega]
        simp only [List.take_succ_cons]
        rw [← hbody, Nat.sub_zero]
      · simp at h
  · simp at hs

/-- The reference rule never gives a string. -/
theorem afterUrl_ne_string (rest : List Char) : (afterUrl rest).1 ≠ .string := by
  unfold afterUrl
  dsimp only
  split
  · simp
  · simp
  · split <;> simp

/-- **The scanner's step gives a reference only through the `url(` rule.** -/
theorem step_url {cs : List Char} {n : Nat} (h : step cs = (.url, n)) :
    UrlShape (cs.take (max 1 n)) := by
  unfold step at h
  split at h
  case h_13 =>
    split at h
    · rename_i hs
      exact afterUrl_url hs h
    · refine absurd (congrArg Prod.fst h) (best_kind_ne (List.cons_ne_nil _ _) ?_)
      simp
  -- the comment and string arms, then the one-character punctuation
  case h_10 => split at h <;> simp at h
  case h_11 | h_12 => split at h; split at h <;> simp at h
  all_goals simp at h

/-- **The scanner's step gives a string only when its closing quote is found.** -/
theorem step_string {cs : List Char} {n : Nat} (h : step cs = (.string, n)) :
    StringShape (cs.take (max 1 n)) := by
  unfold step at h
  split at h
  case h_11 rest =>
    split at h
    rename_i m ok hs
    exact string_of_stringRest (.inl rfl) hs h
  case h_12 rest =>
    split at h
    rename_i m ok hs
    exact string_of_stringRest (.inr rfl) hs h
  case h_13 =>
    split at h
    · exact absurd (congrArg Prod.fst h) (afterUrl_ne_string _)
    · refine absurd (congrArg Prod.fst h) (best_kind_ne (List.cons_ne_nil _ _) ?_)
      simp
  case h_10 => split at h <;> simp at h
  all_goals simp at h

/-! ## (3) The whole text -/

/-- **The tokens of the rest of a text**: scanning `cs`, which follows `pre` in the text, gives
tokens located in the text at or after the end of `pre`, in order. The induction follows the
scan, one skipped space or one token at a time. -/
theorem tokensFrom_ok (size : Nat) (cs : List Char) (pos : Nat) (pre : List Char)
    (hpos : pos = utf8Length pre) (hsize : size = utf8Length (pre ++ cs)) :
    (∀ t ∈ tokensFrom size cs pos, TokenOk (pre ++ cs) t ∧ pos ≤ t.span.start) ∧
      (tokensFrom size cs pos).Pairwise (fun a b => a.span.stop ≤ b.span.start) := by
  induction cs, pos using tokensFrom.induct generalizing pre with
  | case1 pos =>
    rw [tokensFrom]
    refine ⟨?_, List.pairwise_singleton _ _⟩
    intro t ht
    rw [List.mem_singleton] at ht
    subst ht
    refine ⟨⟨⟨pre, [], by simp, ?_, ?_⟩, nofun, nofun⟩, ?_⟩ <;> simp [Span.empty, hsize, hpos]
  | case2 pos c rest hsp ih =>
    rw [tokensFrom, if_pos hsp]
    have hc : c.utf8Size = 1 := utf8Size_of_isCssSpace hsp
    obtain ⟨hok, hpair⟩ := ih (pre ++ [c]) (by simp [hpos, hc]) (by simp [hsize])
    simp only [List.append_assoc, List.singleton_append] at hok
    exact ⟨fun t ht => ⟨(hok t ht).1, by have := (hok t ht).2; omega⟩, hpair⟩
  | case3 pos c rest hsp kind n hstep taken stop ih =>
    rw [tokensFrom, if_neg hsp]
    simp only [hstep]
    -- the text is the scanned prefix, the token, then what is left to scan
    have htext : pre ++ c :: rest = (pre ++ taken) ++ (c :: rest).drop (max 1 n) := by
      rw [List.append_assoc, List.take_append_drop]
    have hstop : stop = utf8Length (pre ++ taken) := by
      simp only [stop, hpos, utf8Length_append]
    obtain ⟨hok, hpair⟩ := ih (pre ++ taken) hstop (by rw [hsize, htext])
    rw [← htext] at hok
    have hhead : TokenOk (pre ++ c :: rest) ⟨kind, ⟨pos, stop⟩, taken⟩ :=
      ⟨⟨pre, (c :: rest).drop (max 1 n), by rw [htext, List.append_assoc], hpos,
        by rw [hstop, utf8Length_append]⟩,
        fun h => by subst h; exact step_url hstep, fun h => by subst h; exact step_string hstep⟩
    have hle : pos ≤ stop := Nat.le_add_right pos _
    refine ⟨?_, List.Pairwise.cons (fun t ht => (hok t ht).2) hpair⟩
    rintro t (_ | ⟨_, ht⟩)
    · exact ⟨hhead, Nat.le_refl pos⟩
    · exact ⟨(hok t ht).1, Nat.le_trans hle (hok t ht).2⟩

end Lexer

/-- **Every token of a text reads its own characters at its span**, and a reference or a string
token has the delimiters of its kind. -/
theorem tokenize_ok (s : String) : ∀ t ∈ tokenize s, TokenOk s.toList t := by
  intro t ht
  have hsize : s.utf8ByteSize = utf8Length ([] ++ s.toList) := utf8ByteSize_eq_utf8Length s
  exact ((Lexer.tokensFrom_ok _ _ 0 [] rfl hsize).1 t ht).1

/-- **The tokens of a text come in order**, each ending before the next begins. -/
theorem tokenize_ordered (s : String) :
    (tokenize s).Pairwise (fun a b => a.span.stop ≤ b.span.start) := by
  have hsize : s.utf8ByteSize = utf8Length ([] ++ s.toList) := utf8ByteSize_eq_utf8Length s
  exact (Lexer.tokensFrom_ok _ _ 0 [] rfl hsize).2

end Css

end StyleRebase
