import StyleRebase.Proofs.Relexing

/-! # The tokens of any text are well formed

Whatever the text, the scanner cuts it into tokens and one end-of-file token at its byte length.
Every other token is non-empty, starts and ends on character boundaries and starts with a
character that is not CSS whitespace; the tokens come in order; the bytes between them are CSS
whitespace; no token is an error. A string token keeps both of its quotes, a reference token
reads `url(` in some ASCII case and ends with `)`, and after `url(` the scanner cuts a function
name of four bytes exactly when a quote comes first after the whitespace.

* **`UrlText`** — `url(` in any ASCII case, a body and `)`.
* **`QuoteFirst`** — a quote comes first once the leading whitespace is skipped.
* **`TokenWellFormed`** — a token as the scanner must cut it from a text.
* **`Lexed`** — a whole token stream of a text: the tokens, then end of file, and only
  whitespace between them.
* **`tokenize_lexed`** — the scanner's output is such a stream, for every text. -/

namespace StyleRebase.Css

/-! ## (1) What a well-formed token stream is -/

/-- **The text of a reference token**: `url(` in any ASCII case, a body, then `)`. -/
def UrlText (text : List Char) : Prop :=
  ∃ u r l body, text = u :: r :: l :: '(' :: (body ++ [')']) ∧
    u.toLower = 'u' ∧ r.toLower = 'r' ∧ l.toLower = 'l'

/-- **A quote comes first** once the CSS whitespace at the head of the text is skipped. -/
def QuoteFirst (cs : List Char) : Prop :=
  (cs.dropWhile isCssSpace).head? = some '"' ∨ (cs.dropWhile isCssSpace).head? = some '\''

/-- **A token as the scanner must cut it from `text`**: it reads its characters at its span and
takes at least one, it starts with a character that is not whitespace, it is neither the end of
file nor an error, and the kinds that have delimiters have them. The last field is the rule
for `url(`: where the text at the token starts with `url(`, the token is a function name of four
bytes exactly when a quote follows the whitespace after it. -/
structure TokenWellFormed (text : List Char) (t : Token) : Prop where
  located : Located text t.span t.text
  nonempty : t.span.start < t.span.stop
  head_not_space : ∀ c ∈ t.text.head?, isCssSpace c = false
  not_eof : t.kind ≠ .eof
  not_error : t.kind ≠ .error
  string : t.kind = .string → StringShape t.text ∧ 2 ≤ t.span.stop - t.span.start
  url : t.kind = .url → UrlText t.text
  url_rule : ∀ pre post, text = pre ++ t.text ++ post → t.span.start = utf8Length pre →
    Lexer.startsWithUrl (t.text ++ post) = true →
    (t.kind = .function ∧ t.span.stop = t.span.start + 4 ↔ QuoteFirst ((t.text ++ post).drop 4))

/-- **A well-formed token stream of `s`**: well-formed tokens in order, then one end-of-file
token at the end of the text, and every byte that no token covers is CSS whitespace. -/
structure Lexed (s : String) (toks : List Token) : Prop where
  eof_last : toks.getLast? = some ⟨.eof, Span.empty s.utf8ByteSize, []⟩
  tokens : ∀ t ∈ toks.dropLast, TokenWellFormed s.toList t
  ordered : toks.Pairwise fun a b => a.span.stop ≤ b.span.start
  gaps : ∀ o < s.utf8ByteSize, (∀ t ∈ toks, ¬(t.span.start ≤ o ∧ o < t.span.stop)) →
    ∃ pre c post, s.toList = pre ++ c :: post ∧ utf8Length pre = o ∧ isCssSpace c = true

/-! ## (2) Facts of the kinds -/

/-- A string token takes at least its two quotes, one byte each. -/
theorem StringShape.two_le {text : List Char} (h : StringShape text) : 2 ≤ utf8Length text := by
  obtain ⟨q, body, rfl, hq⟩ := h
  have hq1 : q.utf8Size = 1 := by rcases hq with rfl | rfl <;> rfl
  simp only [utf8Length_cons, utf8Length_append, hq1]
  omega

/-- **What starting with `url(` means**: three letters that lower-case to `u`, `r`, `l`, then
`(`. -/
theorem startsWithUrl_inv {cs : List Char} (h : Lexer.startsWithUrl cs = true) :
    ∃ u r l z, cs = u :: r :: l :: '(' :: z ∧ u.toLower = 'u' ∧ r.toLower = 'r' ∧
      l.toLower = 'l' := by
  unfold Lexer.startsWithUrl at h
  split at h
  · rename_i u r l z
    simp only [Bool.and_eq_true, beq_iff_eq] at h
    exact ⟨u, r, l, z, rfl, h.1.1, h.1.2, h.2⟩
  · exact absurd h Bool.false_ne_true

/-- **A reference shape cut from a text that starts with `url(`** reads `url(` in ASCII case. -/
theorem UrlShape.urlText {cs : List Char} {k : Nat} (hs : Lexer.startsWithUrl cs = true)
    (h : UrlShape (cs.take k)) : UrlText (cs.take k) := by
  obtain ⟨u, r, l, body, htext, -⟩ := h
  obtain ⟨u', r', l', z, rfl, hu, hr, hl⟩ := startsWithUrl_inv hs
  -- the first four characters of the cut are those of the text
  have hk : 4 ≤ k := by
    by_contra hlt
    have hlen := congrArg List.length htext
    simp only [List.length_take, List.length_cons, List.length_append] at hlen
    omega
  obtain ⟨j, rfl⟩ : ∃ j, k = j + 1 + 1 + 1 + 1 := ⟨k - 4, by omega⟩
  simp only [List.take_succ_cons, List.cons.injEq] at htext ⊢
  obtain ⟨rfl, rfl, rfl, -, hbody⟩ := htext
  exact ⟨u', r', l', body, by rw [hbody], hu, hr, hl⟩

/-- `url(` is four bytes. -/
theorem startsWithUrl_take_four {cs : List Char} (h : Lexer.startsWithUrl cs = true) :
    utf8Length (cs.take 4) = 4 := by
  obtain ⟨u, r, l, z, rfl, hu, hr, hl⟩ := startsWithUrl_inv h
  simp only [List.take_succ_cons, List.take_zero, utf8Length_cons, utf8Length_nil,
    utf8Size_of_toLower_eq hu (by decide), utf8Size_of_toLower_eq hr (by decide),
    utf8Size_of_toLower_eq hl (by decide)]
  rfl

/-! ## (3) The scanner's step -/

namespace Lexer

/-- The rule for `url(` gives a function name, a reference or a malformed reference. -/
theorem afterUrl_kind (rest : List Char) :
    (afterUrl rest).1 = .function ∨ (afterUrl rest).1 = .url ∨ (afterUrl rest).1 = .badUrl := by
  rw [afterUrl_eq]
  split
  · exact .inl rfl
  · split
    · exact .inr (.inl rfl)
    · exact .inr (.inr rfl)

/-- The longest-match candidates are names, numbers and a delimiter. -/
theorem best_candidates_kind (cs : List Char) :
    (best (candidates cs)).1 ≠ .eof ∧ (best (candidates cs)).1 ≠ .error := by
  have hmem := @best_mem (candidates cs) (by simp [candidates])
  generalize best (candidates cs) = b at hmem ⊢
  simp only [candidates, List.mem_cons, List.not_mem_nil, or_false] at hmem
  rcases hmem with rfl | rfl | rfl | rfl | rfl | rfl <;> simp

/-- **The step gives neither the end of file nor an error**: every rule has a kind of its own
and the last one, a single delimiter, matches any character. -/
theorem step_kind_ne {cs : List Char} {k : TokenKind} {n : Nat} (h : step cs = (k, n)) :
    k ≠ .eof ∧ k ≠ .error := by
  unfold step at h
  split at h
  case h_13 =>
    split at h
    · have hk := afterUrl_kind (cs.drop 4)
      rw [h] at hk
      rcases hk with rfl | rfl | rfl <;> decide
    · obtain ⟨hk, -⟩ := Prod.mk.inj h
      have hb := best_candidates_kind cs
      rw [candidates] at hb
      rw [← hk]
      exact hb
  -- the comment and string arms, then the one-character punctuation
  case h_10 => split at h <;> cases h <;> decide
  case h_11 | h_12 => split at h; split at h <;> cases h <;> decide
  all_goals cases h; decide

/-- Skipping the leading whitespace by count is skipping it by test. -/
theorem drop_spaceRun (cs : List Char) : cs.drop (spaceRun cs) = cs.dropWhile isCssSpace := by
  induction cs with
  | nil => rfl
  | cons c cs ih =>
    by_cases hc : isCssSpace c = true
    · rw [spaceRun, if_pos hc, List.dropWhile_cons_of_pos hc, Nat.add_comm, List.drop_succ_cons,
        ih]
    · rw [spaceRun, if_neg hc, List.dropWhile_cons_of_neg hc, List.drop_zero]

theorem quoteFirst_iff (cs : List Char) :
    QuoteFirst cs ↔ quoteAhead (cs.drop (spaceRun cs)) = true := by
  simp [QuoteFirst, quoteAhead, drop_spaceRun]

/-- **After `url(`, a quote first makes a function name of four characters.** -/
theorem step_of_quoteFirst {cs : List Char} (hs : startsWithUrl cs = true)
    (hq : QuoteFirst (cs.drop 4)) : step cs = (.function, 4) := by
  rw [step_of_startsWithUrl hs, afterUrl_eq, if_pos ((quoteFirst_iff _).mp hq)]

/-- **After `url(`, a function name means a quote came first.** -/
theorem quoteFirst_of_step_function {cs : List Char} (hs : startsWithUrl cs = true)
    (h : (step cs).1 = .function) : QuoteFirst (cs.drop 4) := by
  rw [step_of_startsWithUrl hs, afterUrl_eq] at h
  rw [quoteFirst_iff]
  split at h
  · assumption
  · split at h <;> cases h

end Lexer

/-! ## (4) The token at the head of the text -/

/-- **The token the step cuts after `pre` is well formed**: each field is a fact of the step. -/
theorem head_wellFormed (pre : List Char) {c : Char} {rest : List Char} {kind : TokenKind}
    {n : Nat} (hsp : isCssSpace c = false) (hstep : Lexer.step (c :: rest) = (kind, n)) :
    TokenWellFormed (pre ++ c :: rest)
      ⟨kind, ⟨utf8Length pre, utf8Length pre + utf8Length ((c :: rest).take (max 1 n))⟩,
        (c :: rest).take (max 1 n)⟩ := by
  have htake : (c :: rest).take (max 1 n) = c :: rest.take (max 1 n - 1) := by
    rw [show max 1 n = max 1 n - 1 + 1 by omega, List.take_succ_cons, Nat.add_sub_cancel]
  have hkind := Lexer.step_kind_ne hstep
  refine ⟨⟨pre, (c :: rest).drop (max 1 n), ?_, rfl, rfl⟩, ?_, ?_, hkind.1, hkind.2, ?_, ?_,
    ?_⟩
  · rw [List.append_assoc, List.take_append_drop]
  · -- a token takes at least its first character
    have := utf8Size_pos c
    dsimp only
    rw [htake, utf8Length_cons]
    omega
  · rw [htake]
    simpa using hsp
  · rintro rfl
    have hshape := Lexer.step_string hstep
    have := hshape.two_le
    exact ⟨hshape, by dsimp only; omega⟩
  · rintro rfl
    exact (Lexer.step_url hstep).urlText (Lexer.startsWithUrl_of_step_url hstep)
  · -- the text at the token is the text after `pre`, which the step read
    intro pre' post htext hpre hs
    obtain ⟨-, hpost⟩ := append_eq_of_utf8Length
      (show pre ++ (c :: rest) = pre' ++ ((c :: rest).take (max 1 n) ++ post) by
        rw [htext, List.append_assoc]) hpre
    rw [← hpost] at hs ⊢
    dsimp only
    constructor
    · rintro ⟨rfl, -⟩
      exact Lexer.quoteFirst_of_step_function hs (by rw [hstep])
    · intro hq
      obtain ⟨rfl, rfl⟩ := Prod.mk.inj (hstep.symm.trans (Lexer.step_of_quoteFirst hs hq))
      exact ⟨rfl, by rw [show max 1 4 = 4 from rfl, startsWithUrl_take_four hs]⟩

/-! ## (5) The whole text -/

namespace Lexer

/-- **The scan of the rest of a text** gives well-formed tokens, then the end of file. The
induction follows the scan: a skipped space adds nothing, a step adds its well-formed token. -/
theorem tokensFrom_wellFormed (size : Nat) (cs : List Char) (pos : Nat) (pre : List Char)
    (hpos : pos = utf8Length pre) :
    ∃ body, tokensFrom size cs pos = body ++ [⟨.eof, Span.empty size, []⟩] ∧
      ∀ t ∈ body, TokenWellFormed (pre ++ cs) t := by
  induction cs, pos using tokensFrom.induct generalizing pre with
  | case1 pos => exact ⟨[], by rw [tokensFrom, List.nil_append], by simp⟩
  | case2 pos c rest hsp ih =>
    have hc : c.utf8Size = 1 := utf8Size_of_isCssSpace hsp
    obtain ⟨body, hbody, hok⟩ := ih (pre ++ [c]) (by simp [hpos, hc])
    rw [List.append_assoc, List.singleton_append] at hok
    exact ⟨body, by rw [tokensFrom, if_pos hsp, hbody], hok⟩
  | case3 pos c rest hsp kind n hstep taken stop ih =>
    have hstop : stop = utf8Length (pre ++ taken) := by
      simp only [stop, hpos, utf8Length_append]
    obtain ⟨body, hbody, hok⟩ := ih (pre ++ taken) hstop
    have htext : (pre ++ taken) ++ (c :: rest).drop (max 1 n) = pre ++ c :: rest := by
      rw [List.append_assoc, List.take_append_drop]
    rw [htext] at hok
    refine ⟨⟨kind, ⟨pos, stop⟩, taken⟩ :: body, ?_, ?_⟩
    · rw [tokensFrom_cons_step (by simpa using hsp) hstep, hbody]
      rfl
    · rintro t (_ | ⟨_, ht⟩)
      · subst hpos
        exact head_wellFormed pre (by simpa using hsp) hstep
      · exact hok t ht

/-- **The bytes of the rest of a text that no token covers are whitespace.** The induction
follows the scan: a skipped space is such a byte, and a step's token covers what it takes. -/
theorem tokensFrom_gaps (size : Nat) (cs : List Char) (pos : Nat) (pre : List Char)
    (hpos : pos = utf8Length pre) (hsize : size = utf8Length (pre ++ cs)) :
    ∀ o, pos ≤ o → o < size →
      (∀ t ∈ tokensFrom size cs pos, ¬(t.span.start ≤ o ∧ o < t.span.stop)) →
      ∃ pre' c post, pre ++ cs = pre' ++ c :: post ∧ utf8Length pre' = o ∧
        isCssSpace c = true := by
  induction cs, pos using tokensFrom.induct generalizing pre with
  | case1 pos =>
    intro o ho hlt _
    simp only [List.append_nil] at hsize
    omega
  | case2 pos c rest hsp ih =>
    intro o ho hlt hfree
    have hc : c.utf8Size = 1 := utf8Size_of_isCssSpace hsp
    rw [tokensFrom, if_pos hsp] at hfree
    -- the skipped space is the byte at `pos`; the bytes after it are the rest's
    by_cases hat : o = pos
    · exact ⟨pre, c, rest, rfl, hat ▸ hpos.symm, hsp⟩
    · obtain ⟨pre', d, post, htext, hlen, hd⟩ := ih (pre ++ [c]) (by simp [hpos, hc])
        (by simp [hsize]) o (by omega) hlt hfree
      exact ⟨pre', d, post, by simpa using htext, hlen, hd⟩
  | case3 pos c rest hsp kind n hstep taken stop ih =>
    intro o ho hlt hfree
    rw [tokensFrom_cons_step (by simpa using hsp) hstep] at hfree
    have hstop : stop = utf8Length (pre ++ taken) := by
      simp only [stop, hpos, utf8Length_append]
    have htext : (pre ++ taken) ++ (c :: rest).drop (max 1 n) = pre ++ c :: rest := by
      rw [List.append_assoc, List.take_append_drop]
    -- the head token covers the bytes from `pos` to `stop`
    have hafter : stop ≤ o := by
      by_contra hlt'
      exact hfree _ List.mem_cons_self ⟨ho, by simpa [stop] using hlt'⟩
    obtain ⟨pre', d, post, h, hlen, hd⟩ := ih (pre ++ taken) hstop (by rw [hsize, htext]) o
      hafter hlt (fun t ht => hfree t (List.mem_cons_of_mem _ ht))
    exact ⟨pre', d, post, by rw [← htext, h], hlen, hd⟩

end Lexer

/-- **The scanner's output is a well-formed token stream**, for every text: well-formed tokens
in order, one end-of-file token at the end, and whitespace between them. -/
theorem tokenize_lexed (s : String) : Lexed s (tokenize s) := by
  have hsize : s.utf8ByteSize = utf8Length ([] ++ s.toList) := utf8ByteSize_eq_utf8Length s
  obtain ⟨body, hbody, hok⟩ := Lexer.tokensFrom_wellFormed s.utf8ByteSize s.toList 0 [] rfl
  refine ⟨?_, ?_, tokenize_ordered s, ?_⟩
  · rw [tokenize, hbody, List.getLast?_concat]
  · rw [tokenize, hbody, List.dropLast_concat]
    exact hok
  · intro o hlt hfree
    exact Lexer.tokensFrom_gaps _ _ 0 [] rfl hsize o (Nat.zero_le o) hlt hfree

end StyleRebase.Css
