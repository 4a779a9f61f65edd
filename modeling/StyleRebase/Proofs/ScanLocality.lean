import StyleRebase.Proofs.TokenSpans

/-! # The scanner stops at quotes and parentheses

The scanner decides each token by reading the characters at its head and, for some kinds, a
little past them. None of its scans reads past a quote or a `(` that it does not take: a name,
a number or a delimiter stops before such a character, and strings, comments and references
stop at their closing character. So a token that ends before a quote or a `(` is the same token
whatever the text after that character is.

* **`isStopChar`** — `"`, `'` and `(`.
* **`StopsAt f`** — the scan `f`, when its result on `x ++ c :: y` ends before the stop character
  `c`, gives the same result on `x ++ c :: y'`.
* **`step_stopsAt`** — the scanner's step, unless it finds a malformed reference (whose body scan
  runs on past its `)`), gives the same token on two texts that agree up to a stop character
  after the token. -/

namespace StyleRebase.Css.Lexer

/-! ## (1) Stop characters -/

/-- **The characters no scan reads past without taking them**: the two quotes and `(`. -/
def isStopChar (c : Char) : Bool := c == '"' || c == '\'' || c == '('

theorem isStopChar_cases {c : Char} (h : isStopChar c = true) : c = '"' ∨ c = '\'' ∨ c = '(' := by
  simpa [isStopChar, or_assoc] using h

/-- **A scan that stops at a stop character** it does not take: when its result on `x ++ c :: y`
ends before `c`, the text after `c` does not matter. -/
def StopsAt (f : List Char → Nat) : Prop :=
  ∀ x c y y', isStopChar c = true → f (x ++ c :: y) ≤ x.length → f (x ++ c :: y') = f (x ++ c :: y)

section
variable {c : Char} (hc : isStopChar c = true)
include hc

theorem isDigit_of_stop : c.isDigit = false := by
  rcases isStopChar_cases hc with rfl | rfl | rfl <;> decide

theorem isUnitChar_of_stop : isUnitChar c = false := by
  rcases isStopChar_cases hc with rfl | rfl | rfl <;> decide

theorem isCssSpace_of_stop : isCssSpace c = false := by
  rcases isStopChar_cases hc with rfl | rfl | rfl <;> decide

theorem isCssNewline_of_stop : isCssNewline c = false := by
  rcases isStopChar_cases hc with rfl | rfl | rfl <;> decide

theorem ne_backslash_of_stop : (c == '\\') = false := by
  rcases isStopChar_cases hc with rfl | rfl | rfl <;> decide

/-- A stop character is not one a scan looks for by itself: no sign, dash, dot, exponent
letter, unit letter or `%`. -/
theorem ne_of_stop : c ≠ '-' ∧ c ≠ '+' ∧ c ≠ '.' ∧ c ≠ '%' ∧ c ≠ '*' ∧ c ≠ ')' ∧
    (c.isAlpha || c == '_') = false ∧ (c == 'e' || c == 'E') = false := by
  rcases isStopChar_cases hc with rfl | rfl | rfl <;> decide

end

/-! ## (2) Runs

A run takes characters while they have a property, so it stops at the first character that does
not, whatever follows. -/

/-- **A run stops at a character it does not take**, whatever comes after it. -/
theorem run_append_stop {f : List Char → Nat} {p : Char → Bool}
    (hcons : ∀ d r, f (d :: r) = if p d then 1 + f r else 0) {c : Char} (hc : p c = false)
    (x y y' : List Char) : f (x ++ c :: y') = f (x ++ c :: y) := by
  induction x with
  | nil => rw [List.nil_append, List.nil_append, hcons, hcons, hc]; rfl
  | cons d x ih => rw [List.cons_append, List.cons_append, hcons, hcons, ih]

/-- **A run ends at the latest at a character it does not take.** -/
theorem run_append_stop_le {f : List Char → Nat} {p : Char → Bool}
    (hcons : ∀ d r, f (d :: r) = if p d then 1 + f r else 0) {c : Char} (hc : p c = false)
    (x y : List Char) : f (x ++ c :: y) ≤ x.length := by
  induction x with
  | nil => simp only [List.nil_append, hcons, hc, Bool.false_eq_true, ↓reduceIte,
      List.length_nil, Nat.le_refl]
  | cons d x ih =>
    rw [List.cons_append, hcons, List.length_cons]
    split <;> omega

section
variable {c : Char} (hc : isStopChar c = true)
include hc

theorem digitRun_append_stop (x y y' : List Char) : digitRun (x ++ c :: y') = digitRun (x ++ c :: y) :=
  run_append_stop (fun _ _ => rfl) (isDigit_of_stop hc) x y y'

theorem digitRun_append_stop_le (x y : List Char) : digitRun (x ++ c :: y) ≤ x.length :=
  run_append_stop_le (fun _ _ => rfl) (isDigit_of_stop hc) x y

theorem unitRun_append_stop (x y y' : List Char) : unitRun (x ++ c :: y') = unitRun (x ++ c :: y) :=
  run_append_stop (fun _ _ => rfl) (isUnitChar_of_stop hc) x y y'

theorem spaceRun_append_stop (x y y' : List Char) : spaceRun (x ++ c :: y') = spaceRun (x ++ c :: y) :=
  run_append_stop (fun _ _ => rfl) (isCssSpace_of_stop hc) x y y'

theorem spaceRun_append_stop_le (x y : List Char) : spaceRun (x ++ c :: y) ≤ x.length :=
  run_append_stop_le (fun _ _ => rfl) (isCssSpace_of_stop hc) x y

end

/-! ## (3) Names -/

theorem nameRun_stop {c : Char} (hc : isStopChar c = true) (y : List Char) :
    nameRun (c :: y) = 0 := by
  rcases isStopChar_cases hc with rfl | rfl | rfl <;> cases y <;> rfl

/-- **A run of name units stops at a stop character**: the character is no name character, and
an escape before it would take it, ending the run past it. The recursion follows the run's
units, one character or an escape of two. -/
theorem nameRun_stopsAt : StopsAt nameRun
  | [], c, y, y', hc, _ => by simp only [List.nil_append, nameRun_stop hc]
  | [d], c, y, y', hc, h => by
    simp only [List.cons_append, List.nil_append, List.length_singleton, nameRun.eq_2] at h ⊢
    by_cases hd : isNameChar d = true
    · simp only [hd, ↓reduceIte, nameRun_stop hc]
    · by_cases hb : (d == '\\') = true
      · -- the backslash would escape `c`, and the run would end past it
        simp only [hd, hb, isCssNewline_of_stop hc, Bool.false_eq_true, ↓reduceIte] at h
        omega
      · simp only [hd, hb, Bool.false_eq_true, ↓reduceIte]
  | d :: e :: x, c, y, y', hc, h => by
    simp only [List.cons_append, List.length_cons, nameRun.eq_2] at h ⊢
    by_cases hd : isNameChar d = true
    · simp only [hd, ↓reduceIte] at h ⊢
      have ih := nameRun_stopsAt (e :: x) c y y' hc (by simpa using (by omega : _ ≤ x.length + 1))
      simp only [List.cons_append] at ih
      rw [ih]
    · by_cases hb : (d == '\\') = true
      · by_cases he : isCssNewline e = true
        · simp only [hd, hb, he, Bool.false_eq_true, ↓reduceIte]
        · simp only [hd, hb, he, Bool.false_eq_true, ↓reduceIte] at h ⊢
          rw [nameRun_stopsAt x c y y' hc (by omega)]
      · simp only [hd, hb, Bool.false_eq_true, ↓reduceIte]

theorem startUnit_stop {c : Char} (hc : isStopChar c = true) (y : List Char) :
    startUnit (c :: y) = 0 := by
  rcases isStopChar_cases hc with rfl | rfl | rfl <;> cases y <;> rfl

/-- **A start unit stops at a stop character**: it reads at most two characters, and an escape
of the stop character would take it. -/
theorem startUnit_stopsAt : StopsAt startUnit
  | [], c, y, y', hc, _ => by simp only [List.nil_append, startUnit_stop hc]
  | [d], c, y, y', _, _ => by simp only [List.cons_append, List.nil_append, startUnit.eq_1]
  | d :: e :: x, c, y, y', _, _ => by simp only [List.cons_append, startUnit.eq_1]

/-- **The dashes an identifier may start with**, and the text after them. -/
def dashSplit : List Char → Nat × List Char
  | '-' :: '-' :: r => (2, r)
  | '-' :: r => (1, r)
  | r => (0, r)

theorem identLen_eq (cs : List Char) : identLen cs =
    if startUnit (dashSplit cs).2 = 0 then 0 else
      (dashSplit cs).1 + startUnit (dashSplit cs).2 +
        nameRun ((dashSplit cs).2.drop (startUnit (dashSplit cs).2)) := rfl

/-- **The dashes end before a stop character**: they are taken off the part before it. -/
theorem dashSplit_append_stop {c : Char} (hc : isStopChar c = true) (x y y' : List Char) :
    ∃ z, (dashSplit (x ++ c :: y)).2 = z ++ c :: y ∧ (dashSplit (x ++ c :: y')).2 = z ++ c :: y' ∧
      (dashSplit (x ++ c :: y')).1 = (dashSplit (x ++ c :: y)).1 ∧
      (dashSplit (x ++ c :: y)).1 + z.length = x.length := by
  have hne := (ne_of_stop hc).1
  match x with
  | [] =>
    refine ⟨[], ?_⟩
    simp only [List.nil_append, List.length_nil]
    rw [dashSplit.eq_3 _ (by simp [hne]) (by simp [hne]),
      dashSplit.eq_3 _ (by simp [hne]) (by simp [hne])]
    simp
  | [d] =>
    by_cases hd : d = '-'
    · subst hd
      refine ⟨[], ?_⟩
      simp only [List.cons_append, List.nil_append, List.length_singleton, List.length_nil]
      rw [dashSplit.eq_2 _ (by simp [hne]), dashSplit.eq_2 _ (by simp [hne])]
      simp
    · refine ⟨[d], ?_⟩
      simp only [List.cons_append, List.nil_append, List.length_singleton]
      rw [dashSplit.eq_3 _ (by simp [hd]) (by simp [hd]), dashSplit.eq_3 _ (by simp [hd])
        (by simp [hd])]
      simp
  | d :: e :: x =>
    by_cases hd : d = '-'
    · subst hd
      by_cases he : e = '-'
      · subst he
        exact ⟨x, by simp [dashSplit.eq_1]; omega⟩
      · refine ⟨e :: x, ?_⟩
        simp only [List.cons_append, List.length_cons]
        rw [dashSplit.eq_2 _ (by simp [he]), dashSplit.eq_2 _ (by simp [he])]
        simp only [true_and]
        omega
    · refine ⟨d :: e :: x, ?_⟩
      simp only [List.cons_append]
      rw [dashSplit.eq_3 _ (by simp [hd]) (by simp [hd]), dashSplit.eq_3 _ (by simp [hd])
        (by simp [hd])]
      simp

/-- **An identifier stops at a stop character**: its dashes, its start unit and its run of name
units each end before it. -/
theorem identLen_stopsAt : StopsAt identLen := by
  intro x c y y' hc h
  obtain ⟨z, hz, hz', hd, hlen⟩ := dashSplit_append_stop hc x y y'
  simp only [identLen_eq, hz, hz', hd] at h ⊢
  by_cases hs : startUnit (z ++ c :: y) = 0
  · simp only [startUnit_stopsAt z c y y' hc (by omega), hs, ↓reduceIte]
  · simp only [hs, ↓reduceIte] at h
    have hle : startUnit (z ++ c :: y) ≤ z.length := by omega
    rw [List.drop_append_of_le_length hle] at h
    simp only [startUnit_stopsAt z c y y' hc hle, hs, ↓reduceIte,
      List.drop_append_of_le_length hle]
    rw [nameRun_stopsAt (z.drop _) c y y' hc (by simp only [List.length_drop]; omega)]

/-- **A function name**: an identifier followed by `(`. -/
theorem functionLen_eq (cs : List Char) : functionLen cs =
    if identLen cs = 0 then 0
    else if (cs.drop (identLen cs)).head? = some '(' then identLen cs + 1 else 0 := by
  unfold functionLen
  dsimp only
  split
  · rfl
  · split
    · rename_i heq
      simp only [heq, List.head?_cons, ↓reduceIte]
    · rename_i hne _ hnot
      cases hdrop : cs.drop (identLen cs) with
      | nil => simp
      | cons d r =>
        have hd : d ≠ '(' := fun hd => hnot r (by rw [hdrop, hd])
        simp [hd]

/-- **A function name stops at a stop character** when its identifier does: a `(` right after
the identifier is the same character on both texts. -/
theorem functionLen_append_stop {x y y' : List Char} {c : Char} (hc : isStopChar c = true)
    (h : identLen (x ++ c :: y) ≤ x.length) :
    functionLen (x ++ c :: y') = functionLen (x ++ c :: y) := by
  rw [functionLen_eq, functionLen_eq, identLen_stopsAt x c y y' hc h,
    List.drop_append_of_le_length h, List.drop_append_of_le_length h, List.head?_append,
    List.head?_append]
  rfl

theorem atKeywordLen_stopsAt : StopsAt atKeywordLen
  | [], c, y, y', hc, _ => by
    have hat : c ≠ '@' := by rcases isStopChar_cases hc with rfl | rfl | rfl <;> decide
    simp only [List.nil_append]
    rw [atKeywordLen.eq_2 _ (by simp [hat]), atKeywordLen.eq_2 _ (by simp [hat])]
  | d :: x, c, y, y', hc, h => by
    simp only [List.cons_append, List.length_cons] at h ⊢
    by_cases hd : d = '@'
    · subst hd
      simp only [atKeywordLen] at h ⊢
      by_cases hn : identLen (x ++ c :: y) = 0
      · rw [identLen_stopsAt x c y y' hc (by omega), if_pos hn]
      · rw [if_neg hn] at h
        rw [identLen_stopsAt x c y y' hc (by omega)]
    · rw [atKeywordLen.eq_2 _ (by simp [hd]), atKeywordLen.eq_2 _ (by simp [hd])]

theorem hashLen_stopsAt : StopsAt hashLen
  | [], c, y, y', hc, _ => by
    have hhash : c ≠ '#' := by rcases isStopChar_cases hc with rfl | rfl | rfl <;> decide
    simp only [List.nil_append]
    rw [hashLen.eq_2 _ (by simp [hhash]), hashLen.eq_2 _ (by simp [hhash])]
  | d :: x, c, y, y', hc, h => by
    simp only [List.cons_append, List.length_cons] at h ⊢
    by_cases hd : d = '#'
    · subst hd
      simp only [hashLen] at h ⊢
      by_cases hn : nameRun (x ++ c :: y) = 0
      · rw [nameRun_stopsAt x c y y' hc (by omega), if_pos hn]
      · rw [if_neg hn] at h
        rw [nameRun_stopsAt x c y y' hc (by omega)]
    · rw [hashLen.eq_2 _ (by simp [hd]), hashLen.eq_2 _ (by simp [hd])]

/-! ## (4) Numbers

A number reads signs, digits, a dot, an exponent letter and unit characters, none of which is a
stop character, and no escapes: what it reads before a stop character decides it, whatever its
length. -/

section
variable {c : Char} (hc : isStopChar c = true)
include hc

/-- A unit reads at most two characters before its run, none of them a stop character. -/
theorem unitLen_append_stop : ∀ x y y' : List Char, unitLen (x ++ c :: y') = unitLen (x ++ c :: y)
  | [], y, y' => by
    obtain ⟨hdash, -, -, hpct, -, -, halpha, -⟩ := ne_of_stop hc
    simp only [List.nil_append]
    rw [unitLen.eq_3 _ _ hpct (by simp [hdash]), unitLen.eq_3 _ _ hpct (by simp [hdash]), halpha]
    rfl
  | [d], y, y' => by
    simp only [List.cons_append, List.nil_append]
    by_cases hp : d = '%'
    · subst hp
      rw [unitLen.eq_1, unitLen.eq_1]
    · by_cases hm : d = '-'
      · subst hm
        rw [unitLen.eq_2, unitLen.eq_2, (ne_of_stop hc).2.2.2.2.2.2.1]
        rfl
      · rw [unitLen.eq_3 _ _ hp (by simp [hm]), unitLen.eq_3 _ _ hp (by simp [hm]),
          show unitRun (c :: y') = unitRun (c :: y) from unitRun_append_stop hc [] y y']
  | d :: e :: x, y, y' => by
    simp only [List.cons_append]
    by_cases hp : d = '%'
    · subst hp
      rw [unitLen.eq_1, unitLen.eq_1]
    · by_cases hm : d = '-'
      · subst hm
        rw [unitLen.eq_2, unitLen.eq_2, unitRun_append_stop hc x y y']
      · rw [unitLen.eq_3 _ _ hp (by simp [hm]), unitLen.eq_3 _ _ hp (by simp [hm]),
          show unitRun (e :: (x ++ c :: y')) = unitRun (e :: (x ++ c :: y)) from
            unitRun_append_stop hc (e :: x) y y']

end

/-- **The sign a number or an exponent may start with**, and the text after it. -/
def signSplit : List Char → Nat × List Char
  | '+' :: r => (1, r)
  | '-' :: r => (1, r)
  | r => (0, r)

theorem exponentLen_cons (e : Char) (rest : List Char) : exponentLen (e :: rest) =
    if (e == 'e' || e == 'E') = true then
      (if digitRun (signSplit rest).2 = 0 then 0
       else 1 + (signSplit rest).1 + digitRun (signSplit rest).2)
    else 0 := rfl

/-- **The fraction of a number**: a dot and at least one digit, or nothing. -/
def fracLen : List Char → Nat
  | '.' :: r => if digitRun r = 0 then 0 else 1 + digitRun r
  | _ => 0

theorem numberLen_eq (cs : List Char) : numberLen cs =
    if digitRun (signSplit cs).2 +
        fracLen ((signSplit cs).2.drop (digitRun (signSplit cs).2)) = 0 then 0
    else
      (signSplit cs).1 + (digitRun (signSplit cs).2 +
        fracLen ((signSplit cs).2.drop (digitRun (signSplit cs).2))) +
      max (exponentLen ((signSplit cs).2.drop (digitRun (signSplit cs).2 +
          fracLen ((signSplit cs).2.drop (digitRun (signSplit cs).2)))) +
        unitLen (((signSplit cs).2.drop (digitRun (signSplit cs).2 +
          fracLen ((signSplit cs).2.drop (digitRun (signSplit cs).2)))).drop
          (exponentLen ((signSplit cs).2.drop (digitRun (signSplit cs).2 +
            fracLen ((signSplit cs).2.drop (digitRun (signSplit cs).2)))))))
        (unitLen ((signSplit cs).2.drop (digitRun (signSplit cs).2 +
          fracLen ((signSplit cs).2.drop (digitRun (signSplit cs).2))))) := rfl

section
variable {c : Char} (hc : isStopChar c = true)
include hc

/-- **The sign ends before a stop character**: it is taken off the part before it. -/
theorem signSplit_append_stop (x y y' : List Char) :
    ∃ z, (signSplit (x ++ c :: y)).2 = z ++ c :: y ∧ (signSplit (x ++ c :: y')).2 = z ++ c :: y' ∧
      (signSplit (x ++ c :: y')).1 = (signSplit (x ++ c :: y)).1 ∧
      (signSplit (x ++ c :: y)).1 + z.length = x.length := by
  obtain ⟨hdash, hplus, -⟩ := ne_of_stop hc
  match x with
  | [] =>
    refine ⟨[], ?_⟩
    simp only [List.nil_append]
    rw [signSplit.eq_3 _ (by simp [hplus]) (by simp [hdash]),
      signSplit.eq_3 _ (by simp [hplus]) (by simp [hdash])]
    simp
  | d :: x =>
    by_cases hp : d = '+'
    · subst hp
      exact ⟨x, by simp [signSplit.eq_1]; omega⟩
    · by_cases hm : d = '-'
      · subst hm
        exact ⟨x, by simp [signSplit.eq_2]; omega⟩
      · refine ⟨d :: x, ?_⟩
        simp only [List.cons_append]
        rw [signSplit.eq_3 _ (by simp [hp]) (by simp [hm]),
          signSplit.eq_3 _ (by simp [hp]) (by simp [hm])]
        simp

theorem exponentLen_append_stop :
    ∀ x y y' : List Char, exponentLen (x ++ c :: y') = exponentLen (x ++ c :: y)
  | [], y, y' => by
    simp only [List.nil_append, exponentLen_cons, (ne_of_stop hc).2.2.2.2.2.2.2]
    rfl
  | d :: x, y, y' => by
    obtain ⟨z, hz, hz', h1, -⟩ := signSplit_append_stop hc x y y'
    simp only [List.cons_append, exponentLen_cons, hz, hz', h1, digitRun_append_stop hc z y y']

theorem exponentLen_append_stop_le : ∀ x y : List Char, exponentLen (x ++ c :: y) ≤ x.length
  | [], y => by
    simp only [List.nil_append, exponentLen_cons, (ne_of_stop hc).2.2.2.2.2.2.2]
    exact Nat.le_refl 0
  | d :: x, y => by
    obtain ⟨z, hz, -, -, hlen⟩ := signSplit_append_stop hc x y y
    have hd := digitRun_append_stop_le hc z y
    simp only [List.cons_append, exponentLen_cons, hz, List.length_cons]
    split
    · split <;> omega
    · omega

theorem fracLen_append_stop : ∀ x y y' : List Char, fracLen (x ++ c :: y') = fracLen (x ++ c :: y)
  | [], y, y' => by
    have hdot := (ne_of_stop hc).2.2.1
    simp only [List.nil_append]
    rw [fracLen.eq_2 _ (by simp [hdot]), fracLen.eq_2 _ (by simp [hdot])]
  | d :: x, y, y' => by
    simp only [List.cons_append]
    by_cases hd : d = '.'
    · subst hd
      simp only [fracLen, digitRun_append_stop hc x y y']
    · rw [fracLen.eq_2 _ (by simp [hd]), fracLen.eq_2 _ (by simp [hd])]

theorem fracLen_append_stop_le : ∀ x y : List Char, fracLen (x ++ c :: y) ≤ x.length
  | [], y => by
    have hdot := (ne_of_stop hc).2.2.1
    simp only [List.nil_append]
    rw [fracLen.eq_2 _ (by simp [hdot])]
    exact Nat.le_refl 0
  | d :: x, y => by
    simp only [List.cons_append, List.length_cons]
    by_cases hd : d = '.'
    · subst hd
      have := digitRun_append_stop_le hc x y
      simp only [fracLen]
      split <;> omega
    · rw [fracLen.eq_2 _ (by simp [hd])]
      omega

/-- **A number is decided before a stop character**: its sign, digits, fraction, exponent and
unit all end before it. -/
theorem numberLen_append_stop (x y y' : List Char) :
    numberLen (x ++ c :: y') = numberLen (x ++ c :: y) := by
  obtain ⟨z, hz, hz', h1, -⟩ := signSplit_append_stop hc x y y'
  have hw := digitRun_append_stop_le hc z y
  have hf := fracLen_append_stop_le hc (z.drop (digitRun (z ++ c :: y))) y
  rw [List.length_drop] at hf
  have hm : digitRun (z ++ c :: y) + fracLen (z.drop (digitRun (z ++ c :: y)) ++ c :: y) ≤
      z.length := by omega
  have he := exponentLen_append_stop_le hc
    (z.drop (digitRun (z ++ c :: y) + fracLen (z.drop (digitRun (z ++ c :: y)) ++ c :: y))) y
  rw [numberLen_eq, numberLen_eq, hz, hz', h1, digitRun_append_stop hc z y y',
    List.drop_append_of_le_length hw, List.drop_append_of_le_length hw,
    fracLen_append_stop hc _ y y', List.drop_append_of_le_length hm,
    List.drop_append_of_le_length hm, exponentLen_append_stop hc _ y y',
    List.drop_append_of_le_length he, List.drop_append_of_le_length he,
    unitLen_append_stop hc _ y y', unitLen_append_stop hc _ y y']

end

/-! ## (5) Comments, strings and references -/

/-- A closed comment takes at least its `*/`. -/
theorem commentRest_some_ge {cs : List Char} {m : Nat} (h : commentRest cs = some m) : 2 ≤ m := by
  fun_induction commentRest cs generalizing m with
  | case1 => simp at h; omega
  | case2 d rest _ ih =>
    cases hr : commentRest rest with
    | none => simp [hr] at h
    | some k =>
      simp only [hr, Option.map_some, Option.some.injEq] at h
      have := ih hr
      omega
  | case3 => simp at h

/-- **A comment closed before a stop character** closes there whatever follows: the stop
character is no `*/`, and a closed comment takes at least two characters. -/
theorem commentRest_stopsAt {c : Char} (hc : isStopChar c = true) (y y' : List Char) :
    ∀ (x : List Char) {m : Nat}, commentRest (x ++ c :: y) = some m → m ≤ x.length →
      commentRest (x ++ c :: y') = some m
  | [], m, h, hm => by have := commentRest_some_ge h; simp at hm; omega
  | [_], m, h, hm => by have := commentRest_some_ge h; simp at hm; omega
  | d :: e :: x, m, h, hm => by
    simp only [List.cons_append, List.length_cons] at h hm ⊢
    by_cases hde : d = '*' ∧ e = '/'
    · obtain ⟨rfl, rfl⟩ := hde
      rw [commentRest.eq_1] at h ⊢
      exact h
    · have hnot : ∀ tail, d = '*' → e :: (x ++ c :: y) = '/' :: tail → False := by
        intro tail hd he
        exact hde ⟨hd, (List.cons.inj he).1⟩
      have hnot' : ∀ tail, d = '*' → e :: (x ++ c :: y') = '/' :: tail → False := by
        intro tail hd he
        exact hde ⟨hd, (List.cons.inj he).1⟩
      rw [commentRest.eq_2 _ _ hnot] at h
      rw [commentRest.eq_2 _ _ hnot']
      cases hr : commentRest (e :: (x ++ c :: y)) with
      | none => simp [hr] at h
      | some k =>
        simp only [hr, Option.map_some, Option.some.injEq] at h
        have ih := commentRest_stopsAt hc y y' (e :: x) hr (by simp; omega)
        simp only [List.cons_append] at ih
        rw [ih, ← h]
        rfl

/-- **A string closed or broken before a stop character** ends there whatever follows: the stop
character is no newline and no backslash, and reaching it would take it into the string. The
induction follows the string scan; `x` is the part before the stop character. -/
theorem stringRest_stopsAt {c : Char} (hc : isStopChar c = true) (q : Char) (y' : List Char) :
    ∀ cs x y, cs = x ++ c :: y → (stringRest q cs).1 ≤ x.length →
      stringRest q (x ++ c :: y') = stringRest q cs := by
  have hbs := ne_backslash_of_stop hc
  have hnl := isCssNewline_of_stop hc
  intro cs
  induction cs using stringRest.induct q with
  | case1 =>
    intro x y h
    exact absurd h.symm (by simp)
  | case2 d rest hq =>
    -- the closing quote
    intro x y h hle
    cases x with
    | nil =>
      simp only [List.nil_append, List.cons.injEq] at h
      obtain ⟨rfl, -⟩ := h
      rw [stringRest.eq_def] at hle
      simp [hq] at hle
    | cons e x =>
      simp only [List.cons_append, List.cons.injEq] at h
      obtain ⟨rfl, -⟩ := h
      rw [List.cons_append, stringRest.eq_def, stringRest.eq_def]
      simp [hq]
  | case3 d hq hb =>
    -- a backslash at the very end is not the stop character
    intro x y h
    cases x with
    | nil =>
      simp only [List.nil_append, List.cons.injEq] at h
      obtain ⟨rfl, -⟩ := h
      simp [hbs] at hb
    | cons e x =>
      simp only [List.cons_append, List.cons.injEq] at h
      exact absurd h.2.symm (by simp)
  | case4 d hq hb r m ok hr ih =>
    -- an escaped line break `\\\r\n`
    intro x y h hle
    rcases x with _ | ⟨e, _ | ⟨f, _ | ⟨g, x⟩⟩⟩
    · simp only [List.nil_append, List.cons.injEq] at h
      obtain ⟨rfl, -⟩ := h
      simp [hbs] at hb
    · simp only [List.cons_append, List.nil_append, List.cons.injEq] at h
      obtain ⟨-, rfl, -⟩ := h
      simp [isStopChar] at hc
    · simp only [List.cons_append, List.nil_append, List.cons.injEq] at h
      obtain ⟨-, -, rfl, -⟩ := h
      simp [isStopChar] at hc
    · simp only [List.cons_append, List.cons.injEq] at h
      obtain ⟨rfl, rfl, rfl, rfl⟩ := h
      rw [stringRest.eq_3] at hle
      simp only [hq, hb, if_true, if_false, Bool.false_eq_true, hr] at hle
      simp only [List.length_cons] at hle
      have ih' := ih x y rfl (by rw [hr]; omega)
      rw [List.cons_append, List.cons_append, List.cons_append, stringRest.eq_3, stringRest.eq_3]
      simp only [hq, hb, if_true, if_false, Bool.false_eq_true, ih']
  | case5 d hq hb e r hnot m ok hr ih =>
    -- an escape of one character
    intro x y h hle
    rcases x with _ | ⟨f, _ | ⟨g, x⟩⟩
    · simp only [List.nil_append, List.cons.injEq] at h
      obtain ⟨rfl, -⟩ := h
      simp [hbs] at hb
    · simp only [List.cons_append, List.nil_append, List.cons.injEq] at h
      obtain ⟨rfl, rfl, rfl⟩ := h
      rw [stringRest.eq_4 _ _ _ _ hnot] at hle
      simp only [hq, hb, if_true, if_false, Bool.false_eq_true, hr, List.length_singleton] at hle
      omega
    · simp only [List.cons_append, List.cons.injEq] at h
      obtain ⟨rfl, rfl, rfl⟩ := h
      rw [stringRest.eq_4 _ _ _ _ hnot] at hle
      simp only [hq, hb, if_true, if_false, Bool.false_eq_true, hr, List.length_cons] at hle
      have hnot' : ∀ r', e = '\r' → x ++ c :: y' = '\n' :: r' → False := by
        intro r' he hx
        cases x with
        | nil =>
          have hcn : c = '\n' := (List.cons.inj hx).1
          rw [hcn] at hnl
          exact absurd hnl (by decide)
        | cons k x =>
          have hk : k = '\n' := (List.cons.inj hx).1
          exact hnot _ he (by rw [List.cons_append, hk])
      rw [List.cons_append, List.cons_append, stringRest.eq_4 _ _ _ _ hnot',
        stringRest.eq_4 _ _ _ _ hnot]
      simp only [hq, hb, if_true, if_false, Bool.false_eq_true, ih x y rfl (by rw [hr]; omega)]
  | case6 d rest hq hb hn =>
    -- a raw line break ends a malformed string
    intro x y h hle
    cases x with
    | nil =>
      simp only [List.nil_append, List.cons.injEq] at h
      obtain ⟨rfl, -⟩ := h
      simp [hnl] at hn
    | cons e x =>
      simp only [List.cons_append, List.cons.injEq] at h
      obtain ⟨rfl, -⟩ := h
      rw [List.cons_append, stringRest.eq_def, stringRest.eq_def]
      simp [hq, hb, hn]
  | case7 d rest hq hb hn m ok hr ih =>
    -- an ordinary character
    intro x y h hle
    rw [stringRest.eq_def] at hle
    simp only [hq, hb, hn, if_false, Bool.false_eq_true, hr] at hle
    cases x with
    | nil => simp at hle
    | cons e x =>
      simp only [List.cons_append, List.cons.injEq] at h
      obtain ⟨rfl, rfl⟩ := h
      simp only [List.length_cons] at hle
      rw [List.cons_append, stringRest.eq_def, stringRest.eq_def]
      simp only [hq, hb, hn, if_false, Bool.false_eq_true]
      rw [ih x y rfl (by rw [hr]; omega)]

/-- **An unquoted reference body that closes before a stop character** closes there whatever
follows: the stop character ends the body as malformed, unless an escape before it takes it, and
then the body closes past it. The induction follows the body scan; `x` is the part before the
stop character, and the index `i` counts from the body's start. -/
theorem urlRest_stopsAt {c : Char} (hc : isStopChar c = true) (lead : Nat) (y' : List Char) :
    ∀ i tr cs x y m, cs = x ++ c :: y → urlRest lead i tr cs = some m → m ≤ i + x.length →
      urlRest lead i tr (x ++ c :: y') = some m := by
  have hbs := ne_backslash_of_stop hc
  intro i tr cs
  induction i, tr, cs using urlRest.induct lead with
  | case1 i tr =>
    intro x y m h
    exact absurd h.symm (by simp)
  | case2 i tr d rest hd =>
    -- the closing `)`
    intro x y m h hm hle
    cases x with
    | nil =>
      simp only [List.nil_append, List.cons.injEq] at h
      obtain ⟨rfl, -⟩ := h
      simp [(ne_of_stop hc).2.2.2.2.2.1] at hd
    | cons e x =>
      simp only [List.cons_append, List.cons.injEq] at h
      obtain ⟨rfl, -⟩ := h
      rw [urlRest.eq_def] at hm
      rw [List.cons_append, urlRest.eq_def]
      simpa [hd] using hm
  | case3 i tr d rest hd hsp ih =>
    -- whitespace
    intro x y m h hm hle
    cases x with
    | nil =>
      simp only [List.nil_append, List.cons.injEq] at h
      obtain ⟨rfl, -⟩ := h
      simp [isCssSpace_of_stop hc] at hsp
    | cons e x =>
      simp only [List.cons_append, List.cons.injEq] at h
      obtain ⟨rfl, rfl⟩ := h
      rw [urlRest.eq_def] at hm
      simp only [hd, hsp, if_true, if_false, Bool.false_eq_true] at hm
      rw [List.cons_append, urlRest.eq_def]
      simp only [hd, hsp, if_true, if_false, Bool.false_eq_true]
      exact ih x y m rfl hm (by simp only [List.length_cons] at hle; omega)
  | case4 i d rest hd hsp =>
    intro x y m h hm
    rw [urlRest.eq_def] at hm
    simp [hd, hsp] at hm
  | case5 i tr d rest hd hsp htr hq =>
    intro x y m h hm
    rw [urlRest.eq_def] at hm
    simp [hd, hsp, htr, hq] at hm
  | case6 i tr d hd hsp htr hq hb e rest hnl =>
    intro x y m h hm
    rw [urlRest.eq_def] at hm
    simp [hd, hsp, htr, hq, hb, hnl] at hm
  | case7 i tr d hd hsp htr hq hb e rest hnl ih =>
    -- an escape of one character
    intro x y m h hm hle
    rw [Bool.not_eq_true] at htr
    subst htr
    rw [urlRest.eq_def] at hm
    simp only [hd, hsp, hq, hb, hnl, if_true, if_false, Bool.false_eq_true] at hm
    rcases x with _ | ⟨f, _ | ⟨g, x⟩⟩
    · simp only [List.nil_append, List.cons.injEq] at h
      obtain ⟨rfl, -⟩ := h
      simp [hbs] at hb
    · -- the escape would take the stop character, and the body would close past it
      have := (urlRest_some lead (i + 2) false rest hm).1
      simp only [List.length_singleton] at hle
      omega
    · simp only [List.cons_append, List.cons.injEq] at h
      obtain ⟨rfl, rfl, rfl⟩ := h
      rw [List.cons_append, List.cons_append, urlRest.eq_def]
      simp only [hd, hsp, hq, hb, hnl, if_true, if_false, Bool.false_eq_true]
      exact ih x y m rfl hm (by simp only [List.length_cons] at hle; omega)
  | case8 i tr d hd hsp htr hq hb =>
    intro x y m h hm
    rw [urlRest.eq_def] at hm
    simp [hd, hsp, htr, hq, hb] at hm
  | case9 i tr d rest hd hsp htr hq hb hctl =>
    intro x y m h hm
    rw [urlRest.eq_def] at hm
    simp [hd, hsp, htr, hq, hb, hctl] at hm
  | case10 i tr d rest hd hsp htr hq hb hctl ih =>
    -- an ordinary character
    intro x y m h hm hle
    rw [Bool.not_eq_true] at htr
    subst htr
    cases x with
    | nil =>
      simp only [List.nil_append, List.cons.injEq] at h
      obtain ⟨rfl, -⟩ := h
      exact absurd hc hq
    | cons e x =>
      simp only [List.cons_append, List.cons.injEq] at h
      obtain ⟨rfl, rfl⟩ := h
      rw [urlRest.eq_def] at hm
      simp only [hd, hsp, hq, hb, hctl, if_false, Bool.false_eq_true] at hm
      rw [List.cons_append, urlRest.eq_def]
      simp only [hd, hsp, hq, hb, hctl, if_false, Bool.false_eq_true]
      exact ih x y m rfl hm (by simp only [List.length_cons] at hle; omega)

theorem startsWithUrl_cons4 (u r l e : Char) (rest : List Char) :
    startsWithUrl (u :: r :: l :: e :: rest) =
      (decide (e = '(') && u.toLower == 'u' && r.toLower == 'r' && l.toLower == 'l') := by
  by_cases he : e = '('
  · subst he
    simp [startsWithUrl]
  · simp [startsWithUrl, he]

theorem startsWithUrl_short : ∀ {cs : List Char}, cs.length < 4 → startsWithUrl cs = false
  | [], _ | [_], _ | [_, _], _ | [_, _, _], _ => rfl
  | _ :: _ :: _ :: _ :: _, h => by simp at h; omega

/-- **Whether a text starts with `url(` is decided before a stop character**: a stop character
among the first three is no letter of `url`, and as the fourth it is the same character. -/
theorem startsWithUrl_append_stop {c : Char} (hc : isStopChar c = true) :
    ∀ x y y' : List Char, startsWithUrl (x ++ c :: y') = startsWithUrl (x ++ c :: y)
  | a :: b :: d :: e :: x, y, y' => by simp only [List.cons_append, startsWithUrl_cons4]
  | [a, b, d], y, y' => by simp only [List.cons_append, List.nil_append, startsWithUrl_cons4]
  | [a, b], y, y' => by
    have hl : (c.toLower == 'l') = false := by
      rcases isStopChar_cases hc with rfl | rfl | rfl <;> decide
    cases y <;> cases y' <;> simp [startsWithUrl_cons4, startsWithUrl_short, hl]
  | [a], y, y' => by
    have hr : (c.toLower == 'r') = false := by
      rcases isStopChar_cases hc with rfl | rfl | rfl <;> decide
    rcases y with _ | ⟨_, _ | ⟨_, _⟩⟩ <;> rcases y' with _ | ⟨_, _ | ⟨_, _⟩⟩ <;>
      simp [startsWithUrl_cons4, startsWithUrl_short, hr]
  | [], y, y' => by
    have hu : (c.toLower == 'u') = false := by
      rcases isStopChar_cases hc with rfl | rfl | rfl <;> decide
    rcases y with _ | ⟨_, _ | ⟨_, _ | ⟨_, _⟩⟩⟩ <;> rcases y' with _ | ⟨_, _ | ⟨_, _ | ⟨_, _⟩⟩⟩ <;>
      simp [startsWithUrl_cons4, startsWithUrl_short, hu]

/-- **Whether a text starts with a quote.** -/
def quoteAhead (cs : List Char) : Bool := cs.head? == some '"' || cs.head? == some '\''

theorem afterUrl_eq (rest : List Char) : afterUrl rest =
    if quoteAhead (rest.drop (spaceRun rest)) then (.function, 4)
    else
      match urlRest (spaceRun rest) 0 false rest with
      | some n => (.url, 4 + n)
      | none => (.badUrl, 4 + throughParen rest) := by
  unfold afterUrl
  dsimp only
  split
  · rename_i heq
    simp [quoteAhead, heq]
  · rename_i heq
    simp [quoteAhead, heq]
  · rename_i hd hs
    have hq : quoteAhead (rest.drop (spaceRun rest)) = false := by
      cases hdrop : rest.drop (spaceRun rest) with
      | nil => rfl
      | cons d r =>
        have h1 : d ≠ '"' := fun h => hd r (by rw [hdrop, h])
        have h2 : d ≠ '\'' := fun h => hs r (by rw [hdrop, h])
        simp [quoteAhead, h1, h2]
    rw [hq]
    rfl

/-- The token after `url(` counts the four characters of `url(`. -/
theorem le_afterUrl (rest : List Char) : 4 ≤ (afterUrl rest).2 := by
  rw [afterUrl_eq]
  split
  · exact Nat.le_refl 4
  · split <;> omega

/-- **The token after `url(` is decided before a stop character**, unless it is a malformed
reference: the whitespace and the quote test end before it, and a closed body closes before it. -/
theorem afterUrl_stopsAt {c : Char} (hc : isStopChar c = true) {x y y' : List Char}
    {k : TokenKind} {n : Nat} (h : afterUrl (x ++ c :: y) = (k, n)) (hk : k ≠ .badUrl)
    (hn : n ≤ x.length + 4) : afterUrl (x ++ c :: y') = (k, n) := by
  have hl := spaceRun_append_stop_le hc x y
  rw [afterUrl_eq, List.drop_append_of_le_length hl] at h
  rw [afterUrl_eq, spaceRun_append_stop hc x y y', List.drop_append_of_le_length hl]
  have hq : quoteAhead (x.drop (spaceRun (x ++ c :: y)) ++ c :: y') =
      quoteAhead (x.drop (spaceRun (x ++ c :: y)) ++ c :: y) := by
    simp only [quoteAhead, List.head?_append, List.head?_cons]
  rw [hq]
  split
  · rename_i hqa
    rw [if_pos hqa] at h
    exact h
  · rename_i hqa
    rw [if_neg hqa] at h
    cases hu : urlRest (spaceRun (x ++ c :: y)) 0 false (x ++ c :: y) with
    | none =>
      rw [hu] at h
      exact absurd (congrArg Prod.fst h).symm hk
    | some m =>
      rw [hu] at h
      have hm : m ≤ 0 + x.length := by
        have := congrArg Prod.snd h
        simp only at this
        omega
      rw [urlRest_stopsAt hc _ y' 0 false _ x y m rfl hu hm]
      exact h

/-! ## (6) The step -/

/-- **Every candidate is at most as long as the best one.** -/
theorem le_best : ∀ {cands : List (TokenKind × Nat × Nat)}, ∀ cand ∈ cands,
    cand.2.1 ≤ (best cands).2.1
  | [d], cand, h => by
    rw [List.mem_singleton] at h
    subst h
    exact Nat.le_refl _
  | d :: e :: cs, cand, h => by
    have ih : ∀ cand ∈ e :: cs, cand.2.1 ≤ (best (e :: cs)).2.1 := le_best
    rw [best.eq_def]
    dsimp only
    split
    · rename_i hb
      rcases List.mem_cons.mp h with rfl | h
      · simp only [gt_iff_lt, Bool.or_eq_true, decide_eq_true_eq, Bool.and_eq_true] at hb
        omega
      · exact ih cand h
    · rename_i hb
      rcases List.mem_cons.mp h with rfl | h
      · exact Nat.le_refl _
      · have := ih cand h
        simp only [gt_iff_lt, Bool.or_eq_true, decide_eq_true_eq, Bool.and_eq_true, not_or] at hb
        omega

/-- **The pattern candidates** of the scanner's last rule: a function name, an at-keyword, an
identifier, a hash, a number and a one-character delimiter, with their priorities. -/
def candidates (cs : List Char) : List (TokenKind × Nat × Nat) :=
  [(.function, functionLen cs, 5), (.atKeyword, atKeywordLen cs, 5), (.ident, identLen cs, 4),
    (.hash, hashLen cs, 4), (.number, numberLen cs, 4), (.delim, 1, 0)]

/-- **The candidates are decided before a stop character** when the best of them ends before
it: then every one of them does. -/
theorem candidates_stopsAt {c : Char} (hc : isStopChar c = true) {x y y' : List Char}
    (h : (best (candidates (x ++ c :: y))).2.1 ≤ x.length) :
    candidates (x ++ c :: y') = candidates (x ++ c :: y) := by
  have hle : ∀ cand ∈ candidates (x ++ c :: y), cand.2.1 ≤ x.length :=
    fun cand hcand => Nat.le_trans (le_best cand hcand) h
  have hid := hle _ (by simp [candidates] : (TokenKind.ident, identLen (x ++ c :: y), 4) ∈ _)
  have hat := hle _ (by simp [candidates] : (TokenKind.atKeyword, atKeywordLen (x ++ c :: y), 5) ∈ _)
  have hh := hle _ (by simp [candidates] : (TokenKind.hash, hashLen (x ++ c :: y), 4) ∈ _)
  simp only [candidates, functionLen_append_stop hc hid, identLen_stopsAt x c y y' hc hid,
    atKeywordLen_stopsAt x c y y' hc hat, hashLen_stopsAt x c y y' hc hh,
    numberLen_append_stop hc x y y']

/-- **Every token takes at least one character.** -/
theorem le_step (cs : List Char) : 1 ≤ (step cs).2 := by
  unfold step
  split
  case h_10 => split <;> omega
  case h_11 | h_12 => split; omega
  case h_13 =>
    split
    · exact Nat.le_trans (by decide) (le_afterUrl _)
    · exact le_best (TokenKind.delim, 1, 0) (by simp)
  all_goals exact Nat.le_refl 1

/-- **The characters that are tokens of their own**: brackets and separators. -/
def singles : List Char := ['{', '}', '(', ')', '[', ']', ':', ';', ',']

/-- A bracket or a separator is a token of one character, whatever follows it. -/
theorem step_single {d : Char} (hd : d ∈ singles) (r : List Char) : step (d :: r) = step [d] := by
  simp only [singles, List.mem_cons, List.not_mem_nil, or_false] at hd
  rcases hd with rfl | rfl | rfl | rfl | rfl | rfl | rfl | rfl | rfl <;>
    simp only [step.eq_1, step.eq_2, step.eq_3, step.eq_4, step.eq_5, step.eq_6, step.eq_7,
      step.eq_8, step.eq_9]

/-- **The scanner's last rule**, for a head that is no bracket, separator, quote or comment
opener. -/
theorem step_default {d : Char} {r : List Char} (hs : d ∉ singles)
    (hcm : ¬(d = '/' ∧ r.head? = some '*')) (hq : d ≠ '"') (hq' : d ≠ '\'') :
    step (d :: r) = if startsWithUrl (d :: r) then afterUrl ((d :: r).drop 4)
      else ((best (candidates (d :: r))).1, (best (candidates (d :: r))).2.1) := by
  have hne : ∀ e ∈ singles, ∀ tail, d :: r = e :: tail → False :=
    fun e he tail heq => hs ((List.cons.inj heq).1 ▸ he)
  rw [step.eq_13 _ (hne _ (by decide)) (hne _ (by decide)) (hne _ (by decide))
    (hne _ (by decide)) (hne _ (by decide)) (hne _ (by decide)) (hne _ (by decide))
    (hne _ (by decide)) (hne _ (by decide))
    (fun rest heq => hcm ⟨(List.cons.inj heq).1, by rw [(List.cons.inj heq).2]; rfl⟩)
    (fun rest heq => hq (List.cons.inj heq).1) (fun rest heq => hq' (List.cons.inj heq).1)]
  simp only [candidates]

/-- **The token the scanner's last rule finds is decided before a stop character**, unless it
is a malformed reference. -/
theorem stepDefault_stopsAt {c : Char} (hc : isStopChar c = true) {x y y' : List Char}
    {k : TokenKind} {n : Nat}
    (h : (if startsWithUrl (x ++ c :: y) then afterUrl ((x ++ c :: y).drop 4)
      else ((best (candidates (x ++ c :: y))).1, (best (candidates (x ++ c :: y))).2.1)) = (k, n))
    (hk : k ≠ .badUrl) (hn : n ≤ x.length) :
    (if startsWithUrl (x ++ c :: y') then afterUrl ((x ++ c :: y').drop 4)
      else ((best (candidates (x ++ c :: y'))).1, (best (candidates (x ++ c :: y'))).2.1)) =
      (k, n) := by
  rw [startsWithUrl_append_stop hc x y y']
  split
  · rename_i hs
    rw [if_pos hs] at h
    -- the reference rule takes `url(` and more, all before the stop character
    have h4 : 4 ≤ x.length := by
      have := le_afterUrl ((x ++ c :: y).drop 4)
      rw [h] at this
      simp only at this
      omega
    rw [List.drop_append_of_le_length h4] at h ⊢
    exact afterUrl_stopsAt hc h hk (by simp only [List.length_drop]; omega)
  · rename_i hs
    rw [if_neg hs] at h
    have hb : (best (candidates (x ++ c :: y))).2.1 ≤ x.length := by
      have := congrArg Prod.snd h
      simp only at this
      omega
    rw [candidates_stopsAt hc hb]
    exact h

/-- **The scanner's step is decided before a stop character.** A token that ends before a quote
or a `(` is the same token whatever follows that character, unless it is a malformed reference,
whose body scan may run past its `)`. The cases follow the step's rules. -/
theorem step_stopsAt {c : Char} (hc : isStopChar c = true) {x y y' : List Char}
    {k : TokenKind} {n : Nat} (h : step (x ++ c :: y) = (k, n)) (hk : k ≠ .badUrl)
    (hn : n ≤ x.length) : step (x ++ c :: y') = (k, n) := by
  cases x with
  | nil =>
    -- every token takes at least one character
    have := le_step (c :: y)
    rw [List.nil_append] at h
    rw [h] at this
    simp at hn this
    omega
  | cons d x =>
    rw [List.cons_append] at h ⊢
    by_cases hs : d ∈ singles
    · -- a bracket or a separator
      rw [step_single hs] at h ⊢
      exact h
    by_cases hcm : d = '/' ∧ (x ++ c :: y).head? = some '*'
    · -- a comment
      obtain ⟨rfl, hstar⟩ := hcm
      cases x with
      | nil => exact absurd (Option.some.inj hstar) (ne_of_stop hc).2.2.2.2.1
      | cons e x =>
        obtain rfl : e = '*' := Option.some.inj hstar
        simp only [List.cons_append, step.eq_10] at h ⊢
        simp only [List.length_cons] at hn
        cases hr : commentRest (x ++ c :: y) with
        | none =>
          rw [hr] at h
          have := congrArg Prod.snd h
          simp only [List.length_append, List.length_cons] at this
          omega
        | some m =>
          rw [hr] at h
          have hm := congrArg Prod.snd h
          simp only at hm
          rw [commentRest_stopsAt hc y y' x hr (by omega)]
          exact h
    by_cases hq : d = '"' ∨ d = '\''
    · -- a string
      have hm : (step (d :: (x ++ c :: y))).2 = n := by rw [h]
      simp only [List.length_cons] at hn
      rcases hq with rfl | rfl
      · rw [step.eq_11] at h hm ⊢
        rw [stringRest_stopsAt hc _ y' _ x y rfl (by simp only at hm; omega)]
        exact h
      · rw [step.eq_12] at h hm ⊢
        rw [stringRest_stopsAt hc _ y' _ x y rfl (by simp only at hm; omega)]
        exact h
    · -- the last rule: a reference or the best pattern candidate
      have hcm' : ¬(d = '/' ∧ (x ++ c :: y').head? = some '*') := by
        rw [List.head?_append, List.head?_cons]
        rw [List.head?_append, List.head?_cons] at hcm
        exact hcm
      rw [not_or] at hq
      rw [step_default hs hcm hq.1 hq.2, ← List.cons_append] at h
      rw [step_default hs hcm' hq.1 hq.2, ← List.cons_append]
      exact stepDefault_stopsAt hc h hk hn

end StyleRebase.Css.Lexer
