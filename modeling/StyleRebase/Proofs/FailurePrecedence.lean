import StyleRebase.Proofs.CompletionOrder

/-! # Which failure stops a run

A run fails at one of four stages, and an earlier stage always wins: a syntax error in the
stylesheet, then a missing or unreadable source map, then a failed or crashed policy answer, and
among the answers the first one in text order, however the policy's tasks finish. A failed run
has still sent every request to the policy, and sends nothing to a listener.

* **`runIn_of_parse_error`**, **`runIn_of_map_error`**, **`runIn_of_map`** — the shapes of a
  run at each stage.
* **`runIn_notified`** — a listener receives the records of a successful run and nothing else.
* **`mapFor_missing`**, **`mapFor_undecodable`** — when no map is given.
* **`decisionsOf_first_failure`** — the first failing answer in text order decides the failure.
* **`runIn_failure_precedence`** — the four stages together. -/

namespace StyleRebase.Rebase

/-! ## (1) The stages of a run -/

section Stages

variable (schedule : Schedule) (css : String) (given : Option SourceMap) (policy : Policy)
  (options : Options)

/-- **A syntax error stops the run** before anything else: the first error recorded is
reported, and no request is sent. -/
theorem runIn_of_parse_error {e : Css.ParseError} {rest : List Css.ParseError}
    (h : (Css.parse css).errors = e :: rest) :
    runIn schedule css given policy options = .ofResult [] (.error (.parse e)) := by
  simp only [runIn, h]
  rfl

/-- **Without a source map the run stops** before any request is sent. -/
theorem runIn_of_map_error {e : RebaseError} (hp : (Css.parse css).errors = [])
    (hm : mapFor given (Css.parse css).stylesheet = .error e) :
    runIn schedule css given policy options = .ofResult [] (.error e) := by
  simp only [runIn, hp, hm]
  rfl

/-- **With a source map every eligible reference is put to the policy**, in text order, whatever
the answers; the result is that of the decisions read in text order, written into the
stylesheet. -/
theorem runIn_of_map {map : SourceMap} (hp : (Css.parse css).errors = [])
    (hm : mapFor given (Css.parse css).stylesheet = .ok map) :
    runIn schedule css given policy options =
      .ofResult ((eligible css (Css.parse css).stylesheet map options).map Pending.request)
        ((decisionsOf (answersOf policy (eligible css (Css.parse css).stylesheet map options))).bind
          fun ds => ((splice css.toList ds).mapError RebaseError.badSpan).bind fun rw =>
            .ok ⟨rw.css, if options.emitMap then some (project map css.toList rw.css rw.offsets)
              else none, rw.records⟩) := by
  simp only [runIn, hp, hm, awaitAll_eq_decisionsOf]
  rfl

/-- **A listener hears the records of a successful run**, and nothing when the run fails. -/
theorem runIn_notified :
    (runIn schedule css given policy options).notified =
      match (runIn schedule css given policy options).result with
      | .ok r => r.rebases
      | .error _ => [] := by
  cases hp : (Css.parse css).errors with
  | cons e rest =>
    rw [runIn_of_parse_error schedule css given policy options hp]
    rfl
  | nil =>
    cases hm : mapFor given (Css.parse css).stylesheet with
    | error e =>
      rw [runIn_of_map_error schedule css given policy options hp hm]
      rfl
    | ok map =>
      rw [runIn_of_map schedule css given policy options hp hm]
      rfl

end Stages

/-! ## (2) Finding the source map -/

/-- **No map given, and none embedded as a data URL**: the stylesheet has no `sourceMappingURL`
comment, or its last one names something else. -/
theorem mapFor_missing {sheet : Css.Stylesheet}
    (h : ∀ url, sheet.sourceMappingUrl = some url → isDataUrl url = false) :
    mapFor none sheet = .error .missingSourceMap := by
  unfold mapFor
  cases hu : sheet.sourceMappingUrl with
  | none => rfl
  | some url =>
    simp only [h url hu]
    rfl

/-- **No map given, and the embedded data URL cannot be read**: its failure is reported. -/
theorem mapFor_undecodable {sheet : Css.Stylesheet} {url : List Char} {e : SourceMap.LoadError}
    (hu : sheet.sourceMappingUrl = some url) (hd : isDataUrl url = true)
    (he : SourceMap.ofDataUrl url = .error e) :
    mapFor none sheet = .error (.sourceMap e) := by
  simp only [mapFor, hu, hd, if_true, he]
  rfl

/-! ## (3) The first failing answer -/

/-- **Answers that all give decisions** give the decisions of the first `k` of them. -/
theorem decisionsOf_take_ok {answers : List (Pending × Outcome)} {k : Nat}
    (hok : ∀ j < k, ∀ p o, answers[j]? = some (p, o) → ∃ d, p.decide o = .ok d) :
    ∃ ds, decisionsOf (answers.take k) = .ok ds := by
  induction k with
  | zero => exact ⟨[], by simp⟩
  | succ k ih =>
    obtain ⟨ds, hds⟩ := ih fun j hj => hok j (Nat.lt_succ_of_lt hj)
    cases hk : answers[k]? with
    | none =>
      -- past the end, taking one more changes nothing
      have hlen : answers.length ≤ k := List.getElem?_eq_none_iff.mp hk
      refine ⟨ds, ?_⟩
      rw [List.take_of_length_le (by omega)]
      rw [List.take_of_length_le hlen] at hds
      exact hds
    | some a =>
      obtain ⟨p, o⟩ := a
      obtain ⟨d, hd⟩ := hok k (Nat.lt_succ_self k) p o hk
      refine ⟨ds ++ d.toList, ?_⟩
      rw [decisionsOf_take_succ hk, hds]
      simp [Except.bind, hd]

/-- **The first failing answer decides the failure**: when the answer to reference `i` fails
and every answer before it gives a decision, the decisions fail with that answer's failure,
whatever the answers after it. -/
theorem decisionsOf_first_failure {answers : List (Pending × Outcome)} {i : Nat} {p : Pending}
    {o : Outcome} {e : RebaseError} (hi : answers[i]? = some (p, o))
    (he : p.decide o = .error e)
    (hbefore : ∀ j < i, ∀ q o', answers[j]? = some (q, o') → ∃ d, q.decide o' = .ok d) :
    decisionsOf answers = .error e := by
  obtain ⟨ds, hds⟩ := decisionsOf_take_ok hbefore
  apply decisionsOf_of_take_error (k := i + 1)
  rw [decisionsOf_take_succ hi, hds]
  simp [Except.bind, he]

/-- **The `i`-th answer** is the policy's answer to the `i`-th request. -/
theorem answersOf_getElem? (policy : Policy) (pending : List Pending) (i : Nat) :
    (answersOf policy pending)[i]? = pending[i]?.map fun p => (p, policy i p.request) := by
  simp only [answersOf, List.getElem?_map, List.getElem?_zipIdx]
  cases pending[i]? <;> simp

/-- **A decided answer gives a decision**, possibly none. -/
theorem Pending.decide_decided (p : Pending) (v : Verdict) :
    ∃ d, p.decide (.decided v) = .ok d := by
  cases v <;> exact ⟨_, rfl⟩

/-- **The first failing request in text order decides the failure**: when the answer to the
`i`-th pending reference fails and the policy decided every request before it, the decisions
fail with that answer's failure. -/
theorem decisionsOf_answersOf_first_failure {policy : Policy} {pending : List Pending} {i : Nat}
    {p : Pending} {e : RebaseError} (hi : pending[i]? = some p)
    (he : p.decide (policy i p.request) = .error e)
    (hbefore : ∀ j < i, ∀ q, pending[j]? = some q → ∃ v, policy j q.request = .decided v) :
    decisionsOf (answersOf policy pending) = .error e := by
  refine decisionsOf_first_failure (i := i) (p := p) (o := policy i p.request) ?_ he ?_
  · simp [answersOf_getElem?, hi]
  · intro j hj q o' hq
    rw [answersOf_getElem?] at hq
    obtain ⟨q', hq', hqo⟩ := Option.map_eq_some_iff.mp hq
    cases hqo
    obtain ⟨v, hv⟩ := hbefore j hj q hq'
    rw [hv]
    exact Pending.decide_decided q v

/-! ## (4) All stages together -/

/-- **Failure precedence, with no partial output.** For every stylesheet, map, policy, options
and completion order of the policy's tasks: a syntax error fails the run with the first error
recorded, whatever the map, and nothing is asked; otherwise, with no map given, a stylesheet
without an embedded data URL fails it with `missingSourceMap` and an unreadable data URL with
its loading failure; otherwise every eligible reference is put to the policy and, when an answer
fails and every earlier one was decided, that answer's failure is the run's; and a failed run
sends nothing to a listener. -/
theorem runIn_failure_precedence (schedule : Schedule) (css : String) (given : Option SourceMap)
    (policy : Policy) (options : Options) :
    (∀ e rest, (Css.parse css).errors = e :: rest →
      (runIn schedule css given policy options).result = .error (.parse e) ∧
        (runIn schedule css given policy options).requests = []) ∧
    ((Css.parse css).errors = [] → given = none →
      (∀ url, (Css.parse css).stylesheet.sourceMappingUrl = some url → isDataUrl url = false) →
      (runIn schedule css given policy options).result = .error .missingSourceMap) ∧
    ((Css.parse css).errors = [] → given = none →
      ∀ url e, (Css.parse css).stylesheet.sourceMappingUrl = some url → isDataUrl url = true →
        SourceMap.ofDataUrl url = .error e →
        (runIn schedule css given policy options).result = .error (.sourceMap e)) ∧
    (∀ map, (Css.parse css).errors = [] → mapFor given (Css.parse css).stylesheet = .ok map →
      ∀ i p, (eligible css (Css.parse css).stylesheet map options)[i]? = some p →
        (∀ j < i, ∀ q, (eligible css (Css.parse css).stylesheet map options)[j]? = some q →
          ∃ v, policy j q.request = .decided v) →
        (runIn schedule css given policy options).requests =
            (eligible css (Css.parse css).stylesheet map options).map Pending.request ∧
          (∀ err, policy i p.request = .failed err →
            (runIn schedule css given policy options).result = .error (.policy err)) ∧
          (policy i p.request = .crashed →
            (runIn schedule css given policy options).result = .error .policyTask)) ∧
    (∀ e, (runIn schedule css given policy options).result = .error e →
      (runIn schedule css given policy options).notified = []) := by
  refine ⟨?_, ?_, ?_, ?_, ?_⟩
  · intro e rest h
    rw [runIn_of_parse_error schedule css given policy options h]
    exact ⟨rfl, rfl⟩
  · intro hp hg hurl
    subst hg
    rw [runIn_of_map_error schedule css none policy options hp (mapFor_missing hurl),
      Run.ofResult_result]
  · intro hp hg url e hu hd he
    subst hg
    rw [runIn_of_map_error schedule css none policy options hp (mapFor_undecodable hu hd he),
      Run.ofResult_result]
  · intro map hp hm i p hi hbefore
    rw [runIn_of_map schedule css given policy options hp hm]
    refine ⟨rfl, ?_, ?_⟩
    · intro err herr
      have hd : p.decide (policy i p.request) = .error (.policy err) := by
        rw [herr]
        rfl
      rw [Run.ofResult_result, decisionsOf_answersOf_first_failure hi hd hbefore]
      rfl
    · intro hcrash
      have hd : p.decide (policy i p.request) = .error .policyTask := by
        rw [hcrash]
        rfl
      rw [Run.ofResult_result, decisionsOf_answersOf_first_failure hi hd hbefore]
      rfl
  · intro e he
    rw [runIn_notified, he]

end StyleRebase.Rebase
