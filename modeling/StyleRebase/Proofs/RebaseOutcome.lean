import StyleRebase.Proofs.FailurePrecedence
import StyleRebase.Proofs.ReferenceSpans

/-! # What a successful run writes

When the stylesheet parses, a source map is found and the policy decides every request, the run
succeeds, whatever order the policy's tasks finish in. Every eligible reference is put to the
policy, in text order; the rebased stylesheet is the text with each reference the policy does not
suppress replaced by the path written — the resolved path, or the one the policy gives — in its
old quotes, every other byte copied in order; and the records, returned and sent to a listener,
are those of the replaced references, in order.

* **`Verdict.written`** — the path a verdict writes, if any.
* **`editsOf`**, **`recordsOf`** — the edits and records the verdicts make of the pending
  references.
* **`eligible_located`**, **`eligible_ordered`** — the pending references sit at their spans,
  in order.
* **`decisionsOf_decided`** — decided answers give their decisions, in order.
* **`runIn_rebases`** — the whole run. -/

namespace StyleRebase.Rebase

/-! ## (1) What the verdicts make of the references -/

/-- **The path a verdict writes** for a reference resolved to `resolved`: none when it suppresses
the reference, else the resolved path or the path it gives. -/
def Verdict.written (resolved : List Char) : Verdict → Option (List Char)
  | .suppress => none
  | .keep => some resolved
  | .override path => some path

/-- **The decision a verdict makes** about a pending reference. -/
def Pending.decision (p : Pending) (v : Verdict) : Option Decision :=
  (v.written p.resolved).map fun w => ⟨p.occurrence, p.source, p.resolved, w⟩

/-- **The decisions the verdicts make**, in text order: the `i`-th pending reference gets the
verdict on the `i`-th request. -/
def decisionsFor (verdict : Nat → Request → Verdict) (pending : List Pending) : List Decision :=
  (pending.zipIdx.map fun (p, i) => (p, verdict i p.request)).filterMap
    fun x => x.1.decision x.2

/-- **The edits of a run**: for each pending reference, the `i`-th, whose verdict writes a path,
its span and the path in the reference's old quotes. -/
def editsOf (verdict : Nat → Request → Verdict) (pending : List Pending) :
    List (Span × List Char) :=
  pending.zipIdx.filterMap fun (p, i) => ((verdict i p.request).written p.resolved).map fun w =>
    (p.occurrence.span, p.occurrence.quote.mark ++ w ++ p.occurrence.quote.mark)

/-- **The records of a run**: for each pending reference whose verdict writes a path, the
reference as written, the path it resolved to and the path written. -/
def recordsOf (verdict : Nat → Request → Verdict) (pending : List Pending) : List Record :=
  pending.zipIdx.filterMap fun (p, i) => ((verdict i p.request).written p.resolved).map fun w =>
    ⟨p.occurrence.raw, p.resolved, w⟩

theorem Pending.decide_eq_decision (p : Pending) (v : Verdict) :
    p.decide (.decided v) = .ok (p.decision v) := by
  cases v <;> rfl

/-- **Decided answers give their decisions**, in order. The induction runs over the answers. -/
theorem decisionsOf_decided (xs : List (Pending × Verdict)) :
    decisionsOf (xs.map fun x => (x.1, .decided x.2)) =
      .ok (xs.filterMap fun x => x.1.decision x.2) := by
  induction xs with
  | nil => rfl
  | cons x xs ih =>
    rw [List.map_cons, decisionsOf_cons, Pending.decide_eq_decision, ih]
    cases h : x.1.decision x.2 <;> simp [h, Except.bind]

/-- **A policy that decides every request** gives the decisions of its verdicts. -/
theorem decisionsOf_answersOf_decided (verdict : Nat → Request → Verdict)
    (pending : List Pending) :
    decisionsOf (answersOf (fun i req => .decided (verdict i req)) pending) =
      .ok (decisionsFor verdict pending) := by
  have hanswers : answersOf (fun i req => .decided (verdict i req)) pending =
      (pending.zipIdx.map fun (p, i) => (p, verdict i p.request)).map
        fun x => (x.1, .decided x.2) := by
    simp only [answersOf, List.map_map]
    rfl
  rw [hanswers, decisionsOf_decided]
  rfl

/-! ## (2) The pending references -/

theorem pendingOf_occurrence {map : SourceMap} {options : Options} {o : Occurrence}
    {p : Pending} (h : pendingOf map options o = some p) : p.occurrence = o := by
  unfold pendingOf at h
  split at h
  · simp at h
  · obtain ⟨_, _, hp⟩ := Option.bind_eq_some_iff.mp h
    rw [← Option.some.inj hp]

section Eligible

variable (css : String) (map : SourceMap) (options : Options)

/-- **Each pending reference sits, with its quotes, at its span.** -/
theorem eligible_located :
    ∀ p ∈ eligible css (Css.parse css).stylesheet map options,
      Located css.toList p.occurrence.span
        (p.occurrence.quote.mark ++ p.occurrence.raw ++ p.occurrence.quote.mark) := by
  intro p hp
  obtain ⟨o, ho, hpo⟩ := List.mem_filterMap.mp hp
  rw [pendingOf_occurrence hpo]
  exact locate_located css _ o ho

/-- **The pending references come in text order**, each span ending before the next begins. -/
theorem eligible_ordered :
    (eligible css (Css.parse css).stylesheet map options).Pairwise fun p p' =>
      p.occurrence.span.stop ≤ p'.occurrence.span.start := by
  refine (locate_ordered css _).filterMap _ ?_
  intro o o' h p hp p' hp'
  rw [pendingOf_occurrence hp, pendingOf_occurrence hp']
  exact h

end Eligible

/-! ## (3) The edits can be made -/

/-- The edits are the decisions' edits. -/
theorem editsOf_eq (verdict : Nat → Request → Verdict) (pending : List Pending) :
    (decisionsFor verdict pending).map Decision.edit = editsOf verdict pending := by
  rw [decisionsFor, List.map_filterMap, List.filterMap_map, editsOf]
  congr 1
  funext ⟨p, i⟩
  show (p.decision (verdict i p.request)).map Decision.edit = _
  dsimp only
  cases verdict i p.request <;> rfl

/-- The records are the decisions' records. -/
theorem recordsOf_eq (verdict : Nat → Request → Verdict) (pending : List Pending) :
    (decisionsFor verdict pending).map Decision.record = recordsOf verdict pending := by
  rw [decisionsFor, List.map_filterMap, List.filterMap_map, recordsOf]
  congr 1
  funext ⟨p, i⟩
  show (p.decision (verdict i p.request)).map Decision.record = _
  dsimp only
  cases verdict i p.request <;> rfl

/-- **Each edit is at the span of a pending reference.** -/
theorem mem_editsOf {verdict : Nat → Request → Verdict} {pending : List Pending}
    {e : Span × List Char} (he : e ∈ editsOf verdict pending) :
    ∃ p ∈ pending, e.1 = p.occurrence.span := by
  obtain ⟨⟨p, i⟩, hpi, he⟩ := List.mem_filterMap.mp he
  obtain ⟨w, -, rfl⟩ := Option.map_eq_some_iff.mp he
  refine ⟨p, ?_, rfl⟩
  have := List.mem_map_of_mem (f := Prod.fst) hpi
  rwa [List.zipIdx_map_fst] at this

/-- **Edits of references in order are in order.** -/
theorem editsOf_ordered {verdict : Nat → Request → Verdict} {pending : List Pending}
    (h : pending.Pairwise fun p p' => p.occurrence.span.stop ≤ p'.occurrence.span.start) :
    (editsOf verdict pending).Pairwise fun e e' => e.1.stop ≤ e'.1.start := by
  rw [← List.zipIdx_map_fst 0 pending, List.pairwise_map] at h
  refine h.filterMap _ ?_
  intro x x' hx e he e' he'
  obtain ⟨w, -, rfl⟩ := Option.map_eq_some_iff.mp he
  obtain ⟨w', -, rfl⟩ := Option.map_eq_some_iff.mp he'
  exact hx

/-- **The splice makes the edits of references located in the text, in order**, and records
them. -/
theorem splice_decisionsFor {text : List Char} (verdict : Nat → Request → Verdict)
    {pending : List Pending}
    (hloc : ∀ p ∈ pending, ∃ piece, Located text p.occurrence.span piece)
    (hord : pending.Pairwise fun p p' => p.occurrence.span.stop ≤ p'.occurrence.span.start) :
    ∃ rw, splice text (decisionsFor verdict pending) = .ok rw ∧
      Replaced 0 text (editsOf verdict pending) rw.css ∧
      rw.records = recordsOf verdict pending := by
  obtain ⟨out, hout⟩ := replaced_of_located (editsOf verdict pending) [] text rfl
    (fun e he => by
      obtain ⟨p, hp, he1⟩ := mem_editsOf he
      exact ⟨Nat.zero_le _, he1 ▸ hloc p hp⟩)
    (editsOf_ordered hord)
  rw [← editsOf_eq] at hout
  obtain ⟨rw, hsplice, hcss, hrecords⟩ := splice_of_replaced hout
  refine ⟨rw, hsplice, ?_, ?_⟩
  · rw [hcss, ← editsOf_eq]
    exact hout
  · rw [hrecords, recordsOf_eq]

/-! ## (4) The whole run -/

/-- **A run whose requests are all decided rebases the stylesheet.** For every stylesheet that
parses without error, every source map found for it (given, or embedded), every options, every
verdicts and every completion order of the policy's tasks: the policy is asked about every
eligible reference, in text order; the run succeeds; its stylesheet is the text with the span of
each reference whose verdict writes a path replaced by that path in the old quotes, and every
other byte copied in order; and its records, which a listener receives too, are those of the
replaced references in order. -/
theorem runIn_rebases (schedule : Schedule) (css : String) (given : Option SourceMap)
    (verdict : Nat → Request → Verdict) (options : Options) (map : SourceMap)
    (hparse : (Css.parse css).errors = [])
    (hmap : mapFor given (Css.parse css).stylesheet = .ok map) :
    (runIn schedule css given (fun i req => .decided (verdict i req)) options).requests =
        (eligible css (Css.parse css).stylesheet map options).map Pending.request ∧
      ∃ r, (runIn schedule css given (fun i req => .decided (verdict i req)) options).result =
          .ok r ∧
        Replaced 0 css.toList (editsOf verdict (eligible css (Css.parse css).stylesheet map options))
          r.css ∧
        r.rebases = recordsOf verdict (eligible css (Css.parse css).stylesheet map options) ∧
        (runIn schedule css given (fun i req => .decided (verdict i req)) options).notified =
          r.rebases := by
  obtain ⟨rw, hsplice, hcss, hrecords⟩ := splice_decisionsFor verdict
    (fun p hp => ⟨_, eligible_located css map options p hp⟩) (eligible_ordered css map options)
  have hrun := runIn_of_map schedule css given (fun i req => .decided (verdict i req)) options
    hparse hmap
  rw [decisionsOf_answersOf_decided] at hrun
  have hresult : (runIn schedule css given (fun i req => .decided (verdict i req)) options).result =
      .ok ⟨rw.css, if options.emitMap then some (project map css.toList rw.css rw.offsets)
        else none, rw.records⟩ := by
    rw [hrun, Run.ofResult_result]
    show ((splice css.toList (decisionsFor verdict (eligible css (Css.parse css).stylesheet map
      options))).mapError RebaseError.badSpan).bind _ = _
    exact hsplice ▸ rfl
  refine ⟨by rw [hrun, Run.ofResult_requests], _, hresult, hcss, hrecords, ?_⟩
  rw [runIn_notified, hresult]

/-- A map of a rule, from `src/a.scss`. -/
def ruleMap : SourceMap :=
  SourceMap.make none #[⟨0, 0, 0, 0, some 0, none, false⟩] #["src/a.scss"] #[] #[]

/-- A rule with one relative reference and a map giving its source: the one request asks about
`x.png` read against `src/a.scss`, and with every request kept the reference is rebased. -/
theorem runIn_rebases_one_reference :
    (Css.parse ".a\x7bb:url(x.png)\x7d").errors = [] ∧
      mapFor (some ruleMap) (Css.parse ".a\x7bb:url(x.png)\x7d").stylesheet = .ok ruleMap ∧
      (eligible ".a\x7bb:url(x.png)\x7d" (Css.parse ".a\x7bb:url(x.png)\x7d").stylesheet ruleMap
        {}).map Pending.request = [⟨"src/a.scss".toList, "src/x.png".toList, "x.png".toList⟩] ∧
      ((runIn Schedule.inOrder ".a\x7bb:url(x.png)\x7d" (some ruleMap)
          (fun i req => .decided ((fun _ _ => .keep) i req)) {}).requests =
        (eligible ".a\x7bb:url(x.png)\x7d" (Css.parse ".a\x7bb:url(x.png)\x7d").stylesheet
          ruleMap {}).map Pending.request ∧
      ∃ r, (runIn Schedule.inOrder ".a\x7bb:url(x.png)\x7d" (some ruleMap)
          (fun i req => .decided ((fun _ _ => .keep) i req)) {}).result = .ok r ∧
        Replaced 0 ".a\x7bb:url(x.png)\x7d".toList (editsOf (fun _ _ => .keep)
          (eligible ".a\x7bb:url(x.png)\x7d" (Css.parse ".a\x7bb:url(x.png)\x7d").stylesheet
            ruleMap {})) r.css ∧
        r.rebases = recordsOf (fun _ _ => .keep)
          (eligible ".a\x7bb:url(x.png)\x7d" (Css.parse ".a\x7bb:url(x.png)\x7d").stylesheet
            ruleMap {}) ∧
        (runIn Schedule.inOrder ".a\x7bb:url(x.png)\x7d" (some ruleMap)
          (fun i req => .decided ((fun _ _ => .keep) i req)) {}).notified = r.rebases) :=
  have hparse : (Css.parse ".a\x7bb:url(x.png)\x7d").errors = [] := by decide +kernel
  ⟨hparse, rfl, by decide +kernel, runIn_rebases Schedule.inOrder ".a\x7bb:url(x.png)\x7d"
    (some ruleMap) (fun _ _ => .keep) {} ruleMap hparse rfl⟩

end StyleRebase.Rebase
