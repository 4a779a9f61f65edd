import StyleRebase.Rebase.Engine

/-! # The order in which the policy's tasks finish does not matter

A run sends every request to the policy before it awaits any answer, and then awaits the answers
in text order. Whatever order the tasks finish in, the decisions are those of the answers read
in text order, and the failure that stops the run is the first one in text order.

* **`decisionsOf_append`** — reading two runs of answers one after the other.
* **`Awaiting.Consistent`** — what awaiting keeps true: the answers taken are the first ones and
  gave the decisions taken so far, and the next one is taken as soon as its task has finished.
* **`takeReady_ok`**, **`takeReady_error`** — one round of taking the ready answers keeps it, and
  a failure it meets is the first failure of all the answers.
* **`awaitAll_eq_decisionsOf`** — for every completion order, awaiting gives the decisions read
  in text order.
* **`runIn_eq_run`** — hence a whole run does not depend on the completion order. -/

namespace StyleRebase.Rebase

/-! ## (1) Answers read in text order -/

@[simp] theorem decisionsOf_nil : decisionsOf [] = .ok [] := rfl

theorem decisionsOf_cons (p : Pending) (o : Outcome) (rest : List (Pending × Outcome)) :
    decisionsOf ((p, o) :: rest) =
      (p.decide o).bind fun d => (decisionsOf rest).bind fun ds => .ok (d.toList ++ ds) := rfl

/-- **Reading answers in two runs**: the decisions of `xs ++ ys` are those of `xs` followed by
those of `ys`, and a failure in `xs` comes first. -/
theorem decisionsOf_append (xs ys : List (Pending × Outcome)) :
    decisionsOf (xs ++ ys) =
      (decisionsOf xs).bind fun a => (decisionsOf ys).bind fun b => .ok (a ++ b) := by
  induction xs with
  | nil =>
    rw [List.nil_append]
    cases decisionsOf ys <;> rfl
  | cons x xs ih =>
    obtain ⟨p, o⟩ := x
    rw [List.cons_append, decisionsOf_cons, decisionsOf_cons, ih]
    cases p.decide o with
    | error e => rfl
    | ok d =>
      cases decisionsOf xs with
      | error e => rfl
      | ok a =>
        cases decisionsOf ys with
        | error e => rfl
        | ok b => simp [Except.bind, List.append_assoc]

/-- **One more answer**: the decisions of the first `k + 1` answers are those of the first `k`
and then what the `k`-th answer makes of its reference. -/
theorem decisionsOf_take_succ {answers : List (Pending × Outcome)} {k : Nat} {p : Pending}
    {o : Outcome} (hk : answers[k]? = some (p, o)) :
    decisionsOf (answers.take (k + 1)) =
      (decisionsOf (answers.take k)).bind fun ds => (p.decide o).bind fun d => .ok (ds ++ d.toList) := by
  rw [List.take_add_one, hk, Option.toList_some, decisionsOf_append, decisionsOf_cons]
  cases decisionsOf (answers.take k) with
  | error e => rfl
  | ok ds =>
    cases p.decide o with
    | error e => rfl
    | ok d => simp [Except.bind]

/-- **A failure among the first answers is the failure of all of them.** -/
theorem decisionsOf_of_take_error {answers : List (Pending × Outcome)} {k : Nat}
    {e : RebaseError} (h : decisionsOf (answers.take k) = .error e) :
    decisionsOf answers = .error e := by
  rw [← List.take_append_drop k answers, decisionsOf_append, h]
  rfl

/-! ## (2) Awaiting -/

variable {answers : List (Pending × Outcome)}

/-- **What awaiting keeps true**: the answers taken are the first ones in text order, and the
decisions taken are theirs. -/
structure Awaiting.Consistent (answers : List (Pending × Outcome)) (st : Awaiting) : Prop where
  taken_le : st.taken ≤ answers.length
  decisions : decisionsOf (answers.take st.taken) = .ok st.decisions

/-- **Nothing ready is left waiting**: every answer has been taken, or the task of the next one
has not finished. -/
def Awaiting.Settled (answers : List (Pending × Outcome)) (st : Awaiting) : Prop :=
  st.taken = answers.length ∨ st.taken ∉ st.finished

/-- Nothing has been awaited at the start. -/
theorem Awaiting.consistent_init : Awaiting.Consistent answers {} :=
  ⟨Nat.zero_le _, rfl⟩

/-- Only the answers taken matter to consistency, not which tasks have finished. -/
theorem Awaiting.Consistent.with_finished {st : Awaiting} (hc : st.Consistent answers)
    (finished : List Nat) : Awaiting.Consistent answers { st with finished } :=
  ⟨hc.taken_le, hc.decisions⟩

/-- **Taking one ready answer** that is a decision keeps consistency. -/
theorem Awaiting.Consistent.take {st : Awaiting} (hc : st.Consistent answers)
    (hlt : st.taken < answers.length) {p : Pending} {o : Outcome}
    (hp : answers[st.taken] = (p, o)) {d : Option Decision} (hd : p.decide o = .ok d) :
    Awaiting.Consistent answers
      { st with taken := st.taken + 1, decisions := st.decisions ++ d.toList } := by
  have hk : answers[st.taken]? = some (p, o) := by
    rw [List.getElem?_eq_getElem hlt, hp]
  refine ⟨hlt, ?_⟩
  rw [decisionsOf_take_succ hk, hc.decisions]
  simp [Except.bind, hd]

/-- **One round of taking the ready answers** keeps consistency and the finished tasks, and
leaves nothing ready behind. -/
theorem takeReady_ok {st st' : Awaiting} (hc : st.Consistent answers)
    (h : st.takeReady answers = .ok st') :
    st'.Consistent answers ∧ st'.finished = st.finished ∧ st'.Settled answers := by
  induction st using Awaiting.takeReady.induct answers with
  | case1 st hlt p o hp hmem ih =>
    rw [Awaiting.takeReady, dif_pos hlt] at h
    simp only [hp, if_pos hmem] at h
    cases hd : p.decide o with
    | error e => simp [hd, bind, Except.bind] at h
    | ok d =>
      simp only [hd] at h
      exact ih d (hc.take hlt hp hd) h
  | case2 st hlt p o hp hmem =>
    rw [Awaiting.takeReady, dif_pos hlt] at h
    simp only [hp, if_neg hmem] at h
    cases h
    exact ⟨hc, rfl, .inr hmem⟩
  | case3 st hge =>
    rw [Awaiting.takeReady, dif_neg hge] at h
    cases h
    exact ⟨hc, rfl, .inl (Nat.le_antisymm hc.taken_le (Nat.not_lt.mp hge))⟩

/-- **A failure met while taking answers** is the first failure of all the answers. -/
theorem takeReady_error {st : Awaiting} {e : RebaseError} (hc : st.Consistent answers)
    (h : st.takeReady answers = .error e) : decisionsOf answers = .error e := by
  induction st using Awaiting.takeReady.induct answers with
  | case1 st hlt p o hp hmem ih =>
    rw [Awaiting.takeReady, dif_pos hlt] at h
    simp only [hp, if_pos hmem] at h
    cases hd : p.decide o with
    | error e' =>
      simp only [hd] at h
      cases h
      -- the failing answer is the one after the consistent prefix
      have hk : answers[st.taken]? = some (p, o) := by
        rw [List.getElem?_eq_getElem hlt, hp]
      apply decisionsOf_of_take_error (k := st.taken + 1)
      rw [decisionsOf_take_succ hk, hc.decisions]
      simp [Except.bind, hd]
    | ok d =>
      simp only [hd] at h
      exact ih d (hc.take hlt hp hd) h
  | case2 st hlt p o hp hmem =>
    rw [Awaiting.takeReady, dif_pos hlt] at h
    simp only [hp, if_neg hmem] at h
    cases h
  | case3 st hge =>
    rw [Awaiting.takeReady, dif_neg hge] at h
    cases h

/-! ## (3) Tasks finishing in any order -/

/-- At the start nothing is waiting. -/
theorem Awaiting.settled_init : Awaiting.Settled answers {} :=
  .inr List.not_mem_nil

/-- **A task finishes**: consistency is kept, the task counts as finished, and nothing ready is
left waiting. -/
theorem finish_ok {st st' : Awaiting} {task : Nat} (hc : st.Consistent answers)
    (h : st.finish answers task = .ok st') :
    st'.Consistent answers ∧ st'.finished = task :: st.finished ∧ st'.Settled answers :=
  takeReady_ok (hc.with_finished _) h

/-- **A task finishes and a failure is met**: it is the first failure of all the answers. -/
theorem finish_error {st : Awaiting} {task : Nat} {e : RebaseError} (hc : st.Consistent answers)
    (h : st.finish answers task = .error e) : decisionsOf answers = .error e :=
  takeReady_error (hc.with_finished _) h

/-- **Tasks finish one after another** in the order `order`: consistency is kept, nothing ready
is left waiting, and every task named (or finished before) counts as finished. -/
theorem foldlM_finish_ok {order : List Nat} {st st' : Awaiting} (hc : st.Consistent answers)
    (hs : st.Settled answers) (h : order.foldlM (Awaiting.finish answers) st = .ok st') :
    st'.Consistent answers ∧ st'.Settled answers ∧
      ∀ k, k ∈ order ∨ k ∈ st.finished → k ∈ st'.finished := by
  induction order generalizing st with
  | nil =>
    cases h
    exact ⟨hc, hs, fun k hk => by simpa using hk⟩
  | cons task rest ih =>
    rw [List.foldlM_cons] at h
    cases hf : st.finish answers task with
    | error e => simp [hf, bind, Except.bind] at h
    | ok mid =>
      simp only [hf, bind, Except.bind] at h
      obtain ⟨hc', hfin, hs'⟩ := finish_ok hc hf
      obtain ⟨hc'', hs'', hall⟩ := ih hc' hs' h
      refine ⟨hc'', hs'', fun k hk => hall k ?_⟩
      rw [hfin]
      rcases hk with hk | hk
      · rcases List.mem_cons.mp hk with rfl | hk
        · exact .inr List.mem_cons_self
        · exact .inl hk
      · exact .inr (List.mem_cons_of_mem _ hk)

/-- **Tasks finish one after another and a failure is met**: it is the first failure of all the
answers. -/
theorem foldlM_finish_error {order : List Nat} {st : Awaiting} {e : RebaseError}
    (hc : st.Consistent answers) (h : order.foldlM (Awaiting.finish answers) st = .error e) :
    decisionsOf answers = .error e := by
  induction order generalizing st with
  | nil => cases h
  | cons task rest ih =>
    rw [List.foldlM_cons] at h
    cases hf : st.finish answers task with
    | error e' =>
      simp only [hf, bind, Except.bind] at h
      cases h
      exact finish_error hc hf
    | ok mid =>
      simp only [hf, bind, Except.bind] at h
      exact ih (finish_ok hc hf).1 h

/-- **Awaiting in text order does not depend on the completion order**: whatever order the
policy's tasks finish in, the run gets the decisions of the answers read in text order, or the
first failure among them. -/
theorem awaitAll_eq_decisionsOf (answers : List (Pending × Outcome)) (order : List Nat) :
    awaitAll answers order = decisionsOf answers := by
  unfold awaitAll
  cases h1 : order.foldlM (Awaiting.finish answers) {} with
  | error e =>
    rw [foldlM_finish_error Awaiting.consistent_init h1]
    rfl
  | ok st =>
    obtain ⟨hc, hs, -⟩ := foldlM_finish_ok Awaiting.consistent_init Awaiting.settled_init h1
    cases h2 : (List.range answers.length).foldlM (Awaiting.finish answers) st with
    | error e =>
      rw [foldlM_finish_error hc h2]
      simp [bind, Except.bind, h2]
    | ok st' =>
      obtain ⟨hc', hs', hall⟩ := foldlM_finish_ok hc hs h2
      -- once every task has finished, every answer has been taken
      have htaken : st'.taken = answers.length := by
        rcases hs' with hdone | hwait
        · exact hdone
        · rcases Nat.lt_or_eq_of_le hc'.taken_le with hlt | heq
          · exact absurd (hall _ (.inl (List.mem_range.mpr hlt))) hwait
          · exact heq
      have hd := hc'.decisions
      rw [htaken, List.take_length] at hd
      simp [bind, Except.bind, h2, hd]
      rfl

/-- **A run does not depend on the order its policy tasks finish in.** -/
theorem runIn_eq_run (schedule : Schedule) (css : String) (given : Option SourceMap)
    (policy : Policy) (options : Options) :
    runIn schedule css given policy options = run css given policy options := by
  simp only [run, runIn, awaitAll_eq_decisionsOf]

end StyleRebase.Rebase
