import StyleRebase.Css.Parser
import StyleRebase.Rebase.Classify
import StyleRebase.Rebase.Locate
import StyleRebase.Rebase.Policy
import StyleRebase.Rebase.Project
import StyleRebase.Rebase.Splice
import StyleRebase.SourceMap.Load

/-! # Rebasing a stylesheet

A stylesheet compiled from several source files (partials, imports) holds `url(...)` references
written relative to the file each came from. Rebasing writes them relative to one place, using
the stylesheet's source map to find, for every reference, the source file it was written in.

A run, in order:
1. the stylesheet is parsed; the first parse error stops the run;
2. the source map is the one given, else the one embedded as a `data:` URL in the stylesheet's
   `sourceMappingURL` comment; without one the run stops;
3. for each reference, in order of position, that is a relative path and whose position the map
   resolves: its source is named as the map names it (a `file` URL becomes a path, made relative
   to the base directory when one is given), it is resolved against that source, and the policy
   is asked about it;
4. the answers are read in order; the first failure stops the run;
5. the references are written anew, and the map is carried to the new text when asked for.

* **`Options`**, **`RebaseError`**, **`Rebased`** — a run's options, failures and result.
* **`decisionsOf`** — the decisions from the policy's answers read in text order.
* **`Awaiting`**, **`awaitAll`** — the answers awaited in text order while the policy's tasks
  finish in any order.
* **`runIn`**, **`run`** — the requests put to the policy, the result and what a listener
  receives; `run` has the tasks finish in text order. -/

namespace StyleRebase.Rebase

/-- **Options of a run.** -/
structure Options where
  /-- Whether to produce the source map of the rebased stylesheet. -/
  emitMap : Bool := false
  /-- The directory that absolute source paths are made relative to. -/
  baseDir : Option (List Char) := none
  deriving DecidableEq, Repr, Inhabited

/-- **Why a run stopped.** -/
inductive RebaseError where
  /-- No source map was given and the stylesheet embeds none. -/
  | missingSourceMap
  /-- The source map could not be loaded. -/
  | sourceMap (e : SourceMap.LoadError)
  /-- The stylesheet has a syntax error; the first one found. -/
  | parse (e : Css.ParseError)
  /-- The policy failed on a request. -/
  | policy (e : PolicyError)
  /-- The policy crashed on a request. -/
  | policyTask
  /-- A reference's range could not be cut from the text. -/
  | badSpan (span : Span)
  deriving Repr

/-- **The message of a stopped run.** -/
def RebaseError.message : RebaseError → String
  | .missingSourceMap =>
    "a source map is required, either embedded in the stylesheet or supplied explicitly"
  | .sourceMap e => e.message
  | .parse e => "failed to parse stylesheet at byte " ++ toString e.span.start ++ ": " ++ e.message
  | .policy e => e.message
  | .policyTask => "rebase policy task failed"
  | .badSpan s =>
    "cannot cut the range " ++ toString s.start ++ ".." ++ toString s.stop ++ " from the stylesheet"

/-- **What a finished run gives.** -/
structure Rebased where
  css : List Char
  map : Option SourceMap
  rebases : List Record

/-- **A run**: the requests put to the policy, in order, the result, and the records sent to a
listener (only once the whole run has succeeded). -/
structure Run where
  requests : List Request
  result : Except RebaseError Rebased
  notified : List Record

/-- **A run that sent `requests` and ended with `result`**: a listener hears the records of a
successful run, and nothing when it fails. -/
def Run.ofResult (requests : List Request) (result : Except RebaseError Rebased) : Run :=
  ⟨requests, result, match result with
    | .ok r => r.rebases
    | .error _ => []⟩

@[simp] theorem Run.ofResult_requests (requests : List Request)
    (result : Except RebaseError Rebased) : (Run.ofResult requests result).requests = requests :=
  rfl

@[simp] theorem Run.ofResult_result (requests : List Request)
    (result : Except RebaseError Rebased) : (Run.ofResult requests result).result = result :=
  rfl

/-- **A reference the policy is asked about**, with its source and resolved path. -/
structure Pending where
  occurrence : Occurrence
  source : List Char
  resolved : List Char

/-- **The request of a pending reference.** -/
def Pending.request (p : Pending) : Request := ⟨p.source, p.resolved, p.occurrence.raw⟩

/-- **Whether a reference names a data URL**: it starts with `data:` in any case. -/
def isDataUrl (url : List Char) : Bool :=
  let scheme := url.take 5
  scheme.length == 5 && eqIgnoreAsciiCase scheme "data:".toList

/-- **The source map of a run**: the one given, else the one the stylesheet embeds. -/
def mapFor (given : Option SourceMap) (sheet : Css.Stylesheet) : Except RebaseError SourceMap :=
  match given with
  | some m => pure m
  | none =>
    match sheet.sourceMappingUrl with
    | some url =>
      if isDataUrl url then (SourceMap.ofDataUrl url).mapError .sourceMap
      else throw .missingSourceMap
    | none => throw .missingSourceMap

/-- **The references to ask about**: relative ones whose position the map resolves. -/
def pendingOf (map : SourceMap) (options : Options) (o : Occurrence) : Option Pending := do
  if !(classify o.raw).isRebasable then none
  let located ← map.resolve o.position
  let source := Path.normalizeSource located.source.toList options.baseDir
  pure ⟨o, source, Path.resolve source o.raw⟩

/-- **The pending references of a stylesheet**, in text order. -/
def eligible (css : String) (sheet : Css.Stylesheet) (map : SourceMap) (options : Options) :
    List Pending :=
  (locate sheet (LineIndex.ofString css)).filterMap (pendingOf map options)

/-- **The policy's answers**: the `n`-th pending reference gets the answer to the `n`-th
request. -/
def answersOf (policy : Policy) (pending : List Pending) : List (Pending × Outcome) :=
  pending.zipIdx.map fun (p, i) => (p, policy i p.request)

/-- **What an answer makes of a pending reference**: a decision, nothing when the policy
suppresses it, or the failure that stops the run. -/
def Pending.decide (p : Pending) : Outcome → Except RebaseError (Option Decision)
  | .decided .suppress => pure none
  | .decided .keep => pure (some ⟨p.occurrence, p.source, p.resolved, p.resolved⟩)
  | .decided (.override path) => pure (some ⟨p.occurrence, p.source, p.resolved, path⟩)
  | .failed e => throw (.policy e)
  | .crashed => throw .policyTask

/-- **The decisions** from the answers read in text order; the first failure stops. -/
def decisionsOf : List (Pending × Outcome) → Except RebaseError (List Decision)
  | [] => pure []
  | (p, o) :: rest => do
    let d ← p.decide o
    let ds ← decisionsOf rest
    pure (d.toList ++ ds)

/-! ## Awaiting the answers

Every request is sent before any answer is awaited, and the answers are awaited in text order:
the run waits for the task of the first request, then the second, and so on, whatever order the
tasks finish in. -/

/-- **A completion order** of the policy's tasks: for a number of requests, the tasks in the
order they finish. Tasks it leaves out finish after those it names. -/
abbrev Schedule := Nat → List Nat

/-- **The tasks finish in text order.** -/
def Schedule.inOrder : Schedule := List.range

/-- **Waiting on the answers**: the tasks finished so far, how many answers have been taken (in
text order) and the decisions taken from them. -/
structure Awaiting where
  finished : List Nat := []
  taken : Nat := 0
  decisions : List Decision := []

/-- **Take every answer that is ready**: while the task of the next request in text order has
finished, its answer is read; a failure stops the run. -/
def Awaiting.takeReady (answers : List (Pending × Outcome)) (st : Awaiting) :
    Except RebaseError Awaiting :=
  if hlt : st.taken < answers.length then
    let (p, o) := answers[st.taken]
    if st.taken ∈ st.finished then do
      let d ← p.decide o
      takeReady answers { st with taken := st.taken + 1, decisions := st.decisions ++ d.toList }
    else pure st
  else pure st
termination_by answers.length - st.taken

/-- **A task finishes**, and the answers now ready are taken. -/
def Awaiting.finish (answers : List (Pending × Outcome)) (st : Awaiting) (task : Nat) :
    Except RebaseError Awaiting :=
  takeReady answers { st with finished := task :: st.finished }

/-- **The decisions of a run whose tasks finish in the order `order`**; the tasks it leaves out
finish afterwards, in text order. -/
def awaitAll (answers : List (Pending × Outcome)) (order : List Nat) :
    Except RebaseError (List Decision) := do
  let st ← order.foldlM (Awaiting.finish answers) {}
  let st ← (List.range answers.length).foldlM (Awaiting.finish answers) st
  pure st.decisions

/-! ## A run -/

/-- **Rebase a stylesheet**, the policy's tasks finishing in the order `schedule` gives. -/
def runIn (schedule : Schedule) (css : String) (given : Option SourceMap) (policy : Policy)
    (options : Options) : Run :=
  let parsed := Css.parse css
  match parsed.errors with
  | e :: _ => .ofResult [] (throw (.parse e))
  | [] =>
    match mapFor given parsed.stylesheet with
    | .error e => .ofResult [] (throw e)
    | .ok map =>
      let pending := eligible css parsed.stylesheet map options
      let answers := answersOf policy pending
      let result : Except RebaseError Rebased := do
        let decisions ← awaitAll answers (schedule answers.length)
        let rw ← (splice css.toList decisions).mapError .badSpan
        let projected := if options.emitMap then some (project map css.toList rw.css rw.offsets)
          else none
        pure ⟨rw.css, projected, rw.records⟩
      .ofResult (pending.map Pending.request) result

/-- **Rebase a stylesheet.** -/
def run (css : String) (given : Option SourceMap) (policy : Policy) (options : Options) : Run :=
  runIn Schedule.inOrder css given policy options

end StyleRebase.Rebase
