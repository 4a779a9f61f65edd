import Mathlib
import StyleRebase.Cli.FileTree

/-! # What a failed run leaves behind

A run checks that each output can be staged before it writes any of them, and nothing it does
before the first write touches the file tree or standard output. The stylesheet is written
(put in place, or sent to standard output) before the source map is put in place, so one
failure can still come after a write: the source map's own. It is the only one: a run that
fails has left the file tree and standard output as they were, unless the source map could not
be put in place, and then the stylesheet has been written and nothing else.

The run is followed with `mvcgen`. `loadConfig` and `stage` leave the console as it is,
`commit` puts one file in place or fails with nothing changed, and the effects of a console are
unfolded field by field, so that these specifications apply where the run calls them. -/

namespace StyleRebase.Cli

open Std.Do

set_option mvcgen.warning false

/-- **The outputs of two consoles agree**: the same file tree and standard output (standard
error may differ). -/
def Console.SameOutputs (c c' : Console) : Prop := c'.tree = c.tree ∧ c'.stdout = c.stdout

/-- **Where the arguments send the source map**: `--map-output`, else the stylesheet's output
with `.map` added. -/
def MapDestination (args : Args) (cwd path : String) : Prop :=
  (∃ p, args.mapOutput = some p ∧ path = FsPath.join cwd p) ∨
  (args.mapOutput = none ∧ ∃ o, args.output = some o ∧ path = FsPath.join cwd (o ++ ".map"))

/-- **Only the stylesheet has been written** between `c₀` and `c`: put in place at its output
path, or, with no output path, appended to standard output. -/
def SheetWritten (args : Args) (cwd : String) (c₀ c : Console) : Prop :=
  (∃ o bytes, args.output = some o ∧ c.stdout = c₀.stdout ∧
    c₀.tree.place? (FileTree.components cwd) (FsPath.join cwd o) bytes = some c.tree) ∨
  (args.output = none ∧ c.tree = c₀.tree ∧ ∃ text, c.stdout = c₀.stdout ++ text)

/-- What is written to standard error does not count. -/
@[simp] theorem sheetWritten_stderr {args : Args} {cwd : String} {c₀ c : Console} {s : String} :
    SheetWritten args cwd c₀ { c with stderr := s } ↔ SheetWritten args cwd c₀ c := Iff.rfl

/-- **What a run that stops with `e` may have written**: nothing, or, when putting the source
map in place failed, the stylesheet. -/
def StopLeaves (args : Args) (cwd : String) (c₀ c : Console) (e : Halt) : Prop :=
  c₀.SameOutputs c ∨
    ∃ path, e = .failure (.write path) ∧ MapDestination args cwd path ∧ SheetWritten args cwd c₀ c

/-- The source map's path that `mapOutput` picks is where the arguments send it. -/
theorem mapOutput_destination {args : Args} {config : Config} {cwd path : String}
    (h : (mapOutput args config cwd).1 = some path) : MapDestination args cwd path := by
  unfold mapOutput at h
  unfold MapDestination
  split at h <;> (try split at h) <;> simp_all

section Effects

/-! The effects of a console field by field, for `mvcgen` to unfold in place of the whole
structure, which would hide the calls the specifications below are about. -/

variable (cwd : String)

theorem Console.effects_readFile (p : String) : (Console.effects cwd).readFile p =
    (do pure ((← get).tree.read? (FileTree.components cwd) p) : StateM Console _) := rfl

theorem Console.effects_out (s : String) : (Console.effects cwd).out s =
    (modify fun c => { c with stdout := c.stdout ++ s } : StateM Console _) := rfl

theorem Console.effects_err (s : String) : (Console.effects cwd).err s =
    (modify fun c => { c with stderr := c.stderr ++ s } : StateM Console _) := rfl

theorem Console.effects_warn (s : String) : (Console.effects cwd).warn s =
    (modify fun c => { c with stderr := c.stderr ++ "WARN " ++ s ++ "\n" } : StateM Console _) :=
  rfl

end Effects

/-- Loading the configuration only reads. -/
@[spec] theorem loadConfig_keeps (cwd : String) (explicit : Option String) (c₀ : Console) :
    ⦃fun c => ⌜c = c₀⌝⦄ loadConfig (Console.effects cwd) explicit cwd
    ⦃post⟨fun _ c => ⌜c = c₀⌝, fun _ c => ⌜c = c₀⌝⟩⦄ := by
  mvcgen [loadConfig, Console.effects, fail]

/-- Staging an output only checks its directory. -/
@[spec] theorem stage_keeps (cwd path : String) (c₀ : Console) :
    ⦃fun c => ⌜c = c₀⌝⦄ stage (Console.effects cwd) path
    ⦃post⟨fun _ c => ⌜c = c₀⌝, fun _ c => ⌜c = c₀⌝⟩⦄ := by
  mvcgen [stage, Console.effects, fail]

/-- Committing an output puts it in place, or fails naming its path with nothing changed. -/
@[spec] theorem commit_places (cwd path : String) (bytes : List UInt8) (c₀ : Console) :
    ⦃fun c => ⌜c = c₀⌝⦄ commit (Console.effects cwd) path bytes
    ⦃post⟨fun _ c => ⌜∃ t, c₀.tree.place? (FileTree.components cwd) path bytes = some t ∧
        c = { c₀ with tree := t }⌝,
      fun e c => ⌜e = .failure (.write path) ∧ c = c₀⌝⟩⦄ := by
  mvcgen [commit, Console.effects, fail]
  all_goals simp_all

/-- A run of the settings that stops has written nothing, or the stylesheet alone when the
source map could not be put in place. -/
@[spec] theorem execute_stop_leaves (cwd : String) (args : Args) (c₀ : Console) :
    ⦃fun c => ⌜c = c₀⌝⦄ execute (Console.effects cwd) args cwd
    ⦃post⟨fun _ _ => ⌜True⌝, fun e c => ⌜StopLeaves args cwd c₀ c e⌝⟩⦄ := by
  mvcgen [execute, Console.effects_readFile, Console.effects_out, Console.effects_err,
    Console.effects_warn, fail]
  all_goals intros
  -- every stop but the source map's leaves the outputs as they were
  all_goals try (subst_vars; exact .inl ⟨rfl, rfl⟩)
  -- what is left is the source map's own commit failing, after the stylesheet was written
  all_goals (right; grind [MapDestination, SheetWritten, mapOutput_destination])

end StyleRebase.Cli
