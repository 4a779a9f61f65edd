import StyleRebase.Json.Read
import StyleRebase.Json.Typed
import StyleRebase.Rebase.Policy

/-! # The configuration file

A run may read its settings from a JSON file, by default `css-rebase.json` of the working
directory. The file holds one object with the keys `baseDir` (a path or `null`), `emitMap`
(a boolean or `null`), `exclude` (an array of globs) and `rewrites` (an array of prefix
rules, each an object with the keys `from` and `to`, or the array `[from, to]`). Every key
is optional and may be given once; a key that is not one of these refuses the file. The same
settings may also be written as an array of at most four values, in that order.

* **`Config`** — the settings of a configuration file.
* **`Config.read?`** — the settings a file's text spells, if any.
* **`Config.policy`** — the rules the settings describe. -/

namespace StyleRebase.Cli

/-- **The settings of a configuration file.** -/
structure Config where
  /-- The directory absolute source paths are made relative to. -/
  baseDir : Option String := none
  /-- Whether to write the source map of the rebased stylesheet next to it. -/
  emitMap : Option Bool := none
  /-- Globs of resolved paths that are left alone. -/
  exclude : List String := []
  /-- Prefix rules for resolved paths. -/
  prefixRules : List Rebase.PrefixRule := []
  deriving DecidableEq, Repr, Inhabited

namespace Config

/-- **The keys of the configuration object.** -/
def keys : List String := ["baseDir", "emitMap", "exclude", "rewrites"]

/-- **A boolean.** -/
def boolean : Json.Reader Bool := fun _ v =>
  match v with
  | .bool b => some b
  | _ => none

/-- **A prefix rule**: an object with the text fields `from` and `to` (other fields are
passed over), or the array of the two. -/
def prefixRule : Json.Reader Rebase.PrefixRule := fun d v =>
  match v with
  | .array [a, b] => do
    if d ≥ Json.maxDepth then none
    let leading ← Json.Reader.text (d + 1) a
    let replacement ← Json.Reader.text (d + 1) b
    pure ⟨leading.toList, replacement.toList⟩
  | v => do
    let r ← Json.Reader.record d v
    let leading ← r.required ["from"] Json.Reader.text
    let replacement ← r.required ["to"] Json.Reader.text
    pure ⟨leading.toList, replacement.toList⟩

/-- **The reader of `baseDir`.** -/
def baseDirOf : Json.Reader (Option String) := Json.Reader.nullable Json.Reader.text

/-- **The reader of `emitMap`.** -/
def emitMapOf : Json.Reader (Option Bool) := Json.Reader.nullable boolean

/-- **The reader of `exclude`.** -/
def excludeOf : Json.Reader (List String) := Json.Reader.list Json.Reader.text

/-- **The reader of `rewrites`.** -/
def prefixRulesOf : Json.Reader (List Rebase.PrefixRule) := Json.Reader.list prefixRule

/-- **A setting given at most once**, read with `rd`, or `default` when it is not given. -/
def setting {α : Type} (r : Json.Record) (key : String) (rd : Json.Reader α) (default : α) :
    Option α := do
  match ← r.field? [key] with
  | some v => rd r.depth v
  | none => pure default

/-- **The settings a JSON value spells**: an object of known keys, or an array of at most four
values read in order. -/
def ofJson? : Json.Reader Config := fun d v =>
  match v with
  | .array items => do
    if d ≥ Json.maxDepth || items.length > 4 then none
    let baseDir ← (items[0]?.map (baseDirOf (d + 1))).getD (some none)
    let emitMap ← (items[1]?.map (emitMapOf (d + 1))).getD (some none)
    let exclude ← (items[2]?.map (excludeOf (d + 1))).getD (some [])
    let prefixRules ← (items[3]?.map (prefixRulesOf (d + 1))).getD (some [])
    pure { baseDir, emitMap, exclude, prefixRules }
  | v => do
    let r ← Json.Reader.record d v
    if !r.members.all fun (k, _) => keys.contains k then none
    let baseDir ← setting r "baseDir" baseDirOf none
    let emitMap ← setting r "emitMap" emitMapOf none
    let exclude ← setting r "exclude" excludeOf []
    let prefixRules ← setting r "rewrites" prefixRulesOf []
    pure { baseDir, emitMap, exclude, prefixRules }

/-- **The settings a configuration file's text spells**, if any. -/
def read? (text : String) : Option Config :=
  (Json.parse? text.toUTF8.toList).bind (ofJson? 0)

/-- **The rules the settings describe**, or the first glob refused. -/
def policy (c : Config) : Except Rebase.PolicyError Rebase.Rules :=
  Rebase.Rules.build c.exclude c.prefixRules

end Config

end StyleRebase.Cli
