import StyleRebase.Cli.Args
import StyleRebase.Json.Write
import StyleRebase.Rebase.Splice

/-! # The rebase report

After a run, the rebased references are reported on standard error: one `raw -> rebased`
line each, or a JSON array of records with the keys `raw`, `resolved` and `rebased`, written
with an indent of two spaces and followed by a new line.

* **`Report.human`**, **`Report.json`** — the two formats.
* **`Report.render`** — the report in a format. -/

namespace StyleRebase.Cli.Report

/-- **One line per rebased reference.** -/
def human (records : List Rebase.Record) : String :=
  String.join (records.map fun r =>
    String.ofList r.raw ++ " -> " ++ String.ofList r.rebased ++ "\n")

/-- **The JSON document of a record.** -/
def recordJson (r : Rebase.Record) : Json.Value :=
  .record [("raw", .str (String.ofList r.raw)), ("resolved", .str (String.ofList r.resolved)),
    ("rebased", .str (String.ofList r.rebased))]

/-- **The records as a JSON array.** -/
def json (records : List Rebase.Record) : String :=
  (Json.Value.array (records.map recordJson)).pretty ++ "\n"

/-- **The report in a format.** -/
def render (records : List Rebase.Record) : ReportFormat → String
  | .human => human records
  | .json => json records

end StyleRebase.Cli.Report
