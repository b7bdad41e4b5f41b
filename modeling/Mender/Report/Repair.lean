import Mender.Search.Verdict
import Mender.Report.Json
import Mender.Diff.Script
import Mender.Diff.Unified
import Mender.Diff.Paint

namespace Mender.Report

open Search

def rule : String := .ofList (.replicate 60 '═')

def verdictText (color : Bool) : Verdict → String
  | .accepted => (Style.strongColor .green).paintText color "ACCEPTED"
  | .bugOracleFailed => (Style.ofColor .yellow).paintText color "still failing"
  | .regressionOracleFailed => (Style.ofColor .red).paintText color "regression"
  | .loadFailed => (Style.strongColor .red).paintText color "load failed"

def progress (color : Bool) (index total : Nat) (verdict : Verdict) : String :=
  s!"[{index}/{total}] variant ... {verdictText color verdict}"

def outcome (color : Bool) (report : Search.Report) (original : String) : String :=
  match report.outcome with
  | .noFailures => (Style.ofColor .green).paintText color "All tests pass. Nothing to fix." ++ "\n"
  | .accepted fix =>
    (Style.strongColor .green).paintText color "Generated fix for failing tests:" ++ "\n\n" ++
      Diff.colorize color (Diff.unified Diff.script original fix.source)
  | .exhausted => (Style.strongColor .yellow).paintText color "No fixes found" ++ "\n"

def summary (color : Bool) (report : Search.Report) : String :=
  let stats := report.stats
  let failures := (Style.ofColor .red).paintText color (toString stats.loadFailures)
  let title := Style.strong.paintText color "REPAIR SEARCH COMPLETE"
  s!"\n{rule}\n{title}\n{rule}\n" ++
  s!"  Failing tests:    {report.failing.length}\n" ++
  s!"  Variants judged:  {stats.judged}\n" ++
  s!"  Bug oracle:       {stats.bugRejections} rejected\n" ++
  s!"  Regression:       {stats.regressionRejections} rejected\n" ++
  (if 0 < stats.loadFailures then s!"  Load failures:    {failures}\n" else "") ++
  s!"  Duration:         {stats.duration}ms\n"

def assignmentJson (a : Variant.Assignment) : Json :=
  .object [("choices", .array (a.choices.map fun c => (c.map Json.number).getD .null))]

def outcomeJson : Outcome → Json
  | .noFailures => .object [("status", .text "no_failures")]
  | .accepted fix => .object [
      ("assignment", assignmentJson fix.assignment),
      ("index", .number fix.index),
      ("source", .text fix.source),
      ("status", .text "accepted")]
  | .exhausted => .object [("status", .text "exhausted")]

def statsJson (s : Stats) : Json := .object [
  ("bug_rejections", .number s.bugRejections),
  ("duration_ms", .number s.duration),
  ("judged", .number s.judged),
  ("load_failures", .number s.loadFailures),
  ("regression_rejections", .number s.regressionRejections)]

def json (report : Search.Report) (original : String) : String :=
  let diff := match report.fix? with
    | some fix => .text (Diff.unified Diff.script original fix.source)
    | none => .null
  (Json.object [
    ("diff", diff),
    ("failing", .array (report.failing.map .text)),
    ("outcome", outcomeJson report.outcome),
    ("stats", statsJson report.stats)]).pretty

end Mender.Report
