import SystemSketch.Json.Basic
import SystemSketch.Validation.Report

/-!
# Reports as JSON

A report is handed out with its counts, its issues and its statistics. What an issue does not
say is `null`.
-/

namespace SystemSketch.Validation

/-- An issue as it is handed out. -/
def Issue.toJson (issue : Issue) : Json :=
  .object [
    ("severity", .text issue.severity.name),
    ("code", .text issue.code),
    ("message", .text issue.message),
    ("node_id", .optional issue.nodeId?),
    ("edge_info", .optional issue.edgeInfo?),
    ("suggestion", .optional issue.suggestion?)]

/-- Statistics as they are handed out. -/
def Stats.toJson (stats : Stats) : Json :=
  .object [
    ("components", .int stats.components),
    ("interactions", .int stats.interactions),
    ("rendered_interactions", .int stats.renderedInteractions),
    ("dangling_interactions", .int stats.danglingInteractions),
    ("pending_references", .int stats.pendingReferences),
    ("pages", .int stats.pages),
    ("controllers", .int stats.controllers),
    ("services", .int stats.services),
    ("gateways", .int stats.gateways)]

/-- A report as it is handed out. -/
def Report.toJson (r : Report) : Json :=
  .object [
    ("is_valid", .bool r.isValid),
    ("is_complete", .bool r.isComplete),
    ("error_count", .int r.errorCount),
    ("warning_count", .int r.warningCount),
    ("info_count", .int r.infoCount),
    ("issues", .list (r.issues.map Issue.toJson)),
    ("stats", r.stats.toJson)]

end SystemSketch.Validation
