import Mathlib.Data.List.Basic
import SystemSketch.Validation.Report

/-!
# When a report finds fault

A report finds fault with a model over its errors, and a strict one over its warnings as well. The
flag of the report, its counts, the list of its failures and the check that raises them say the same
about this.

## Main results

* `Severity.fails_iff` — which issues a report finds fault over.
* `Report.isValid_iff`, `Report.failures_eq_nil_iff` — a valid report by its counts and by its
  failures.
* `check_eq_ok_iff`, `check_eq_error_iff` — what comes of a check.
* `exists_check_eq_error_iff` — a strict check by the counts of a report.
-/

namespace SystemSketch.Validation

/-- A report finds fault over its errors, and over its warnings if it is strict. -/
theorem Severity.fails_iff {strict : Bool} {severity : Severity} :
    severity.fails strict = true ↔ severity = .error ∨ strict = true ∧ severity = .warning := by
  cases severity <;> simp [fails]

namespace Report

variable {r : Report}

/-- A report counts no issue of a severity exactly if it has none. -/
theorem count_eq_zero_iff {severity : Severity} :
    r.count severity = 0 ↔ ∀ issue ∈ r.issues, issue.severity ≠ severity := by
  simp [count, List.countP_eq_zero]

/-- **A report is valid** exactly if it counts no error and, if it is strict, no warning. -/
theorem isValid_iff :
    r.isValid = true ↔ r.errorCount = 0 ∧ (r.strict = true → r.warningCount = 0) := by
  rw [isValid, Bool.not_eq_true', List.any_eq_false, errorCount, warningCount, count_eq_zero_iff,
    count_eq_zero_iff]
  simp only [Severity.fails_iff, not_or, not_and]
  constructor
  · exact fun h => ⟨fun issue hissue => (h issue hissue).1,
      fun hstrict issue hissue => (h issue hissue).2 hstrict⟩
  · exact fun h issue hissue => ⟨h.1 issue hissue, fun hstrict => h.2 hstrict issue hissue⟩

/-- The failures of a report are its errors and, if it is strict, its warnings, in order. -/
theorem failures_eq_filter :
    r.failures = r.issues.filter fun issue =>
      issue.severity == .error || r.strict && issue.severity == .warning := by
  refine List.filter_congr fun issue _ => ?_
  rw [Bool.eq_iff_iff, Severity.fails_iff, Bool.or_eq_true, Bool.and_eq_true, beq_iff_eq,
    beq_iff_eq]

/-- **A report has failures** exactly if it is not valid. -/
theorem failures_eq_nil_iff : r.failures = [] ↔ r.isValid = true := by
  rw [failures, List.filter_eq_nil_iff, isValid, Bool.not_eq_true', List.any_eq_false]

end Report

variable {m : Model} {strict : Bool}

/-- Strictly, a model is valid exactly if its report counts neither errors nor warnings. -/
theorem isValid_validate_strict_iff :
    (validate m true).isValid = true ↔
      (validate m true).errorCount = 0 ∧ (validate m true).warningCount = 0 := by
  rw [Report.isValid_iff]
  exact and_congr_right' (imp_iff_right rfl)

/-- Without strictness, a model is valid exactly if its report counts no errors. -/
theorem isValid_validate_iff :
    (validate m).isValid = true ↔ (validate m).errorCount = 0 := by
  rw [Report.isValid_iff]
  exact and_iff_left fun hstrict => Bool.noConfusion hstrict

/-- **A check passes** with the report of a valid model. -/
theorem check_eq_ok_iff {r : Report} :
    check m strict = .ok r ↔ (validate m strict).isValid = true ∧ r = validate m strict := by
  rw [check]
  cases (validate m strict).isValid <;> simp [eq_comm]

/-- **A check fails** with the failures of a model that is not valid. -/
theorem check_eq_error_iff {e : Invalid} :
    check m strict = .error e ↔
      (validate m strict).isValid = false ∧ e = ⟨(validate m strict).failures⟩ := by
  rw [check]
  cases (validate m strict).isValid <;> simp [eq_comm]

/-- A check fails exactly if the model is not valid. -/
theorem check_fails_iff :
    (∃ e, check m strict = .error e) ↔ (validate m strict).isValid = false := by
  simp [check_eq_error_iff]

/-- **A strict check finds fault** with a model exactly if its report counts errors or warnings. -/
theorem exists_check_eq_error_iff (m : Model) :
    (∃ e, check m true = .error e) ↔
      (validate m).errorCount ≠ 0 ∨ (validate m).warningCount ≠ 0 := by
  rw [check_fails_iff, ← Bool.not_eq_true, isValid_validate_strict_iff, not_and_or]
  rfl

end SystemSketch.Validation
