import SystemSketch.Proofs.Analysis.Facts
import SystemSketch.Proofs.Service.Drawing
import SystemSketch.Proofs.Validation.Verdict

/-!
# One notion of failure

Whoever asks whether a model is fine gets the same answer. Both reports of a model list the same
issues; the strict one also finds fault over warnings. A check raises what its report finds fault
over, and the service calls a drawing a success if the strict report finds no fault with its model.

## Main results

* `exists_drawing_of_ok` — what stands behind a request that is answered with a drawing.
* `verdict_eq_success_iff` — the word of the service is that of strict validation.
* `failures_agree` — reports, checks and the service agree about every model.
-/

namespace SystemSketch.Service

open Validation

variable {workingDirectory : Path.Directory} {database : Database} {request : Request}

/-- **Behind a drawing** that is handed out stand an order, its rules and an analysis. -/
theorem exists_drawing_of_ok (hasks : request.asks .generate = true)
    (hstatus : (respond workingDirectory database request).1.reply.status = 200) :
    ∃ order rules outcome, Order.ofBody request.body = .ok order ∧ order.rules = .ok rules ∧
      analyze (order.project workingDirectory rules) = .ok outcome ∧
      (respond workingDirectory database request).1.reply = .drawing order.title? outcome := by
  rcases respond_generate_cases hasks workingDirectory with
    ⟨order, rules, outcome, hbody, hrules, hanalyze, hresponse⟩ | ⟨-, reply, hfailed, hresponse⟩
  · rw [hresponse, reply_handOut] at hstatus ⊢
    exact ⟨order, rules, outcome, hbody, hrules, hanalyze,
      if_pos (isShowable_of_status hstatus)⟩
  · rw [hresponse] at hstatus
    have hok : reply.status = 200 := hstatus
    rw [hok] at hfailed
    exact absurd hfailed (by decide)

/-- **The word of the service** about a model is that of strict validation. -/
theorem verdict_eq_success_iff (m : Model) :
    Reply.verdict (validate m) = "success" ↔ (validate m true).isValid = true := by
  have hcounts : (validate m true).isValid = true ↔
      (validate m).warningCount = 0 ∧ (validate m).errorCount = 0 :=
    isValid_validate_strict_iff.trans and_comm
  rw [hcounts, Reply.verdict]
  split
  · next hnone => exact iff_of_true rfl hnone
  · next hsome => exact iff_of_false (by decide) hsome

/-- **There is one notion of failure.** The strict report of a model and the other one have the same
issues and counts and agree whether everything is drawn. The strict one is valid exactly if it
counts neither errors nor warnings, and the other one exactly if it counts no error, so a model that
is strictly valid is valid. A check, strict or not, fails exactly if the report of this strictness
is not valid, and otherwise gives this report; its failures are the errors and, if it is strict, the
warnings of the report, in order; there are some, and its message tells how many and shows each with
its code. And whatever is asked of the service, a drawing that it hands out is called a success
exactly if the model that was analysed for it is strictly valid. -/
theorem failures_agree :
    (∀ m : Model,
      ((validate m true).issues = (validate m).issues ∧
        (validate m true).stats = (validate m).stats ∧
        (validate m true).isComplete = (validate m).isComplete) ∧
      ((validate m true).isValid = true ↔
        (validate m true).errorCount = 0 ∧ (validate m true).warningCount = 0) ∧
      ((validate m).isValid = true ↔ (validate m).errorCount = 0) ∧
      ((validate m true).isValid = true → (validate m).isValid = true) ∧
      ∀ strict,
        ((∃ e, check m strict = .error e) ↔ (validate m strict).isValid = false) ∧
        (∀ report, check m strict = .ok report → report = validate m strict) ∧
        ∀ e, check m strict = .error e →
          e.failures = (validate m strict).issues.filter (fun issue =>
            issue.severity == .error || strict && issue.severity == .warning) ∧
          e.failures ≠ [] ∧
          e.message = "Diagram validation failed with " ++ toString e.failures.length ++
            " issues:\n" ++ String.intercalate "\n" (e.failures.map fun issue =>
              "[" ++ issue.code ++ "] " ++ issue.message)) ∧
    ∀ (workingDirectory : Path.Directory) (database : Database) (request : Request),
      request.asks .generate = true →
      (respond workingDirectory database request).1.reply.status = 200 →
      ∃ order rules outcome json verdict,
        Order.ofBody request.body = .ok order ∧ order.rules = .ok rules ∧
        analyze (order.project workingDirectory rules) = .ok outcome ∧
        (respond workingDirectory database request).1.reply.content = .json json ∧
        json.member? "status" = some (.text verdict) ∧
        (verdict = "success" ↔ (validate outcome.model true).isValid = true) := by
  refine ⟨fun m => ?_, fun workingDirectory database request hasks hstatus => ?_⟩
  · refine ⟨⟨rfl, rfl, rfl⟩, isValid_validate_strict_iff, isValid_validate_iff, fun hvalid =>
      isValid_validate_iff.mpr (isValid_validate_strict_iff.mp hvalid).1,
      fun strict => ⟨check_fails_iff, fun report hok => (check_eq_ok_iff.mp hok).2,
        fun e herror => ?_⟩⟩
    obtain ⟨hinvalid, rfl⟩ := check_eq_error_iff.mp herror
    refine ⟨Report.failures_eq_filter, fun hnone => ?_, rfl⟩
    rw [Report.failures_eq_nil_iff, hinvalid] at hnone
    exact Bool.noConfusion hnone
  · obtain ⟨order, rules, outcome, hbody, hrules, hanalyze, hreply⟩ :=
      exists_drawing_of_ok hasks hstatus
    refine ⟨order, rules, outcome, _, _, hbody, hrules, hanalyze, congrArg Reply.content hreply,
      rfl, ?_⟩
    rw [Project.report_eq hanalyze]
    exact verdict_eq_success_iff outcome.model

/-- A request for a drawing of one service that nothing is connected with. -/
def lonelyRequest : Request :=
  { blankRequest with
    body := Text.Utf8.encode ("\x7b\"server_files\": [\x7b\"path\": \"desk.ts\", " ++
      "\"content\": \"@Injectable() export class Desk\"\x7d]\x7d").toList }

/-- A check of nothing at all fails over the two actors, and the lonely service is drawn with a
word that tells whether the strict report finds fault. -/
theorem failures_agree_lonely :
    (∃ e, check .empty = .error e ∧ e.failures ≠ [] ∧
      e.message = "Diagram validation failed with 2 issues:\n" ++
        "[MISSING_ACTOR] Synthesized actor 'User' is missing\n" ++
        "[MISSING_ACTOR] Synthesized actor 'Database' is missing") ∧
    (lonelyRequest.asks .generate = true ∧
      (respond [] .unreachable lonelyRequest).1.reply.status = 200) ∧
    ∃ (order : Order) (rules : Rules) (outcome : Outcome) (json : Json) (verdict : String),
      analyze (order.project [] rules) = .ok outcome ∧
      (respond [] .unreachable lonelyRequest).1.reply.content = .json json ∧
      json.member? "status" = some (.text verdict) ∧
      (verdict = "success" ↔ (validate outcome.model true).isValid = true) := by
  have hasks : lonelyRequest.asks .generate = true := by decide +kernel
  have hstatus : (respond [] .unreachable lonelyRequest).1.reply.status = 200 := by decide +kernel
  have hinvalid : (validate .empty).isValid = false := by decide +kernel
  obtain ⟨hmodels, hservice⟩ := failures_agree
  obtain ⟨-, -, -, -, hchecks⟩ := hmodels .empty
  obtain ⟨hfails, -, hfailures⟩ := hchecks false
  obtain ⟨e, herror⟩ := hfails.mpr hinvalid
  obtain ⟨heq, hsome, hmessage⟩ := hfailures e herror
  obtain ⟨order, rules, outcome, json, verdict, -, -, hanalyze, hcontent, hword, hverdict⟩ :=
    hservice [] .unreachable lonelyRequest hasks hstatus
  refine ⟨⟨e, herror, hsome, ?_⟩, ⟨hasks, hstatus⟩, order, rules, outcome, json, verdict,
    hanalyze, hcontent, hword, hverdict⟩
  rw [hmessage, heq]
  decide +kernel

end SystemSketch.Service
