import SystemSketch.Proofs.Command.Run
import SystemSketch.Proofs.Rules.StrayKey

/-!
# What becomes of a rule file

A rule file that holds a document gives rules or is refused, and a run whose rules are refused says
so and ends with status 1. There is one exception: stray keys are listed in the refusal, and a key
that is no text cannot be listed. Such a file gives neither rules nor a refusal, and the run breaks
off without a status.

## Main results

* `Disk.loadRules_ok_or_refusal_iff` — when a rule file gives rules or is refused.
* `Options.run_of_not_reported` — a run that gets no rules and cannot say why.
* `ruleFile_exact` — what becomes of a rule file, whatever its document is.
* `numberedRules_break_off` — a rule file with a number for a key is not refused.
-/

namespace SystemSketch

namespace Disk

variable {disk : Disk} {path : String} {bytes : List UInt8} {document : Document} {e : LoadError}

/-- **Stray keys** never lead to rules. -/
theorem loadRules_of_strayKeys (hread : disk.read path = .ok bytes)
    (hdocument : documentOf path bytes = .ok document) (h : Rules.strayKeys document ≠ []) :
    disk.loadRules (some path) =
      .error (.rules (Rules.unknownKeysError path (Rules.strayKeys document))) := by
  rw [loadRules_of_documentOf hread hdocument, Rules.ofOptionalDocument_of_strayKeys path h]
  rfl

/-- A rule file that gives no rules is refused exactly if all keys of its document are texts. -/
theorem isReported_of_loadRules (hread : disk.read path = .ok bytes)
    (hdocument : documentOf path bytes = .ok document)
    (herror : disk.loadRules (some path) = .error e) :
    e.isReported = true ↔ ¬document.HasNamelessKey := by
  rw [loadRules_of_documentOf hread hdocument, mapError_eq_error_iff] at herror
  obtain ⟨cause, hcause, rfl⟩ := herror
  exact Rules.isRefusal_ofOptionalDocument_iff hcause

/-- **When a rule file gives rules or is refused:** exactly if all keys of its document are
texts. -/
theorem loadRules_ok_or_refusal_iff (hread : disk.read path = .ok bytes)
    (hdocument : documentOf path bytes = .ok document) :
    ((∃ rules, disk.loadRules (some path) = .ok rules) ∨
        ∃ e : RulesError, disk.loadRules (some path) = .error (.rules e) ∧ e.isRefusal = true) ↔
      ¬document.HasNamelessKey := by
  constructor
  · rintro (⟨rules, hok⟩ | ⟨e, herror, hrefusal⟩)
    · intro hnameless
      rw [loadRules_of_strayKeys hread hdocument (Rules.strayKeys_ne_nil hnameless)] at hok
      cases hok
    · exact (isReported_of_loadRules hread hdocument herror).mp hrefusal
  · intro hnamed
    cases hload : disk.loadRules (some path) with
    | ok rules => exact .inl ⟨rules, rfl⟩
    | error e =>
      have hreported := (isReported_of_loadRules hread hdocument hload).mpr hnamed
      obtain ⟨refusal, rfl, hrefusal⟩ := refusal_of_loadRules hload hreported
      exact .inr ⟨refusal, rfl, hrefusal⟩

end Disk

namespace Command

variable {disk : Disk} {o : Options} {path : String} {bytes : List UInt8} {document : Document}
  {e : LoadError}

/-- The rules come first: without them nothing is loaded. -/
theorem Options.load_of_loadRules (h : disk.loadRules o.config? = .error e) :
    o.load disk = .error e := by
  rw [Options.load, h]
  rfl

/-- A run that gets no rules for a reason that is not reported breaks off. -/
theorem Options.run_of_not_reported (h : disk.loadRules o.config? = .error e)
    (hreported : e.isReported = false) : o.run disk = .error (.load e) := by
  rw [Options.run, Options.load_of_loadRules h]
  exact if_neg (by simp [hreported])

/-- **What becomes of a rule file** that holds a document. It gives rules or is refused exactly if
all keys of the document are texts. A stray key never leads to rules, whatever its kind; if all keys
are texts, the file is refused with a list of the stray ones. Every run of the command that is given
the file ends accordingly: what is refused is reported, the status is 1, nothing is printed, and the
disk stays as it is. With a key that is no text, the run breaks off. -/
theorem ruleFile_exact (hread : disk.read path = .ok bytes)
    (hdocument : Disk.documentOf path bytes = .ok document) :
    (((∃ rules, disk.loadRules (some path) = .ok rules) ∨
        ∃ e : RulesError, disk.loadRules (some path) = .error (.rules e) ∧ e.isRefusal = true) ↔
      ¬document.HasNamelessKey) ∧
    (∀ key ∈ document.keys, (∀ name ∈ Rules.fieldNames, key ≠ .text name) →
      ∃ e : RulesError, disk.loadRules (some path) = .error (.rules e) ∧
        ∀ names : List String, document.keys = names.map .text →
          ∃ stray : List String,
            stray.Perm (names.filter fun name => !Rules.fieldNames.contains name) ∧
              e = .unknownKeys path stray) ∧
    ∀ settings arguments o, Request.read settings arguments = .ok (.draw o) →
      o.config? = some path →
      (∀ e, disk.loadRules (some path) = .error e → ¬document.HasNamelessKey →
        ∃ r, run settings arguments disk = .ok r ∧ r.status = 1 ∧ r.output = "" ∧ r.disk = disk ∧
          r.log = [Options.openingLine, Options.failureLine e.message]) ∧
      (document.HasNamelessKey →
        ∃ e : RulesError, run settings arguments disk = .error (.load (.rules e)) ∧
          e.isRefusal = false) := by
  refine ⟨Disk.loadRules_ok_or_refusal_iff hread hdocument, fun key hkey hstray => ?_, ?_⟩
  · have hmem : key ∈ Rules.strayKeys document := Rules.mem_strayKeys_iff.mpr ⟨hkey, hstray⟩
    refine ⟨_, Disk.loadRules_of_strayKeys hread hdocument (List.ne_nil_of_mem hmem), ?_⟩
    intro names hnames
    rw [Rules.strayKeys_of_texts hnames]
    exact Rules.unknownKeysError_of_texts path _
  · intro settings arguments o haccepted hconfig
    rw [run_of_read haccepted]
    refine ⟨fun e herror hnamed => ?_, fun hnameless => ?_⟩
    · have hreported := (Disk.isReported_of_loadRules hread hdocument herror).mpr hnamed
      have hload := Options.load_of_loadRules (hconfig ▸ herror)
      exact ⟨_, Options.run_of_reported hload hreported, rfl, rfl, rfl, rfl⟩
    · have herror := Disk.loadRules_of_strayKeys hread hdocument (Rules.strayKeys_ne_nil hnameless)
      have hreported := (Disk.isReported_of_loadRules hread hdocument herror).not.mpr
        (not_not.mpr hnameless)
      rw [Bool.not_eq_true] at hreported
      exact ⟨_, Options.run_of_not_reported (hconfig ▸ herror) hreported, hreported⟩

/-! ### Two rule files -/

/-- A disk that has nothing but a rule file. -/
def ruleDisk (text : String) : Disk where
  tree := .directory [("work", .directory [("rules.yaml", .file (Text.Utf8.encode text.toList))])]
  workingDirectory := ["work"]

/-- The options of a run that is given the rule file and nothing else. -/
def ruleOptions : Options :=
  { Options.ofSettings {} with config? := some "rules.yaml" }

theorem read_ruleDisk (text : String) :
    (ruleDisk text).read "rules.yaml" = .ok (Text.Utf8.encode text.toList) := by
  have hlocate : (ruleDisk text).locate "rules.yaml" = .ok ["work", "rules.yaml"] := rfl
  exact Disk.read_of_locate hlocate rfl

theorem read_ruleOptions :
    Request.read {} ["--config", "rules.yaml"] = .ok (.draw ruleOptions) := by
  decide +kernel

/-- A rule file that misspells a field. -/
def misspeltRules : String := "persistance_service: DrizzleService\n"

/-- A rule file with a number for a key. -/
def numberedRules : String := "1: x\n"

/-- The misspelt field is reported with status 1, and the number makes the run break off. -/
theorem ruleFile_exact_misspelt :
    (∃ r, run {} ["--config", "rules.yaml"] (ruleDisk misspeltRules) = .ok r ∧ r.status = 1 ∧
      r.output = "" ∧ r.disk = ruleDisk misspeltRules ∧
      r.log = [Options.openingLine,
        Options.failureLine "Unknown rule keys in rules.yaml: persistance_service"]) ∧
    ∃ e : RulesError,
      run {} ["--config", "rules.yaml"] (ruleDisk numberedRules) = .error (.load (.rules e)) ∧
        e.isRefusal = false := by
  constructor
  · have hkeys : (Disk.documentOf "rules.yaml" (Text.Utf8.encode misspeltRules.toList)).map
        (fun document => document.keys.mapM Document.asText?) =
          .ok (some ["persistance_service"]) := by
      decide +kernel
    obtain ⟨document, hdocument, hkeys⟩ := map_eq_ok_iff.mp hkeys
    rw [Document.mapM_asText?_eq_some_iff] at hkeys
    have hnamed : ¬document.HasNamelessKey := by
      rw [Document.HasNamelessKey, Document.exists_asText?_eq_none_iff]
      exact fun hne => hne _ hkeys
    obtain ⟨-, hstray, hruns⟩ := ruleFile_exact (read_ruleDisk misspeltRules) hdocument
    obtain ⟨e, herror, hlisted⟩ := hstray (.text "persistance_service")
      (by rw [hkeys]; exact List.mem_singleton_self _) (by simp; decide)
    obtain ⟨stray, hperm, rfl⟩ := hlisted _ hkeys
    obtain rfl : stray = ["persistance_service"] := List.perm_singleton.mp hperm
    exact (hruns _ _ ruleOptions read_ruleOptions rfl).1 _ herror hnamed
  · have hnameless : (Disk.documentOf "rules.yaml" (Text.Utf8.encode numberedRules.toList)).map
        (fun document => decide document.HasNamelessKey) = .ok true := by
      decide +kernel
    obtain ⟨document, hdocument, hnameless⟩ := map_eq_ok_iff.mp hnameless
    obtain ⟨-, -, hruns⟩ := ruleFile_exact (read_ruleDisk numberedRules) hdocument
    exact (hruns _ _ ruleOptions read_ruleOptions rfl).2 (of_decide_eq_true hnameless)

/-- A number is a key that is no field, and rules with such a key are neither given nor refused: the
run breaks off instead of reporting them. -/
theorem numberedRules_break_off :
    (∃ bytes document, (ruleDisk numberedRules).read "rules.yaml" = .ok bytes ∧
      Disk.documentOf "rules.yaml" bytes = .ok document ∧
      ∃ key ∈ document.keys, ∀ name ∈ Rules.fieldNames, key ≠ .text name) ∧
    (¬∃ rules, (ruleDisk numberedRules).loadRules (some "rules.yaml") = .ok rules) ∧
    (¬∃ e : RulesError, (ruleDisk numberedRules).loadRules (some "rules.yaml") =
      .error (.rules e) ∧ e.isRefusal = true) ∧
    ¬∃ r, run {} ["--config", "rules.yaml"] (ruleDisk numberedRules) = .ok r := by
  have herror : (ruleDisk numberedRules).loadRules ruleOptions.config? =
      .error (.rules (.unnameableKey 0 "int")) := by
    decide +kernel
  have hstray : (Disk.documentOf "rules.yaml" (Text.Utf8.encode numberedRules.toList)).map
      (fun document => document.keys.any fun key => !Rules.isKnown key) = .ok true := by
    decide +kernel
  refine ⟨?_, ?_, ?_, ?_⟩
  · obtain ⟨document, hdocument, hstray⟩ := map_eq_ok_iff.mp hstray
    obtain ⟨key, hkey, hunknown⟩ := List.any_eq_true.mp hstray
    have hmem : key ∈ Rules.strayKeys document := List.mem_filter.mpr ⟨hkey, hunknown⟩
    exact ⟨_, document, read_ruleDisk _, hdocument, key, Rules.mem_strayKeys_iff.mp hmem⟩
  · rintro ⟨rules, hok⟩
    cases herror.symm.trans hok
  · rintro ⟨e, hrefused, hrefusal⟩
    cases herror.symm.trans hrefused
    cases hrefusal
  · rintro ⟨r, hr⟩
    rw [run_of_read read_ruleOptions, Options.run_of_not_reported herror rfl] at hr
    cases hr

end Command

end SystemSketch
