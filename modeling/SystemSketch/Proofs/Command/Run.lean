import SystemSketch.Command.Run
import SystemSketch.Proofs.Analysis.Facts
import SystemSketch.Proofs.Command.Arguments
import SystemSketch.Proofs.Files.Loading
import SystemSketch.Proofs.Validation.Verdict

/-!
# What a run of the command leaves behind

A run that can load everything draws the loaded project and hands out one document, to the output
or to its file. Whether it is strict is only seen in its exit status, and a run that cannot load
something leaves the disk as it is.

## Main definitions

* `Options.Lacks` — whether rules are refused or a tree is missing.
* `Options.Draws` — the project that options name, with its analysis.

## Main results

* `Options.run_cases` — the two ways in which a run ends.
* `Options.exists_run_iff` — when a run ends with an exit status.
* `Options.deliver_eq_ok` — where the document is afterwards.
* `run_delivers` — what a run leaves behind, and what one more flag changes.
-/

namespace SystemSketch

namespace Command

namespace Options

variable {o : Options} {disk : Disk} {p : Project} {outcome : Outcome} {r : Run}

/-- Whether there is nothing to draw: the rules are refused, or one of the trees is missing. -/
def Lacks (o : Options) (disk : Disk) : Prop :=
  (∃ e : RulesError, disk.loadRules o.config? = .error (.rules e) ∧ e.isRefusal = true) ∨
    disk.isDirectory o.serverRoot = false ∨ disk.isDirectory o.clientRoot = false

/-- The project that options name, which has the source files of both trees, and its analysis. -/
structure Draws (o : Options) (disk : Disk) (p : Project) (outcome : Outcome) : Prop where
  rules : disk.loadRules o.config? = .ok p.rules
  serverFiles : disk.loadTree p.rules o.serverRoot = .ok p.serverFiles
  clientFiles : disk.loadTree p.rules o.clientRoot = .ok p.clientFiles
  clientRoot : p.clientRoot = ⟨disk.workingDirectory, o.clientRoot⟩
  resolvePending : p.resolvePending = o.resolvePending
  outcome : analyze p = .ok outcome

/-! ### Loading -/

/-- A project is loaded part by part. -/
theorem load_eq_ok_iff :
    o.load disk = .ok p ↔
      disk.loadRules o.config? = .ok p.rules ∧
        disk.loadTree p.rules o.serverRoot = .ok p.serverFiles ∧
        disk.loadTree p.rules o.clientRoot = .ok p.clientFiles ∧
        p.clientRoot = ⟨disk.workingDirectory, o.clientRoot⟩ ∧
        p.resolvePending = o.resolvePending := by
  simp only [load, bind_eq_ok_iff, pure_eq_ok_iff]
  constructor
  · rintro ⟨rules, hrules, serverFiles, hserver, clientFiles, hclient, rfl⟩
    exact ⟨hrules, hserver, hclient, rfl, rfl⟩
  · obtain ⟨serverFiles, clientFiles, clientRoot, rules, resolvePending⟩ := p
    rintro ⟨hrules, hserver, hclient, rfl, rfl⟩
    exact ⟨rules, hrules, serverFiles, hserver, clientFiles, hclient, rfl⟩

/-- A loaded project is analysed. -/
theorem exists_draws (h : o.load disk = .ok p) : ∃ outcome, o.Draws disk p outcome := by
  obtain ⟨hrules, hserver, hclient, hroot, hresolve⟩ := load_eq_ok_iff.mp h
  obtain ⟨outcome, houtcome⟩ :=
    p.exists_analyze_iff.mpr (Disk.path_ne_empty_of_loadTree hclient)
  exact ⟨outcome, hrules, hserver, hclient, hroot, hresolve, houtcome⟩

theorem Draws.load (h : o.Draws disk p outcome) : o.load disk = .ok p :=
  load_eq_ok_iff.mpr ⟨h.rules, h.serverFiles, h.clientFiles, h.clientRoot, h.resolvePending⟩

/-- What is reported about a project is that something is lacking. -/
theorem lacks_of_load {e : LoadError} (h : o.load disk = .error e)
    (hreported : e.isReported = true) :
    o.Lacks disk := by
  rw [load, bind_eq_error_iff] at h
  rcases h with h | ⟨rules, -, h⟩
  · obtain ⟨refusal, rfl, hrefusal⟩ := Disk.refusal_of_loadRules h hreported
    exact .inl ⟨refusal, h, hrefusal⟩
  rw [bind_eq_error_iff] at h
  rcases h with h | ⟨serverFiles, -, h⟩
  · exact .inr (.inl (Disk.not_isDirectory_of_loadTree h hreported))
  rw [bind_eq_error_iff] at h
  rcases h with h | ⟨clientFiles, -, h⟩
  · exact .inr (.inr (Disk.not_isDirectory_of_loadTree h hreported))
  · exact absurd h pure_ne_error

/-- Where something is lacking, nothing is loaded. -/
theorem Lacks.load_ne_ok (h : o.Lacks disk) : o.load disk ≠ .ok p := by
  intro hload
  obtain ⟨hrules, hserver, hclient, -, -⟩ := load_eq_ok_iff.mp hload
  rcases h with ⟨e, hrefused, -⟩ | hmissing | hmissing
  · simp [hrefused] at hrules
  · simp [Disk.loadTree_of_not_isDirectory p.rules hmissing] at hserver
  · simp [Disk.loadTree_of_not_isDirectory p.rules hmissing] at hclient

/-! ### Running -/

/-- A run that cannot load something that is reported is refused. -/
theorem run_of_reported {e : LoadError} (hload : o.load disk = .error e)
    (hreported : e.isReported = true) : o.run disk = .ok (refuse disk e) := by
  rw [run, hload]
  exact if_pos hreported

/-- A run that draws a project hands out its document. -/
theorem Draws.run (h : o.Draws disk p outcome) :
    o.run disk = ((o.deliver disk outcome).mapError fun e => .load (.file e)).map
      (o.judge outcome) := by
  rw [Options.run, h.load]
  dsimp only
  rw [h.outcome]
  change ((o.deliver disk outcome).mapError _ >>= fun delivered =>
    pure (o.judge outcome delivered)) = _
  cases o.deliver disk outcome <;> rfl

/-- **How a run ends:** it is refused since something is lacking, or it draws a project and hands
out the document. -/
theorem run_cases (h : o.run disk = .ok r) :
    (∃ e, o.load disk = .error e ∧ e.isReported = true ∧ refuse disk e = r) ∨
      ∃ p outcome delivered, o.Draws disk p outcome ∧
        o.deliver disk outcome = .ok delivered ∧ o.judge outcome delivered = r := by
  cases hload : o.load disk with
  | error e =>
    rw [run, hload] at h
    dsimp only at h
    split at h
    · next hreported => exact .inl ⟨e, rfl, hreported, Except.ok.inj h⟩
    · cases h
  | ok p =>
    obtain ⟨outcome, hdraws⟩ := exists_draws hload
    rw [hdraws.run] at h
    cases hdeliver : o.deliver disk outcome with
    | error e =>
      rw [hdeliver] at h
      cases h
    | ok delivered =>
      rw [hdeliver] at h
      exact .inr ⟨p, outcome, delivered, hdraws, hdeliver, Except.ok.inj h⟩

/-- A run that delivers something has no other failure. -/
theorem Draws.run_of_deliver (h : o.Draws disk p outcome) {delivered : Run}
    (hdeliver : o.deliver disk outcome = .ok delivered) :
    o.run disk = .ok (o.judge outcome delivered) := by
  rw [h.run, hdeliver]
  rfl

/-! ### Handing out the document -/

/-- A document that is printed leaves the disk as it is. -/
theorem deliver_of_stdout (h : o.stdout = true) (disk : Disk) (outcome : Outcome) :
    ∃ delivered, o.deliver disk outcome = .ok delivered ∧ delivered.status = 0 ∧
      delivered.output = o.document outcome ∧ delivered.disk = disk := by
  rw [deliver, if_pos h]
  exact ⟨_, rfl, rfl, rfl, rfl⟩

/-- **The document is handed out once:** it is printed and the disk stays as it is, or nothing is
printed and the document is written to its file. -/
theorem deliver_eq_ok (hr : o.deliver disk outcome = .ok r) :
    r.status = 0 ∧ (o.stdout = true → r.output = o.document outcome ∧ r.disk = disk) ∧
      (o.stdout = false → r.output = "" ∧
        Disk.Receives o.outputPath (Text.Utf8.encode (o.document outcome).toList) disk r.disk) := by
  cases hstdout : o.stdout with
  | true =>
    obtain ⟨delivered, hdeliver, hstatus, houtput, hdisk⟩ :=
      deliver_of_stdout hstdout disk outcome
    obtain rfl : delivered = r := Except.ok.inj (hdeliver.symm.trans hr)
    exact ⟨hstatus, fun _ => ⟨houtput, hdisk⟩, fun h => absurd h Bool.noConfusion⟩
  | false =>
    rw [deliver, if_neg (by simp [hstdout]), bind_eq_ok_iff] at hr
    obtain ⟨written, hwrite, hr⟩ := hr
    cases hr
    exact ⟨rfl, fun h => absurd h Bool.noConfusion, fun _ =>
      ⟨rfl, Disk.writeBelow_receives hwrite⟩⟩

/-- A document that is printed is always handed out, and any other one if it can be written. -/
theorem exists_deliver_iff :
    (∃ r, o.deliver disk outcome = .ok r) ↔
      o.stdout = true ∨ ∃ written, disk.writeBelow o.outputPath
        (Text.Utf8.encode (o.document outcome).toList) = .ok written := by
  cases hstdout : o.stdout with
  | true =>
    obtain ⟨delivered, hdeliver, -⟩ := deliver_of_stdout hstdout disk outcome
    exact ⟨fun _ => .inl rfl, fun _ => ⟨delivered, hdeliver⟩⟩
  | false =>
    rw [deliver, if_neg (by simp [hstdout])]
    simp only [bind_eq_ok_iff, Bool.false_eq_true, false_or]
    constructor
    · rintro ⟨r, written, hwrite, -⟩
      exact ⟨written, hwrite⟩
    · rintro ⟨written, hwrite⟩
      exact ⟨_, written, hwrite, rfl⟩

/-- **When a run ends with an exit status:** what cannot be loaded is reported, or everything is
loaded and the document is printed or can be written. -/
theorem exists_run_iff :
    (∃ r, o.run disk = .ok r) ↔
      (∃ e, o.load disk = .error e ∧ e.isReported = true) ∨
        ∃ p outcome, o.Draws disk p outcome ∧
          (o.stdout = true ∨ ∃ written, disk.writeBelow o.outputPath
            (Text.Utf8.encode (o.document outcome).toList) = .ok written) := by
  simp only [← exists_deliver_iff]
  constructor
  · rintro ⟨r, h⟩
    rcases run_cases h with ⟨e, hload, hreported, -⟩ | ⟨p, outcome, delivered, hdraws, hdeliver, -⟩
    · exact .inl ⟨e, hload, hreported⟩
    · exact .inr ⟨p, outcome, hdraws, delivered, hdeliver⟩
  · rintro (⟨e, hload, hreported⟩ | ⟨p, outcome, hdraws, delivered, hdeliver⟩)
    · exact ⟨_, run_of_reported hload hreported⟩
    · exact ⟨_, hdraws.run_of_deliver hdeliver⟩

/-! ### Strict runs -/

/-- Nothing that has been handed out is changed by what a strict run says in the end. -/
theorem judge_keeps (o : Options) (outcome : Outcome) (r : Run) :
    (o.judge outcome r).output = r.output ∧ (o.judge outcome r).disk = r.disk ∧
      (o.judge outcome r).written? = r.written? := by
  rw [judge]
  split
  · exact ⟨rfl, rfl, rfl⟩
  · split <;> exact ⟨rfl, rfl, rfl⟩

/-- The status of a strict run tells whether its check finds fault. -/
theorem status_judge (hstatus : r.status = 0) (hreport : outcome.report =
    Validation.validate outcome.model) :
    (o.judge outcome r).status =
      if o.strict = true ∧ (outcome.report.errorCount ≠ 0 ∨ outcome.report.warningCount ≠ 0)
      then 2 else 0 := by
  have hfault := Validation.exists_check_eq_error_iff outcome.model
  rw [hreport, judge]
  cases o.strict with
  | false => simpa using hstatus
  | true =>
    cases hcheck : Validation.check outcome.model true with
    | ok report =>
      have hnone : ¬∃ e, Validation.check outcome.model true = .error e := by simp [hcheck]
      exact hstatus.trans (if_neg fun h => hnone (hfault.mpr h.2)).symm
    | error e => exact (if_pos ⟨rfl, hfault.mp ⟨e, hcheck⟩⟩).symm

/-- **Whether a run is strict** changes neither the document nor where it goes. -/
theorem run_with_strict (h : o.run disk = .ok r) (strict : Bool) :
    ∃ r', ({ o with strict := strict } : Options).run disk = .ok r' ∧ r'.output = r.output ∧
      r'.disk = r.disk ∧ r'.written? = r.written? := by
  rcases run_cases h with
    ⟨e, hload, hreported, rfl⟩ | ⟨p, outcome, delivered, hdraws, hdeliver, rfl⟩
  · have hload' : ({ o with strict := strict } : Options).load disk = .error e := hload
    exact ⟨_, run_of_reported hload' hreported, rfl, rfl, rfl⟩
  · have hdraws' : ({ o with strict := strict } : Options).Draws disk p outcome :=
      ⟨hdraws.rules, hdraws.serverFiles, hdraws.clientFiles, hdraws.clientRoot,
        hdraws.resolvePending, hdraws.outcome⟩
    obtain ⟨houtput, hdisk, hwritten⟩ := o.judge_keeps outcome delivered
    rw [houtput, hdisk, hwritten]
    exact ⟨_, hdraws'.run_of_deliver hdeliver, judge_keeps _ outcome delivered⟩

/-- **Printing instead of writing** prints the same document, and leaves the disk as it is. -/
theorem Draws.run_printing (h : o.Draws disk p outcome) :
    ∃ r, (o.switch .stdout).run disk = .ok r ∧ r.output = o.document outcome ∧ r.disk = disk := by
  have hdraws : (o.switch .stdout).Draws disk p outcome :=
    ⟨h.rules, h.serverFiles, h.clientFiles, h.clientRoot, h.resolvePending, h.outcome⟩
  have hstdout : (o.switch .stdout).stdout = true := rfl
  obtain ⟨delivered, hdeliver, -, houtput, hdisk⟩ := deliver_of_stdout hstdout disk outcome
  obtain ⟨hjudged, hjudged', -⟩ := (o.switch .stdout).judge_keeps outcome delivered
  exact ⟨_, hdraws.run_of_deliver hdeliver, hjudged.trans houtput, hjudged'.trans hdisk⟩

end Options

/-! ### The command line -/

variable {settings : Settings} {arguments : List String} {disk : Disk} {o : Options} {r : Run}

/-- Accepted arguments are run with the options that they ask for. -/
theorem run_of_read (h : Request.read settings arguments = .ok (.draw o)) (disk : Disk) :
    run settings arguments disk = o.run disk := by
  rw [run, h]

/-- **What a run of the command leaves behind**, if it ends with an exit status at all. Where the
rules are refused or a tree is missing, the status is 1, nothing is printed, and the disk stays as
it is. Otherwise there is one document, with the drawing of the project of both trees: it is printed
and the disk stays as it is, or nothing is printed and the document is in its file, where nothing
else is new but directories above the file. The same document is printed by a run that is also asked
to print it. The status is 2 exactly if the run is strict and its report counts errors or warnings,
and otherwise it is 0. One more `--strict`, or one less, changes neither what is printed nor the
disk. -/
theorem run_delivers (haccepted : Request.read settings arguments = .ok (.draw o))
    (hr : run settings arguments disk = .ok r) :
    (o.Lacks disk → r.status = 1 ∧ r.output = "" ∧ r.disk = disk) ∧
    (¬o.Lacks disk → ∃ p outcome, o.Draws disk p outcome ∧
      let document := Diagram.markdown outcome.diagram (if o.noTitle then none else some o.title)
      (o.stdout = true → r.output = document ∧ r.disk = disk) ∧
      (o.stdout = false → r.output = "" ∧
        Disk.Receives o.outputPath (Text.Utf8.encode document.toList) disk r.disk) ∧
      (∀ printing, AddsFlag settings .stdout arguments printing →
        ∃ r', run settings printing disk = .ok r' ∧ r'.output = document ∧ r'.disk = disk) ∧
      r.status =
        if o.strict = true ∧ (outcome.report.errorCount ≠ 0 ∨ outcome.report.warningCount ≠ 0)
        then 2 else 0) ∧
    ∀ arguments', AddsFlag settings .strict arguments arguments' ∨
        AddsFlag settings .strict arguments' arguments →
      ∃ r', run settings arguments' disk = .ok r' ∧ r'.output = r.output ∧ r'.disk = r.disk ∧
        r'.written? = r.written? := by
  rw [run_of_read haccepted] at hr
  -- the two ways in which the run ends decide the first two parts, the options alone the third
  refine ⟨fun hlacks => ?_, fun hlacks => ?_, fun arguments' hadds => ?_⟩
  · rcases Options.run_cases hr with ⟨e, -, -, rfl⟩ | ⟨p, outcome, delivered, hdraws, -, -⟩
    · exact ⟨rfl, rfl, rfl⟩
    · exact absurd hdraws.load hlacks.load_ne_ok
  · rcases Options.run_cases hr with
      ⟨e, hload, hreported, -⟩ | ⟨p, outcome, delivered, hdraws, hdeliver, rfl⟩
    · exact absurd (Options.lacks_of_load hload hreported) hlacks
    · obtain ⟨hstatus, hprinted, hwritten⟩ := Options.deliver_eq_ok hdeliver
      obtain ⟨houtput, hdisk, -⟩ := o.judge_keeps outcome delivered
      rw [houtput, hdisk]
      refine ⟨p, outcome, hdraws, hprinted, hwritten, fun printing hadds => ?_,
        Options.status_judge hstatus (Project.report_eq hdraws.outcome)⟩
      have hread := hadds.read ⟨by decide, rfl⟩
      rw [haccepted] at hread
      rw [run_of_read hread]
      exact hdraws.run_printing
  · obtain ⟨strict, hread⟩ := exists_read_of_addsFlag_strict haccepted hadds
    rw [run_of_read hread]
    exact Options.run_with_strict hr strict

/-- A disk with a project that has a controller, which nothing uses, and no pages. -/
def stall : Disk where
  tree := .directory [("work", .directory [
    ("server", .directory [("src", .directory [
      ("fruit.controller.ts", .file (Text.Utf8.encode
        "@Controller('fruit')\nexport class FruitController {}".toList))])]),
    ("client", .directory [("app", .directory [])])])]
  workingDirectory := ["work"]

/-- A strict run for the stall has status 2, for the controller is an orphan. It still writes the
document, into a new directory, and it leaves the same disk behind as a run that is not strict. -/
theorem run_delivers_stall :
    let o := { Options.ofSettings {} with output := "docs/map.md", strict := true }
    ∃ r p outcome, run {} ["--output", "docs/map.md", "--strict"] stall = .ok r ∧ r.status = 2 ∧
      o.Draws stall p outcome ∧
      (outcome.report.errorCount ≠ 0 ∨ outcome.report.warningCount ≠ 0) ∧
      Disk.Receives "./docs/map.md" (Text.Utf8.encode (o.document outcome).toList) stall r.disk ∧
      ∃ r', run {} ["--output", "docs/map.md"] stall = .ok r' ∧ r'.disk = r.disk := by
  intro o
  have haccepted : Request.read {} ["--output", "docs/map.md", "--strict"] = .ok (.draw o) := by
    decide +kernel
  have hadds : AddsFlag {} .strict ["--output", "docs/map.md"]
      ["--output", "docs/map.md", "--strict"] :=
    ⟨["--output", "docs/map.md"], "--strict", [], { o with strict := false }, by decide +kernel,
      by decide +kernel, rfl, rfl⟩
  have hpath : o.outputPath = "./docs/map.md" := by decide +kernel
  have htwo : (run {} ["--output", "docs/map.md", "--strict"] stall).toOption.map Run.status =
      some 2 := by
    decide +kernel
  cases hr : run {} ["--output", "docs/map.md", "--strict"] stall with
  | error e => simp [hr, Except.toOption] at htwo
  | ok r =>
    have hstatus : r.status = 2 := by simpa [hr, Except.toOption] using htwo
    obtain ⟨hlacks, hdraws, hflags⟩ := run_delivers haccepted hr
    obtain ⟨p, outcome, hdrawn, -, hwritten, -, hfault⟩ := hdraws fun h => by
      have hone := (hlacks h).1
      omega
    obtain ⟨r', hr', -, hdisk, -⟩ := hflags _ (.inr hadds)
    obtain ⟨-, hreceives⟩ := hwritten rfl
    rw [hpath] at hreceives
    refine ⟨r, p, outcome, rfl, hstatus, hdrawn, ?_, hreceives, r', hr', hdisk⟩
    by_contra hnone
    rw [if_neg fun h => hnone h.2] at hfault
    omega

end Command

end SystemSketch
