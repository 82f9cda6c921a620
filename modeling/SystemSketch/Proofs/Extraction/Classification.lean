import SystemSketch.Proofs.Extraction.Identifier
import SystemSketch.Proofs.Model.History
import SystemSketch.Proofs.Recognition.Decorator
import SystemSketch.Proofs.Text.Line

/-!
# What a text makes of its class

The built-in markers are asked in a fixed order, and each of them looks at the whole text. The
decorator of a controller therefore decides wherever it stands, its first occurrence gives the
label, and the other two decorators are only asked if there is none. Markers that stand behind the
built-in ones are asked last: they can say nothing about a text that these classify, and of any
other text they can at most enter the exported class.

## Main definitions

* `Recognition.verdict` — the kind and the label that a text gives to its class.
* `Recognition.IsApiPath` — the path of a controller with a route.

## Main results

* `Recognition.verdict_of_decorated`, `Recognition.verdict_of_not_decorated` — the decorator of a
  controller decides, and the other two only without it.
* `Recognition.verdict_eq_controller_iff`, `Recognition.verdict_eq_service_iff`,
  `Recognition.verdict_eq_gateway_iff`, `Recognition.verdict_eq_none_iff` — which texts have which
  verdict.
* `Recognition.classify_append`, `Model.analyzeServer_append` — what further markers add.
* `classification_exact` — the verdict on every text, and the effect of further markers.
-/

namespace SystemSketch

namespace Recognition

open Text

/-! ### The path of a controller -/

/-- **The path of a controller**: the route without the blanks at its ends, and then without the
slashes at its ends, stands under `/api`. -/
def IsApiPath (route : List Char) (path : String) : Prop :=
  ∃ trimmed inner, IsTrimmed isBlank route trimmed ∧ IsTrimmed (· == '/') trimmed inner ∧
    path = if inner = [] then "/api" else "/api/" ++ String.ofList inner

/-- The path that the label of a controller shows is the path of its route. -/
theorem isApiPath_iff {route : List Char} {path : String} :
    IsApiPath route path ↔ path = apiRoute (String.ofList route) := by
  have hroute : apiRoute (String.ofList route) =
      if trimBoth (· == '/') (trimBoth isBlank route) = [] then "/api"
      else "/api/" ++ String.ofList (trimBoth (· == '/') (trimBoth isBlank route)) := by
    simp only [apiRoute, trim, String.toList_ofList, List.isEmpty_iff]
  simp only [IsApiPath, isTrimmed_iff, exists_and_left, exists_eq_left, hroute]

/-! ### The order of the markers -/

/-- **The verdict** of markers on a text: the kind of a class and its label. -/
def verdict (markers : List Marker) (className text : String) : Option (Kind × String) :=
  (classify markers text).map fun (marker, capture) =>
    (marker.kind, marker.label className capture)

/-- A marker that matches decides, and any other one leaves the text to the markers behind it. -/
theorem verdict_cons (marker : Marker) (markers : List Marker) (className text : String) :
    verdict (marker :: markers) className text =
      ((marker.pattern.find? text).map fun capture =>
        (marker.kind, marker.label className capture)).or (verdict markers className text) := by
  rw [verdict, verdict, classify, classify, List.findSome?_cons]
  cases marker.pattern.find? text with
  | some capture => rfl
  | none => rfl

/-- **A decorated text** makes its class a controller. -/
theorem verdict_of_decorated {text : String} (h : Decorated text.toList) (className : String) :
    ∃ label, (controllerMark.find? text).map (controllerLabel className) = some label ∧
      verdict markers className text = some (.controller, label) := by
  obtain ⟨capture, hcapture⟩ := Option.isSome_iff_exists.mp (occursIn_controllerMark_iff.mpr h)
  refine ⟨controllerLabel className capture, by rw [hcapture]; rfl, ?_⟩
  rw [markers, verdict_cons, Marker.controller]
  dsimp only
  rw [hcapture]
  rfl

/-- **A text that is not decorated** makes its class what the other two decorators say. -/
theorem verdict_of_not_decorated {text : String} (h : ¬Decorated text.toList)
    (className : String) :
    verdict markers className text =
      if "@Injectable(".toList <:+: text.toList then some (.service, className)
      else if "@WebSocketGateway(".toList <:+: text.toList then
        some (.gateway, className ++ "<br><small>WebSocket</small>")
      else none := by
  have hcontroller := find?_controllerMark_eq_none h
  have hservice : "@Injectable(".toList <:+: text.toList ↔
      (injectableMark.find? text).isSome = true := Pattern.occursIn_mark_iff.symm
  have hgateway : "@WebSocketGateway(".toList <:+: text.toList ↔
      (gatewayMark.find? text).isSome = true := Pattern.occursIn_mark_iff.symm
  simp only [hservice, hgateway, markers, verdict_cons, Marker.controller, Marker.injectable,
    Marker.gateway, hcontroller]
  cases injectableMark.find? text with
  | some capture => rfl
  | none =>
    cases gatewayMark.find? text with
    | some capture => rfl
    | none => rfl

/-- **A controller** shows the path of the first decorator. -/
theorem verdict_eq_controller_iff {className label text : String} :
    verdict markers className text = some (.controller, label) ↔
      ∃ route path, FirstDecorates route text.toList ∧ IsApiPath route path ∧
        label = className ++ "<br><small>" ++ path ++ "</small>" := by
  have hlabel : (∃ route path, FirstDecorates route text.toList ∧ IsApiPath route path ∧
      label = className ++ "<br><small>" ++ path ++ "</small>") ↔
        (controllerMark.find? text).map (controllerLabel className) = some label := by
    simp only [isApiPath_iff, map_find?_controllerMark_eq_some_iff, exists_and_left,
      exists_eq_left]
  rw [hlabel]
  by_cases h : Decorated text.toList
  · obtain ⟨shown, hshown, hfound⟩ := verdict_of_decorated h className
    rw [hshown, hfound]
    simp
  · rw [find?_controllerMark_eq_none h, verdict_of_not_decorated h]
    split_ifs <;> simp

/-- Only a decorated text makes its class **a controller**. -/
theorem map_fst_verdict_eq_controller_iff {className text : String} :
    (verdict markers className text).map Prod.fst = some .controller ↔ Decorated text.toList := by
  by_cases h : Decorated text.toList
  · obtain ⟨label, -, hfound⟩ := verdict_of_decorated h className
    rw [hfound]
    exact iff_of_true rfl h
  · refine iff_of_false ?_ h
    rw [verdict_of_not_decorated h]
    split_ifs <;> simp

/-- **A service** is not decorated as a controller. -/
theorem verdict_eq_service_iff {className label text : String} :
    verdict markers className text = some (.service, label) ↔
      ¬Decorated text.toList ∧ "@Injectable(".toList <:+: text.toList ∧ label = className := by
  by_cases h : Decorated text.toList
  · obtain ⟨shown, -, hfound⟩ := verdict_of_decorated h className
    simp [hfound, h]
  · -- The word is kept closed: its letters say nothing here.
    rw [verdict_of_not_decorated h]
    split_ifs with hservice <;> simp [-String.reduceToList, h, hservice, eq_comm]

/-- **A gateway** is decorated neither as a controller nor as a service. -/
theorem verdict_eq_gateway_iff {className label text : String} :
    verdict markers className text = some (.gateway, label) ↔
      ¬Decorated text.toList ∧ ¬"@Injectable(".toList <:+: text.toList ∧
        "@WebSocketGateway(".toList <:+: text.toList ∧
        label = className ++ "<br><small>WebSocket</small>" := by
  by_cases h : Decorated text.toList
  · obtain ⟨shown, -, hfound⟩ := verdict_of_decorated h className
    simp [hfound, h]
  · rw [verdict_of_not_decorated h]
    split_ifs with hservice hgateway <;> simp [-String.reduceToList, *, eq_comm]

/-- **Nothing** is what a text without any of the decorators says. -/
theorem verdict_eq_none_iff {className text : String} :
    verdict markers className text = none ↔
      ¬Decorated text.toList ∧ ¬"@Injectable(".toList <:+: text.toList ∧
        ¬"@WebSocketGateway(".toList <:+: text.toList := by
  by_cases h : Decorated text.toList
  · obtain ⟨shown, -, hfound⟩ := verdict_of_decorated h className
    simp [hfound, h]
  · rw [verdict_of_not_decorated h]
    split_ifs with hservice hgateway <;> simp [-String.reduceToList, *]

/-- **Further markers** are asked if the first ones have no answer. -/
theorem classify_append (markers extra : List Marker) (text : String) :
    classify (markers ++ extra) text = (classify markers text).or (classify extra text) :=
  List.findSome?_append

end Recognition

open Recognition

/-! ### Further markers -/

/-- What a server file says with further markers behind the first ones. -/
theorem serverFacts_append (rules : Rules) (markers extra : List Marker) (file : SourceFile) :
    serverFacts rules (markers ++ extra) file =
      { component? := (serverFacts rules markers file).component?.or
          (serverFacts rules extra file).component?
        interactions := (serverFacts rules markers file).interactions } := by
  rw [serverFacts, serverFacts, serverFacts]
  cases exportedName? file.text with
  | none => rfl
  | some className =>
    dsimp only
    rw [serverComponent?, serverComponent?, serverComponent?, classify_append]
    cases classify markers file.text with
    | none => rfl
    | some found => rfl

namespace Model

/-- A component can as well be entered after the interactions of its file. -/
theorem recordServer_eq_upsertAny (m : Model) (facts : ServerFacts) :
    m.recordServer facts =
      (facts.interactions.foldl append m).upsertAny facts.component? := by
  rw [recordServer, foldl_append, foldl_append]
  cases facts.component? with
  | none => rfl
  | some c => rfl

/-- **What further markers add** to the facts of a server file: the exported class, if they classify
it and the first markers do not. -/
theorem analyzeServer_append (rules : Rules) (markers extra : List Marker) (m : Model)
    (file : SourceFile) :
    m.analyzeServer rules (markers ++ extra) file =
      (m.analyzeServer rules markers file).upsertAny
        (if (classify markers file.text).isSome then none
          else (serverFacts rules extra file).component?) := by
  rw [analyzeServer, analyzeServer, serverFacts_append, recordServer_eq_upsertAny,
    recordServer_eq_upsertAny, serverFacts, serverFacts]
  -- Both readings of the file find the same class, or none, before a marker is asked.
  cases exportedName? file.text with
  | none => exact congrArg (upsertAny _) (ite_self _).symm
  | some className =>
    dsimp only
    rw [serverComponent?]
    cases classify markers file.text with
    | none => rfl
    | some found => rfl

end Model

/-- **Classification is exact.** Take any text, and any name for its class. The built-in markers
make the class

* a controller exactly if the text is decorated, and then its label shows the path of the route in
  the first decorator;
* a service exactly if the text is not decorated and holds `@Injectable(`;
* a gateway exactly if neither is the case and the text holds `@WebSocketGateway(`;
* nothing exactly if none of the three stands in the text.

With further markers behind the built-in ones, a file is taken up as before; only if the built-in
markers make nothing of its text, the exported class may be entered on top of that. -/
theorem classification_exact (className : String) (file : SourceFile) (rules : Rules)
    (extra : List Marker) (m : Model) :
    let text := file.text.toList
    let found := verdict markers className file.text
    (found.map Prod.fst = some .controller ↔ Decorated text) ∧
    (∀ label, found = some (.controller, label) ↔ ∃ route path, FirstDecorates route text ∧
      IsApiPath route path ∧ label = className ++ "<br><small>" ++ path ++ "</small>") ∧
    (∀ label, found = some (.service, label) ↔ ¬Decorated text ∧
      "@Injectable(".toList <:+: text ∧ label = className) ∧
    (∀ label, found = some (.gateway, label) ↔ ¬Decorated text ∧
      ¬"@Injectable(".toList <:+: text ∧ "@WebSocketGateway(".toList <:+: text ∧
      label = className ++ "<br><small>WebSocket</small>") ∧
    (found = none ↔ ¬Decorated text ∧ ¬"@Injectable(".toList <:+: text ∧
      ¬"@WebSocketGateway(".toList <:+: text) ∧
    (m.analyzeServer rules (markers ++ extra) file = m.analyzeServer rules markers file ∨
      found = none ∧ ∃ c, (serverFacts rules extra file).component? = some c ∧
        exportedName? file.text = some c.id ∧
        m.analyzeServer rules (markers ++ extra) file =
          (m.analyzeServer rules markers file).upsert c) := by
  intro text found
  refine ⟨map_fst_verdict_eq_controller_iff, fun _ => verdict_eq_controller_iff,
    fun _ => verdict_eq_service_iff, fun _ => verdict_eq_gateway_iff, verdict_eq_none_iff, ?_⟩
  rw [Model.analyzeServer_append]
  cases hfound : classify markers file.text with
  | some answer => exact Or.inl rfl
  | none =>
    cases hextra : (serverFacts rules extra file).component? with
    | none => exact Or.inl rfl
    | some c =>
      obtain ⟨name, hname, marker, -, capture, rfl⟩ := exists_of_component?_serverFacts hextra
      exact Or.inr ⟨congrArg (Option.map _) hfound, _, rfl, hname, rfl⟩

/-- The first decorators are unfinished, hold something else than a route, or hold more than one
argument; the class is a service on top of that, and decorated once more. -/
example :
    verdict markers "Orders" ("// @Controller('a\" )\n@Controller('b', 'c') @Controller(path)\n" ++
      "@Injectable() @Controller(\n  \" /it's/all/ \"\t) @Controller('late')") =
        some (.controller, "Orders<br><small>/api/it's/all</small>") := by decide +kernel

end SystemSketch
