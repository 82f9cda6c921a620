import SystemSketch.Proofs.Analysis.Dangling

/-!
# Which components replace each other

Identifiers come from three sources that know nothing of each other: a server file is identified by
the name of its class, which is made of word characters; a page by its address, which stands in
brackets whatever the path and the file names of pages are; and the actors by their fixed names.
A name is never a bracketed address. So the collisions of an analysis fall into three parts: those
among the classes, those among the pages, and those of the actors with classes of their names.

## Main definitions

* `Project.Collides` — between which components of a project an identifier can be shared.

## Main results

* `replacementsFrom_of_apart` — a history is not disturbed by components of other identifiers.
* `sublist_of_mem_replacementsFrom` — a collision is between an earlier and a later component.
* `Project.collisions_model` — the collisions of an analysis, in three parts.
* `analyze_collisions` — what collides, what does not, and how often.
-/

namespace SystemSketch

/-! ### Histories that do not meet -/

/-- A search passes over components of other identifiers. -/
theorem latest?_append_of_notMem {before : List Component} {id : String}
    (h : id ∉ before.map Component.id) (as : List Component) :
    latest? (before ++ as) id = latest? as id := by
  rw [latest?_append, latest?_eq_none_iff.mpr h, Option.or_none]

/-- What was entered under other identifiers makes **no difference** to the collisions. -/
theorem replacementsFrom_of_apart {before bs : List Component}
    (h : ∀ b ∈ bs, b.id ∉ before.map Component.id) (as : List Component) :
    replacementsFrom (before ++ as) bs = replacementsFrom as bs := by
  induction bs generalizing as with
  | nil => rfl
  | cons b rest ih =>
    have hrest := ih fun c hc => h c (List.mem_cons_of_mem b hc)
    rw [replacementsFrom, replacementsFrom, collisionWith?, collisionWith?,
      latest?_append_of_notMem (h b List.mem_cons_self), List.append_assoc, hrest]

/-- Components of different identifiers collide with what was there before them only. -/
theorem replacementsFrom_of_nodup {before as : List Component}
    (h : (as.map Component.id).Nodup) :
    replacementsFrom before as = as.filterMap (collisionWith? before) := by
  induction as generalizing before with
  | nil => rfl
  | cons a rest ih =>
    obtain ⟨hnew, hrest⟩ := List.nodup_cons.mp h
    have hskip : rest.filterMap (collisionWith? (before ++ [a])) =
        rest.filterMap (collisionWith? before) := by
      refine List.filterMap_congr fun b hb => ?_
      have hne : b.id ≠ a.id := fun heq => hnew (heq ▸ List.mem_map_of_mem hb)
      rw [collisionWith?, collisionWith?, latest?_concat, if_neg hne]
    rw [replacementsFrom, ih hrest, hskip, List.filterMap_cons]
    cases collisionWith? before a <;> rfl

/-- **A collision** is between an earlier component of a history and a later one, which bear the
same identifier. -/
theorem sublist_of_mem_replacementsFrom {before as : List Component} {c : Collision}
    (h : c ∈ replacementsFrom before as) :
    c.replaced.id = c.replacement.id ∧ [c.replaced, c.replacement].Sublist (before ++ as) := by
  induction as generalizing before with
  | nil => cases h
  | cons a rest ih =>
    rw [replacementsFrom, List.mem_append] at h
    rcases h with hnow | hlater
    · obtain ⟨old, hold, rfl⟩ := Option.map_eq_some_iff.mp (Option.mem_toList.mp hnow)
      have hbefore : [old].Sublist before := List.singleton_sublist.mpr (mem_of_latest? hold)
      exact ⟨id_of_latest? hold,
        hbefore.append (List.singleton_sublist.mpr List.mem_cons_self)⟩
    · rw [List.append_cons]
      exact ih hlater

/-- A collision of a whole history is between two of its components. -/
theorem sublist_of_mem_replacements {history : List Component} {c : Collision}
    (h : c ∈ replacements history) :
    c.replaced.id = c.replacement.id ∧ [c.replaced, c.replacement].Sublist history :=
  sublist_of_mem_replacementsFrom h

/-- Every remark about a model is about a collision. -/
theorem Model.code_of_mem_diagnostics {m : Model} {d : Diagnostic} (h : d ∈ m.diagnostics) :
    d.code = "IDENTIFIER_COLLISION" := by
  obtain ⟨c, -, rfl⟩ := List.mem_map.mp h
  rfl

namespace Project

variable {p : Project} {o : Outcome}

/-! ### What collides -/

/-- **The collisions of an analysis**: among the classes, among the pages, and between the actors
and the classes of their names. -/
theorem collisions_model (h : analyze p = .ok o) :
    o.model.collisions =
      replacements p.declarations ++ replacements (p.pages.map PageFacts.page) ++
        [Model.userActor, Model.databaseActor].filterMap (collisionWith? p.declarations) := by
  have hpages : replacementsFrom p.declarations (p.pages.map PageFacts.page) =
      replacements (p.pages.map PageFacts.page) := by
    have hapart : ∀ page ∈ p.pages.map PageFacts.page,
        page.id ∉ p.declarations.map Component.id := by
      intro page hpage hmem
      obtain ⟨c, hc, heq⟩ := List.mem_map.mp hmem
      refine p.notMem_pages_of_isClassName (isClassName_of_mem_declarations hc) ?_
      rw [heq]
      exact List.mem_map_of_mem hpage
    rw [replacements, ← replacementsFrom_of_apart hapart [], List.append_nil]
  have hactors : replacementsFrom (p.declarations ++ p.pages.map PageFacts.page)
      [Model.userActor, Model.databaseActor] =
      [Model.userActor, Model.databaseActor].filterMap (collisionWith? p.declarations) := by
    rw [replacementsFrom_of_nodup (by decide)]
    refine List.filterMap_congr fun actor hactor => ?_
    have hnone := latest?_eq_none_iff.mpr
      (p.notMem_pages_of_isClassName (isClassName_actor actor hactor))
    rw [collisionWith?, collisionWith?, latest?_append, hnone, Option.none_or]
  rw [(records_model h).collisions_eq, replacements, replacementsFrom_append,
    replacementsFrom_append, List.nil_append, List.nil_append, hpages, hactors, ← replacements]

/-- **Between which components an identifier can be shared:** between two classes, two pages, or a
class that bears the name of an actor and this actor. The component that is replaced comes from an
earlier file than the one in its place, or from a file while the other is an actor. -/
inductive Collides (p : Project) : Collision → Prop
  | classes {old new : Component} (h : [old, new].Sublist p.declarations) : Collides p ⟨old, new⟩
  | pages {old new : PageFacts} (h : [old, new].Sublist p.pages) :
      Collides p ⟨old.page, new.page⟩
  | user {old : Component} (h : old ∈ p.declarations) (hname : old.id = "User") :
      Collides p ⟨old, Model.userActor⟩
  | database {old : Component} (h : old ∈ p.declarations) (hname : old.id = "Database") :
      Collides p ⟨old, Model.databaseActor⟩

/-- Nothing else collides in an analysis. -/
theorem collides_of_mem (h : analyze p = .ok o) {c : Collision} (hc : c ∈ o.model.collisions) :
    c.replaced.id = c.replacement.id ∧ p.Collides c := by
  rw [collisions_model h, List.mem_append, List.mem_append] at hc
  obtain ⟨old, new⟩ := c
  rcases hc with (hclasses | hpages) | hactors
  · obtain ⟨hid, hsublist⟩ := sublist_of_mem_replacements hclasses
    exact ⟨hid, .classes hsublist⟩
  · obtain ⟨hid, hsublist⟩ := sublist_of_mem_replacements hpages
    obtain ⟨facts, hfacts, heq⟩ := List.sublist_map_iff.mp hsublist
    obtain ⟨first, second, rfl⟩ : ∃ first second, facts = [first, second] :=
      List.length_eq_two.mp (by simpa using (congrArg List.length heq).symm)
    obtain ⟨rfl, rfl⟩ : old = first.page ∧ new = second.page := by simpa using heq
    exact ⟨hid, .pages hfacts⟩
  · obtain ⟨actor, hactor, hcollision⟩ := List.mem_filterMap.mp hactors
    obtain ⟨found, hfound, heq⟩ := Option.map_eq_some_iff.mp hcollision
    obtain ⟨rfl, rfl⟩ := Collision.mk.inj heq
    have hid := id_of_latest? hfound
    have hdeclared := mem_of_latest? hfound
    rcases List.mem_pair.mp hactor with rfl | rfl
    · exact ⟨hid, .user hdeclared hid⟩
    · exact ⟨hid, .database hdeclared hid⟩

/-- **A page** replaces pages only, and only a page replaces it. -/
theorem Collides.kind_eq_clientPage_iff {c : Collision} (h : p.Collides c) :
    c.replaced.kind = .clientPage ↔ c.replacement.kind = .clientPage := by
  have hclass : ∀ old ∈ p.declarations, old.kind ≠ .clientPage := by
    intro old hold hkind
    have hmem := kind_of_mem_declarations hold
    rw [hkind] at hmem
    exact absurd hmem (by decide)
  cases h with
  | classes h =>
    exact iff_of_false (hclass _ (h.subset List.mem_cons_self))
      (hclass _ (h.subset (List.mem_cons_of_mem _ List.mem_cons_self)))
  | pages h =>
    exact iff_of_true (isPage_of_mem_pages (h.subset List.mem_cons_self)).1
      (isPage_of_mem_pages (h.subset (List.mem_cons_of_mem _ List.mem_cons_self))).1
  | user h | database h => exact iff_of_false (hclass _ h) fun hactor => Kind.noConfusion hactor

/-! ### How many components there are -/

/-- One class for every server file with a component. -/
theorem length_declarations (p : Project) :
    p.declarations.length = p.serverFiles.countP fun file =>
      (serverFacts p.rules Recognition.markers file).component?.isSome := by
  rw [declarations_eq, List.length_filterMap_eq_countP]

/-- One page for every client file, in an analysis that succeeds. -/
theorem length_pages (h : analyze p = .ok o) : p.pages.length = p.clientFiles.length := by
  have hpaths := p.exists_analyze_iff.mp ⟨o, h⟩
  rw [pages, List.length_filterMap_eq_countP, List.countP_eq_length]
  intro file hfile
  obtain ⟨facts, hfacts⟩ := exists_pageFacts p.clientRoot p.rules (hpaths file hfile)
  rw [hfacts]
  rfl

/-- Every class, every page and both actors are counted once: as a component of the model, or as a
collision. -/
theorem length_collisions_add_size (h : analyze p = .ok o) :
    o.model.collisions.length + o.model.components.size =
      p.declarations.length + p.clientFiles.length + 2 := by
  have hlength := (records_model h).length_eq
  rw [List.length_append, List.length_append, List.length_map, length_pages h] at hlength
  change _ + 2 = _ at hlength
  omega

end Project

/-! ### The collisions of an analysis -/

/-- **Identifiers of different sources do not mix.** Every remark of an analysis about a collision
is about two classes of server files, two pages of client files, or a class with the name of an
actor and this actor, and both bear the same identifier. A page never takes the place of anything
but a page, and nothing but a page takes its place: it is identified like no class and no actor.
There is a remark for every server file with a component, every client file and both actors, less
one for each component that the model has in the end. -/
theorem analyze_collisions {p : Project} {o : Outcome} (h : analyze p = .ok o) :
    (∀ d ∈ o.model.diagnostics, d.code = "IDENTIFIER_COLLISION" →
      ∃ c ∈ o.model.collisions, d = c.diagnostic ∧ c.replaced.id = c.replacement.id ∧
        p.Collides c ∧
        (c.replaced.kind = .clientPage ↔ c.replacement.kind = .clientPage)) ∧
    (∀ facts ∈ p.pages, (∀ c ∈ p.declarations, facts.page.id ≠ c.id) ∧
      facts.page.id ≠ "User" ∧ facts.page.id ≠ "Database") ∧
    (o.model.diagnostics.countP fun d => d.code == "IDENTIFIER_COLLISION") +
        o.model.components.size =
      (p.serverFiles.countP fun file =>
          (serverFacts p.rules Recognition.markers file).component?.isSome) +
        p.clientFiles.length + 2 := by
  refine ⟨fun d hd _ => ?_, fun facts hfacts => ?_, ?_⟩
  · obtain ⟨c, hc, rfl⟩ := List.mem_map.mp hd
    obtain ⟨hid, hcollides⟩ := Project.collides_of_mem h hc
    exact ⟨c, hc, rfl, hid, hcollides, hcollides.kind_eq_clientPage_iff⟩
  · have hpage := (Project.isPage_of_mem_pages hfacts).2
    exact ⟨fun c hc => (Project.isClassName_of_mem_declarations hc).ne hpage,
      (Project.isClassName_actor Model.userActor (by decide)).ne hpage,
      (Project.isClassName_actor Model.databaseActor (by decide)).ne hpage⟩
  · have hall : (o.model.diagnostics.countP fun d => d.code == "IDENTIFIER_COLLISION") =
        o.model.collisions.length := by
      rw [List.countP_eq_length.mpr fun d hd => beq_iff_eq.mpr (Model.code_of_mem_diagnostics hd),
        Model.diagnostics, List.length_map]
    rw [hall, Project.length_collisions_add_size h, Project.length_declarations]

/-- A project with two classes of one name, a class with the name of an actor, and two pages of one
address. -/
def crowd : Project where
  serverFiles :=
    [⟨"server/src/orders.controller.ts", "@Controller('orders')\nexport class Orders {}"⟩,
      ⟨"server/src/user.service.ts", "@Injectable()\nexport class User {}"⟩,
      ⟨"server/src/orders.service.ts", "@Injectable()\nexport class Orders {}"⟩,
      ⟨"server/src/helpers.ts", "export class Helpers {}"⟩]
  clientFiles := [⟨"client/app/page.tsx", ""⟩, ⟨"client/app/./page.tsx", ""⟩]
  clientRoot := ⟨["work", "project"], "client/app"⟩

/-- Of the seven components that are entered in the crowd four are left, so there are three
collisions: of two classes, of two pages, and of a class with an actor. -/
theorem analyze_collisions_crowd :
    ∃ o, analyze crowd = .ok o ∧
      o.model.components.keys = ["Orders", "User", "Page(/)", "Database"] ∧
      o.model.diagnostics.map Diagnostic.objectId = ["Orders", "Page(/)", "User"] ∧
      (o.model.diagnostics.countP fun d => d.code == "IDENTIFIER_COLLISION") + 4 = 3 + 2 + 2 ∧
      ∀ d ∈ o.model.diagnostics, ∃ c ∈ o.model.collisions, d = c.diagnostic ∧
        crowd.Collides c := by
  have hfacts : (analyze crowd).map (fun o => (o.model.components.keys,
      o.model.diagnostics.map Diagnostic.objectId)) =
      .ok (["Orders", "User", "Page(/)", "Database"], ["Orders", "Page(/)", "User"]) := by
    decide +kernel
  have hserver : (crowd.serverFiles.countP fun file =>
      (serverFacts crowd.rules Recognition.markers file).component?.isSome) = 3 := by
    decide +kernel
  obtain ⟨o, h⟩ := crowd.exists_analyze_iff.mpr (by decide)
  rw [h] at hfacts
  simp only [Except.map, Except.ok.injEq, Prod.mk.injEq] at hfacts
  obtain ⟨hkeys, hremarks⟩ := hfacts
  obtain ⟨hall, -, hcount⟩ := analyze_collisions h
  have hsize : o.model.components.size = 4 := by
    rw [Keyed.size, ← List.length_map Component.id, ← Keyed.keys, hkeys]
    rfl
  rw [hsize, hserver] at hcount
  refine ⟨o, h, hkeys, hremarks, hcount, fun d hd => ?_⟩
  obtain ⟨c, hc, heq, -, hcollides, -⟩ := hall d hd (Model.code_of_mem_diagnostics hd)
  exact ⟨c, hc, heq, hcollides⟩

end SystemSketch
