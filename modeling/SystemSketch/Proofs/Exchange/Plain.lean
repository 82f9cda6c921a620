import SystemSketch.Exchange.Object

/-!
# What is handed out is plain

One pass is enough to hand out a datum: however members of families, tuples, bytes and objects are
nested in it, what comes out consists of primitives, lists and dictionaries, and handing it out
again changes nothing. Data of that kind are left as they are, and no others are.

## Main definitions

* `Datum.IsPlain` — primitives, lists and dictionaries all the way down.
* `Datum.handedOut` — a datum as it is handed out, taken for a datum again.

## Main results

* `Json.induction` — what holds of a list or an object if it holds of what is in it.
* `Datum.toJson_ofJson` — JSON that is taken for a datum is handed out as it is.
* `Datum.isPlain_ofJson`, `Datum.IsPlain.handedOut_eq_self` — JSON is plain, and plain data stay as
  they are.
* `Datum.handedOut_exact` — what becomes of every datum.
-/

namespace SystemSketch

/-! ### JSON values in JSON values -/

/-- **Induction over JSON values**: what is shown of a list or an object may be assumed of the
values in it. -/
@[elab_as_elim]
theorem Json.induction {motive : Json → Prop} (null : motive .null)
    (bool : ∀ value, motive (.bool value)) (int : ∀ value, motive (.int value))
    (real : ∀ written, motive (.real written)) (text : ∀ value, motive (.text value))
    (list : ∀ items, (∀ item ∈ items, motive item) → motive (.list items))
    (object : ∀ members, (∀ member ∈ members, motive member.2) → motive (.object members))
    (j : Json) : motive j := by
  -- over lists, pairs and lists of pairs, the recursor is told that all values in them are done
  refine @Json.rec motive (fun items => ∀ item ∈ items, motive item)
    (fun members => ∀ member ∈ members, motive member.2) (fun member => motive member.2)
    null bool int real text list object ?_ ?_ ?_ ?_ ?_ j
  · exact fun _ h => absurd h List.not_mem_nil
  · exact fun _ _ hfirst hitems => List.forall_mem_cons.mpr ⟨hfirst, hitems⟩
  · exact fun _ h => absurd h List.not_mem_nil
  · exact fun _ _ hfirst hmembers => List.forall_mem_cons.mpr ⟨hfirst, hmembers⟩
  · exact fun _ _ hvalue => hvalue

namespace Datum

/-! ### Handing out, constructor by constructor -/

theorem itemsToJson_eq_map (items : List Datum) : itemsToJson items = items.map toJson := by
  induction items with
  | nil => rfl
  | cons item items ih => rw [itemsToJson, ih, List.map_cons]

theorem entriesToJson_eq_map (entries : List (String × Datum)) :
    entriesToJson entries = entries.map fun entry => (entry.1, entry.2.toJson) := by
  induction entries with
  | nil => rfl
  | cons entry entries ih => rw [entriesToJson, ih, List.map_cons]

/-- The attributes that are handed out are the ones that are not inner, in their order. -/
theorem attributesToJson_eq_map (attributes : List (String × Datum)) :
    attributesToJson attributes =
      (attributes.filter fun entry => !isInner entry.1).map fun entry =>
        (entry.1, entry.2.toJson) := by
  induction attributes with
  | nil => rfl
  | cons entry attributes ih =>
    by_cases hinner : isInner entry.1 = true
    · rw [attributesToJson, if_pos hinner, ih, List.filter_cons_of_neg (by simp [hinner])]
    · rw [attributesToJson, if_neg hinner, ih, List.filter_cons_of_pos (by simp [hinner]),
        List.map_cons]

theorem ofJsonItems_eq_map (items : List Json) : ofJsonItems items = items.map ofJson := by
  induction items with
  | nil => rfl
  | cons item items ih => rw [ofJsonItems, ih, List.map_cons]

theorem ofJsonMembers_eq_map (members : List (String × Json)) :
    ofJsonMembers members = members.map fun member => (member.1, ofJson member.2) := by
  induction members with
  | nil => rfl
  | cons member members ih => rw [ofJsonMembers, ih, List.map_cons]

/-- An inner name begins with an underscore. -/
theorem isInner_iff {name : String} : isInner name = true ↔ ∃ rest, name = "_" ++ rest := by
  rw [isInner, beq_iff_eq, List.head?_eq_some_iff]
  constructor
  · rintro ⟨rest, hrest⟩
    exact ⟨String.ofList rest, String.toList_inj.mp (by simp [hrest])⟩
  · rintro ⟨rest, rfl⟩
    exact ⟨rest.toList, String.toList_append⟩

/-! ### Handing out twice -/

/-- A datum as it is handed out, taken for a datum again. -/
def handedOut (d : Datum) : Datum :=
  ofJson d.toJson

theorem handedOut_list (items : List Datum) :
    (list items).handedOut = list (items.map handedOut) := by
  rw [handedOut, toJson, itemsToJson_eq_map, ofJson, ofJsonItems_eq_map, List.map_map]
  rfl

theorem handedOut_tuple (items : List Datum) :
    (tuple items).handedOut = list (items.map handedOut) := by
  rw [handedOut, toJson, itemsToJson_eq_map, ofJson, ofJsonItems_eq_map, List.map_map]
  rfl

theorem handedOut_dict (entries : List (String × Datum)) :
    (dict entries).handedOut = dict (entries.map fun entry => (entry.1, entry.2.handedOut)) := by
  rw [handedOut, toJson, entriesToJson_eq_map, ofJson, ofJsonMembers_eq_map, List.map_map]
  rfl

/-- **An object** is handed out as a dictionary of those of its attributes that are not inner. -/
theorem handedOut_object (attributes : List (String × Datum)) :
    (object attributes).handedOut =
      dict ((attributes.filter fun entry => !isInner entry.1).map fun entry =>
        (entry.1, entry.2.handedOut)) := by
  rw [handedOut, toJson, attributesToJson_eq_map, ofJson, ofJsonMembers_eq_map, List.map_map]
  rfl

/-- **JSON that is taken for a datum** is handed out as it is. -/
theorem toJson_ofJson (j : Json) : (ofJson j).toJson = j := by
  induction j using Json.induction with
  | list items ih =>
    rw [ofJson, toJson, itemsToJson_eq_map, ofJsonItems_eq_map, List.map_map]
    exact congrArg Json.list ((List.map_congr_left ih).trans (List.map_id _))
  | object members ih =>
    rw [ofJson, toJson, entriesToJson_eq_map, ofJsonMembers_eq_map, List.map_map]
    refine congrArg Json.object
      ((List.map_congr_left fun member hmember => ?_).trans (List.map_id _))
    exact Prod.ext rfl (ih member hmember)
  | _ => rfl

/-! ### Plain data -/

/-- A datum is **plain** if it is a primitive, or a list or a dictionary of plain data. -/
inductive IsPlain : Datum → Prop
  | null : IsPlain null
  | bool (value : Bool) : IsPlain (bool value)
  | int (value : Int) : IsPlain (int value)
  | real (written : String) : IsPlain (real written)
  | text (value : String) : IsPlain (text value)
  | list {items : List Datum} (h : ∀ item ∈ items, IsPlain item) : IsPlain (list items)
  | dict {entries : List (String × Datum)} (h : ∀ entry ∈ entries, IsPlain entry.2) :
      IsPlain (dict entries)

/-- **JSON is plain.** -/
theorem isPlain_ofJson (j : Json) : (ofJson j).IsPlain := by
  induction j using Json.induction with
  | null => exact .null
  | bool value => exact .bool value
  | int value => exact .int value
  | real written => exact .real written
  | text value => exact .text value
  | list items ih =>
    rw [ofJson, ofJsonItems_eq_map]
    refine .list fun d hd => ?_
    obtain ⟨item, hitem, rfl⟩ := List.mem_map.mp hd
    exact ih item hitem
  | object members ih =>
    rw [ofJson, ofJsonMembers_eq_map]
    refine .dict fun entry hentry => ?_
    obtain ⟨member, hmember, rfl⟩ := List.mem_map.mp hentry
    exact ih member hmember

/-- **Plain data stay as they are.** -/
theorem IsPlain.handedOut_eq_self {d : Datum} (h : d.IsPlain) : d.handedOut = d := by
  induction h with
  | list _ ih =>
    rw [handedOut_list]
    exact congrArg Datum.list ((List.map_congr_left ih).trans (List.map_id _))
  | dict _ ih =>
    rw [handedOut_dict]
    refine congrArg Datum.dict ((List.map_congr_left fun entry hentry => ?_).trans (List.map_id _))
    exact Prod.ext rfl (ih entry hentry)
  | _ => rfl

/-- **One pass reaches JSON and stops there.** Whatever is nested in a datum, it is handed out as
plain data, handing these out again changes nothing, and only plain data are handed out as they are.
Lists and tuples become lists of the same length and order, and dictionaries keep all their keys in
order. An object becomes the dictionary of its attributes in their order, except for those whose
names begin with an underscore. Members of families become their names, and bytes become text. -/
theorem handedOut_exact :
    (∀ d : Datum, d.handedOut.IsPlain ∧ d.handedOut.handedOut = d.handedOut ∧
      (d.handedOut = d ↔ d.IsPlain)) ∧
    (∀ items, (list items).handedOut = list (items.map handedOut) ∧
      (tuple items).handedOut = list (items.map handedOut)) ∧
    (∀ entries, (dict entries).handedOut =
      dict (entries.map fun entry => (entry.1, entry.2.handedOut))) ∧
    (∀ attributes, (object attributes).handedOut =
      dict ((attributes.filter fun entry => !isInner entry.1).map fun entry =>
        (entry.1, entry.2.handedOut))) ∧
    (∀ name, isInner name = true ↔ ∃ rest, name = "_" ++ rest) ∧
    (∀ member, (kind member).handedOut = text member.name) ∧
    (∀ member, (cluster member).handedOut = text member.name) ∧
    (∀ member, (severity member).handedOut = text member.name) ∧
    ∀ values, (bytes values).handedOut = text (Text.quoteBytes values) := by
  refine ⟨fun d => ⟨isPlain_ofJson _, ?_, fun h => h ▸ isPlain_ofJson _, fun h => ?_⟩,
    fun items => ⟨handedOut_list items, handedOut_tuple items⟩, handedOut_dict, handedOut_object,
    fun _ => isInner_iff, fun _ => rfl, fun _ => rfl, fun _ => rfl, fun _ => rfl⟩
  · exact congrArg ofJson (toJson_ofJson d.toJson)
  · exact h.handedOut_eq_self

/-- Node ids keep everything to themselves, and a dictionary nothing. -/
example (ids : Diagram.NodeIds) :
    (tuple [ofNodeIds ids, dict [("_kept", kind .user)]]).handedOut =
      list [dict [], dict [("_kept", text "User")]] := by
  rfl

end Datum

end SystemSketch
