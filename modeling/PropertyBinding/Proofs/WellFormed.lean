import PropertyBinding.Proofs.Shape

namespace PropertyBinding

/-!
# Well-formed graphs

A class numbers its properties in their order, the inherited ones first, and
announces each on the signal of its number.  An object has one cell for each
property of its class.  Both hold of every schema that is defined class by class
and of every graph that is made of its objects, whatever is changed in these
later as long as their cells stay as many.
-/

/-- Whether all properties have their places for indices and for signals. -/
def Schema.Numbered (schema : Schema) : Prop :=
  ∀ info ∈ schema.classes, ∀ place (property : Property), info.properties[place]? = some property →
    property.index = place ∧ property.signal = place

namespace Schema.Numbered

variable {schema : Schema}

theorem empty : Schema.empty.Numbered :=
  fun _ member => by cases member

theorem defineEnum (numbered : schema.Numbered) (name : String) (keys : List (String × Int32)) :
    (schema.defineEnum name keys).Numbered :=
  numbered

theorem defineRecord (numbered : schema.Numbered) (name : String) (fields : List String) :
    (schema.defineRecord name fields).Numbered :=
  numbered

/-- The properties of a new class come after those of its parent. -/
theorem defineClass (numbered : schema.Numbered) (name : String) (parent? : Option ClassId)
    (specs : List PropertySpec) : (schema.defineClass name parent? specs).Numbered := by
  intro info member place property found
  rcases List.mem_append.mp member with old | new
  · exact numbered info old place property found
  · rw [List.mem_singleton] at new
    subst new
    by_cases inherits : place <
        (((parent?.bind (schema.classes[·]?)).map (·.properties)).getD []).length
    · rw [List.getElem?_append_left inherits] at found
      cases parent : parent?.bind (schema.classes[·]?) with
      | none => simp [parent] at inherits
      | some former =>
          rw [parent] at found
          rcases Option.bind_eq_some_iff.mp parent with ⟨id, _, known⟩
          exact numbered former (List.mem_of_getElem? known) place property found
    · have reached := Nat.le_of_not_lt inherits
      rw [List.getElem?_append_right reached, List.getElem?_map] at found
      rcases Option.map_eq_some_iff.mp found with ⟨⟨spec, own⟩, listed, rfl⟩
      rw [List.getElem?_zipIdx] at listed
      rcases Option.map_eq_some_iff.mp listed with ⟨_, _, same⟩
      have position := (Prod.mk.inj same).2
      constructor <;> simp only [propertyAt] <;> omega

end Schema.Numbered

/-- Whether an object has one cell for each property of its class. -/
def Object.Filled (schema : Schema) (object : Object) : Prop :=
  ∀ info : ClassInfo, schema.classes[object.classId]? = some info →
    object.cells.length = info.properties.length

/-- Whether the schema of a graph numbers its properties and all objects have their cells. -/
structure ObjectGraph.WellFormed (graph : ObjectGraph) : Prop where
  numbered : graph.schema.Numbered
  filled : ∀ slot ∈ graph.slots, ∀ object, slot.object? = some object → object.Filled graph.schema

namespace ObjectGraph.WellFormed

variable {graph : ObjectGraph}

theorem empty {schema : Schema} (numbered : schema.Numbered) :
    (ObjectGraph.empty schema).WellFormed :=
  ⟨numbered, fun _ member => by cases member⟩

theorem object (formed : graph.WellFormed) {id : ObjectId} {object : Object}
    (found : graph.object? id = some object) : object.Filled graph.schema := by
  unfold object? at found
  split at found
  · next slot located =>
    split at found
    · exact formed.filled slot (List.mem_of_getElem? located) object found
    · cases found
  · cases found

/-- One slot may get another object, if that has its cells. -/
theorem setSlot (formed : graph.WellFormed) (place : Nat) (slot : Slot) (free : List Nat)
    (filled : ∀ object, slot.object? = some object → object.Filled graph.schema) :
    WellFormed { graph with slots := graph.slots.set place slot, free := free } := by
  refine ⟨formed.numbered, fun other member object found => ?_⟩
  rcases List.mem_or_eq_of_mem_set member with old | rfl
  · exact formed.filled other old object found
  · exact filled object found

theorem freshObject (graph : ObjectGraph) (classId : ClassId) (name? : Option String) :
    (graph.freshObject classId name?).Filled graph.schema := by
  intro info found
  simp only [ObjectGraph.freshObject] at found ⊢
  rw [found]
  simp

theorem create (formed : graph.WellFormed) (classId : ClassId) (name? : Option String) :
    (graph.create classId name?).2.WellFormed := by
  have fresh : ∀ (slot : Slot), slot.object? = some (graph.freshObject classId name?) →
      ∀ object, slot.object? = some object → object.Filled graph.schema := by
    intro slot held object found
    rw [held] at found
    cases found
    exact freshObject graph classId name?
  unfold ObjectGraph.create
  dsimp only
  split
  · exact formed.setSlot _ _ _ (fresh _ rfl)
  · refine ⟨formed.numbered, fun slot member object found => ?_⟩
    rcases List.mem_append.mp member with old | new
    · exact formed.filled slot old object found
    · rw [List.mem_singleton] at new
      subst new
      exact fresh _ rfl object found

theorem remove {id : ObjectId} {object : Object} {after : ObjectGraph} (formed : graph.WellFormed)
    (removed : graph.remove? id = some (object, after)) : after.WellFormed := by
  rcases Option.map_eq_some_iff.mp removed with ⟨_, _, same⟩
  cases same
  exact formed.setSlot _ _ _ fun _ found => by cases found

/-- An object may change, if it stays of its class and its cells stay as many. -/
theorem update (formed : graph.WellFormed) (id : ObjectId) {change : Object → Object}
    (classId : ∀ object, (change object).classId = object.classId)
    (cells : ∀ object, (change object).cells.length = object.cells.length) :
    (graph.update id change).WellFormed := by
  unfold ObjectGraph.update
  split
  · next object found =>
    refine formed.setSlot _ _ _ fun changed held info known => ?_
    cases held
    rw [cells]
    rw [classId] at known
    exact formed.object found info known
  · exact formed

theorem setCell (formed : graph.WellFormed) (ref : PropertyRef) (cell : Cell) :
    (graph.setCell ref cell).WellFormed :=
  formed.update _ (fun _ => rfl) fun object => by simp [Object.setCell]

/-- A property is one of the class of its object. -/
theorem class_of_property {ref : PropertyRef} {property : Property}
    (described : graph.property ref = .ok property) :
    ∃ object info, graph.object? ref.object = some object ∧
      graph.schema.classes[object.classId]? = some info ∧
        info.properties[ref.index]? = some property := by
  simp only [ObjectGraph.property, classInfo, classOf?, bind, Except.bind] at described
  cases found : graph.object? ref.object with
  | none => simp [found] at described
  | some object =>
      cases known : graph.schema.classes[object.classId]? with
      | none => simp [found, known] at described
      | some info =>
          cases listed : info.properties[ref.index]? with
          | none => simp [found, known, listed] at described
          | some other =>
              simp only [found, known, listed, Option.map_some, Option.bind_some,
                Except.ok.injEq] at described
              exact ⟨object, info, rfl, known, described ▸ listed⟩

/-- A property is announced on the signal of its index. -/
theorem signal_eq (formed : graph.WellFormed) {ref : PropertyRef} {property : Property}
    (described : graph.property ref = .ok property) : property.signal = ref.index := by
  rcases class_of_property described with ⟨_, info, _, known, listed⟩
  exact (formed.numbered info (List.mem_of_getElem? known) _ property listed).2

/-- A property has a cell. -/
theorem exists_cell (formed : graph.WellFormed) {ref : PropertyRef} {property : Property}
    (described : graph.property ref = .ok property) : ∃ cell, graph.cell? ref = some cell := by
  rcases class_of_property described with ⟨object, info, found, known, listed⟩
  have inRange : ref.index < object.cells.length := by
    rw [formed.object found info known]
    exact (List.getElem?_eq_some_iff.mp listed).1
  exact ⟨object.cells[ref.index], by simp [cell?, found, inRange]⟩

end ObjectGraph.WellFormed

end PropertyBinding
