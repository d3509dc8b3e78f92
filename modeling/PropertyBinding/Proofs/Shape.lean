import PropertyBinding.Engine.World

namespace PropertyBinding

/-!
# The shape of an object graph

What an evaluation may look at without telling the collector is the shape of
the graph: its schema, which objects live and of which class they are, and
where the aliases point.  Two graphs of one shape answer every question about
classes, properties and alias chains alike, and storing a value in a property
that is no alias leaves the shape as it is.
-/

namespace ObjectGraph

/-- Two graphs with the same objects, classes and alias pointers; the stored values do not count. -/
structure SameShape (left right : ObjectGraph) : Prop where
  schema : left.schema = right.schema
  classOf : ∀ id, left.classOf? id = right.classOf? id
  targets : ∀ ref property, left.property ref = .ok property → property.isAlias →
    (left.cell? ref).bind Cell.target? = (right.cell? ref).bind Cell.target?

/-! ## Changes of one object -/

theorem object?_update (graph : ObjectGraph) (id other : ObjectId) (change : Object → Object) :
    (graph.update id change).object? other =
      if id = other then (graph.object? id).map change else graph.object? other := by
  cases found : graph.object? id with
  | none =>
      by_cases same : id = other
      · subst same
        simp [update, found]
      · simp [update, found, same]
  | some object =>
      have occupied :
          ∃ slot, graph.slots[id.index]? = some slot ∧ slot.generation = id.generation := by
        unfold object? at found
        split at found
        · next slot located =>
          by_cases matching : slot.generation = id.generation
          · exact ⟨slot, located, matching⟩
          · simp [matching] at found
        · cases found
      rcases occupied with ⟨slot, located, generation⟩
      have inRange : id.index < graph.slots.length := (List.getElem?_eq_some_iff.mp located).1
      have changed : graph.update id change = { graph with
          slots := graph.slots.set id.index ⟨id.generation, some (change object)⟩ } := by
        unfold update
        rw [found]
      rw [changed]
      simp only [object?, Option.map_some]
      by_cases sameIndex : id.index = other.index
      · rw [← sameIndex, List.getElem?_set_self inRange, located]
        by_cases sameGeneration : id.generation = other.generation
        · have same : id = other := by
            cases id
            cases other
            simp_all
          simp [same]
        · have different : id ≠ other := fun same => sameGeneration (by rw [same])
          simp [different, generation, sameGeneration]
      · have different : id ≠ other := fun same => sameIndex (by rw [same])
        rw [List.getElem?_set_ne sameIndex]
        simp [different]

@[simp] theorem schema_update (graph : ObjectGraph) (id : ObjectId) (change : Object → Object) :
    (graph.update id change).schema = graph.schema := by
  unfold update
  split <;> rfl

@[simp] theorem schema_setCell (graph : ObjectGraph) (ref : PropertyRef) (cell : Cell) :
    (graph.setCell ref cell).schema = graph.schema :=
  graph.schema_update _ _

/-- A change that keeps the class of an object keeps all classes. -/
theorem classOf?_update (graph : ObjectGraph) (id other : ObjectId) {change : Object → Object}
    (keeps : ∀ object, (change object).classId = object.classId) :
    (graph.update id change).classOf? other = graph.classOf? other := by
  unfold classOf?
  rw [object?_update]
  split
  · next same =>
    subst same
    simp [Option.map_map, Function.comp_def, keeps]
  · rfl

@[simp] theorem classOf?_setCell (graph : ObjectGraph) (ref : PropertyRef) (cell : Cell)
    (id : ObjectId) : (graph.setCell ref cell).classOf? id = graph.classOf? id :=
  graph.classOf?_update _ _ fun _ => rfl

/-- A change that keeps the cells of an object keeps all cells. -/
theorem cell?_update (graph : ObjectGraph) (id : ObjectId) (ref : PropertyRef)
    {change : Object → Object} (keeps : ∀ object, (change object).cells = object.cells) :
    (graph.update id change).cell? ref = graph.cell? ref := by
  unfold cell?
  rw [object?_update]
  split
  · next same =>
    subst same
    cases graph.object? ref.object <;> simp [keeps]
  · rfl

/-- A stored cell is found in its place, if there is such a place, and the others are as before. -/
theorem cell?_setCell (graph : ObjectGraph) (ref other : PropertyRef) (cell : Cell) :
    (graph.setCell ref cell).cell? other =
      if ref = other then (graph.cell? ref).map fun _ => cell else graph.cell? other := by
  unfold cell? setCell
  rw [object?_update]
  by_cases sameObject : ref.object = other.object
  · rw [if_pos sameObject, ← sameObject]
    cases graph.object? ref.object with
    | none =>
        simp
    | some object =>
        by_cases same : ref = other
        · subst same
          simp only [Option.map_some, Option.bind_some, Object.setCell, if_true]
          rw [List.getElem?_set]
          by_cases inRange : ref.index < object.cells.length
          · simp [inRange]
          · simp [inRange]
        · have different : ref.index ≠ other.index := by
            intro sameIndex
            apply same
            cases ref
            cases other
            simp_all
          simp [Object.setCell, same, List.getElem?_set_ne different]
  · have different : ref ≠ other := fun same => sameObject (by rw [same])
    simp [sameObject, different]

theorem cell?_setCell_ne (graph : ObjectGraph) {ref other : PropertyRef} (different : ref ≠ other)
    (cell : Cell) : (graph.setCell ref cell).cell? other = graph.cell? other := by
  rw [cell?_setCell, if_neg different]

/-- The first object of a graph has no interceptors and no writers. -/
theorem bare_of_create_empty {schema : Schema} {classId : ClassId} {name? : Option String}
    {id : ObjectId} {object : Object}
    (found : ((ObjectGraph.empty schema).create classId name?).2.object? id = some object) :
    object.interceptors = .empty ∧ object.writers = .empty := by
  rcases id with ⟨place, generation⟩
  cases place with
  | zero =>
      simp only [object?, create, empty] at found
      split at found
      · next slot located =>
        cases located
        split at found
        · cases found
          exact ⟨rfl, rfl⟩
        · cases found
      · cases found
  | succ place => cases found

/-! ## Life and properties -/

theorem isAlive_eq (graph : ObjectGraph) (id : ObjectId) :
    graph.isAlive id = (graph.classOf? id).isSome := by
  simp [isAlive, classOf?]

/-- The object of a property lives. -/
theorem isAlive_of_property {graph : ObjectGraph} {ref : PropertyRef} {property : Property}
    (found : graph.property ref = .ok property) : graph.isAlive ref.object := by
  cases living : graph.classOf? ref.object with
  | none =>
      simp [ObjectGraph.property, classInfo, living, bind, Except.bind] at found
  | some classId => simp [isAlive_eq, living]

/-- A property that is the end of an alias chain is no alias. -/
theorem not_alias_of_follow {graph : ObjectGraph} {bound : Nat} {ref stored : PropertyRef}
    (found : graph.follow bound ref = .ok (some stored)) :
    ∃ property, graph.property stored = .ok property ∧ property.isAlias = false := by
  induction bound generalizing ref with
  | zero => simp [follow] at found
  | succ bound step =>
      simp only [follow, bind, Except.bind] at found
      split at found
      · cases found
      · next property described =>
        split at found
        · split at found
          · split at found
            · exact step found
            · cases found
          · cases found
        · next direct =>
          cases found
          exact ⟨property, described, by simpa using direct⟩

theorem not_alias_of_resolve {graph : ObjectGraph} {ref stored : PropertyRef} {depth : Nat}
    (found : graph.resolve ref depth = .ok stored) :
    ∃ property, graph.property stored = .ok property ∧ property.isAlias = false := by
  simp only [resolve, bind, Except.bind] at found
  split at found
  · cases found
  · next result followed =>
    cases result with
    | some place =>
        cases found
        exact not_alias_of_follow followed
    | none =>
        simp only at found
        split at found <;> cases found

/-- A property that is no alias resolves to itself. -/
theorem resolve_of_direct {graph : ObjectGraph} {ref : PropertyRef} {property : Property}
    (described : graph.property ref = .ok property) (direct : property.isAlias = false)
    (depth : Nat) : graph.resolve ref depth = .ok ref := by
  have followed : graph.follow (depth + 1) ref = .ok (some ref) := by
    unfold ObjectGraph.follow
    rw [described]
    change (if property.isAlias then _ else _) = _
    rw [direct]
    rfl
  unfold ObjectGraph.resolve
  rw [followed]
  rfl

namespace SameShape

variable {left right graph : ObjectGraph}

theorem refl (graph : ObjectGraph) : SameShape graph graph :=
  ⟨rfl, fun _ => rfl, fun _ _ _ _ => rfl⟩

theorem isAlive (shape : SameShape left right) (id : ObjectId) :
    left.isAlive id = right.isAlive id := by
  rw [isAlive_eq, isAlive_eq, shape.classOf id]

theorem classInfo (shape : SameShape left right) (id : ObjectId) :
    left.classInfo id = right.classInfo id := by
  simp only [ObjectGraph.classInfo, shape.classOf id, shape.schema]

theorem property (shape : SameShape left right) (ref : PropertyRef) :
    left.property ref = right.property ref := by
  simp only [ObjectGraph.property, shape.classInfo]

theorem propertyIndex (shape : SameShape left right) (id : ObjectId) (name : String) :
    left.propertyIndex id name = right.propertyIndex id name := by
  simp only [ObjectGraph.propertyIndex, shape.classInfo]

theorem context (shape : SameShape left right) : left.context = right.context := by
  have classes : left.classOf? = right.classOf? := funext shape.classOf
  simp only [ObjectGraph.context, shape.schema, classes]

theorem follow (shape : SameShape left right) (bound : Nat) (ref : PropertyRef) :
    left.follow bound ref = right.follow bound ref := by
  induction bound generalizing ref with
  | zero => rfl
  | succ bound step =>
      simp only [ObjectGraph.follow, ← shape.property ref]
      cases described : left.property ref with
      | error error => rfl
      | ok property =>
          by_cases pointer : property.isAlias
          · simp only [bind, Except.bind, pointer, if_true,
              ← shape.targets ref property described pointer, ← shape.isAlive, step]
          · simp [bind, Except.bind, pointer]

theorem resolve (shape : SameShape left right) (ref : PropertyRef) (depth : Nat) :
    left.resolve ref depth = right.resolve ref depth := by
  simp only [ObjectGraph.resolve, shape.follow, shape.property]

theorem symm (shape : SameShape left right) : SameShape right left :=
  ⟨shape.schema.symm, fun id => (shape.classOf id).symm, fun ref property described pointer =>
    (shape.targets ref property ((shape.property ref).trans described) pointer).symm⟩

theorem trans (first : SameShape left right) (second : SameShape right graph) :
    SameShape left graph :=
  ⟨first.schema.trans second.schema, fun id => (first.classOf id).trans (second.classOf id),
    fun ref property described pointer =>
      (first.targets ref property described pointer).trans
        (second.targets ref property ((first.property ref).symm.trans described) pointer)⟩

/-- A change of an object other than its class and its cells does not show in the shape. -/
theorem update (graph : ObjectGraph) (id : ObjectId) {change : Object → Object}
    (classes : ∀ object, (change object).classId = object.classId)
    (cells : ∀ object, (change object).cells = object.cells) :
    SameShape graph (graph.update id change) :=
  ⟨(graph.schema_update id change).symm, fun other => (graph.classOf?_update id other classes).symm,
    fun ref _ _ _ => by rw [graph.cell?_update id ref cells]⟩

/-- A value stored in a property that is no alias does not show in the shape. -/
theorem setCell {ref : PropertyRef} {property : Property}
    (described : graph.property ref = .ok property) (direct : property.isAlias = false)
    (cell : Cell) : SameShape graph (graph.setCell ref cell) := by
  refine ⟨(graph.schema_setCell ref cell).symm, fun id => (graph.classOf?_setCell ref cell id).symm,
    ?_⟩
  intro other found describedOther pointer
  have different : ref ≠ other := by
    intro same
    subst same
    rw [described] at describedOther
    cases describedOther
    simp [direct] at pointer
  rw [cell?_setCell_ne graph different]

end SameShape

end ObjectGraph

end PropertyBinding
