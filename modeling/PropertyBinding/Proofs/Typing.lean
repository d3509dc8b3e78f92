import PropertyBinding.Proofs.Generations
import PropertyBinding.Proofs.Keeping
import PropertyBinding.Proofs.WellFormed

namespace PropertyBinding

/-!
# Typed cells

What a cell may hold goes by the property it stands for: a native value of the shape
that the type asks for, a script value in an open slot, a pointer in an alias.  A
pointer is set to a property that there is.  The object it points into may go later, so
what holds of a pointer for good is that it leads to a property, or into a slot that was
freed since.

That takes names that are not given twice.  A slot counts how often it was freed, and a
name has the count; but the count begins again at zero once it has reached its bound.  No
slot is there before so many objects were removed, and until then a graph persists through
every change of it.  `Proper` says that its cells are typed, and how many were removed at most.
-/

/-- Whether a cell holds what its property asks for, and points only to where it may. -/
inductive Cell.Suits (property : Property) (points : PropertyRef → Prop) : Cell → Prop
  | native {value : Native} (closed : property.storage = .native)
      (fits : value.fits property.type = true) : Suits property points (.native value)
  | var {value : Value} (slotted : property.storage = .var) : Suits property points (.var value)
  | pointer {target? : Option PropertyRef} (aliased : property.storage = .alias)
      (leads : ∀ target, target? = some target → points target) :
      Suits property points (.alias target?)

namespace Cell.Suits

variable {property : Property} {points further : PropertyRef → Prop} {cell : Cell}

theorem mono (suits : cell.Suits property points)
    (widens : ∀ target, points target → further target) : cell.Suits property further := by
  cases suits with
  | native closed fits => exact .native closed fits
  | var slotted => exact .var slotted
  | pointer aliased leads =>
      exact .pointer aliased fun target aimed => widens target (leads target aimed)

/-- A fresh cell suits its property, if the default does. -/
theorem initial (fits : property.default.fits property.type = true) :
    (Cell.initial property).Suits property points := by
  unfold Cell.initial
  split
  · next stored => exact .native stored fits
  · next stored => exact .var stored
  · next stored => exact .pointer stored fun _ impossible => by cases impossible

end Cell.Suits

/-! ## Registered schemas -/

/-- A value keeps its shape when its arrays get identities. -/
theorem Native.fits_place (value : Native) (next : Nat) (type : PropertyType) :
    (value.place next).1.fits type = value.fits type := by
  cases value <;> cases type <;> rfl

/-- The value that a type starts with has the shape that the type asks for. -/
theorem Schema.defaultValue_fits (schema : Schema) (type : PropertyType) :
    (schema.defaultValue type).fits type = true := by
  cases type with
  | record id => exact decide_eq_true rfl
  | _ => rfl

/-- Specifications get identities for the arrays in their defaults, and nothing else. -/
theorem PropertySpec.mem_placeAll {spec : PropertySpec} {specs : List PropertySpec} {next : Nat}
    (member : spec ∈ (placeAll next specs).1) :
    ∃ former place, former ∈ specs ∧ spec = (former.place place).1 := by
  induction specs generalizing next with
  | nil => cases member
  | cons first rest step =>
      rcases List.mem_cons.mp member with rfl | later
      · exact ⟨first, next, List.mem_cons_self, rfl⟩
      · rcases step later with ⟨former, place, listed, same⟩
        exact ⟨former, place, List.mem_cons_of_mem _ listed, same⟩

/-- Whether a specification gives no default, or one of the shape that the type asks for. -/
def PropertySpec.Fitted (spec : PropertySpec) : Prop :=
  ∀ default, spec.default? = some default → default.fits spec.type = true

theorem PropertySpec.Fitted.place {spec : PropertySpec} (fitted : spec.Fitted) (next : Nat) :
    (spec.place next).1.Fitted := by
  cases given : spec.default? with
  | none =>
      have same : (spec.place next).1 = spec := by simp [PropertySpec.place, given]
      rwa [same]
  | some former =>
      have same : (spec.place next).1 = { spec with default? := some (former.place next).1 } := by
        simp [PropertySpec.place, given]
      intro default placed
      rw [same] at placed ⊢
      rw [← Option.some.inj placed, Native.fits_place]
      exact fitted former given

/-- The schemas that are made definition by definition, with defaults of the declared types. -/
inductive Schema.Registered : Schema → Prop
  | empty : Registered .empty
  | defineEnum {schema : Schema} (before : Registered schema) (name : String)
      (keys : List (String × Int32)) : Registered (schema.defineEnum name keys)
  | defineRecord {schema : Schema} (before : Registered schema) (name : String)
      (fields : List String) : Registered (schema.defineRecord name fields)
  | defineClass {schema : Schema} (before : Registered schema) (name : String)
      (parent? : Option ClassId) {specs : List PropertySpec}
      (fitted : ∀ spec ∈ specs, spec.Fitted) : Registered (schema.defineClass name parent? specs)

/-- Whether each property has a default of the shape that its type asks for. -/
def Schema.Fitted (schema : Schema) : Prop :=
  ∀ info ∈ schema.classes, ∀ property ∈ info.properties,
    property.default.fits property.type = true

namespace Schema

variable {schema : Schema}

theorem propertyAt_fits {spec : PropertySpec} (fitted : spec.Fitted) (index : Nat) :
    (schema.propertyAt index spec).default.fits spec.type = true := by
  cases given : spec.default? with
  | none =>
      simp only [propertyAt, given, Option.getD_none]
      exact schema.defaultValue_fits spec.type
  | some default =>
      simp only [propertyAt, given, Option.getD_some]
      exact fitted default given

theorem Fitted.defineClass (before : schema.Fitted) (name : String) (parent? : Option ClassId)
    {specs : List PropertySpec} (fitted : ∀ spec ∈ specs, spec.Fitted) :
    (schema.defineClass name parent? specs).Fitted := by
  intro info member property listed
  rcases List.mem_append.mp member with old | new
  · exact before info old property listed
  · rw [List.mem_singleton] at new
    subst new
    rcases List.mem_append.mp listed with inherited | own
    · cases parent : parent?.bind (schema.classes[·]?) with
      | none => simp [parent] at inherited
      | some former =>
          rw [parent] at inherited
          rcases Option.bind_eq_some_iff.mp parent with ⟨id, _, known⟩
          exact before former (List.mem_of_getElem? known) property inherited
    · rcases List.mem_map.mp own with ⟨⟨spec, place⟩, numbered, rfl⟩
      rcases PropertySpec.mem_placeAll (List.fst_mem_of_mem_zipIdx numbered) with
        ⟨former, next, specified, rfl⟩
      exact propertyAt_fits ((fitted former specified).place next) _

namespace Registered

theorem numbered (registered : schema.Registered) : schema.Numbered := by
  induction registered with
  | empty => exact .empty
  | defineEnum _ name keys before => exact before.defineEnum name keys
  | defineRecord _ name fields before => exact before.defineRecord name fields
  | defineClass _ name parent? _ before => exact before.defineClass name parent? _

theorem fitted (registered : schema.Registered) : schema.Fitted := by
  induction registered with
  | empty => exact fun _ member => by cases member
  | defineEnum _ _ _ before => exact before
  | defineRecord _ _ _ before => exact before
  | defineClass _ name parent? fitted before => exact before.defineClass name parent? fitted

end Registered

end Schema

/-! ## Names that are not given twice -/

/-- The count of a slot goes up if it does not begin again. -/
theorem ObjectId.lt_next {id : ObjectId} (young : id.generation.toNat + 1 < UInt32.size) :
    id.generation < id.generation + 1 := by
  rw [UInt32.lt_iff_toNat_lt, UInt32.toNat_add]
  unfold UInt32.size at young
  have one : (1 : UInt32).toNat = 1 := rfl
  omega

namespace ObjectGraph

variable {graph later last removed : ObjectGraph} {id : ObjectId} {object : Object}
  {ref target : PropertyRef} {property : Property} {cell : Cell} {count further : Nat}

/-- Whether the slot of an object was freed after the object had it. -/
def Spent (graph : ObjectGraph) (id : ObjectId) : Prop :=
  ∃ generation, graph.generation? id.index = some generation ∧ id.generation < generation

/-- Whether a pointer leads to a property, or into a slot that was freed since. -/
def Points (graph : ObjectGraph) (target : PropertyRef) : Prop :=
  (∃ property, graph.property target = .ok property) ∨ graph.Spent target.object

theorem Spent.not_alive (spent : graph.Spent id) : graph.isAlive id = false := by
  rcases spent with ⟨generation, known, passed⟩
  cases living : graph.object? id with
  | none => simp [isAlive, living]
  | some object =>
      rw [generation?_of_living living] at known
      rw [← Option.some.inj known] at passed
      exact absurd passed (UInt32.lt_irrefl _)

theorem schema_create (graph : ObjectGraph) (classId : ClassId) (name? : Option String) :
    (graph.create classId name?).2.schema = graph.schema := by
  unfold create
  split <;> rfl

theorem schema_remove (gone : graph.remove? id = some (object, removed)) :
    removed.schema = graph.schema := by
  rcases Option.map_eq_some_iff.mp gone with ⟨_, _, same⟩
  cases same
  rfl

/--
What lasts of a graph: its schema, the names that are spent, and the classes of objects
until their names are.
-/
structure Persists (graph later : ObjectGraph) : Prop where
  schema : later.schema = graph.schema
  spent : ∀ id, graph.Spent id → later.Spent id
  classes : ∀ id classId, graph.classOf? id = some classId →
    later.classOf? id = some classId ∨ later.Spent id

/-- A property is as it was if the class of its object is. -/
theorem property_congr (schema : later.schema = graph.schema)
    (classes : later.classOf? ref.object = graph.classOf? ref.object) :
    later.property ref = graph.property ref := by
  simp only [ObjectGraph.property, classInfo, schema, classes]

namespace Persists

theorem refl (graph : ObjectGraph) : graph.Persists graph :=
  ⟨rfl, fun _ spent => spent, fun _ _ known => .inl known⟩

theorem trans (first : graph.Persists later) (second : later.Persists last) :
    graph.Persists last where
  schema := second.schema.trans first.schema
  spent id spent := second.spent id (first.spent id spent)
  classes id classId known := by
    rcases first.classes id classId known with same | spent
    · exact second.classes id classId same
    · exact .inr (second.spent id spent)

theorem update (id : ObjectId) {change : Object → Object}
    (classes : ∀ object, (change object).classId = object.classId) :
    graph.Persists (graph.update id change) where
  schema := graph.schema_update id change
  spent other spent := by
    rcases spent with ⟨generation, known, passed⟩
    exact ⟨generation, (generation?_update change).trans known, passed⟩
  classes other _ known := .inl ((graph.classOf?_update id other classes).trans known)

theorem create (vacant : graph.Vacant) (classId : ClassId) (name? : Option String) :
    graph.Persists (graph.create classId name?).2 where
  schema := schema_create graph classId name?
  spent other spent := by
    rcases spent with ⟨generation, known, passed⟩
    exact ⟨generation, generation?_create classId name? known, passed⟩
  classes other classId' known := by
    rcases Option.map_eq_some_iff.mp known with ⟨object, living, same⟩
    exact .inl (Option.map_eq_some_iff.mpr ⟨object, object?_create vacant classId name? living, same⟩)

/-- The name of the object that is removed is spent, as far as its slot can count. -/
theorem remove (gone : graph.remove? id = some (object, removed))
    (young : id.generation.toNat + 1 < UInt32.size) : graph.Persists removed where
  schema := schema_remove gone
  spent other spent := by
    rcases spent with ⟨generation, known, passed⟩
    by_cases same : id.index = other.index
    · rw [← same, generation?_of_living (object?_of_remove gone)] at known
      rw [← Option.some.inj known] at passed
      refine ⟨id.generation + 1, ?_, UInt32.lt_trans passed (ObjectId.lt_next young)⟩
      rw [generation?_remove gone, if_pos same]
    · refine ⟨generation, ?_, passed⟩
      rw [generation?_remove gone, if_neg same]
      exact known
  classes other classId known := by
    rcases Option.map_eq_some_iff.mp known with ⟨holder, living, same⟩
    rcases object?_remove gone living with ⟨rfl, _⟩ | stays
    · refine .inr ⟨other.generation + 1, ?_, ObjectId.lt_next young⟩
      rw [generation?_remove gone, if_pos rfl]
    · exact .inl (Option.map_eq_some_iff.mpr ⟨holder, stays, same⟩)

/-- A property is as it was until the name of its object is spent. -/
theorem describes (persists : graph.Persists later) (described : graph.property ref = .ok property) :
    later.property ref = .ok property ∨ later.Spent ref.object := by
  have alive := isAlive_of_property described
  rw [isAlive_eq] at alive
  rcases Option.isSome_iff_exists.mp alive with ⟨classId, known⟩
  rcases persists.classes _ _ known with same | spent
  · left
    rw [← described]
    exact property_congr persists.schema (same.trans known.symm)
  · exact .inr spent

theorem points (persists : graph.Persists later) (points : graph.Points target) :
    later.Points target := by
  rcases points with ⟨property, described⟩ | spent
  · rcases persists.describes described with same | spent
    · exact .inl ⟨property, same⟩
    · exact .inr spent
  · exact .inr (persists.spent _ spent)

end Persists

/-! ## Proper graphs -/

/--
Whether all cells of a graph are typed, over a schema with fitting defaults, and no slot
was freed more often than a count says.
-/
structure Proper (graph : ObjectGraph) (count : Nat) : Prop where
  formed : graph.WellFormed
  fitted : graph.schema.Fitted
  vacant : graph.Vacant
  aged : ∀ index generation, graph.generation? index = some generation →
    generation.toNat ≤ count
  suits : ∀ ref property cell, graph.property ref = .ok property → graph.cell? ref = some cell →
    cell.Suits property graph.Points

namespace Proper

theorem empty {schema : Schema} (registered : schema.Registered) (count : Nat) :
    (ObjectGraph.empty schema).Proper count where
  formed := .empty registered.numbered
  fitted := registered.fitted
  vacant := .empty schema
  aged _ _ known := by cases known
  suits _ _ _ described := by
    rcases WellFormed.class_of_property described with ⟨_, _, living, _⟩
    cases living

variable (proper : graph.Proper count)
include proper

/-- A proper graph stays proper while it persists, if the cells that are new are typed. -/
theorem transfer (persists : graph.Persists later) (formed : later.WellFormed)
    (vacant : later.Vacant)
    (aged : ∀ index generation, later.generation? index = some generation →
      generation.toNat ≤ further)
    (suits : ∀ ref property cell, later.property ref = .ok property →
      later.cell? ref = some cell →
        graph.property ref = .ok property ∧ graph.cell? ref = some cell ∨
          cell.Suits property graph.Points) : later.Proper further where
  formed := formed
  fitted := by
    rw [persists.schema]
    exact proper.fitted
  vacant := vacant
  aged := aged
  suits ref property cell described held := by
    rcases suits ref property cell described held with ⟨described, held⟩ | suits
    · exact (proper.suits ref property cell described held).mono fun _ => persists.points
    · exact suits.mono fun _ => persists.points

theorem aged_update (change : Object → Object) (index : Nat) (generation : UInt32)
    (known : (graph.update id change).generation? index = some generation) :
    generation.toNat ≤ count :=
  proper.aged index generation ((generation?_update change).symm.trans known)

/-- An object may change in all but its class and its cells. -/
theorem update (id : ObjectId) {change : Object → Object}
    (kept : ∀ object, (change object).classId = object.classId ∧
      (change object).cells = object.cells) : (graph.update id change).Proper count := by
  have classes := fun object => (kept object).1
  have cells := fun object => (kept object).2
  refine proper.transfer (.update id classes)
    (proper.formed.update id classes fun object => by rw [cells]) (proper.vacant.update id change)
    (proper.aged_update change) ?_
  intro ref property cell described held
  rw [property_congr (graph.schema_update id change) (graph.classOf?_update id _ classes)]
    at described
  rw [graph.cell?_update id ref cells] at held
  exact .inl ⟨described, held⟩

theorem setCell (ref : PropertyRef)
    (suits : ∀ property, graph.property ref = .ok property → cell.Suits property graph.Points) :
    (graph.setCell ref cell).Proper count := by
  refine proper.transfer (.update _ fun _ => rfl) (proper.formed.setCell ref cell)
    (proper.vacant.update _ _) (proper.aged_update _) ?_
  intro other property held described found
  rw [property_congr (graph.schema_setCell ref cell) (graph.classOf?_setCell ref cell _)]
    at described
  rw [cell?_setCell] at found
  split at found
  · next same =>
    subst same
    rcases Option.map_eq_some_iff.mp found with ⟨_, _, rfl⟩
    exact .inr (suits property described)
  · exact .inl ⟨described, found⟩

theorem create (classId : ClassId) (name? : Option String) :
    (graph.create classId name?).2.Proper count := by
  have schema := schema_create graph classId name?
  refine proper.transfer (.create proper.vacant classId name?) (proper.formed.create classId name?)
    (proper.vacant.create classId name?) (fun index generation known => ?_) ?_
  · rcases generation?_before_create known with rfl | before
    · exact Nat.zero_le _
    · exact proper.aged index generation before
  intro ref property cell described held
  rcases WellFormed.class_of_property described with ⟨object, info, living, known, listed⟩
  rw [schema] at known
  simp only [cell?, living, Option.bind_some] at held
  rcases living_before_create proper.vacant living with rfl | lived
  · right
    change graph.schema.classes[classId]? = some info at known
    simp only [freshObject, known, Option.map_some, Option.getD_some, List.getElem?_map, listed]
      at held
    cases held
    exact .initial (proper.fitted info (List.mem_of_getElem? known) property
      (List.mem_of_getElem? listed))
  · left
    have same : (graph.create classId name?).2.property ref = graph.property ref :=
      property_congr schema (by simp only [classOf?, living, lived])
    rw [same] at described
    exact ⟨described, by simp only [cell?, lived, Option.bind_some, held]⟩

/-- The slot of an object that may be removed is young, if not too many were removed. -/
theorem young (living : graph.object? id = some object) (few : count + 1 < UInt32.size) :
    id.generation.toNat + 1 < UInt32.size :=
  Nat.lt_of_le_of_lt (Nat.succ_le_succ (proper.aged _ _ (generation?_of_living living))) few

theorem remove (gone : graph.remove? id = some (object, removed)) (few : count + 1 < UInt32.size) :
    removed.Proper (count + 1) ∧ graph.Persists removed := by
  have taken := object?_of_remove gone
  have young := proper.young taken few
  have persists : graph.Persists removed := .remove gone young
  refine ⟨proper.transfer persists (proper.formed.remove gone) (proper.vacant.remove gone)
    (fun index generation known => ?_) ?_, persists⟩
  · rw [generation?_remove gone] at known
    split at known
    · rw [← Option.some.inj known, UInt32.toNat_add]
      have before := proper.aged _ _ (generation?_of_living taken)
      exact Nat.le_trans (Nat.mod_le _ _) (Nat.succ_le_succ before)
    · exact Nat.le_succ_of_le (proper.aged index generation known)
  intro ref property cell described held
  rcases WellFormed.class_of_property described with ⟨holder, _, living, _⟩
  have lived := living_before_remove gone living
  have same : removed.property ref = graph.property ref :=
    property_congr (schema_remove gone) (by simp only [classOf?, living, lived])
  rw [same] at described
  simp only [cell?, living, Option.bind_some] at held
  exact .inl ⟨described, by simp only [cell?, lived, Option.bind_some, held]⟩

end Proper

/-! ## Typed graphs -/

/--
Whether each living object has one cell for each property of its class, and each cell
holds what its property asks for.  A pointer leads to a property as long as the object
that it points into is alive.
-/
structure WellTyped (graph : ObjectGraph) : Prop where
  filled : ∀ id object info, graph.object? id = some object →
    graph.schema.classes[object.classId]? = some info →
      object.cells.length = info.properties.length
  suits : ∀ ref property, graph.property ref = .ok property → ∃ cell,
    graph.cell? ref = some cell ∧ cell.Suits property fun target =>
      graph.isAlive target.object = true → ∃ aimed, graph.property target = .ok aimed

/-- Where a pointer leads there is a property, as long as there is an object. -/
theorem Points.property_of_alive (points : graph.Points target)
    (alive : graph.isAlive target.object = true) :
    ∃ property, graph.property target = .ok property := by
  rcases points with described | spent
  · exact described
  · rw [spent.not_alive] at alive
    cases alive

theorem Proper.wellTyped (proper : graph.Proper count) : graph.WellTyped where
  filled _ _ info living known := proper.formed.object living info known
  suits ref property described := by
    rcases proper.formed.exists_cell described with ⟨cell, held⟩
    refine ⟨cell, held, (proper.suits ref property cell described held).mono ?_⟩
    exact fun target points => points.property_of_alive

end ObjectGraph
end PropertyBinding
