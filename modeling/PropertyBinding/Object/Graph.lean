import PropertyBinding.Entries
import PropertyBinding.Object.Error
import PropertyBinding.Schema.Registry
import PropertyBinding.Value.Conversion
import PropertyBinding.Value.Equality

namespace PropertyBinding

/-!
# Object graphs

An object graph holds the objects over one schema in numbered slots.  An object
has a cell for each property of its class, and for some properties an
interceptor or active writers.  Everything here is a question about a graph or
a step from one graph to the next; nothing runs foreign code.
-/

/-- The name of a binding. -/
abbrev BindingId : Type := Nat

/-- A property of an object. -/
structure PropertyRef where
  object : ObjectId
  index : Nat
deriving Repr, DecidableEq

/-- What an object holds for a property. -/
inductive Cell where
  | native (value : Native)
  | var (value : Value)
  | alias (target : Option PropertyRef)

namespace Cell

/-- What a read of the cell gives. -/
def read : Cell → Native
  | .native value => value
  | .var value => .script value
  | .alias _ => .script .undefined

/-- The property an alias points to. -/
def target? : Cell → Option PropertyRef
  | .alias target => target
  | _ => none

/-- The cell of a property on a fresh object. -/
def initial (property : Property) : Cell :=
  match property.storage with
  | .native => .native property.default
  | .var => .var .undefined
  | .alias => .alias none

/-- Whether a cell holds a native value equal to another. -/
def holds (cell : Cell) (value : Native) : Bool :=
  match cell with
  | .native current => current.same value
  | _ => false

/-- Whether a cell holds a script value equal to another. -/
def holdsVar (cell : Cell) (value : Value) : Bool :=
  match cell with
  | .var current => current.same value
  | _ => false

end Cell

/-- A place for an active writer: a property, or one field of its record. -/
structure WriterSlot where
  index : Nat
  field? : Option Nat
deriving Repr, DecidableEq

/-- The active writer of a slot. -/
inductive Writer where
  | binding (id : BindingId)
  /-- A writer outside the engine, which is told when it is retired. -/
  | host (id : HostId)
deriving Repr, DecidableEq

/-- A living object. -/
structure Object where
  classId : ClassId
  name? : Option String
  cells : List Cell
  interceptors : Entries Nat HostId := .empty
  writers : Entries WriterSlot Writer := .empty

namespace Object

/-- The writers of a property and of its fields. -/
def writersOf (object : Object) (index : Nat) : List Writer :=
  (object.writers.keep fun slot => slot.index = index).values

/-- The object without the writers of a property and of its fields. -/
def withoutWritersOf (object : Object) (index : Nat) : Object :=
  { object with writers := object.writers.keep fun slot => slot.index ≠ index }

/-- The object with another cell for a property. -/
def setCell (object : Object) (index : Nat) (cell : Cell) : Object :=
  { object with cells := object.cells.set index cell }

end Object

/-- A numbered place for objects, one after the other. -/
structure Slot where
  /-- How often the slot was freed. -/
  generation : UInt32
  object? : Option Object

/-- The objects over a schema. -/
structure ObjectGraph where
  schema : Schema
  slots : List Slot := []
  /-- The vacant slots, the next one to fill first. -/
  free : List Nat := []

namespace ObjectGraph

/-- The graph over a schema before any object is made. -/
def empty (schema : Schema) : ObjectGraph := { schema := schema }

/-! ## Lifetime -/

/-- The living object of an id. -/
def object? (graph : ObjectGraph) (id : ObjectId) : Option Object :=
  match graph.slots[id.index]? with
  | some slot => if slot.generation = id.generation then slot.object? else none
  | none => none

/-- Whether an id names a living object. -/
def isAlive (graph : ObjectGraph) (id : ObjectId) : Bool :=
  (graph.object? id).isSome

/-- The class of a living object. -/
def classOf? (graph : ObjectGraph) (id : ObjectId) : Option ClassId :=
  (graph.object? id).map (·.classId)

/-- The name a living object was given. -/
def nameOf? (graph : ObjectGraph) (id : ObjectId) : Option String :=
  (graph.object? id).bind (·.name?)

/-- What conversions have to know about the graph. -/
def context (graph : ObjectGraph) : TypeContext :=
  ⟨graph.schema, graph.classOf?⟩

/-- A fresh object of a class with every property at its default. -/
def freshObject (graph : ObjectGraph) (classId : ClassId) (name? : Option String) : Object :=
  let properties := ((graph.schema.classes[classId]?).map (·.properties)).getD []
  { classId := classId, name? := name?, cells := properties.map Cell.initial }

/-- Makes an object in the slot that was freed last, or in a new slot. -/
def create (graph : ObjectGraph) (classId : ClassId) (name? : Option String) :
    ObjectId × ObjectGraph :=
  let object := graph.freshObject classId name?
  match graph.free with
  | index :: rest =>
      let generation := ((graph.slots[index]?).map (·.generation)).getD 0
      (⟨index, generation⟩,
        { graph with slots := graph.slots.set index ⟨generation, some object⟩, free := rest })
  | [] => (⟨graph.slots.length, 0⟩, { graph with slots := graph.slots ++ [⟨0, some object⟩] })

/-- Takes a living object out of the graph, so that its id is dead. -/
def remove? (graph : ObjectGraph) (id : ObjectId) : Option (Object × ObjectGraph) :=
  (graph.object? id).map fun object =>
    (object,
      { graph with
        slots := graph.slots.set id.index ⟨id.generation + 1, none⟩
        free := id.index :: graph.free })

/-- Changes a living object. -/
def update (graph : ObjectGraph) (id : ObjectId) (change : Object → Object) : ObjectGraph :=
  match graph.object? id with
  | some object =>
      { graph with slots := graph.slots.set id.index ⟨id.generation, some (change object)⟩ }
  | none => graph

/-! ## Properties -/

/-- The class of a living object with its properties. -/
def classInfo (graph : ObjectGraph) (id : ObjectId) : Except PropertyError ClassInfo :=
  match (graph.classOf? id).bind (graph.schema.classes[·]?) with
  | some info => .ok info
  | none => .error (.destroyed id)

/-- What the class of a living object says about a property. -/
def property (graph : ObjectGraph) (ref : PropertyRef) : Except PropertyError Property := do
  let info ← graph.classInfo ref.object
  match info.properties[ref.index]? with
  | some property => .ok property
  | none => .error (.unknownProperty info.name s!"#{ref.index}")

/-- The index of a property of a living object by its name. -/
def propertyIndex (graph : ObjectGraph) (id : ObjectId) (name : String) :
    Except PropertyError Nat := do
  let info ← graph.classInfo id
  match info.property? name with
  | some property => .ok property.index
  | none => .error (.unknownProperty info.name name)

/-- The name of the property that a signal of a living object announces. -/
def signalName? (graph : ObjectGraph) (id : ObjectId) (signal : Nat) : Option String := do
  let info ← (graph.classInfo id).toOption
  (info.properties.find? fun property => property.signal = signal).map (·.name)

/-- The cell of a property of a living object. -/
def cell? (graph : ObjectGraph) (ref : PropertyRef) : Option Cell :=
  (graph.object? ref.object).bind fun object => object.cells[ref.index]?

/-- Puts another cell in the place of a property's. -/
def setCell (graph : ObjectGraph) (ref : PropertyRef) (cell : Cell) : ObjectGraph :=
  graph.update ref.object fun object => object.setCell ref.index cell

/-! ## Aliases -/

/-- Points an alias at a property. -/
def setAlias (graph : ObjectGraph) (ref target : PropertyRef) :
    Except PropertyError ObjectGraph := do
  let property ← graph.property ref
  if property.isAlias then
    let _ ← graph.property target
    .ok (graph.setCell ref (.alias (some target)))
  else
    .error (.typeMismatch property.name "alias")

/--
The first property on an alias chain that is no alias, looking at no more than
`bound` properties; nothing when all of them are aliases.
-/
def follow (graph : ObjectGraph) : Nat → PropertyRef → Except PropertyError (Option PropertyRef)
  | 0, _ => .ok none
  | bound + 1, ref => do
      let property ← graph.property ref
      if property.isAlias then
        match (graph.cell? ref).bind Cell.target? with
        | some target =>
            if graph.isAlive target.object then
              graph.follow bound target
            else
              .error (.unresolvedAlias property.name)
        | none => .error (.unresolvedAlias property.name)
      else
        .ok (some ref)

/-- The property that stores the value of a property, at most `depth` hops along its alias chain. -/
def resolve (graph : ObjectGraph) (ref : PropertyRef) (depth : Nat) :
    Except PropertyError PropertyRef := do
  match ← graph.follow (depth + 1) ref with
  | some stored => .ok stored
  | none => do
      let property ← graph.property ref
      .error (.aliasCycle property.name)

/-! ## Values -/

/-- The value of a property that is no alias. -/
def stored (graph : ObjectGraph) (ref : PropertyRef) : Except PropertyError Native :=
  match graph.object? ref.object with
  | some object => .ok (((object.cells[ref.index]?).map Cell.read).getD (.script .undefined))
  | none => .error (.destroyed ref.object)

/-- The value of a property. -/
def peek (graph : ObjectGraph) (ref : PropertyRef) (depth : Nat) : Except PropertyError Native := do
  let target ← graph.resolve ref depth
  graph.stored target

/-- The names and values of all properties of a living object. -/
def values (graph : ObjectGraph) (id : ObjectId) (depth : Nat) :
    Except PropertyError (List (String × Except PropertyError Native)) := do
  let info ← graph.classInfo id
  .ok (info.properties.map fun property =>
    (property.name, graph.peek ⟨id, property.index⟩ depth))

/-! ## Interceptors and writers -/

/-- The interceptor of a property that is no alias. -/
def interceptor? (graph : ObjectGraph) (ref : PropertyRef) : Option HostId :=
  (graph.object? ref.object).bind fun object => object.interceptors.get? ref.index

/-- The active writer of a slot. -/
def writer? (graph : ObjectGraph) (id : ObjectId) (slot : WriterSlot) : Option Writer :=
  (graph.object? id).bind fun object => object.writers.get? slot

/-- Whether some slot of some living object has a writer. -/
def isAttached (graph : ObjectGraph) (writer : Writer) : Bool :=
  graph.slots.any fun slot =>
    (slot.object?.map fun object => object.writers.values.contains writer).getD false

/-- The graph as tools show it, with the number of change channels. -/
def describe (graph : ObjectGraph) (channels : Nat) : String :=
  let live := (graph.slots.filter fun slot => slot.object?.isSome).length
  "ObjectGraph \x7b slots: " ++ toString graph.slots.length ++ ", live: " ++ toString live
    ++ ", signals: " ++ toString channels ++ " \x7d"

end ObjectGraph

/-- Looks now and then whether an object is still there. -/
structure LivenessWatcher where
  watched : ObjectId
deriving Repr, DecidableEq

/-- Whether the watched object is not in the graph, or not any more. -/
def LivenessWatcher.wasDeleted (watcher : LivenessWatcher) (graph : ObjectGraph) : Bool :=
  !graph.isAlive watcher.watched

end PropertyBinding
