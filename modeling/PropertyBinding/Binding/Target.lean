import PropertyBinding.Object.Graph

namespace PropertyBinding

/-!
# Binding targets

What a binding writes: a property, or one field of a property that holds a
record.  A path names a property, or a property and a field after a point.
-/

/-- A property, or one field of its record. -/
structure BindingTarget where
  property : PropertyRef
  field? : Option Nat := none
deriving Repr, DecidableEq

namespace BindingTarget

/-- The object that is written. -/
def object (target : BindingTarget) : ObjectId :=
  target.property.object

/-- The slot of the target on its object. -/
def slot (target : BindingTarget) : WriterSlot :=
  ⟨target.property.index, target.field?⟩

/-- The parts of a path before and after its first point. -/
def splitPath (path : String) : String × Option String :=
  let characters := path.toList
  let name := characters.takeWhile (· ≠ '.')
  match characters.drop name.length with
  | [] => (path, none)
  | _ :: field => (String.ofList name, some (String.ofList field))

/-- The place of a field in a record of a type; other types have no fields. -/
def fieldOf? (schema : Schema) (type : PropertyType) (name : String) : Option Nat :=
  match type with
  | .record id => (schema.records[id]?).bind fun info => info.field? name
  | _ => none

/-- The target that a path names on an object. -/
def resolve (graph : ObjectGraph) (object : ObjectId) (path : String) :
    Except PropertyError BindingTarget := do
  let (name, fieldName?) := splitPath path
  let index ← graph.propertyIndex object name
  let ref : PropertyRef := ⟨object, index⟩
  match fieldName? with
  | none => .ok ⟨ref, none⟩
  | some fieldName => do
      let property ← graph.property ref
      match fieldOf? graph.schema property.type fieldName with
      | some field => .ok ⟨ref, some field⟩
      | none => .error (.unknownProperty (graph.schema.typeName property.type) fieldName)

/-- The path of a target; a property of a dead object has its index for a name. -/
def path (graph : ObjectGraph) (target : BindingTarget) : String :=
  match graph.property target.property with
  | .error _ => s!"#{target.property.index}"
  | .ok property =>
      match target.field?, property.type with
      | some field, .record id =>
          let fieldName := ((graph.schema.records[id]?).bind (·.fields[field]?)).getD (toString field)
          property.name ++ "." ++ fieldName
      | _, _ => property.name

end BindingTarget

end PropertyBinding
