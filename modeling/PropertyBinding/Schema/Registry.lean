import PropertyBinding.Value.Identity

namespace PropertyBinding

/-!
# Schemas

The classes, enumerations and record types that objects are made of.  A class
starts with the properties of its parent and adds its own, so an index that is
valid on a class is valid on all its subclasses.  The arrays in a default have
their identity from the definition of the class, so all objects that have the
default share them.
-/

/-- How a property is stored on its object. -/
inductive Storage where
  /-- A native value of the declared type. -/
  | native
  /-- A script value. -/
  | var
  /-- A pointer to another property, set for each object. -/
  | alias
deriving Repr, DecidableEq

namespace Storage

/-- The name of a way to store a property. -/
def name : Storage → String
  | .native => "native"
  | .var => "var"
  | .alias => "alias"

end Storage

/-- A property of a class. -/
structure Property where
  name : String
  index : Nat
  type : PropertyType
  storage : Storage
  resettable : Bool
  /-- The value on a fresh object and after a reset. -/
  default : Native
  /-- The channel that announces changes. -/
  signal : Nat

namespace Property

/-- Whether the property is an open slot. -/
def isVar (property : Property) : Bool :=
  property.storage = .var

/-- Whether the property points to another. -/
def isAlias (property : Property) : Bool :=
  property.storage = .alias

end Property

/-- What the author of a class says about a property. -/
structure PropertySpec where
  name : String
  type : PropertyType
  storage : Storage
  resettable : Bool := false
  /-- The default; without one it is the default of the type. -/
  default? : Option Native := none

namespace PropertySpec

/-- A property that stores a native value. -/
def native (name : String) (type : PropertyType) : PropertySpec :=
  { name := name, type := type, storage := .native }

/-- A property that stores a native value and has a default to go back to. -/
def resettableTo (default : Native) (name : String) (type : PropertyType) : PropertySpec :=
  { name := name, type := type, storage := .native, resettable := true, default? := some default }

/-- An open slot for script values. -/
def var (name : String) : PropertySpec :=
  { name := name, type := .var, storage := .var }

/-- A pointer to another property. -/
def aliased (name : String) (type : PropertyType) : PropertySpec :=
  { name := name, type := type, storage := .alias }

/-- Gives identities to the arrays in the default of a specification. -/
def place (next : Nat) (spec : PropertySpec) : PropertySpec × Nat :=
  match spec.default? with
  | some default =>
      let (placed, next) := default.place next
      ({ spec with default? := some placed }, next)
  | none => (spec, next)

/-- Gives identities to the arrays in the defaults of several specifications. -/
def placeAll (next : Nat) : List PropertySpec → List PropertySpec × Nat
  | [] => ([], next)
  | spec :: rest =>
      let (placed, next) := spec.place next
      let (others, next) := placeAll next rest
      (placed :: others, next)

end PropertySpec

/-- A class of objects. -/
structure ClassInfo where
  name : String
  parent? : Option ClassId
  properties : List Property

/-- An enumeration: its keys with their values. -/
structure EnumInfo where
  name : String
  keys : List (String × Int32)

/-- A record type: the names of its fields. -/
structure RecordInfo where
  name : String
  fields : List String

/-- How the class of an object relates to a declared class. -/
inductive Compatibility where
  /-- The class is the declared one or derives from it. -/
  | compatible
  /-- The declared class derives from the class. -/
  | requiresCoercion
  | incompatible
deriving Repr, DecidableEq

namespace Compatibility

/-- The name of a relation. -/
def name : Compatibility → String
  | .compatible => "compatible"
  | .requiresCoercion => "requires_coercion"
  | .incompatible => "incompatible"

end Compatibility

/-- All classes, enumerations and record types of a program. -/
structure Schema where
  classes : List ClassInfo
  enums : List EnumInfo
  records : List RecordInfo
  /-- The next identity of an array in a default. -/
  identities : Nat := 0

namespace ClassInfo

/-- The property of a name, inherited or own. -/
def property? (info : ClassInfo) (name : String) : Option Property :=
  info.properties.find? fun property => property.name = name

end ClassInfo

namespace EnumInfo

/-- The value of a key. -/
def value? (info : EnumInfo) (key : String) : Option Int32 :=
  (info.keys.find? fun (name, _) => name = key).map Prod.snd

end EnumInfo

namespace RecordInfo

/-- The place of a field. -/
def field? (info : RecordInfo) (name : String) : Option Nat :=
  info.fields.findIdx? (· = name)

end RecordInfo

namespace Schema

/-- The record types every schema starts with. -/
def builtinRecords : List RecordInfo :=
  [⟨"point", ["x", "y"]⟩, ⟨"size", ["width", "height"]⟩,
    ⟨"rect", ["x", "y", "width", "height"]⟩, ⟨"vector3d", ["x", "y", "z"]⟩]

/-- The schema with the built-in record types only. -/
def empty : Schema := ⟨[], [], builtinRecords, 0⟩

/-- The place of a class name. -/
def classNamed? (schema : Schema) (name : String) : Option ClassId :=
  schema.classes.findIdx? fun info => info.name = name

/-- The name of a class, also of one that is not registered. -/
def className (schema : Schema) (id : ClassId) : String :=
  (schema.classes[id]?.map (·.name)).getD "<unknown>"

/-- The parent of a class. -/
def parent? (schema : Schema) (id : ClassId) : Option ClassId :=
  schema.classes[id]?.bind (·.parent?)

/--
Whether a class is an ancestor or derives from it, looking at most `bound`
classes up; nothing when the search was cut short.
-/
def inheritsWithin (schema : Schema) : Nat → ClassId → ClassId → Option Bool
  | 0, _, _ => none
  | bound + 1, id, ancestor =>
      if id = ancestor then
        some true
      else
        match schema.parent? id with
        | none => some false
        | some parent => schema.inheritsWithin bound parent ancestor

/--
Whether a class is an ancestor or derives from it.  A chain of parents without a
repetition has at most one more class than the schema.
-/
def inherits (schema : Schema) (id ancestor : ClassId) : Bool :=
  (schema.inheritsWithin (schema.classes.length + 1) id ancestor).getD false

/-- How the class of an object relates to a declared class. -/
def compatibility (schema : Schema) (actual declared : ClassId) : Compatibility :=
  if schema.inherits actual declared then
    .compatible
  else if schema.inherits declared actual then
    .requiresCoercion
  else
    .incompatible

/-- The name of a type as messages show it. -/
def typeName (schema : Schema) : PropertyType → String
  | .bool => "bool"
  | .int => "int"
  | .float => "float"
  | .double => "double"
  | .string => "string"
  | .enum id => (schema.enums[id]?.map (·.name)).getD "enum"
  | .object declared => schema.className declared ++ "*"
  | .list declared => "list<" ++ schema.className declared ++ ">"
  | .record id => (schema.records[id]?.map (·.name)).getD "value"
  | .variant => "variant"
  | .script => "ScriptValue"
  | .var => "var"

/-- The value a type starts with. -/
def defaultValue (schema : Schema) : PropertyType → Native
  | .bool => .bool false
  | .int => .int 0
  | .float => .float 0
  | .double => .double 0
  | .string => .string ""
  | .enum id => .enum (((schema.enums[id]?.bind (·.keys.head?)).map Prod.snd).getD 0)
  | .object _ => .object none
  | .list _ => .list []
  | .record id => .record (.zero id ((schema.records[id]?.map (·.fields.length)).getD 0))
  | .variant => .variant .empty
  | .script | .var => .script .undefined

/-- Adds an enumeration. -/
def defineEnum (schema : Schema) (name : String) (keys : List (String × Int32)) : Schema :=
  { schema with enums := schema.enums ++ [⟨name, keys⟩] }

/-- Adds a record type. -/
def defineRecord (schema : Schema) (name : String) (fields : List String) : Schema :=
  { schema with records := schema.records ++ [⟨name, fields⟩] }

/-- The property that a specification makes at a place. -/
def propertyAt (schema : Schema) (index : Nat) (spec : PropertySpec) : Property :=
  { name := spec.name
    index := index
    type := spec.type
    storage := spec.storage
    resettable := spec.resettable
    default := spec.default?.getD (schema.defaultValue spec.type)
    signal := index }

/-- Adds a class after the properties it has from its parent, if that is registered. -/
def defineClass (schema : Schema) (name : String) (parent? : Option ClassId)
    (specs : List PropertySpec) : Schema :=
  let inherited := ((parent?.bind (schema.classes[·]?)).map (·.properties)).getD []
  let (placed, next) := PropertySpec.placeAll schema.identities specs
  let own := placed.zipIdx.map fun (spec, place) =>
    schema.propertyAt (inherited.length + place) spec
  { schema with
    classes := schema.classes ++ [⟨name, parent?, inherited ++ own⟩]
    identities := next }

end Schema

end PropertyBinding
