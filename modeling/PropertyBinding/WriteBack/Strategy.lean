import PropertyBinding.Diagnostic.Failure
import PropertyBinding.Object.Graph

namespace PropertyBinding

/-!
# Write strategies

A strategy says how the results of a binding are brought into the form in which
a property stores them.  It is chosen by the declared type, with one exception:
an open slot stores script values whatever its type.
-/

/-- The types that hold one plain value. -/
inductive PrimitiveType where
  | bool | int | float | double | string
deriving Repr, DecidableEq

/-- How results are brought into the form of a property. -/
inductive WriteStrategy where
  | primitive (type : PrimitiveType)
  | enum (id : EnumId)
  | object (declared : ClassId)
  | list (declared : ClassId)
  | record (id : RecordId)
  | variant
  | script
  | varSlot
deriving Repr, DecidableEq

namespace WriteStrategy

/-- The strategy for a declared type. -/
def ofType : PropertyType → WriteStrategy
  | .bool => .primitive .bool
  | .int => .primitive .int
  | .float => .primitive .float
  | .double => .primitive .double
  | .string => .primitive .string
  | .enum id => .enum id
  | .object declared => .object declared
  | .list declared => .list declared
  | .record id => .record id
  | .variant => .variant
  | .script => .script
  | .var => .varSlot

/-- The type whose values a strategy stores. -/
def type : WriteStrategy → PropertyType
  | .primitive .bool => .bool
  | .primitive .int => .int
  | .primitive .float => .float
  | .primitive .double => .double
  | .primitive .string => .string
  | .enum id => .enum id
  | .object declared => .object declared
  | .list declared => .list declared
  | .record id => .record id
  | .variant => .variant
  | .script => .script
  | .varSlot => .var

@[simp] theorem type_ofType (declared : PropertyType) : (ofType declared).type = declared := by
  cases declared <;> rfl

@[simp] theorem ofType_type (strategy : WriteStrategy) : ofType strategy.type = strategy := by
  cases strategy with
  | primitive primitiveType => cases primitiveType <;> rfl
  | _ => rfl

/-- The strategy for a property. -/
def ofProperty (property : Property) : WriteStrategy :=
  if property.isVar then .varSlot else ofType property.type

/-- Whether functions are stored like any other value. -/
def acceptsFunctions : WriteStrategy → Bool
  | .variant | .script | .varSlot => true
  | _ => false

/-- Whether the classes of objects have to be looked at before a value is stored. -/
def checksClasses : WriteStrategy → Bool
  | .object _ | .list _ => true
  | _ => false

end WriteStrategy

/-- Why a result was not stored. -/
inductive WriteError where
  /-- `undefined` for a type that has no empty value. -/
  | undefinedAssignment (typeName : String)
  /-- A result without a form of the declared type. -/
  | typeMismatch (source target : String)
  /-- A function for a type that takes none; `marked` when it went through the `binding` helper. -/
  | functionAssignment (marked : Bool)
  /-- The target died during the write. -/
  | targetDestroyed
  | property (error : PropertyError)
deriving Repr, DecidableEq

namespace WriteError

/-- A failed access as the reason why a result was not stored. -/
def ofProperty : PropertyError → WriteError
  | .destroyed _ => .targetDestroyed
  | error => .property error

/-- A failed conversion as the reason why a result was not stored. -/
def ofConversion (error : ConversionError) : WriteError :=
  .typeMismatch error.source error.target

/-- The kind of failure to report; a dead target is none. -/
def kind? : WriteError → Option FailureKind
  | .undefinedAssignment _ => some .undefinedAssignment
  | .typeMismatch _ _ => some .typeMismatch
  | .functionAssignment _ => some .functionAssignment
  | .targetDestroyed => none
  | .property _ => some .property

/-- The message for a result that was not stored. -/
def message : WriteError → String
  | .undefinedAssignment typeName => s!"Unable to assign [undefined] to {typeName}"
  | .typeMismatch source target => s!"Unable to assign {source} to {target}"
  | .functionAssignment true => "Invalid use of binding() in a binding declaration."
  | .functionAssignment false =>
      "Unable to assign a function to a property of any type other than var."
  | .targetDestroyed => "target object was destroyed during write-back"
  | .property error => error.message

end WriteError

namespace WriteStrategy

/-- The stored form of a value that has the plain type already. -/
def exactPrimitive? : PrimitiveType → Value → Option Native
  | .bool, .bool value => some (.bool value)
  | .int, .int value => some (.int value)
  | .float, .double value => some (.float (Number.narrow value))
  | .double, .double value => some (.double value)
  | .string, .string value => some (.string value)
  | _, _ => none

/-- The pointer for null and for a living object of the declared class or a subclass. -/
def exactPointer? (context : TypeContext) (declared : ClassId) : Value → Option Native
  | .null => some (.object none)
  | .object id =>
      match context.classOf id with
      | none => none
      | some actual =>
          match context.schema.compatibility actual declared with
          | .compatible => some (.object (some id))
          | _ => none
  | _ => none

/-- The stored form of a value that needs no conversion under a strategy. -/
def fitting? (context : TypeContext) : WriteStrategy → Value → Option Native
  | .primitive type, value => exactPrimitive? type value
  | .enum _, .int value => some (.enum value)
  | .object declared, value => exactPointer? context declared value
  | .record id, .record value => if value.type = id then some (.record value) else none
  | .variant, value => some (.variant value.toVariant)
  | .script, value => some (.script value)
  | _, _ => none

/-- The stored form of a value: as it is if it fits the strategy, else converted to the declared type. -/
def native (context : TypeContext) (strategy : WriteStrategy) (type : PropertyType)
    (value : Value) : Except ConversionError Native :=
  match strategy.fitting? context value with
  | some stored => .ok stored
  | none => value.toNative context type

end WriteStrategy

end PropertyBinding
