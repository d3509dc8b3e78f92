import PropertyBinding.Number.Decimal
import PropertyBinding.Schema.Registry

namespace PropertyBinding

/-!
# Conversion between script values and native values

Every native value has a script form, and a script value has a native form of
a type only if the type has room for it.  A wrapped container converts as its
content, except into the three types that store any value as it is.
-/

/-- What conversion has to know about classes: their schema and the class of each live object. -/
structure TypeContext where
  schema : Schema
  classOf : ObjectId → Option ClassId

namespace TypeContext

/-- A context without objects. -/
def bare (schema : Schema) : TypeContext :=
  ⟨schema, fun _ => none⟩

end TypeContext

/-- A value has no form of the type it is needed as; both are named. -/
structure ConversionError where
  source : String
  target : String
deriving Repr, DecidableEq

namespace ConversionError

/-- The message for a failed conversion. -/
def message (error : ConversionError) : String :=
  s!"Unable to assign {error.source} to {error.target}"

end ConversionError

mutual

/-- The script form of a container's content. -/
def Variant.toValue : Variant → Value
  | .empty => .undefined
  | .null => .null
  | .bool value => .bool value
  | .int value => .int value
  | .double value => .double value
  | .string value => .string value
  | .object id => .object id
  | .record value => .record value
  | .list items => .array none (Variant.toValues items)
  | .script value => value

/-- The script forms of several containers. -/
def Variant.toValues : List Variant → List Value
  | [] => []
  | item :: rest => Variant.toValue item :: Variant.toValues rest

end

mutual

/-- The container for a script value; a container that was wrapped is unwrapped. -/
def Value.toVariant : Value → Variant
  | .undefined => .empty
  | .null => .null
  | .bool value => .bool value
  | .int value => .int value
  | .double value => .double value
  | .string value => .string value
  | .object id => .object id
  | .variant content => content
  | .record value => .record value
  | .array _ items => .list (Value.toVariants items)
  | .function callee marked => .script (.function callee marked)

/-- The containers for several script values. -/
def Value.toVariants : List Value → List Variant
  | [] => []
  | item :: rest => Value.toVariant item :: Value.toVariants rest

end

mutual

/-- A value with the wrappers around it removed. -/
def Value.core : Value → Value
  | .variant content => Variant.core content
  | other => other

/-- The content of a container with the wrappers around it removed. -/
def Variant.core : Variant → Value
  | .script value => Value.core value
  | other => other.toValue

end

namespace Value

/-- The content of a wrapped container, or the value itself. -/
def unwrapped : Value → Value
  | .variant content => content.toValue
  | other => other

/-- The name of an object's class; a dead object counts as null. -/
def objectTypeName (context : TypeContext) (id : ObjectId) : String :=
  ((context.classOf id).map context.schema.className).getD "null"

/-- The name of a value's type as messages show it. -/
def typeName (context : TypeContext) : Value → String
  | .undefined => "[undefined]"
  | .null => "null"
  | .bool _ => "bool"
  | .int _ => "int"
  | .double _ => "double"
  | .string _ => "string"
  | .object id | .variant (.object id) => objectTypeName context id
  | .variant _ => "variant"
  | .record value => (context.schema.records[value.type]?.map (·.name)).getD "value"
  | .array _ _ => "array"
  | .function _ _ => "function"

/-- A live object as a pointer of a declared class; a dead one becomes the null pointer. -/
def pointer? (context : TypeContext) (declared : ClassId) (id : ObjectId) :
    Option (Option ObjectId) :=
  match context.classOf id with
  | none => some none
  | some actual => if context.schema.inherits actual declared then some (some id) else none

/-- The live objects among the items of an array, unless an item is neither null nor an object of the class. -/
def pointers? (context : TypeContext) (declared : ClassId) : List Value → Option (List ObjectId)
  | [] => some []
  | .null :: rest => pointers? context declared rest
  | .object id :: rest => do
      let head ← pointer? context declared id
      let tail ← pointers? context declared rest
      some (head.toList ++ tail)
  | _ => none

/-- The number a value converts to, if any. -/
def toNumber? : Value → Option Float
  | .int value => some (Number.ofInt32 value)
  | .double value => some value
  | .bool value => some (if value then 1 else 0)
  | .string value => Number.readText? value
  | _ => none

/-- The native form of a value that is not a wrapped container. -/
def bareNative? (context : TypeContext) : PropertyType → Value → Option Native
  | .bool, .undefined | .bool, .function _ _ => none
  | .bool, value => some (.bool value.truthy)
  | .int, .int value => some (.int value)
  | .int, value => value.toNumber?.map fun number => .int (Number.toInt32 number)
  | .float, value => value.toNumber?.map fun number => .float (Number.narrow number)
  | .double, value => value.toNumber?.map .double
  | .string, .string value => some (.string value)
  | .string, .int value => some (.string (toString value.toInt))
  | .string, .double value => some (.string (Number.toText value))
  | .string, .bool value => some (.string (if value then "true" else "false"))
  | .enum _, .int value => some (.enum value)
  | .enum _, .double value =>
      if Number.isWhole value then some (.enum (Number.toInt32 value)) else none
  | .enum id, .string key =>
      (context.schema.enums[id]?.bind (·.value? key)).map .enum
  | .object _, .null => some (.object none)
  | .object declared, .object id => (pointer? context declared id).map .object
  | .list _, .null => some (.list [])
  | .list declared, .object id => (pointer? context declared id).map fun found =>
      .list found.toList
  | .list declared, .array _ items => (pointers? context declared items).map .list
  | .record id, .record value => if value.type = id then some (.record value) else none
  | _, _ => none

/-- The native form of a value in a type, if the type has room for it. -/
def toNative? (context : TypeContext) (type : PropertyType) (value : Value) : Option Native :=
  match type with
  | .variant => some (.variant value.toVariant)
  | .script | .var => some (.script value)
  | other => value.core.bareNative? context other

/-- The native form of a value in a type, or an error that names the value's type and the other. -/
def toNative (context : TypeContext) (type : PropertyType) (value : Value) :
    Except ConversionError Native :=
  match value.toNative? context type with
  | some native => .ok native
  | none => .error ⟨value.typeName context, context.schema.typeName type⟩

end Value

namespace Native

/-- The script form of a native value. -/
def toValue : Native → Value
  | .bool value => .bool value
  | .int value | .enum value => .int value
  | .float value => .double (Number.widen value)
  | .double value => .double value
  | .string value => .string value
  | .object none => .null
  | .object (some id) => .object id
  | .list ids => .array none (ids.map .object)
  | .record value => .record value
  | .variant value => value.toValue
  | .script value => value

end Native

namespace Boxed

/-- The script form of a result. -/
def toValue : Boxed → Value
  | .dynamic value => value
  | .native _ value _ => value.toValue

end Boxed

end PropertyBinding
