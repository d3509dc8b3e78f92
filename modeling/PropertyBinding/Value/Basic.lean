import PropertyBinding.Object.Id
import PropertyBinding.Schema.Type
import PropertyBinding.Script.Expr

namespace PropertyBinding

/-!
# Values

Three families of values meet in a binding.  `Value` is what scripts compute
with, `Native` is what a property stores, and `Variant` is the native container
that takes any value.  `Boxed` carries either a script value or a native value
of a stated type from an evaluation to the property it is written to.

Functions and arrays have an identity besides their contents.  The identity of
a function is given when the function is made.  A conversion makes an array
without one, and the array gets it when it first enters the world.
-/

/-- The name of a piece of code that scripts and properties can call but that is not a script. -/
abbrev HostId : Type := Nat

/-- An instance of a record type: its fields in declaration order. -/
structure Record where
  type : RecordId
  fields : List Float
deriving DecidableEq

namespace Record

/-- The record of a type with every field zero. -/
def zero (type : RecordId) (count : Nat) : Record :=
  ⟨type, List.replicate count 0⟩

/-- Replaces one field, if the record has it. -/
def setField? (record : Record) (field : Nat) (value : Float) : Option Record :=
  if field < record.fields.length then
    some { record with fields := record.fields.set field value }
  else
    none

end Record

mutual

/-- A value of the script language. -/
inductive Value where
  | undefined
  | null
  | bool (value : Bool)
  | int (value : Int32)
  | double (value : Float)
  | string (value : String)
  | object (id : ObjectId)
  /-- A native container, still wrapped. -/
  | variant (content : Variant)
  | record (value : Record)
  | array (identity : Option Nat) (items : List Value)
  /-- A function; `marked` when it went through the `binding` helper. -/
  | function (function : Function) (marked : Bool)

/-- A native container for any value. -/
inductive Variant where
  | empty
  | null
  | bool (value : Bool)
  | int (value : Int32)
  | double (value : Float)
  | string (value : String)
  | object (id : ObjectId)
  | record (value : Record)
  | list (items : List Variant)
  /-- A script value that has no native form. -/
  | script (value : Value)

/-- A callable thing. -/
inductive Function where
  | mk (identity : Nat) (name : String) (location : Location) (body : FunctionBody)

/-- What a function does when it is called. -/
inductive FunctionBody where
  /-- An expression under the locals it captured, extended by its parameters. -/
  | script (parameters : List String) (expr : Script.Expr) (locals : List (String × Value))
  /-- Marks its argument as a binding expression. -/
  | markBinding
  /-- Host code that returns a script value. -/
  | host (id : HostId)
  /-- Host code that returns a native value of a stated type. -/
  | typed (type : PropertyType) (id : HostId)

end

instance : Inhabited Value := ⟨.undefined⟩
instance : Inhabited Variant := ⟨.empty⟩

namespace Function

/-- What tells one function from another. -/
def identity : Function → Nat
  | .mk identity _ _ _ => identity

/-- The name a function is known by. -/
def name : Function → String
  | .mk _ name _ _ => name

/-- Where a function comes from. -/
def location : Function → Location
  | .mk _ _ location _ => location

/-- What a function does. -/
def body : Function → FunctionBody
  | .mk _ _ _ body => body

/-- The native type a function promises to return, if it promises one. -/
def returnType? (function : Function) : Option PropertyType :=
  match function.body with
  | .typed type _ => some type
  | _ => none

end Function

namespace Value

/-- Whether a value is `undefined`. -/
def isUndefined : Value → Bool
  | .undefined => true
  | _ => false

/-- Whether a value is `undefined` or `null`. -/
def isNullish : Value → Bool
  | .undefined | .null => true
  | _ => false

/-- The function a value is, if it is one. -/
def function? : Value → Option Function
  | .function callee _ => some callee
  | _ => none

/-- The number a value is, if it is one; no conversion takes place. -/
def number? : Value → Option Float
  | .int value => some (Float.ofInt value.toInt)
  | .double value => some value
  | _ => none

/-- Whether a condition takes a value as true.  A wrapped container is true unless it is empty or null. -/
def truthy : Value → Bool
  | .undefined | .null => false
  | .bool value => value
  | .int value => value != 0
  | .double value => value != 0 && !value.isNaN
  | .string value => !value.isEmpty
  | .variant .empty | .variant .null => false
  | _ => true

end Value

namespace Variant

/-- Whether a container holds nothing. -/
def isEmpty : Variant → Bool
  | .empty => true
  | _ => false

end Variant

/-- A value stored in a property. -/
inductive Native where
  | bool (value : Bool)
  | int (value : Int32)
  | float (value : Float32)
  | double (value : Float)
  | string (value : String)
  | enum (value : Int32)
  | object (id : Option ObjectId)
  | list (ids : List ObjectId)
  | record (value : Record)
  | variant (value : Variant)
  /-- A boxed script value, also the form in which an open slot is read. -/
  | script (value : Value)

instance : Inhabited Native := ⟨.bool false⟩

namespace Native

/-- Whether a value has the shape a type asks for; the classes of objects do not count. -/
def fits : Native → PropertyType → Bool
  | .bool _, .bool | .int _, .int | .float _, .float | .double _, .double
  | .string _, .string | .enum _, .enum _ | .object _, .object _ | .list _, .list _
  | .variant _, .variant | .script _, .script | .script _, .var => true
  | .record value, .record id => value.type = id
  | _, _ => false

end Native

/-- The result of an evaluation: a script value, or a native value of a stated type. -/
inductive Boxed where
  | dynamic (value : Value)
  /-- A native value; `shared` when its storage belongs to someone else as well. -/
  | native (type : PropertyType) (value : Native) (shared : Bool)

namespace Boxed

/-- Whether the result is the script value `undefined`. -/
def isUndefined : Boxed → Bool
  | .dynamic value => value.isUndefined
  | .native _ _ _ => false

/-- The native value of a result that has a type. -/
def native? : Boxed → Option Native
  | .dynamic _ => none
  | .native _ value _ => some value

end Boxed

end PropertyBinding
