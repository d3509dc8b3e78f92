import PropertyBinding.Engine.Property
import PropertyBinding.Script.Operator

namespace PropertyBinding
namespace Script

/-!
# Evaluation

The meaning of expressions.  An expression is evaluated in the scope and with
the `this` of a call, under the values of the parameters around it.  Whatever it
reads is told to the collector, also when the evaluation ends with an exception.
-/

/-- An evaluation, which can end with an exception. -/
abbrev Evaluation (σ : Type) : Type → Type := Attempt Exception σ

/-- The function that evaluates a compiled expression. -/
def Compiled.function (compiled : Compiled) (identity : Nat) : Function :=
  .mk identity compiled.name compiled.location (.script [] compiled.expr [])

namespace Evaluation

variable {σ α : Type}

/-- A property access as part of an evaluation. -/
def access (attempt : Attempt PropertyError σ α) : Evaluation σ α :=
  ExceptT.adapt .property attempt

/-- What conversions have to know about the graph. -/
def context : Engine σ TypeContext := do
  return (← Engine.graph).context

/-- The function that source text compiles to. -/
def compile (source : Source) : Attempt CompileError σ Function := do
  match source.compile with
  | .ok compiled => return compiled.function (← Attempt.perform Engine.freshIdentity)
  | .error error => throw error

/-! ## What a function sees -/

/-- The value of an object's property, `undefined` where there is none of the name. -/
def objectMember (id : ObjectId) (name : String) : Evaluation σ Value := do
  let graph ← Attempt.perform Engine.graph
  if graph.isAlive id then
    match graph.propertyIndex id name with
    | .ok index => access (Engine.readValue ⟨id, index⟩)
    | .error _ => return .undefined
  else
    throw (.noMembers name "null")

/-- Assigns a value to an object's property, in the form of the declared type. -/
def assignMember (id : ObjectId) (name : String) (value : Value) : Evaluation σ Unit := do
  let graph ← Attempt.perform Engine.graph
  let index ← access (Attempt.ask fun graph => graph.propertyIndex id name)
  let property ← access (Attempt.ask fun graph => graph.property ⟨id, index⟩)
  match value.toNative graph.context property.type with
  | .ok native => access (Engine.assign ⟨id, index⟩ native)
  | .error error => throw (.conversion error)

/-- The first of some objects that is alive and has a property of a name. -/
def findProperty? (graph : ObjectGraph) (name : String) : List ObjectId → Option PropertyRef
  | [] => none
  | id :: rest =>
      match graph.propertyIndex id name with
      | .ok index => some ⟨id, index⟩
      | .error _ => findProperty? graph name rest

/--
The meaning of a free name: a named object, a notifier, a property of `this`, or
a property of the scope's object, in this order.
-/
def lookup (call : CallContext) (name : String) : Evaluation σ Value := do
  match call.scope.ids.get? name, call.scope.context.get? name with
  | some id, _ => return .object id
  | none, some id => Attempt.perform (Engine.readNotifier id)
  | none, none =>
      let graph ← Attempt.perform Engine.graph
      match findProperty? graph name (call.this?.toList ++ call.scope.object?.toList) with
      | some ref => access (Engine.readValue ref)
      | none => throw (.undefinedName name)

/-- The result of a function in a call. -/
def invoke (callee : Function) (context : CallContext) : Evaluation σ Boxed :=
  ExceptT.mk (Engine.foreign fun outside => outside.call callee context)

/-- Calls a function with another `this` and other arguments. -/
def call (outer : CallContext) (callee : Function) (this? : Option ObjectId)
    (arguments : List Value) : Evaluation σ Value := do
  let result ← invoke callee ⟨outer.scope, this?, arguments⟩
  Attempt.perform (Engine.place result.toValue)

/-! ## Expressions -/

/-- The function that marks functions as binding expressions. -/
def bindingHelper : Engine σ Value := do
  return .function (.mk (← Engine.freshIdentity) "binding" .none .markBinding) false

/-- The meaning of a name: the innermost parameter of the name, or a free name. -/
def name (context : CallContext) (locals : List (String × Value)) (name : String) :
    Evaluation σ Value :=
  match locals.find? fun entry => entry.1 = name with
  | some (_, value) => return value
  | none =>
      if name = "binding" then
        ExceptT.mk do
          match ← (lookup context name).run with
          | .ok value => return .ok value
          | .error _ => return .ok (← bindingHelper)
      else
        lookup context name

/-- The number of characters or items, for the values that have a length. -/
def length? : Value → Option Nat
  | .string value => some value.length
  | .array _ items => some items.length
  | _ => none

/-- A field of a record, `undefined` where there is none of the name. -/
def recordMember (schema : Schema) (record : Record) (name : String) : Value :=
  (((schema.records[record.type]?).bind fun info =>
    (info.field? name).bind (record.fields[·]?)).map numberValue).getD .undefined

/-- A member of a value. -/
def member (value : Value) (name : String) : Evaluation σ Value := do
  let context ← Attempt.perform context
  match value.unwrapped with
  | .object id => objectMember id name
  | .record record => return recordMember context.schema record name
  | other =>
      if other.isNullish then
        throw (.noMembers name (displayValue context other))
      else
        match if name = "length" then length? other else none with
        | some length => return .int (Int32.ofNat length)
        | none => return .undefined

/-- What a key selects from a value: an item of an array, else a member named by the text of the key. -/
def select (value key : Value) : Evaluation σ Value := do
  let context ← Attempt.perform context
  match value with
  | .array _ items => return item items key
  | other => member other (displayValue context key)

/-- The parameters of a function with their values, the last one innermost. -/
def parameterValues (parameters : List String) (context : CallContext) : List (String × Value) :=
  (parameters.zipIdx.map fun (name, index) => (name, context.argument index)).reverse

/-- The object a function is called on: the receiver if it is one, else the `this` of the caller. -/
def receiverObject? (context : CallContext) : Value → Option ObjectId
  | .object id => some id
  | _ => context.this?

/-- The function that a value is, if it is one. -/
def requireFunction (value : Value) : Evaluation σ Function :=
  match value.unwrapped.function? with
  | some callee => return callee
  | none => throw .notAFunction

mutual

/-- The value of an expression. -/
def evaluate (context : CallContext) (locals : List (String × Value)) :
    Expr → Evaluation σ Value
  | .literal constant => return constant.value
  | .array items => do
      let values ← evaluateAll context locals items
      return .array (some (← Attempt.perform Engine.freshIdentity)) values
  | .this => return (context.this?.map .object).getD .undefined
  | .name identifier => name context locals identifier
  | .member object identifier => do
      let value ← evaluate context locals object
      member value identifier
  | .index object key => do
      let value ← evaluate context locals object
      let unwrapped ← Attempt.perform (Engine.place value.unwrapped)
      let selector ← evaluate context locals key
      select unwrapped selector
  | .call (.member object identifier) arguments => do
      let receiver := (← evaluate context locals object).unwrapped
      let callee ← requireFunction (← member receiver identifier)
      let values ← evaluateAll context locals arguments
      call context callee (receiverObject? context receiver) values
  | .call target arguments => do
      let callee ← requireFunction (← evaluate context locals target)
      let values ← evaluateAll context locals arguments
      call context callee context.this? values
  | .unary operator operand => do
      let value ← evaluate context locals operand
      return unary operator value.unwrapped
  | .binary operator left right => do
      let first ← evaluate context locals left
      let second ← evaluate context locals right
      let types ← Attempt.perform Evaluation.context
      return binary types operator first.unwrapped second.unwrapped
  | .and left right => do
      let value ← evaluate context locals left
      if value.truthy then evaluate context locals right else return value
  | .or left right => do
      let value ← evaluate context locals left
      if value.truthy then return value else evaluate context locals right
  | .conditional test yes no => do
      let value ← evaluate context locals test
      if value.truthy then evaluate context locals yes else evaluate context locals no
  | .arrow parameters body location => do
      let identity ← Attempt.perform Engine.freshIdentity
      return .function (.mk identity "<arrow>" location (.script parameters body locals)) false

/-- The values of several expressions in turn. -/
def evaluateAll (context : CallContext) (locals : List (String × Value)) :
    List Expr → Evaluation σ (List Value)
  | [] => return []
  | expr :: rest => do
      let value ← evaluate context locals expr
      let values ← evaluateAll context locals rest
      return value :: values

end

end Evaluation

end Script
end PropertyBinding
