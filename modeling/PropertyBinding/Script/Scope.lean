import PropertyBinding.Notification.Channel
import PropertyBinding.Text.Quoted

namespace PropertyBinding
namespace Script

/-!
# Scopes and calls

A scope gives the free names of an expression a meaning: named objects,
notifiers, and an object whose properties are names.  A call adds the object
that `this` is and the arguments.
-/

/-- What the free names of an expression mean. -/
structure Scope where
  ids : Entries String ObjectId := .empty
  context : Entries String NotifierId := .empty
  /-- The object whose properties are names as well. -/
  object? : Option ObjectId := none

namespace Scope

/-- The scope in which no name has a meaning. -/
def empty : Scope := {}

/-- The scope with another named object. -/
def withId (scope : Scope) (name : String) (id : ObjectId) : Scope :=
  { scope with ids := scope.ids.put name id }

/-- The scope with another named notifier. -/
def withNotifier (scope : Scope) (name : String) (id : NotifierId) : Scope :=
  { scope with context := scope.context.put name id }

/-- The scope with another object whose properties are names. -/
def withObject (scope : Scope) (id : ObjectId) : Scope :=
  { scope with object? := some id }

end Scope

/-- An optional object id as tools show it. -/
def describeObject : Option ObjectId → String
  | none => "None"
  | some id => "Some(" ++ id.describe ++ ")"

/-- Some names as tools show them: quoted, in order. -/
def describeNames (names : List String) : String :=
  let sorted := names.mergeSort fun left right => !decide (right < left)
  "[" ++ String.intercalate ", " (sorted.map Text.shown) ++ "]"

/-- A scope as tools show it. -/
def Scope.describe (scope : Scope) : String :=
  "Scope \x7b ids: " ++ describeNames scope.ids.keys ++ ", context: "
    ++ describeNames scope.context.keys ++ ", context_object: " ++ describeObject scope.object?
    ++ " \x7d"

/-- Everything a function sees while it runs. -/
structure CallContext where
  scope : Scope
  this? : Option ObjectId
  arguments : List Value

namespace CallContext

/-- An argument; one that is missing is `undefined`. -/
def argument (call : CallContext) (index : Nat) : Value :=
  call.arguments[index]?.getD .undefined

/-- A call as tools show it. -/
def describe (call : CallContext) : String :=
  "CallContext \x7b this: " ++ describeObject call.this? ++ ", args: "
    ++ toString call.arguments.length ++ " \x7d"

end CallContext

end Script
end PropertyBinding
