import PropertyBinding.Object.Id

namespace PropertyBinding

/-!
# Errors of property access

Why a property could not be read, written, reset or pointed elsewhere.
-/

/-- Why an access to a property failed. -/
inductive PropertyError where
  /-- The object is dead, or there never was one. -/
  | destroyed (id : ObjectId)
  | unknownProperty (className property : String)
  /-- An alias without a target, or with a dead one. -/
  | unresolvedAlias (property : String)
  /-- An alias whose chain is longer than the bound. -/
  | aliasCycle (property : String)
  | typeMismatch (property expected : String)
  | notResettable (property : String)
  | unknownField (property : String) (field : Nat)
deriving Repr, DecidableEq

namespace PropertyError

/-- The short name of a cause. -/
def name : PropertyError → String
  | .destroyed _ => "Destroyed"
  | .unknownProperty _ _ => "UnknownProperty"
  | .unresolvedAlias _ => "UnresolvedAlias"
  | .aliasCycle _ => "AliasCycle"
  | .typeMismatch _ _ => "TypeMismatch"
  | .notResettable _ => "NotResettable"
  | .unknownField _ _ => "UnknownField"

/-- The message for a failed access. -/
def message : PropertyError → String
  | .destroyed id => s!"object {id.text} has been destroyed"
  | .unknownProperty className property => s!"{className} has no property '{property}'"
  | .unresolvedAlias property => s!"alias '{property}' is unresolved"
  | .aliasCycle property => s!"alias '{property}' forms a cycle"
  | .typeMismatch property expected =>
      s!"property '{property}' expects a value of type {expected}"
  | .notResettable property => s!"property '{property}' cannot be reset"
  | .unknownField property field => s!"property '{property}' has no field {field}"

end PropertyError

end PropertyBinding
