import PropertyBinding.Object.Error
import PropertyBinding.Value.Conversion

namespace PropertyBinding
namespace Script

/-!
# Exceptions

Why the evaluation of an expression stopped without a value.
-/

/-- Why an evaluation stopped. -/
inductive Exception where
  | undefinedName (name : String)
  /-- A member of something that has none; `shown` is the text of what was there instead. -/
  | noMembers (name shown : String)
  | notAFunction
  /-- The `binding` helper was given something else than a function. -/
  | notABindingExpression
  | property (error : PropertyError)
  | conversion (error : ConversionError)
  /-- A function with a promised type returned something of another shape. -/
  | brokenPromise (function type : String)
  /-- Thrown by host code. -/
  | thrown (message : String)
deriving Repr, DecidableEq

namespace Exception

/-- The message of an exception. -/
def message : Exception → String
  | .undefinedName name => s!"ReferenceError: {name} is not defined"
  | .noMembers name shown => s!"TypeError: Cannot read property '{name}' of {shown}"
  | .notAFunction => "TypeError: value is not a function"
  | .notABindingExpression =>
      "TypeError: binding(): argument (binding expression) must be a function"
  | .property error => s!"TypeError: {error.message}"
  | .conversion error => s!"TypeError: {error.message}"
  | .brokenPromise function type =>
      s!"TypeError: {function} returned a value that is not a {type}"
  | .thrown message => message

end Exception

end Script
end PropertyBinding
