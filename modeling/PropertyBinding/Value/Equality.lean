import PropertyBinding.Value.Basic

namespace PropertyBinding

/-!
# Equality of values

The equality that decides whether a property has changed.  Numbers compare as
numbers, so the two zeros are equal and a value that is not a number differs
from itself.  Arrays compare item by item and functions by identity.
-/

namespace Record

/-- Records of one type whose fields are equal as numbers. -/
def same (left right : Record) : Bool :=
  left.type = right.type && left.fields == right.fields

end Record

namespace Function

/-- Whether two values are one and the same function. -/
def same (left right : Function) : Bool :=
  left.identity = right.identity

end Function

mutual

/-- Whether two script values are equal. -/
def Value.same : Value → Value → Bool
  | .undefined, .undefined | .null, .null => true
  | .bool left, .bool right => left = right
  | .int left, .int right => left = right
  | .double left, .double right => left == right
  | .string left, .string right => left = right
  | .object left, .object right => left = right
  | .variant left, .variant right => Variant.same left right
  | .record left, .record right => left.same right
  | .array _ left, .array _ right => Value.sameAll left right
  | .function left leftMarked, .function right rightMarked =>
      leftMarked = rightMarked && left.same right
  | _, _ => false

/-- Whether two lists of script values are equal item by item. -/
def Value.sameAll : List Value → List Value → Bool
  | [], [] => true
  | left :: lefts, right :: rights => Value.same left right && Value.sameAll lefts rights
  | _, _ => false

/-- Whether two containers are equal. -/
def Variant.same : Variant → Variant → Bool
  | .empty, .empty | .null, .null => true
  | .bool left, .bool right => left = right
  | .int left, .int right => left = right
  | .double left, .double right => left == right
  | .string left, .string right => left = right
  | .object left, .object right => left = right
  | .record left, .record right => left.same right
  | .list left, .list right => Variant.sameAll left right
  | .script left, .script right => Value.same left right
  | _, _ => false

/-- Whether two lists of containers are equal item by item. -/
def Variant.sameAll : List Variant → List Variant → Bool
  | [], [] => true
  | left :: lefts, right :: rights => Variant.same left right && Variant.sameAll lefts rights
  | _, _ => false

end

namespace Native

/-- Whether two stored values are equal. -/
def same : Native → Native → Bool
  | .bool left, .bool right => left = right
  | .int left, .int right => left = right
  | .float left, .float right => left == right
  | .double left, .double right => left == right
  | .string left, .string right => left = right
  | .enum left, .enum right => left = right
  | .object left, .object right => left = right
  | .list left, .list right => left = right
  | .record left, .record right => left.same right
  | .variant left, .variant right => left.same right
  | .script left, .script right => left.same right
  | _, _ => false

end Native

end PropertyBinding
