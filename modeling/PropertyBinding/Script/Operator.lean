import PropertyBinding.Value.Conversion
import PropertyBinding.Value.Equality

namespace PropertyBinding
namespace Script

/-!
# Operators on values

The arithmetic, comparison, equality and text of script values.  Words are
combined exactly as long as the result is a word and is not a negative zero;
every other number is computed as a double.
-/

/-- A number as scripts hold it: a word where there is one, else a double. -/
def numberValue (number : Float) : Value :=
  match Number.word? number with
  | some word => .int word
  | none => .double number

/-- The double that is not a number. -/
def notANumber : Float := 0 / 0

/-- The number an operand counts as. -/
def toNumber (value : Value) : Float :=
  match value.core with
  | .int value => Number.ofInt32 value
  | .double value => value
  | .bool value => if value then 1 else 0
  | .null => 0
  | .string value => (Number.readText? value).getD notANumber
  | _ => notANumber

mutual

/-- The text of a value. -/
def displayValue (context : TypeContext) : Value → String
  | .undefined => "undefined"
  | .null => "null"
  | .bool value => if value then "true" else "false"
  | .int value => toString value.toInt
  | .double value => Number.toText value
  | .string value => value
  | .object id => "[object " ++ Value.objectTypeName context id ++ "]"
  | .variant content => displayVariant context content
  | .record value => (Value.record value).typeName context
  | .array _ items => String.intercalate "," (displayValues context items)
  | .function callee _ => "function " ++ callee.name ++ "() \x7b [code] \x7d"

/-- The texts of several values. -/
def displayValues (context : TypeContext) : List Value → List String
  | [] => []
  | item :: rest => displayValue context item :: displayValues context rest

/-- The text of a container's content. -/
def displayVariant (context : TypeContext) : Variant → String
  | .empty => "undefined"
  | .null => "null"
  | .bool value => if value then "true" else "false"
  | .int value => toString value.toInt
  | .double value => Number.toText value
  | .string value => value
  | .object id => "[object " ++ Value.objectTypeName context id ++ "]"
  | .record value => (Value.record value).typeName context
  | .list items => String.intercalate "," (displayVariants context items)
  | .script value => displayValue context value

/-- The texts of the contents of several containers. -/
def displayVariants (context : TypeContext) : List Variant → List String
  | [] => []
  | item :: rest => displayVariant context item :: displayVariants context rest

end

/-- Whether a value is a number, as it stands. -/
def isNumber : Value → Bool
  | .int _ | .double _ => true
  | _ => false

/-- The `===` of two values: numbers by value, arrays by identity, all others as equal values. -/
def strictEquals (left right : Value) : Bool :=
  match left, right with
  | .array (some first) _, .array (some second) _ => first = second
  | .array _ _, .array _ _ => false
  | _, _ =>
      if isNumber left && isNumber right then
        toNumber left == toNumber right
      else
        left.same right

/-- Whether two values are a number and a text or truth value, or a text and a truth value. -/
def comparesAsNumbers : Value → Value → Bool
  | .string _, .int _ | .string _, .double _ | .bool _, .int _ | .bool _, .double _
  | .int _, .string _ | .double _, .string _ | .int _, .bool _ | .double _, .bool _
  | .bool _, .string _ | .string _, .bool _ => true
  | _, _ => false

/-- The `==` of two values: `undefined` and `null` are alike, and mixed values compare as numbers. -/
def looseEquals (left right : Value) : Bool :=
  if left.isNullish || right.isNullish then
    left.isNullish && right.isNullish
  else if comparesAsNumbers left right then
    toNumber left == toNumber right
  else
    strictEquals left right

/-- The exact result on two words, where it is a word with the right sign of zero. -/
def wordArithmetic? (operator : BinaryOp) (left right : Int32) : Option Int32 :=
  let x := left.toInt
  let y := right.toInt
  match operator with
  | .add => Number.wordOfInt? (x + y)
  | .subtract => Number.wordOfInt? (x - y)
  | .multiply =>
      if x * y ≠ 0 ∨ (0 ≤ x ∧ 0 ≤ y) then Number.wordOfInt? (x * y) else none
  | .divide => if y ≠ 0 ∧ x.tmod y = 0 then Number.wordOfInt? (x.tdiv y) else none
  | .remainder => if 0 ≤ x ∧ y ≠ 0 then Number.wordOfInt? (x.tmod y) else none
  | _ => none

/-- The result on two doubles. -/
def doubleArithmetic (operator : BinaryOp) (left right : Float) : Float :=
  match operator with
  | .add => left + right
  | .subtract => left - right
  | .multiply => left * right
  | .divide => left / right
  | _ => Number.remainder left right

/-- An arithmetic operator on two values. -/
def arithmetic (operator : BinaryOp) (left right : Value) : Value :=
  let asDoubles := numberValue (doubleArithmetic operator (toNumber left) (toNumber right))
  match left, right with
  | .int x, .int y => ((wordArithmetic? operator x y).map .int).getD asDoubles
  | _, _ => asDoubles

/-- An order operator on two values: texts by code points, all others as numbers. -/
def compare (operator : BinaryOp) (left right : Value) : Bool :=
  match left, right with
  | .string x, .string y =>
      match operator with
      | .less => decide (x < y)
      | .lessEqual => !decide (y < x)
      | .greater => decide (y < x)
      | _ => !decide (x < y)
  | _, _ =>
      let x := toNumber left
      let y := toNumber right
      match operator with
      | .less => decide (x < y)
      | .lessEqual => decide (x ≤ y)
      | .greater => decide (y < x)
      | _ => decide (y ≤ x)

/-- Whether a value is a text. -/
def isText : Value → Bool
  | .string _ => true
  | _ => false

/-- An operator on the values of its two operands. -/
def binary (context : TypeContext) (operator : BinaryOp) (left right : Value) : Value :=
  match operator with
  | .add =>
      if isText left || isText right then
        .string (displayValue context left ++ displayValue context right)
      else
        arithmetic .add left right
  | .subtract | .multiply | .divide | .remainder => arithmetic operator left right
  | .less | .lessEqual | .greater | .greaterEqual => .bool (compare operator left right)
  | .equal => .bool (looseEquals left right)
  | .unequal => .bool (!looseEquals left right)
  | .strictEqual => .bool (strictEquals left right)
  | .strictUnequal => .bool (!strictEquals left right)

/-- The word with the opposite sign, except that zero and the least word have none. -/
def negatedWord? (word : Int32) : Option Int32 :=
  if word = 0 then none else Number.wordOfInt? (-word.toInt)

/-- An operator on the value of its operand. -/
def unary (operator : UnaryOp) (value : Value) : Value :=
  match operator, value with
  | .not, _ => .bool (!value.truthy)
  | .plus, .int _ => value
  | .plus, _ => numberValue (toNumber value)
  | .negate, .int word =>
      ((negatedWord? word).map .int).getD (numberValue (-Number.ofInt32 word))
  | .negate, _ => numberValue (-toNumber value)

/-- The item of an array that a key names, `undefined` where there is none. -/
def item (items : List Value) (key : Value) : Value :=
  let number := toNumber key
  if Number.isWhole number && decide (0 ≤ number) then
    items[(Number.truncated number).toNat]?.getD .undefined
  else
    .undefined

/-- The value of a constant. -/
def Literal.value : Literal → Value
  | .undefined => .undefined
  | .null => .null
  | .bool value => .bool value
  | .int value => .int value
  | .double value => .double value
  | .string value => .string value

end Script
end PropertyBinding
