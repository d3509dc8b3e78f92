import PropertyBinding.Script.Location

namespace PropertyBinding
namespace Script

/-!
# Expressions

The syntax tree of the expression language.
-/

/-- A constant written in source text. -/
inductive Literal where
  | undefined
  | null
  | bool (value : Bool)
  | int (value : Int32)
  | double (value : Float)
  | string (value : String)
deriving DecidableEq

/-- The operators with one operand. -/
inductive UnaryOp where
  | negate | plus | not
deriving Repr, DecidableEq

/-- The operators with two operands that evaluate both. -/
inductive BinaryOp where
  | add | subtract | multiply | divide | remainder
  | less | lessEqual | greater | greaterEqual
  | equal | unequal | strictEqual | strictUnequal
deriving Repr, DecidableEq

/-- An expression. -/
inductive Expr where
  | literal (value : Literal)
  | array (items : List Expr)
  | this
  | name (name : String)
  | member (object : Expr) (name : String)
  | index (object key : Expr)
  | call (callee : Expr) (arguments : List Expr)
  | unary (operator : UnaryOp) (operand : Expr)
  | binary (operator : BinaryOp) (left right : Expr)
  | and (left right : Expr)
  | or (left right : Expr)
  | conditional (test yes no : Expr)
  | arrow (parameters : List String) (body : Expr) (location : Location)

end Script
end PropertyBinding
