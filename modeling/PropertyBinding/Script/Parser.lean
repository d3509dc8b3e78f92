import PropertyBinding.Script.Expr
import PropertyBinding.Script.Lexer

namespace PropertyBinding
namespace Script

/-!
# Parsing

A recursive descent over the grammar

    expression  := arrow | conditional
    arrow       := (name | "(" [name {"," name}] ")") "=>" expression
    conditional := or ["?" expression ":" expression]
    or          := and {"||" and}
    and         := equality {"&&" equality}
    equality    := comparison {("===" | "!==" | "==" | "!=") comparison}
    comparison  := additive {("<=" | ">=" | "<" | ">") additive}
    additive    := product {("+" | "-") product}
    product     := unary {("*" | "/" | "%") unary}
    unary       := ("!" | "-" | "+") unary | suffixed
    suffixed    := primary {"." name | "[" expression "]" | "(" [expression {"," expression}] ")"}
    primary     := number | string | name | "(" expression ")"
                 | "[" [expression {"," expression}] "]"

Each level is a function of the level below, and the levels together are a
function of the parser for the expressions nested inside.  A nested expression
is strictly shorter than the one around it, so the length of the input bounds
the nesting, and likewise the length of the rest bounds a chain of operators.

A parser that fails returns the tokens at whose front it had to give up.
-/

namespace Parser

/-- Reads a phrase at the front of the tokens and returns it with the tokens after it. -/
abbrev Parse (α : Type) : Type :=
  List Token → Except (List Token) (α × List Token)

/-- The tokens after a punctuator, when it comes first. -/
def eat? (punct : Punct) : List Token → Option (List Token)
  | ⟨.punct first, _⟩ :: rest => if first = punct then some rest else none
  | _ => none

/-- The tokens after a punctuator that has to come first. -/
def expect (punct : Punct) (tokens : List Token) : Except (List Token) (List Token) :=
  match eat? punct tokens with
  | some rest => .ok rest
  | none => .error tokens

/-- The names after the opening bracket of an arrow's parameters, and the tokens after the closing one. -/
def parameters? : List Token → Option (List String × List Token)
  | ⟨.name name, _⟩ :: ⟨.punct .closeParen, _⟩ :: rest => some ([name], rest)
  | ⟨.name name, _⟩ :: ⟨.punct .comma, _⟩ :: rest =>
      (parameters? rest).map fun (names, after) => (name :: names, after)
  | _ => none

/-- The parameters of an arrow function and the tokens after its arrow. -/
def arrowHead? : List Token → Option (List String × List Token)
  | ⟨.name name, _⟩ :: rest => (eat? .arrow rest).map fun after => ([name], after)
  | ⟨.punct .openParen, _⟩ :: ⟨.punct .closeParen, _⟩ :: rest =>
      (eat? .arrow rest).map fun after => ([], after)
  | ⟨.punct .openParen, _⟩ :: rest => do
      let (names, after) ← parameters? rest
      (eat? .arrow after).map fun after => (names, after)
  | _ => none

/-- The operators of one level, each with the tree it builds. -/
abbrev Operators : Type := List (Punct × (Expr → Expr → Expr))

/-- The operator of a level that comes first, and the tokens after it. -/
def operatorAt? (operators : Operators) :
    List Token → Option ((Expr → Expr → Expr) × List Token)
  | ⟨.punct first, _⟩ :: rest =>
      (operators.find? fun (punct, _) => punct = first).map fun (_, build) => (build, rest)
  | _ => none

/-- Extends a left operand by at most `bound` operators of one level. -/
def chainFrom (operators : Operators) (operand : Parse Expr) : Nat → Expr → Parse Expr
  | 0, left, tokens => .ok (left, tokens)
  | bound + 1, left, tokens =>
      match operatorAt? operators tokens with
      | none => .ok (left, tokens)
      | some (build, rest) => do
          let (right, after) ← operand rest
          chainFrom operators operand bound (build left right) after

/-- Operands joined by the operators of one level, grouped to the left. -/
def chain (operators : Operators) (operand : Parse Expr) : Parse Expr := fun tokens => do
  let (left, rest) ← operand tokens
  chainFrom operators operand rest.length left rest

/-- The items up to a closing bracket, at least one and at most `bound`. -/
def itemsFrom (item : Parse Expr) (close : Punct) : Nat → Parse (List Expr)
  | 0, tokens => .error tokens
  | bound + 1, tokens => do
      let (first, rest) ← item tokens
      match eat? close rest with
      | some after => .ok ([first], after)
      | none => do
          let after ← expect .comma rest
          let (items, last) ← itemsFrom item close bound after
          .ok (first :: items, last)

/-- The items up to a closing bracket. -/
def items (item : Parse Expr) (close : Punct) : Parse (List Expr) := fun tokens =>
  match eat? close tokens with
  | some after => .ok ([], after)
  | none => itemsFrom item close tokens.length tokens

/-- Whole numbers that fit a word are words, and all others are doubles. -/
def numberLiteral (value : Float) : Literal :=
  match Number.word? value with
  | some word => .int word
  | none => .double value

/-- What a name stands for on its own. -/
def nameExpr : String → Expr
  | "true" => .literal (.bool true)
  | "false" => .literal (.bool false)
  | "null" => .literal .null
  | "undefined" => .literal .undefined
  | "this" => .this
  | name => .name name

/-- A constant, a name, a bracketed expression or an array. -/
def primary (nested : Parse Expr) : Parse Expr
  | ⟨.number value, _⟩ :: rest => .ok (.literal (numberLiteral value), rest)
  | ⟨.string value, _⟩ :: rest => .ok (.literal (.string value), rest)
  | ⟨.name name, _⟩ :: rest => .ok (nameExpr name, rest)
  | ⟨.punct .openParen, _⟩ :: rest => do
      let (inner, after) ← nested rest
      let last ← expect .closeParen after
      .ok (inner, last)
  | ⟨.punct .openBracket, _⟩ :: rest => do
      let (inner, after) ← items nested .closeBracket rest
      .ok (.array inner, after)
  | tokens => .error tokens

/-- Extends an expression by at most `bound` member accesses, indexings and calls. -/
def suffixesFrom (nested : Parse Expr) : Nat → Expr → Parse Expr
  | 0, expr, tokens => .ok (expr, tokens)
  | bound + 1, expr, tokens =>
      match tokens with
      | ⟨.punct .dot, _⟩ :: rest =>
          match rest with
          | ⟨.name name, _⟩ :: after => suffixesFrom nested bound (.member expr name) after
          | _ => .error rest
      | ⟨.punct .openBracket, _⟩ :: rest => do
          let (key, after) ← nested rest
          let last ← expect .closeBracket after
          suffixesFrom nested bound (.index expr key) last
      | ⟨.punct .openParen, _⟩ :: rest => do
          let (arguments, after) ← items nested .closeParen rest
          suffixesFrom nested bound (.call expr arguments) after
      | _ => .ok (expr, tokens)

/-- A primary expression and all that is applied to it. -/
def suffixed (nested : Parse Expr) : Parse Expr := fun tokens => do
  let (expr, rest) ← primary nested tokens
  suffixesFrom nested rest.length expr rest

/-- The operator with one operand that a punctuator stands for. -/
def unaryOp? : Punct → Option UnaryOp
  | .not => some .not
  | .minus => some .negate
  | .plus => some .plus
  | _ => none

/-- An expression with its leading operators. -/
def unary (nested : Parse Expr) : Parse Expr
  | [] => suffixed nested []
  | ⟨kind, position⟩ :: rest =>
      match kind with
      | .punct punct =>
          match unaryOp? punct with
          | some operator => do
              let (operand, after) ← unary nested rest
              .ok (.unary operator operand, after)
          | none => suffixed nested (⟨kind, position⟩ :: rest)
      | _ => suffixed nested (⟨kind, position⟩ :: rest)

/-- The operators of each level, from the tightest to the loosest. -/
def levels : List Operators :=
  [ [(.times, .binary .multiply), (.divide, .binary .divide), (.percent, .binary .remainder)],
    [(.plus, .binary .add), (.minus, .binary .subtract)],
    [(.lessEqual, .binary .lessEqual), (.greaterEqual, .binary .greaterEqual),
      (.less, .binary .less), (.greater, .binary .greater)],
    [(.strictEqual, .binary .strictEqual), (.strictUnequal, .binary .strictUnequal),
      (.equal, .binary .equal), (.unequal, .binary .unequal)],
    [(.and, .and)],
    [(.or, .or)] ]

/-- The operands of a conditional: every level of operators over the unary expressions. -/
def operand (nested : Parse Expr) : Parse Expr :=
  levels.foldl (fun tighter operators => chain operators tighter) (unary nested)

/-- A choice between two expressions, or just its test. -/
def conditional (nested : Parse Expr) : Parse Expr := fun tokens => do
  let (test, rest) ← operand nested tokens
  match eat? .question rest with
  | none => .ok (test, rest)
  | some after => do
      let (yes, rest) ← nested after
      let after ← expect .colon rest
      let (no, rest) ← nested after
      .ok (.conditional test yes no, rest)

/-- An expression at most `bound` deep, in the text at an address. -/
def expressionWithin (url : String) : Nat → Parse Expr
  | 0, tokens => .error tokens
  | bound + 1, tokens =>
      match arrowHead? tokens, tokens with
      | some (parameters, rest), ⟨_, position⟩ :: _ => do
          let (body, after) ← expressionWithin url bound rest
          .ok (.arrow parameters body (.ofPosition url position), after)
      | _, _ => conditional (expressionWithin url bound) tokens

/-- An expression in the text at an address. -/
def expression (url : String) : Parse Expr := fun tokens =>
  expressionWithin url (tokens.length + 1) tokens

/-- An expression that takes up all the tokens. -/
def program (url : String) (tokens : List Token) : Except (List Token) Expr := do
  let (expr, rest) ← expression url tokens
  if rest.isEmpty then .ok expr else .error rest

end Parser

/-- The source of an expression: its text, its address and the line it starts on. -/
structure Source where
  text : String
  url : String
  line : Nat
deriving Repr, DecidableEq

/-- A compiled expression with the name and the place it is known by. -/
structure Compiled where
  name : String
  location : Location
  expr : Expr

namespace Source

/-- Where the text starts; a line before the first counts as the first. -/
def start (source : Source) : Position :=
  ⟨max source.line 1, 1⟩

/-- The error for a parse that stopped at some tokens of a stream. -/
def errorAt (source : Source) (stream : TokenStream) : List Token → CompileError
  | [] => ⟨.unexpectedEnd, .ofPosition source.url stream.finish⟩
  | token :: _ => ⟨.unexpectedToken token.kind, .ofPosition source.url token.position⟩

/--
Compiles a source.  The result is named by the text without the blanks around
it and placed where its first token stands.
-/
def compile (source : Source) : Except CompileError Compiled :=
  match Lexer.tokens source.start source.text.toList with
  | .error (cause, position) => .error ⟨cause, .ofPosition source.url position⟩
  | .ok stream =>
      match Parser.program source.url stream.tokens with
      | .error rest => .error (source.errorAt stream rest)
      | .ok expr =>
          let first := (stream.tokens.head?.map (·.position)).getD stream.finish
          .ok ⟨Text.trim source.text, .ofPosition source.url first, expr⟩

end Source

end Script
end PropertyBinding
