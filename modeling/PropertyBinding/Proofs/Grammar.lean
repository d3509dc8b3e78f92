import Mathlib
import PropertyBinding.Script.Parser

namespace PropertyBinding
namespace Script

/-!
# The grammar of expressions

A derivation is a tree whose inner nodes are the rules of the grammar

    expression  := arrow | conditional
    arrow       := (name | "(" [name {"," name}] ")") "=>" expression
    conditional := or ["?" expression ":" expression]
    or          := and {"||" and}
    and         := equality {"&&" equality}
    equality    := comparison {("===" | "!==" | "==" | "!=") comparison}
    comparison  := additive {("<=" | ">=" | "<" | ">") additive}
    additive    := product {("+" | "-") product}
    product     := unary {("*" | "/" | "%") unary}
    unary       := ("!" | "-" | "+") unary | suffixed
    suffixed    := primary {"." name | "[" expression "]" | "(" [expression {"," expression}] ")"}
    primary     := number | string | name | "(" expression ")"
                 | "[" [expression {"," expression}] "]"

and whose leaves are tokens.  It yields its leaves from left to right, and it stands for an
expression.  The grammar says nothing about how a derivation is found.
-/

/-! ## Operators -/

/-- An operator between two operands. -/
inductive Infix where
  | binary (operator : BinaryOp)
  | and
  | or
deriving DecidableEq

namespace Infix

/-- How an operator is written. -/
def punct : Infix → Punct
  | .binary .multiply => .times
  | .binary .divide => .divide
  | .binary .remainder => .percent
  | .binary .add => .plus
  | .binary .subtract => .minus
  | .binary .lessEqual => .lessEqual
  | .binary .greaterEqual => .greaterEqual
  | .binary .less => .less
  | .binary .greater => .greater
  | .binary .strictEqual => .strictEqual
  | .binary .strictUnequal => .strictUnequal
  | .binary .equal => .equal
  | .binary .unequal => .unequal
  | .and => .and
  | .or => .or

/-- How loosely an operator binds, from the products up to the alternatives. -/
def level : Infix → Nat
  | .binary .multiply | .binary .divide | .binary .remainder => 0
  | .binary .add | .binary .subtract => 1
  | .binary .lessEqual | .binary .greaterEqual | .binary .less | .binary .greater => 2
  | .binary .strictEqual | .binary .strictUnequal | .binary .equal | .binary .unequal => 3
  | .and => 4
  | .or => 5

/-- The expression an operator makes of its operands. -/
def build : Infix → Expr → Expr → Expr
  | .binary operator => .binary operator
  | .and => .and
  | .or => .or

/-- Every operator, from the tightest level to the loosest. -/
def all : List Infix :=
  [.binary .multiply, .binary .divide, .binary .remainder, .binary .add, .binary .subtract,
    .binary .lessEqual, .binary .greaterEqual, .binary .less, .binary .greater,
    .binary .strictEqual, .binary .strictUnequal, .binary .equal, .binary .unequal, .and, .or]

/-- No two operators are written alike. -/
theorem punct_inj {operator operator' : Infix} (same : operator.punct = operator'.punct) :
    operator = operator' := by
  rcases operator with operator | _ | _ <;> rcases operator' with operator' | _ | _ <;>
    (try cases operator) <;> (try cases operator') <;> first | rfl | cases same

end Infix

/-- How an operator in front of its operand is written. -/
def UnaryOp.punct : UnaryOp → Punct
  | .not => .not
  | .negate => .minus
  | .plus => .plus

/-- What several expressions can stand in. -/
inductive Bracket where
  | round
  | square

/-- What a bracket ends with. -/
def Bracket.close : Bracket → Punct
  | .round => .closeParen
  | .square => .closeBracket

/-! ## Heads of functions -/

/-- A punctuator at a position. -/
abbrev mark (punct : Punct) (position : Position) : Token :=
  ⟨.punct punct, position⟩

/-- Names with commas between them. -/
inductive Names where
  | one (name : String) (position : Position)
  | more (name : String) (position comma : Position) (rest : Names)

/-- The parameters of a function and its arrow. -/
inductive ArrowHead where
  | bare (name : String) (position arrow : Position)
  | none (opening closing arrow : Position)
  | some (opening : Position) (names : Names) (closing arrow : Position)

namespace Names

/-- The tokens of some names. -/
def yield : Names → List Token
  | .one name position => [⟨.name name, position⟩]
  | .more name position comma rest => ⟨.name name, position⟩ :: mark .comma comma :: rest.yield

/-- The names without their places. -/
def names : Names → List String
  | .one name _ => [name]
  | .more name _ _ rest => name :: rest.names

end Names

namespace ArrowHead

/-- The tokens of a head. -/
def yield : ArrowHead → List Token
  | .bare name position arrow => [⟨.name name, position⟩, mark .arrow arrow]
  | .none opening closing arrow =>
      [mark .openParen opening, mark .closeParen closing, mark .arrow arrow]
  | .some opening names closing arrow =>
      mark .openParen opening :: (names.yield ++ [mark .closeParen closing, mark .arrow arrow])

/-- The parameters of the function. -/
def parameters : ArrowHead → List String
  | .bare name _ _ => [name]
  | .none _ _ _ => []
  | .some _ names _ _ => names.names

/-- Where the function begins. -/
def position : ArrowHead → Position
  | .bare _ position _ => position
  | .none opening _ _ => opening
  | .some opening _ _ _ => opening

end ArrowHead

/-! ## Derivations -/

/--
The phrases of the grammar.  The operands at level zero are the unary expressions, and at each
further level those of the level before with its operators between them; the links are an
operator of a level and an operand each.  Items come with the bracket that ends them.
-/
inductive Phrase where
  | expression
  | conditional
  | operand (level : Nat)
  | links (level : Nat)
  | suffixed
  | suffixes
  | primary
  | items (bracket : Bracket)
  | itemList (bracket : Bracket)

/-- The derivations of a phrase. -/
inductive Derivation : Phrase → Type where
  | arrow (head : ArrowHead) (body : Derivation .expression) : Derivation .expression
  | plain (inner : Derivation .conditional) : Derivation .expression
  | test (inner : Derivation (.operand 6)) : Derivation .conditional
  | choice (asked : Derivation (.operand 6)) (question : Position) (yes : Derivation .expression)
      (colon : Position) (no : Derivation .expression) : Derivation .conditional
  | unary (operator : UnaryOp) (position : Position) (operand : Derivation (.operand 0)) :
      Derivation (.operand 0)
  | bare (inner : Derivation .suffixed) : Derivation (.operand 0)
  | chain {level : Nat} (first : Derivation (.operand level)) (rest : Derivation (.links level)) :
      Derivation (.operand (level + 1))
  | unlinked {level : Nat} : Derivation (.links level)
  | link {level : Nat} (operator : Infix) (at_level : operator.level = level) (position : Position)
      (right : Derivation (.operand level)) (rest : Derivation (.links level)) :
      Derivation (.links level)
  | suffixed (inner : Derivation .primary) (suffixes : Derivation .suffixes) :
      Derivation .suffixed
  | unsuffixed : Derivation .suffixes
  | member (dot : Position) (field : String) (position : Position)
      (rest : Derivation .suffixes) : Derivation .suffixes
  | index (opening : Position) (key : Derivation .expression) (closing : Position)
      (rest : Derivation .suffixes) : Derivation .suffixes
  | call (opening : Position) (arguments : Derivation (.items .round))
      (rest : Derivation .suffixes) : Derivation .suffixes
  | number (value : Float) (position : Position) : Derivation .primary
  | string (value : String) (position : Position) : Derivation .primary
  | name (text : String) (position : Position) : Derivation .primary
  | bracketed (opening : Position) (inner : Derivation .expression) (closing : Position) :
      Derivation .primary
  | array (opening : Position) (items : Derivation (.items .square)) : Derivation .primary
  | noItems {bracket : Bracket} (closing : Position) : Derivation (.items bracket)
  | someItems {bracket : Bracket} (list : Derivation (.itemList bracket)) :
      Derivation (.items bracket)
  | lastItem {bracket : Bracket} (item : Derivation .expression) (closing : Position) :
      Derivation (.itemList bracket)
  | moreItems {bracket : Bracket} (item : Derivation .expression) (comma : Position)
      (rest : Derivation (.itemList bracket)) : Derivation (.itemList bracket)

/-- What the derivations of a phrase stand for; links and suffixes go on from an expression. -/
abbrev Meaning : Phrase → Type
  | .expression | .conditional | .operand _ | .suffixed | .primary => Expr
  | .links _ | .suffixes => Expr → Expr
  | .items _ | .itemList _ => List Expr

namespace Derivation

/-- The tokens of a derivation, from left to right. -/
def yield : {phrase : Phrase} → Derivation phrase → List Token
  | _, .arrow head body => head.yield ++ body.yield
  | _, .plain inner => inner.yield
  | _, .test inner => inner.yield
  | _, .choice asked question yes colon no =>
      asked.yield ++ mark .question question :: (yes.yield ++ mark .colon colon :: no.yield)
  | _, .unary operator position operand => mark operator.punct position :: operand.yield
  | _, .bare inner => inner.yield
  | _, .chain first rest => first.yield ++ rest.yield
  | _, .unlinked => []
  | _, .link operator _ position right rest =>
      mark operator.punct position :: (right.yield ++ rest.yield)
  | _, .suffixed inner suffixes => inner.yield ++ suffixes.yield
  | _, .unsuffixed => []
  | _, .member dot field position rest =>
      mark .dot dot :: ⟨.name field, position⟩ :: rest.yield
  | _, .index opening key closing rest =>
      mark .openBracket opening :: (key.yield ++ mark .closeBracket closing :: rest.yield)
  | _, .call opening arguments rest => mark .openParen opening :: (arguments.yield ++ rest.yield)
  | _, .number value position => [⟨.number value, position⟩]
  | _, .string value position => [⟨.string value, position⟩]
  | _, .name text position => [⟨.name text, position⟩]
  | _, .bracketed opening inner closing =>
      mark .openParen opening :: (inner.yield ++ [mark .closeParen closing])
  | _, .array opening items => mark .openBracket opening :: items.yield
  | _, @noItems bracket closing => [mark bracket.close closing]
  | _, .someItems list => list.yield
  | _, @lastItem bracket item closing => item.yield ++ [mark bracket.close closing]
  | _, .moreItems item comma rest => item.yield ++ mark .comma comma :: rest.yield

/-! What each rule yields. -/

section Yield

variable {level : Nat} {bracket : Bracket}

theorem yield_arrow (head : ArrowHead) (body : Derivation .expression) :
    (arrow head body).yield = head.yield ++ body.yield :=
  rfl

theorem yield_choice (asked : Derivation (.operand 6)) (question : Position)
    (yes : Derivation .expression) (colon : Position) (no : Derivation .expression) :
    (choice asked question yes colon no).yield =
      asked.yield ++ mark .question question :: (yes.yield ++ mark .colon colon :: no.yield) :=
  rfl

theorem yield_unary (operator : UnaryOp) (position : Position)
    (operand : Derivation (.operand 0)) :
    (unary operator position operand).yield = mark operator.punct position :: operand.yield :=
  rfl

theorem yield_chain (first : Derivation (.operand level)) (rest : Derivation (.links level)) :
    (chain first rest).yield = first.yield ++ rest.yield :=
  rfl

theorem yield_link (operator : Infix) (at_level : operator.level = level) (position : Position)
    (right : Derivation (.operand level)) (rest : Derivation (.links level)) :
    (link operator at_level position right rest).yield =
      mark operator.punct position :: (right.yield ++ rest.yield) :=
  rfl

theorem yield_suffixed (inner : Derivation .primary) (suffixes : Derivation .suffixes) :
    (suffixed inner suffixes).yield = inner.yield ++ suffixes.yield :=
  rfl

theorem yield_member (dot : Position) (field : String) (position : Position)
    (rest : Derivation .suffixes) :
    (member dot field position rest).yield =
      mark .dot dot :: ⟨.name field, position⟩ :: rest.yield :=
  rfl

theorem yield_index (opening : Position) (key : Derivation .expression) (closing : Position)
    (rest : Derivation .suffixes) :
    (index opening key closing rest).yield =
      mark .openBracket opening :: (key.yield ++ mark .closeBracket closing :: rest.yield) :=
  rfl

theorem yield_call (opening : Position) (arguments : Derivation (.items .round))
    (rest : Derivation .suffixes) :
    (call opening arguments rest).yield =
      mark .openParen opening :: (arguments.yield ++ rest.yield) :=
  rfl

theorem yield_bracketed (opening : Position) (inner : Derivation .expression)
    (closing : Position) :
    (bracketed opening inner closing).yield =
      mark .openParen opening :: (inner.yield ++ [mark .closeParen closing]) :=
  rfl

theorem yield_array (opening : Position) (items : Derivation (.items .square)) :
    (array opening items).yield = mark .openBracket opening :: items.yield :=
  rfl

theorem yield_lastItem (item : Derivation .expression) (closing : Position) :
    (@lastItem bracket item closing).yield = item.yield ++ [mark bracket.close closing] :=
  rfl

theorem yield_moreItems (item : Derivation .expression) (comma : Position)
    (rest : Derivation (.itemList bracket)) :
    (moreItems item comma rest).yield = item.yield ++ mark .comma comma :: rest.yield :=
  rfl

end Yield

/-- What a derivation stands for in the text at an address. -/
def tree (url : String) : {phrase : Phrase} → Derivation phrase → Meaning phrase
  | _, .arrow head body => .arrow head.parameters (body.tree url) (.ofPosition url head.position)
  | _, .plain inner => inner.tree url
  | _, .test inner => inner.tree url
  | _, .choice asked _ yes _ no =>
      .conditional (asked.tree url) (yes.tree url) (no.tree url)
  | _, .unary operator _ operand => .unary operator (operand.tree url)
  | _, .bare inner => inner.tree url
  | _, .chain first rest => rest.tree url (first.tree url)
  | _, .unlinked => fun left => left
  | _, .link operator _ _ right rest => fun left =>
      rest.tree url (operator.build left (right.tree url))
  | _, .suffixed inner suffixes => suffixes.tree url (inner.tree url)
  | _, .unsuffixed => fun expr => expr
  | _, .member _ field _ rest => fun expr => rest.tree url (.member expr field)
  | _, .index _ key _ rest => fun expr => rest.tree url (.index expr (key.tree url))
  | _, .call _ arguments rest => fun expr => rest.tree url (.call expr (arguments.tree url))
  | _, .number value _ => .literal (Parser.numberLiteral value)
  | _, .string value _ => .literal (.string value)
  | _, .name text _ => Parser.nameExpr text
  | _, .bracketed _ inner _ => inner.tree url
  | _, .array _ items => .array (items.tree url)
  | _, .noItems _ => []
  | _, .someItems list => list.tree url
  | _, .lastItem item _ => [item.tree url]
  | _, .moreItems item _ rest => item.tree url :: rest.tree url

end Derivation

end Script
end PropertyBinding
