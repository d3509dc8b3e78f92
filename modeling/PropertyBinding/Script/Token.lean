import PropertyBinding.Script.Location

namespace PropertyBinding
namespace Script

/-!
# Tokens

The lexical classes of the expression language.  A token is a kind and the
position of its first character.
-/

/-- The operators, brackets and separators. -/
inductive Punct where
  | strictEqual | strictUnequal | equal | unequal | lessEqual | greaterEqual
  | and | or | arrow | plus | minus | times | divide | percent | less | greater | not
  | question | colon | dot | comma | openParen | closeParen | openBracket | closeBracket
deriving Repr, DecidableEq

namespace Punct

/-- The characters of a punctuator. -/
def text : Punct → String
  | .strictEqual => "==="
  | .strictUnequal => "!=="
  | .equal => "=="
  | .unequal => "!="
  | .lessEqual => "<="
  | .greaterEqual => ">="
  | .and => "&&"
  | .or => "||"
  | .arrow => "=>"
  | .plus => "+"
  | .minus => "-"
  | .times => "*"
  | .divide => "/"
  | .percent => "%"
  | .less => "<"
  | .greater => ">"
  | .not => "!"
  | .question => "?"
  | .colon => ":"
  | .dot => "."
  | .comma => ","
  | .openParen => "("
  | .closeParen => ")"
  | .openBracket => "["
  | .closeBracket => "]"

/-- Every punctuator, none before a longer one that it begins. -/
def all : List Punct :=
  [.strictEqual, .strictUnequal, .equal, .unequal, .lessEqual, .greaterEqual, .and, .or, .arrow,
    .plus, .minus, .times, .divide, .percent, .less, .greater, .not, .question, .colon, .dot,
    .comma, .openParen, .closeParen, .openBracket, .closeBracket]

/-- The longest punctuator at the front of a text. -/
def atFront? (text : List Char) : Option Punct :=
  all.find? fun punct => punct.text.toList.isPrefixOf text

/-- No punctuator is missing from the list. -/
theorem mem_all (punct : Punct) : punct ∈ all := by
  cases punct <;> decide

/-- A punctuator has at least one character. -/
theorem text_ne_nil (punct : Punct) : punct.text.toList ≠ [] := by
  cases punct <;> decide

/-- The punctuator that was found is what the text begins with. -/
theorem prefix_of_atFront? {text : List Char} {punct : Punct}
    (found : atFront? text = some punct) : punct.text.toList <+: text := by
  have := List.find?_some found
  simpa using this

end Punct

/-- What a token is. -/
inductive TokenKind where
  | number (value : Float)
  | string (value : String)
  | name (name : String)
  | punct (punct : Punct)
deriving DecidableEq

/-- A token and the position of its first character. -/
structure Token where
  kind : TokenKind
  position : Position
deriving DecidableEq

end Script
end PropertyBinding
