import PropertyBinding.Number.Decimal
import PropertyBinding.Script.Token

namespace PropertyBinding
namespace Script

/-!
# Errors in source text

Why an expression does not compile, and the message for each cause.
-/

/-- Why source text is not an expression. -/
inductive SyntaxError where
  | invalidNumber (text : String)
  | unterminatedString
  | unexpectedCharacter (character : Char)
  /-- A token that cannot stand where it does. -/
  | unexpectedToken (kind : TokenKind)
  /-- The text stops where more is needed. -/
  | unexpectedEnd
deriving DecidableEq

namespace SyntaxError

/-- The message for a cause. -/
def message : SyntaxError → String
  | .invalidNumber text => s!"Invalid number literal `" ++ text ++ "`"
  | .unterminatedString => "Unterminated string literal"
  | .unexpectedCharacter character => "Unexpected character `" ++ character.toString ++ "`"
  | .unexpectedToken (.number value) => "Unexpected number `" ++ Number.toText value ++ "`"
  | .unexpectedToken (.string _) => "Unexpected string"
  | .unexpectedToken (.name name) => "Unexpected identifier `" ++ name ++ "`"
  | .unexpectedToken (.punct punct) => "Unexpected token `" ++ punct.text ++ "`"
  | .unexpectedEnd => "Unexpected end of input"

end SyntaxError

/-- A cause and the place it was found at. -/
structure CompileError where
  cause : SyntaxError
  location : Location
deriving DecidableEq

namespace CompileError

/-- The message without the place. -/
def message (error : CompileError) : String :=
  error.cause.message

/-- The message after the place it is about. -/
def text (error : CompileError) : String :=
  s!"{error.location.text}: {error.message}"

end CompileError

end Script
end PropertyBinding
