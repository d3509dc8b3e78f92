import PropertyBinding.Text.Formless

namespace PropertyBinding
namespace Text

/-!
# Quoted text

Two ways to write a text between double quotes.  `quoted` is the form of data
files, in which every control character is escaped; `shown` is the form in
which tools show names.
-/

/-- A digit of a number in base sixteen, in lower case. -/
def hexDigit (digit : Nat) : Char :=
  if digit < 10 then Char.ofNat (48 + digit) else Char.ofNat (87 + digit)

/-- A character of a text in a data file. -/
def escaped (character : Char) : List Char :=
  if character = '"' then ['\\', '"']
  else if character = '\\' then ['\\', '\\']
  else if character = '\n' then ['\\', 'n']
  else if character = '\r' then ['\\', 'r']
  else if character = '\t' then ['\\', 't']
  else if character = '\x08' then ['\\', 'b']
  else if character = '\x0c' then ['\\', 'f']
  else if character.toNat < 32 then
    ['\\', 'u', '0', '0', hexDigit (character.toNat / 16), hexDigit (character.toNat % 16)]
  else [character]

/-- A text as data files hold it. -/
def quoted (text : String) : String :=
  "\"" ++ String.ofList (text.toList.flatMap escaped) ++ "\""

/-- The digits of a number in base sixteen. -/
def hexDigits (number : Nat) : List Char :=
  Nat.toDigits 16 number

/-- A character of a name as tools show it. -/
def shownCharacter (character : Char) : List Char :=
  if character = '"' then ['\\', '"']
  else if character = '\\' then ['\\', '\\']
  else if character = '\n' then ['\\', 'n']
  else if character = '\r' then ['\\', 'r']
  else if character = '\t' then ['\\', 't']
  else if character.toNat = 0 then ['\\', '0']
  else if isFormless character then
    "\\u\x7b".toList ++ hexDigits character.toNat ++ ['\x7d']
  else [character]

/-- A name as tools show it. -/
def shown (text : String) : String :=
  "\"" ++ String.ofList (text.toList.flatMap shownCharacter) ++ "\""

end Text
end PropertyBinding
