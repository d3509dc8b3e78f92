import PropertyBinding.Script.SyntaxError
import PropertyBinding.Text.Alphabetic
import PropertyBinding.Text.Blank
import PropertyBinding.Text.Numeric

namespace PropertyBinding
namespace Script

/-!
# Splitting text into tokens

`lexeme` reads the one token at the front of a text and `tokens` the whole
text.  A line feed outside a token starts a new line; every other character,
also one inside a string, moves one column to the right.
-/

namespace Lexer

/-- The position after some characters on the same line. -/
def advance (position : Position) (count : Nat) : Position :=
  { position with column := position.column + count }

/-- The first position of the next line. -/
def nextLine (position : Position) : Position :=
  ⟨position.line + 1, 1⟩

/-- Whether a name may begin with a character. -/
def startsName (character : Char) : Bool :=
  Text.isAlphabetic character || character = '_' || character = '$'

/-- Whether a name may go on with a character. -/
def continuesName (character : Char) : Bool :=
  Text.isAlphabetic character || Text.isNumeric character || character = '_' || character = '$'

/-- The character that a backslash and another character stand for. -/
def unescape : Char → Char
  | 'n' => '\n'
  | 't' => '\t'
  | 'r' => '\r'
  | other => other

/--
The contents of a string literal after its opening quote, and the text after
its closing one.  A string has to end on its own line, but a backslash takes the
next character whatever it is.
-/
def stringBody? (quote : Char) : List Char → Option (List Char × List Char)
  | [] => none
  | '\\' :: escaped :: rest =>
      (stringBody? quote rest).map fun (body, after) => (unescape escaped :: body, after)
  | character :: rest =>
      if character = '\\' || character = '\n' then
        none
      else if character = quote then
        some ([], rest)
      else
        (stringBody? quote rest).map fun (body, after) => (character :: body, after)

/-- Whether a character may stand in a number before its exponent. -/
def isMantissa (character : Char) : Bool :=
  character.isDigit || character = '.'

/-- The sign and the digits of an exponent, and the text after them. -/
def splitExponent : List Char → List Char × List Char
  | '+' :: rest => ('+' :: rest.takeWhile Char.isDigit, rest.dropWhile Char.isDigit)
  | '-' :: rest => ('-' :: rest.takeWhile Char.isDigit, rest.dropWhile Char.isDigit)
  | rest => (rest.takeWhile Char.isDigit, rest.dropWhile Char.isDigit)

/--
The characters of a number at the front of a text: digits and points, then an
exponent mark with an optional sign and more digits.
-/
def splitNumber (text : List Char) : List Char × List Char :=
  let mantissa := text.takeWhile isMantissa
  match text.dropWhile isMantissa with
  | [] => (mantissa, [])
  | mark :: rest =>
      if mark = 'e' || mark = 'E' then
        let (exponent, after) := splitExponent rest
        (mantissa ++ mark :: exponent, after)
      else
        (mantissa, mark :: rest)

/-- Whether a number begins with these characters. -/
def startsNumber (first : Char) (rest : List Char) : Bool :=
  first.isDigit || (first = '.' && rest.head?.any Char.isDigit)

/-- The token at the front of a text whose first character is not blank, and the text after it. -/
def lexeme (first : Char) (rest : List Char) : Except SyntaxError (TokenKind × List Char) :=
  if startsNumber first rest then
    let (digits, after) := splitNumber (first :: rest)
    match Number.readNumeral? digits with
    | some value => .ok (.number value, after)
    | none => .error (.invalidNumber (String.ofList digits))
  else if first = '"' || first = '\'' then
    match stringBody? first rest with
    | some (body, after) => .ok (.string (String.ofList body), after)
    | none => .error .unterminatedString
  else if startsName first then
    .ok (.name (String.ofList (first :: rest.takeWhile continuesName)),
      rest.dropWhile continuesName)
  else
    match Punct.atFront? (first :: rest) with
    | some punct => .ok (.punct punct, (first :: rest).drop punct.text.length)
    | none => .error (.unexpectedCharacter first)

/-- What follows the contents of a string is shorter than what they were read from. -/
theorem length_of_stringBody? {quote : Char} {text body after : List Char}
    (read : stringBody? quote text = some (body, after)) : after.length < text.length := by
  fun_induction stringBody? quote text generalizing body after with
  | case1 => simp at read
  | case2 escaped rest ih =>
    obtain ⟨⟨inner, tail⟩, found, same⟩ := Option.map_eq_some_iff.mp read
    have shorter := ih found
    simp only [Prod.mk.injEq] at same
    obtain ⟨_, rfl⟩ := same
    simp only [List.length_cons]
    omega
  | case3 => simp at read
  | case4 =>
    simp only [Option.some.injEq, Prod.mk.injEq] at read
    obtain ⟨_, rfl⟩ := read
    simp
  | case5 character rest _ _ _ ih =>
    obtain ⟨⟨inner, tail⟩, found, same⟩ := Option.map_eq_some_iff.mp read
    have shorter := ih found
    simp only [Prod.mk.injEq] at same
    obtain ⟨_, rfl⟩ := same
    simp only [List.length_cons]
    omega

/-- Dropping a class of characters never lengthens a text. -/
theorem length_dropWhile_le (class? : Char → Bool) (text : List Char) :
    (text.dropWhile class?).length ≤ text.length :=
  (List.dropWhile_suffix class?).length_le

/-- What follows an exponent is no longer than what it was read from. -/
theorem length_splitExponent_le (text : List Char) :
    (splitExponent text).2.length ≤ text.length := by
  fun_cases splitExponent text with
  | case1 rest => exact Nat.le_succ_of_le (length_dropWhile_le _ _)
  | case2 rest => exact Nat.le_succ_of_le (length_dropWhile_le _ _)
  | case3 => exact length_dropWhile_le _ _

/-- What follows a number is shorter than the text the number begins. -/
theorem length_splitNumber {first : Char} {rest : List Char}
    (starts : startsNumber first rest = true) :
    (splitNumber (first :: rest)).2.length < (first :: rest).length := by
  have mantissa : isMantissa first = true := by
    simp only [startsNumber, Bool.or_eq_true, Bool.and_eq_true] at starts
    simp only [isMantissa, Bool.or_eq_true]
    exact starts.imp id And.left
  have shorter : ((first :: rest).dropWhile isMantissa).length < (first :: rest).length := by
    rw [List.dropWhile_cons_of_pos mantissa, List.length_cons]
    exact Nat.lt_succ_of_le (length_dropWhile_le _ _)
  unfold splitNumber
  generalize (first :: rest).dropWhile isMantissa = tail at shorter
  cases tail with
  | nil => exact shorter
  | cons mark more =>
    dsimp only
    split
    · have inside := length_splitExponent_le more
      simp only [List.length_cons] at shorter ⊢
      omega
    · exact shorter

/-- Every token has at least one character. -/
theorem length_of_lexeme {first : Char} {rest after : List Char} {kind : TokenKind}
    (read : lexeme first rest = .ok (kind, after)) : after.length < (first :: rest).length := by
  unfold lexeme at read
  split at read
  · next starts =>
    have shorter := length_splitNumber starts
    split at read
    next digits tail same =>
      rw [same] at shorter
      split at read
      · simp only [Except.ok.injEq, Prod.mk.injEq] at read
        obtain ⟨_, rfl⟩ := read
        exact shorter
      · simp at read
  · split at read
    · split at read
      · next body tail found =>
        simp only [Except.ok.injEq, Prod.mk.injEq] at read
        obtain ⟨_, rfl⟩ := read
        exact Nat.lt_succ_of_lt (length_of_stringBody? found)
      · simp at read
    · split at read
      · simp only [Except.ok.injEq, Prod.mk.injEq] at read
        obtain ⟨_, rfl⟩ := read
        exact Nat.lt_succ_of_le (length_dropWhile_le _ _)
      · split at read
        · next punct found =>
          simp only [Except.ok.injEq, Prod.mk.injEq] at read
          obtain ⟨_, rfl⟩ := read
          have := List.length_pos_iff.mpr punct.text_ne_nil
          simp only [String.length_toList] at this
          simp only [List.length_drop, List.length_cons]
          omega
        · simp at read

end Lexer

/-- The tokens of a text and the position where it ends. -/
structure TokenStream where
  tokens : List Token
  finish : Position
deriving DecidableEq

namespace Lexer

/-- The tokens of a text that begins at a position. -/
def tokens (position : Position) : List Char → Except (SyntaxError × Position) TokenStream
  | [] => .ok ⟨[], position⟩
  | first :: rest =>
      if first = '\n' then
        tokens (nextLine position) rest
      else if Text.isBlank first then
        tokens (advance position 1) rest
      else
        match _read : lexeme first rest with
        | .error cause => .error (cause, position)
        | .ok (kind, after) =>
            let width := (first :: rest).length - after.length
            (tokens (advance position width) after).map fun stream =>
              { stream with tokens := ⟨kind, position⟩ :: stream.tokens }
termination_by text => text.length
decreasing_by
  all_goals first
    | exact Nat.lt_succ_self _
    | exact length_of_lexeme _read

end Lexer

end Script
end PropertyBinding
