import PropertyBinding.Proofs.NumeralText
import PropertyBinding.Text.Quoted

namespace PropertyBinding

/-!
# Data files read back

`Json.text` writes a value without blanks, with its strings as `Text.quoted`
writes them.  `Json.read?` reads every text of the format: blanks between the
parts, all escapes of strings, pairs of code units, fractions and exponents.
Whatever is written reads back as the same value.

The reader goes down into lists and objects no deeper than it has fuel.  One
unit for each character of the text is enough, since a list or an object cannot
begin without one.
-/

/-- A value of a data file. -/
inductive Json where
  | null
  | bool (value : Bool)
  /-- A whole number times a power of ten, as the text gives them. -/
  | number (digits exponent : Int)
  | string (value : String)
  | list (items : List Json)
  | object (members : List (String × Json))

namespace Json

/-- The first member of a name. -/
def member? (name : String) : Json → Option Json
  | .object members => (members.find? fun member => member.1 = name).map Prod.snd
  | _ => none

/-- The string that a value is. -/
def asString? : Json → Option String
  | .string value => some value
  | _ => none

/-- The natural number that a value is. -/
def asNatural? : Json → Option Nat
  | .number digits exponent => if exponent = 0 ∧ 0 ≤ digits then some digits.toNat else none
  | _ => none

/-- A natural number as a value. -/
def natural (number : Nat) : Json :=
  .number number 0

theorem asNatural?_natural (number : Nat) : (natural number).asNatural? = some number := by
  simp [natural, asNatural?]

/-! ## Reading strings -/

/-- The number that a digit in base sixteen stands for. -/
def hexValue? (digit : Char) : Option Nat :=
  if digit.isDigit then some (digit.toNat - 48)
  else if 'a' ≤ digit ∧ digit ≤ 'f' then some (digit.toNat - 87)
  else if 'A' ≤ digit ∧ digit ≤ 'F' then some (digit.toNat - 55)
  else none

/-- A code unit in four digits, and the text after it. -/
def codeUnit? : List Char → Option (Nat × List Char)
  | first :: second :: third :: fourth :: rest => do
      let digits ← [first, second, third, fourth].mapM hexValue?
      return (digits.foldl (fun unit digit => 16 * unit + digit) 0, rest)
  | _ => none

/-- A character given by one code unit or by a pair of them, and the text after it. -/
def encoded? (text : List Char) : Option (Char × List Char) := do
  let (unit, rest) ← codeUnit? text
  if 0xd800 ≤ unit ∧ unit < 0xdc00 then
    match rest with
    | '\\' :: 'u' :: rest =>
        let (second, rest) ← codeUnit? rest
        if 0xdc00 ≤ second ∧ second < 0xe000 then
          some (Char.ofNat (0x10000 + (unit - 0xd800) * 0x400 + (second - 0xdc00)), rest)
        else
          none
    | _ => none
  else if 0xdc00 ≤ unit ∧ unit < 0xe000 then
    none
  else
    some (Char.ofNat unit, rest)

/-- The character that a backslash and a mark stand for. -/
def escape? : Char → Option Char
  | '"' => some '"'
  | '\\' => some '\\'
  | '/' => some '/'
  | 'b' => some '\x08'
  | 'f' => some '\x0c'
  | 'n' => some '\n'
  | 'r' => some '\r'
  | 't' => some '\t'
  | _ => none

/-- A character of a string, and the text after it. -/
def character? : List Char → Option (Char × List Char)
  | [] => none
  | '\\' :: 'u' :: rest => encoded? rest
  | '\\' :: mark :: rest => (escape? mark).map fun character => (character, rest)
  | character :: rest =>
      if character = '"' ∨ character = '\\' ∨ character.toNat < 32 then none
      else some (character, rest)

/-- The contents of a string after its opening quote, and the text after its closing one. -/
def stringBody? : Nat → List Char → Option (List Char × List Char)
  | 0, _ => none
  | _ + 1, '"' :: rest => some ([], rest)
  | fuel + 1, text =>
      (character? text).bind fun (character, rest) =>
        (stringBody? fuel rest).map fun (body, after) => (character :: body, after)

/-- A string after its opening quote, and the text after it. -/
def string? (text : List Char) : Option (String × List Char) :=
  (stringBody? text.length text).map fun (body, after) => (String.ofList body, after)

/-! ## Reading numbers -/

/-- Whether a character may stand in a number. -/
def isNumeric (character : Char) : Bool :=
  character.isDigit || character = '-' || character = '+' || character = '.' || character = 'e' ||
    character = 'E'

/-- An optional minus sign and what follows it. -/
def splitMinus : List Char → Bool × List Char
  | '-' :: rest => (true, rest)
  | text => (false, text)

/-- Digits after a point, if there is a point, and the text after them. -/
def fraction? : List Char → Option (List Char × List Char)
  | '.' :: rest =>
      if rest.takeWhile Char.isDigit = [] then none
      else some (rest.takeWhile Char.isDigit, rest.dropWhile Char.isDigit)
  | rest => some ([], rest)

/-- A number that is the whole of a text; it begins with a zero only where it has to. -/
def numeral? (text : List Char) : Option Json :=
  let (negative, rest) := splitMinus text
  let whole := rest.takeWhile Char.isDigit
  if whole = [] ∨ whole.head? = some '0' ∧ 1 < whole.length then
    none
  else
    (fraction? (rest.dropWhile Char.isDigit)).bind fun (fraction, rest) =>
      (Number.exponent? rest).map fun exponent =>
        let size : Int := Number.natOfDigits (whole ++ fraction)
        .number (if negative then -size else size) (exponent - fraction.length)

/-- A number, and the text after it. -/
def number? (text : List Char) : Option (Json × List Char) :=
  (numeral? (text.takeWhile isNumeric)).map fun number => (number, text.dropWhile isNumeric)

/-! ## Reading values -/

/-- Whether a character may stand between the parts of a value. -/
def isSpace (character : Char) : Bool :=
  character = ' ' || character = '\n' || character = '\r' || character = '\t'

/-- A text without the blanks at its front. -/
def skip (text : List Char) : List Char :=
  text.dropWhile isSpace

/-- A value that has no parts, and the text after it. -/
def scalar? : List Char → Option (Json × List Char)
  | 'n' :: 'u' :: 'l' :: 'l' :: rest => some (.null, rest)
  | 't' :: 'r' :: 'u' :: 'e' :: rest => some (.bool true, rest)
  | 'f' :: 'a' :: 'l' :: 's' :: 'e' :: rest => some (.bool false, rest)
  | '"' :: rest => (string? rest).map fun (value, after) => (.string value, after)
  | text => number? text

mutual

/-- A value, and the text after it. -/
def value? : Nat → List Char → Option (Json × List Char)
  | 0, _ => none
  | fuel + 1, text =>
      match skip text with
      | '[' :: rest =>
          match skip rest with
          | ']' :: after => some (.list [], after)
          | text => do
              let (item, rest) ← value? fuel text
              let (items, after) ← moreItems? fuel rest
              return (.list (item :: items), after)
      | '\x7b' :: rest =>
          match skip rest with
          | '\x7d' :: after => some (.object [], after)
          | text => do
              let (member, rest) ← memberOf? fuel text
              let (members, after) ← moreMembers? fuel rest
              return (.object (member :: members), after)
      | text => scalar? text

/-- What is left of a list after an item, and the text after the list. -/
def moreItems? : Nat → List Char → Option (List Json × List Char)
  | 0, _ => none
  | fuel + 1, text =>
      match skip text with
      | ']' :: after => some ([], after)
      | ',' :: rest => do
          let (item, rest) ← value? fuel rest
          let (items, after) ← moreItems? fuel rest
          return (item :: items, after)
      | _ => none

/-- A member of an object, and the text after it. -/
def memberOf? : Nat → List Char → Option ((String × Json) × List Char)
  | 0, _ => none
  | fuel + 1, text =>
      match skip text with
      | '"' :: rest => do
          let (name, rest) ← string? rest
          match skip rest with
          | ':' :: rest =>
              let (value, after) ← value? fuel rest
              return ((name, value), after)
          | _ => none
      | _ => none

/-- What is left of an object after a member, and the text after the object. -/
def moreMembers? : Nat → List Char → Option (List (String × Json) × List Char)
  | 0, _ => none
  | fuel + 1, text =>
      match skip text with
      | '\x7d' :: after => some ([], after)
      | ',' :: rest => do
          let (member, rest) ← memberOf? fuel rest
          let (members, after) ← moreMembers? fuel rest
          return (member :: members, after)
      | _ => none

end

/-- Reads a text that holds one value. -/
def read? (text : String) : Option Json :=
  match value? (text.length + 1) text.toList with
  | some (value, rest) => if skip rest = [] then some value else none
  | none => none

/-! ## Writing -/

/-- The digits of a whole number after its sign. -/
def wholeChars (number : Int) : List Char :=
  (if number < 0 then ['-'] else []) ++ Nat.toDigits 10 number.natAbs

/-- A number as it is written. -/
def numberChars (digits exponent : Int) : List Char :=
  wholeChars digits ++ if exponent = 0 then [] else 'e' :: wholeChars exponent

mutual

/-- A value as it is written. -/
def chars : Json → List Char
  | .null => ['n', 'u', 'l', 'l']
  | .bool true => ['t', 'r', 'u', 'e']
  | .bool false => ['f', 'a', 'l', 's', 'e']
  | .number digits exponent => numberChars digits exponent
  | .string value => (Text.quoted value).toList
  | .list [] => ['[', ']']
  | .list (item :: items) => '[' :: item.chars ++ itemsChars items
  | .object [] => ['\x7b', '\x7d']
  | .object (member :: members) => '\x7b' :: memberChars member ++ membersChars members

/-- What is written of a list after an item. -/
def itemsChars : List Json → List Char
  | [] => [']']
  | item :: items => ',' :: item.chars ++ itemsChars items

/-- A member of an object as it is written. -/
def memberChars : String × Json → List Char
  | (name, value) => (Text.quoted name).toList ++ ':' :: value.chars

/-- What is written of an object after a member. -/
def membersChars : List (String × Json) → List Char
  | [] => ['\x7d']
  | member :: members => ',' :: memberChars member ++ membersChars members

end

/-- The text of a value. -/
def text (json : Json) : String :=
  String.ofList json.chars

/-- A natural number is written by its digits. -/
theorem chars_natural (number : Nat) : (natural number).chars = (toString number).toList := by
  have positive : ¬ (number : Int) < 0 := by omega
  simp [natural, chars, numberChars, wholeChars, positive]

/-! ## Strings read back -/

theorem hexValue?_hexDigit : ∀ digit < 16, hexValue? (Text.hexDigit digit) = some digit := by
  decide

/-- A control character is written as a code unit of its own. -/
theorem character?_control {character : Char} (low : character.toNat < 32) (rest : List Char) :
    character? ('\\' :: 'u' :: '0' :: '0' :: Text.hexDigit (character.toNat / 16) ::
      Text.hexDigit (character.toNat % 16) :: rest) = some (character, rest) := by
  have upper := hexValue?_hexDigit (character.toNat / 16) (by omega)
  have lower := hexValue?_hexDigit (character.toNat % 16) (by omega)
  have zero : hexValue? '0' = some 0 := rfl
  have unit : codeUnit? ('0' :: '0' :: Text.hexDigit (character.toNat / 16) ::
      Text.hexDigit (character.toNat % 16) :: rest) = some (character.toNat, rest) := by
    have whole : 16 * (character.toNat / 16) + character.toNat % 16 = character.toNat :=
      Nat.div_add_mod ..
    simp [codeUnit?, upper, lower, zero, whole]
  have plain : ¬ (0xd800 ≤ character.toNat ∧ character.toNat < 0xdc00) := by omega
  have plain' : ¬ (0xdc00 ≤ character.toNat ∧ character.toNat < 0xe000) := by omega
  simp only [character?, encoded?, unit, Option.bind_eq_bind, Option.bind_some, if_neg plain,
    if_neg plain', Char.ofNat_toNat]

/-- A character of a written string reads back. -/
theorem character?_escaped (character : Char) (rest : List Char) :
    character? (Text.escaped character ++ rest) = some (character, rest) := by
  unfold Text.escaped
  iterate 7
    split
    · next same => rw [same]; rfl
  split
  · next low => exact character?_control low rest
  · next quote slash _ _ _ _ _ high =>
    have plain : ¬ (character = '"' ∨ character = '\\' ∨ character.toNat < 32) :=
      not_or.mpr ⟨quote, not_or.mpr ⟨slash, high⟩⟩
    show character? (character :: rest) = _
    rw [character?, if_neg plain]
    · exact fun _ same _ => slash same
    · exact fun _ _ same _ => slash same

/-- A string goes on with the character at its front. -/
theorem stringBody?_of_character? {text rest : List Char} {character : Char}
    (read : character? text = some (character, rest)) (fuel : Nat) :
    stringBody? (fuel + 1) text =
      (stringBody? fuel rest).map fun (body, after) => (character :: body, after) := by
  have goesOn : ∀ after, text = '"' :: after → False := by
    rintro after rfl
    simp [character?] at read
  rw [stringBody?, read, Option.bind_some]
  exact goesOn

theorem stringBody?_escaped (body rest : List Char) {fuel : Nat} (enough : body.length < fuel) :
    stringBody? fuel (body.flatMap Text.escaped ++ '"' :: rest) = some (body, rest) := by
  induction body generalizing fuel with
  | nil =>
      cases fuel with
      | zero => contradiction
      | succ fuel => rfl
  | cons character body step =>
      cases fuel with
      | zero => contradiction
      | succ fuel =>
          have read := character?_escaped character (body.flatMap Text.escaped ++ '"' :: rest)
          rw [List.flatMap_cons, List.append_assoc, stringBody?_of_character? read,
            step (Nat.lt_of_succ_lt_succ enough)]
          rfl

theorem toList_quoted (text : String) :
    (Text.quoted text).toList = '"' :: (text.toList.flatMap Text.escaped ++ ['"']) := by
  simp [Text.quoted]

/-- Every character takes at least one. -/
theorem length_le_escaped (body : List Char) :
    body.length ≤ (body.flatMap Text.escaped).length := by
  induction body with
  | nil => exact Nat.le_refl 0
  | cons character body step =>
      have some' : 0 < (Text.escaped character).length := by
        refine List.length_pos_iff.mpr fun none => ?_
        have read := character?_escaped character []
        rw [none] at read
        cases read
      rw [List.flatMap_cons, List.length_append, List.length_cons]
      omega

/-- A written string reads back. -/
theorem string?_quoted (text : String) (rest : List Char) :
    string? (text.toList.flatMap Text.escaped ++ '"' :: rest) = some (text, rest) := by
  have long := length_le_escaped text.toList
  rw [string?, stringBody?_escaped]
  · simp
  · simp only [List.length_append, List.length_cons]
    omega

/-! ## Numbers read back -/

/-- Only zero is written with a zero in front. -/
theorem head?_toDigits {number : Nat} (positive : 0 < number) :
    (Nat.toDigits 10 number).head? ≠ some '0' := by
  induction number using Nat.strong_induction_on with
  | _ number step =>
    by_cases short : number < 10
    · rw [Nat.toDigits_of_lt_base short]
      interval_cases number <;> decide
    · rw [Nat.toDigits_of_base_le (by decide) (Nat.le_of_not_lt short),
        List.head?_append_of_ne_nil _ Nat.toDigits_ne_nil]
      exact step (number / 10) (by omega) (by omega)

/-- A number that is written has no needless zero in front. -/
theorem toDigits_canonical (number : Nat) :
    ¬ ((Nat.toDigits 10 number).head? = some '0' ∧ 1 < (Nat.toDigits 10 number).length) := by
  rintro ⟨zero, long⟩
  cases number with
  | zero => exact absurd long (by decide)
  | succ number => exact head?_toDigits (Nat.succ_pos number) zero

theorem splitMinus_wholeChars (number : Int) (rest : List Char) :
    splitMinus (wholeChars number ++ rest) =
      (decide (number < 0), Nat.toDigits 10 number.natAbs ++ rest) := by
  unfold wholeChars
  split
  · next negative =>
    rw [decide_eq_true negative]
    rfl
  · next positive =>
    rcases Number.front_toDigits number.natAbs with ⟨first, tail, written, digit⟩
    rw [decide_eq_false positive, written]
    show splitMinus (first :: (tail ++ rest)) = _
    unfold splitMinus
    split
    · next same => exact absurd (List.cons.inj same).1 (Number.ne_of_isDigit digit (by decide))
    · rfl

/-- A whole number is its size after its sign. -/
theorem signed_natAbs (number : Int) :
    (if decide (number < 0) = true then -(number.natAbs : Int) else (number.natAbs : Int)) =
      number := by
  simp only [decide_eq_true_eq]
  split <;> omega

theorem exponent?_wholeChars (exponent : Int) :
    Number.exponent? ('e' :: wholeChars exponent) = some exponent := by
  have split' : Number.splitSign (wholeChars exponent) =
      (decide (exponent < 0), Nat.toDigits 10 exponent.natAbs) := by
    unfold wholeChars
    split
    · next negative =>
      rw [decide_eq_true negative]
      rfl
    · next positive =>
      rcases Number.front_toDigits exponent.natAbs with ⟨first, tail, written, digit⟩
      rw [decide_eq_false positive, written]
      exact Number.splitSign_of_isDigit digit tail
  have known : (Nat.toDigits 10 exponent.natAbs).all Char.isDigit = true :=
    List.all_eq_true.mpr (Number.allDigits_toDigits _)
  have some' : (Nat.toDigits 10 exponent.natAbs).isEmpty = false := by
    simp
  unfold Number.exponent?
  simp only [split', known, some', Number.natOfDigits_toDigits]
  exact congrArg some (signed_natAbs exponent)

theorem numeral?_numberChars (digits exponent : Int) :
    numeral? (numberChars digits exponent) = some (.number digits exponent) := by
  let tail := if exponent = 0 then [] else 'e' :: wholeChars exponent
  have ends : tail.takeWhile Char.isDigit = [] := by
    unfold tail
    split <;> rfl
  have cut := Number.splitRun (Number.allDigits_toDigits digits.natAbs) tail ends
  have plain : fraction? tail = some ([], tail) := by
    unfold tail
    split <;> rfl
  have raised : Number.exponent? tail = some exponent := by
    unfold tail
    split
    · next zero => rw [zero]; rfl
    · exact exponent?_wholeChars exponent
  have needful : ¬ (Nat.toDigits 10 digits.natAbs = [] ∨
      (Nat.toDigits 10 digits.natAbs).head? = some '0' ∧
        1 < (Nat.toDigits 10 digits.natAbs).length) :=
    not_or.mpr ⟨Nat.toDigits_ne_nil, toDigits_canonical digits.natAbs⟩
  show numeral? (wholeChars digits ++ tail) = _
  unfold numeral?
  rw [splitMinus_wholeChars]
  simp only [cut, plain, raised, if_neg needful, Option.bind_some, Option.map_some,
    List.append_nil, Number.natOfDigits_toDigits, signed_natAbs, List.length_nil]
  rw [Int.natCast_zero, Int.sub_zero]

/-- A written number is made of numeric characters. -/
theorem isNumeric_of_mem_numberChars {digits exponent : Int} {character : Char}
    (member : character ∈ numberChars digits exponent) : isNumeric character = true := by
  have whole : ∀ number, ∀ character ∈ wholeChars number, isNumeric character = true := by
    intro number character member
    rcases List.mem_append.mp member with sign | digit
    · split at sign
      · rw [List.mem_singleton.mp sign]
        rfl
      · cases sign
    · simp only [isNumeric, Number.allDigits_toDigits _ character digit, Bool.true_or]
  rcases List.mem_append.mp member with ofDigits | ofExponent
  · exact whole digits character ofDigits
  · split at ofExponent
    · cases ofExponent
    · rcases List.mem_cons.mp ofExponent with rfl | ofExponent
      · rfl
      · exact whole exponent character ofExponent

/-- Whether a text does not go on with a number. -/
def Apart (text : List Char) : Prop :=
  text.takeWhile isNumeric = []

/-- A written number reads back. -/
theorem number?_numberChars (digits exponent : Int) {rest : List Char} (apart : Apart rest) :
    number? (numberChars digits exponent ++ rest) = some (.number digits exponent, rest) := by
  have numeric : ∀ character ∈ numberChars digits exponent, isNumeric character = true :=
    fun _ => isNumeric_of_mem_numberChars
  have cut := Number.splitRun numeric rest apart
  rw [number?, cut.1, cut.2, numeral?_numberChars]
  rfl

/-! ## Values read back -/

theorem skip_of_visible {first : Char} (visible : isSpace first = false) (tail : List Char) :
    skip (first :: tail) = first :: tail := by
  rw [skip, List.dropWhile_cons, visible]
  rfl

theorem front_numberChars (digits exponent : Int) :
    ∃ first tail, numberChars digits exponent = first :: tail ∧
      (first = '-' ∨ first.isDigit = true) := by
  unfold numberChars wholeChars
  split
  · exact ⟨'-', _, rfl, .inl rfl⟩
  · rcases Number.front_toDigits digits.natAbs with ⟨first, tail, written, digit⟩
    rw [written]
    exact ⟨first, _, rfl, .inr digit⟩

/-- What begins with a sign or a digit begins with no other mark. -/
theorem ne_of_numeric {first other : Char} (numeric : first = '-' ∨ first.isDigit = true)
    (apart : other.isDigit = false) (sign : '-' ≠ other) : first ≠ other := by
  rcases numeric with rfl | digit
  · exact sign
  · exact Number.ne_of_isDigit digit apart

/-- A value begins with a character that is no blank and ends no list. -/
theorem front_chars (json : Json) :
    ∃ first tail, json.chars = first :: tail ∧ isSpace first = false ∧ first ≠ ']' := by
  cases json with
  | null => exact ⟨_, _, rfl, rfl, by decide⟩
  | bool value => cases value <;> exact ⟨_, _, rfl, rfl, by decide⟩
  | number digits exponent =>
      rcases front_numberChars digits exponent with ⟨first, tail, written, numeric⟩
      have apart : ∀ other : Char, other.isDigit = false → '-' ≠ other → first ≠ other :=
        fun _ => ne_of_numeric numeric
      refine ⟨first, tail, written, ?_, apart ']' (by decide) (by decide)⟩
      simp [isSpace, apart ' ' (by decide) (by decide), apart '\n' (by decide) (by decide),
        apart '\r' (by decide) (by decide), apart '\t' (by decide) (by decide)]
  | string value => exact ⟨_, _, toList_quoted value, rfl, by decide⟩
  | list items => cases items <;> exact ⟨_, _, rfl, rfl, by decide⟩
  | object members => cases members <;> exact ⟨_, _, rfl, rfl, by decide⟩

theorem scalar?_number (digits exponent : Int) {rest : List Char} (apart : Apart rest) :
    scalar? (numberChars digits exponent ++ rest) = some (.number digits exponent, rest) := by
  rw [← number?_numberChars digits exponent apart]
  rcases front_numberChars digits exponent with ⟨first, tail, written, numeric⟩
  rw [written, List.cons_append]
  unfold scalar?
  split
  · next same => exact absurd (List.cons.inj same).1 (ne_of_numeric numeric (by decide) (by decide))
  · next same => exact absurd (List.cons.inj same).1 (ne_of_numeric numeric (by decide) (by decide))
  · next same => exact absurd (List.cons.inj same).1 (ne_of_numeric numeric (by decide) (by decide))
  · next same => exact absurd (List.cons.inj same).1 (ne_of_numeric numeric (by decide) (by decide))
  · rfl

theorem value?_of_scalar {first : Char} (visible : isSpace first = false) (list : first ≠ '[')
    (object : first ≠ '\x7b') (fuel : Nat) (tail : List Char) :
    value? (fuel + 1) (first :: tail) = scalar? (first :: tail) := by
  rw [value?, skip_of_visible visible]
  split
  · next same => exact absurd (List.cons.inj same).1 list
  · next same => exact absurd (List.cons.inj same).1 object
  · rfl

/-- A list goes on with the item at its front. -/
theorem value?_list {first : Char} (visible : isSpace first = false) (more : first ≠ ']')
    (fuel : Nat) (tail : List Char) :
    value? (fuel + 1) ('[' :: first :: tail) =
      (value? fuel (first :: tail)).bind fun (item, rest) =>
        (moreItems? fuel rest).bind fun (items, after) => some (.list (item :: items), after) := by
  have opened : value? (fuel + 1) ('[' :: first :: tail) =
      match skip (first :: tail) with
      | ']' :: after => some (.list [], after)
      | text => (value? fuel text).bind fun (item, rest) =>
          (moreItems? fuel rest).bind fun (items, after) => some (.list (item :: items), after) :=
    rfl
  rw [opened, skip_of_visible visible]
  split
  · next same => exact absurd (List.cons.inj same).1 more
  · rfl

/-- An object goes on with the member at its front. -/
theorem value?_object (fuel : Nat) (member : String × Json) (tail : List Char) :
    value? (fuel + 1) ('\x7b' :: (memberChars member ++ tail)) =
      (memberOf? fuel (memberChars member ++ tail)).bind fun (member, rest) =>
        (moreMembers? fuel rest).bind fun (members, after) =>
          some (.object (member :: members), after) := by
  rcases member with ⟨name, value⟩
  rw [memberChars, toList_quoted]
  rfl

theorem apart_itemsChars (items : List Json) (rest : List Char) :
    Apart (itemsChars items ++ rest) := by
  cases items <;> rfl

theorem apart_membersChars (members : List (String × Json)) (rest : List Char) :
    Apart (membersChars members ++ rest) := by
  cases members <;> rfl

mutual

/-- A written value reads back. -/
theorem value?_chars (json : Json) {rest : List Char} {fuel : Nat}
    (enough : json.chars.length < fuel) (apart : Apart rest) :
    value? fuel (json.chars ++ rest) = some (json, rest) := by
  rcases fuel with _ | fuel
  · contradiction
  cases json with
  | null => exact value?_of_scalar rfl (by decide) (by decide) fuel _
  | bool value => cases value <;> exact value?_of_scalar rfl (by decide) (by decide) fuel _
  | number digits exponent =>
      rcases front_numberChars digits exponent with ⟨first, tail, written, numeric⟩
      rcases front_chars (.number digits exponent) with ⟨_, _, written', visible, _⟩
      rw [chars, written] at written'
      cases written'
      rw [← scalar?_number digits exponent apart, chars, written]
      exact value?_of_scalar visible (ne_of_numeric numeric (by decide) (by decide))
        (ne_of_numeric numeric (by decide) (by decide)) fuel _
  | string value =>
      have read := string?_quoted value rest
      rw [chars, toList_quoted, List.cons_append, List.append_assoc]
      rw [value?_of_scalar rfl (by decide) (by decide)]
      show (string? _).map _ = _
      rw [List.singleton_append, read]
      rfl
  | list items =>
      cases items with
      | nil => rfl
      | cons item items =>
          rw [chars, List.cons_append, List.length_cons, List.length_append] at enough
          rcases front_chars item with ⟨first, tail, written, visible, more⟩
          have opened := value?_list visible more fuel (tail ++ (itemsChars items ++ rest))
          rw [← List.cons_append, ← written,
            value?_chars item (by omega) (apart_itemsChars items rest), Option.bind_some] at opened
          dsimp only at opened
          rw [moreItems?_chars items (by omega)] at opened
          rw [chars, List.cons_append, List.cons_append, List.append_assoc]
          exact opened
  | object members =>
      cases members with
      | nil => rfl
      | cons member members =>
          rw [chars, List.cons_append, List.length_cons, List.length_append] at enough
          have opened := value?_object fuel member (membersChars members ++ rest)
          rw [memberOf?_chars member (by omega) (apart_membersChars members rest),
            Option.bind_some] at opened
          dsimp only at opened
          rw [moreMembers?_chars members (by omega)] at opened
          rw [chars, List.cons_append, List.cons_append, List.append_assoc]
          exact opened

theorem moreItems?_chars (items : List Json) {rest : List Char} {fuel : Nat}
    (enough : (itemsChars items).length < fuel) :
    moreItems? fuel (itemsChars items ++ rest) = some (items, rest) := by
  rcases fuel with _ | fuel
  · contradiction
  cases items with
  | nil => rfl
  | cons item items =>
      rw [itemsChars, List.cons_append, List.length_cons, List.length_append] at enough
      have goesOn : moreItems? (fuel + 1) (',' :: (item.chars ++ (itemsChars items ++ rest))) =
          (value? fuel (item.chars ++ (itemsChars items ++ rest))).bind fun (item, rest) =>
            (moreItems? fuel rest).bind fun (items, after) => some (item :: items, after) := rfl
      rw [value?_chars item (by omega) (apart_itemsChars items rest), Option.bind_some] at goesOn
      dsimp only at goesOn
      rw [moreItems?_chars items (by omega)] at goesOn
      rw [itemsChars, List.cons_append, List.cons_append, List.append_assoc]
      exact goesOn

theorem memberOf?_chars (member : String × Json) {rest : List Char} {fuel : Nat}
    (enough : (memberChars member).length < fuel) (apart : Apart rest) :
    memberOf? fuel (memberChars member ++ rest) = some (member, rest) := by
  rcases fuel with _ | fuel
  · contradiction
  rcases member with ⟨name, value⟩
  rw [memberChars, List.length_append, List.length_cons] at enough
  have read := string?_quoted name (':' :: (value.chars ++ rest))
  have goesOn : memberOf? (fuel + 1) (memberChars (name, value) ++ rest) =
      (value? fuel (value.chars ++ rest)).bind fun (value, after) => some ((name, value), after) := by
    have opened : memberOf? (fuel + 1)
          ('"' :: (name.toList.flatMap Text.escaped ++ '"' :: ':' :: (value.chars ++ rest))) =
        (string? (name.toList.flatMap Text.escaped ++ '"' :: ':' :: (value.chars ++ rest))).bind
          fun (name, rest) => match skip rest with
            | ':' :: rest =>
                (value? fuel rest).bind fun (value, after) => some ((name, value), after)
            | _ => none := rfl
    rw [read] at opened
    simp only [memberChars, toList_quoted, List.cons_append, List.append_assoc, List.nil_append]
    exact opened
  rw [goesOn, value?_chars value (by omega) apart]
  rfl

theorem moreMembers?_chars (members : List (String × Json)) {rest : List Char} {fuel : Nat}
    (enough : (membersChars members).length < fuel) :
    moreMembers? fuel (membersChars members ++ rest) = some (members, rest) := by
  rcases fuel with _ | fuel
  · contradiction
  cases members with
  | nil => rfl
  | cons member members =>
      rw [membersChars, List.cons_append, List.length_cons, List.length_append] at enough
      have goesOn : moreMembers? (fuel + 1)
            (',' :: (memberChars member ++ (membersChars members ++ rest))) =
          (memberOf? fuel (memberChars member ++ (membersChars members ++ rest))).bind
            fun (member, rest) => (moreMembers? fuel rest).bind fun (members, after) =>
              some (member :: members, after) := rfl
      rw [memberOf?_chars member (by omega) (apart_membersChars members rest),
        Option.bind_some] at goesOn
      dsimp only at goesOn
      rw [moreMembers?_chars members (by omega)] at goesOn
      rw [membersChars, List.cons_append, List.cons_append, List.append_assoc]
      exact goesOn

end

/-- Every value that is written reads back as it is. -/
theorem read?_text (json : Json) : read? json.text = some json := by
  have written : json.text.toList = json.chars ++ [] := by
    simp [text]
  have enough : json.chars.length < json.text.length + 1 := by
    simp [text]
  have ends : Apart [] := rfl
  rw [read?, written, value?_chars json enough ends]
  rfl

/-- The reader also takes blanks, escapes and numbers that are never written. -/
example : read? " [ \"\\u00e9\\uD83D\\uDE00\\/\", -1.50E+3 ] " =
    some (.list [.string "é😀/", .number (-150) 1]) := rfl

/-! ## One line -/

/-- Whether a text has no control character, such as the one that ends a line. -/
def Visible (text : List Char) : Prop :=
  ∀ character ∈ text, 32 ≤ character.toNat

theorem Visible.append {text rest : List Char} (visible : Visible text) (visible' : Visible rest) :
    Visible (text ++ rest) :=
  List.forall_mem_append.mpr ⟨visible, visible'⟩

theorem Visible.cons {character : Char} {rest : List Char} (high : 32 ≤ character.toNat)
    (visible : Visible rest) : Visible (character :: rest) :=
  List.forall_mem_cons.mpr ⟨high, visible⟩

theorem visible_escaped (character : Char) : Visible (Text.escaped character) := by
  have hex : ∀ digit < 16, 32 ≤ (Text.hexDigit digit).toNat := by decide
  unfold Text.escaped
  iterate 7
    split
    · simp [Visible]
  split
  · next low =>
    have upper := hex (character.toNat / 16) (by omega)
    have lower := hex (character.toNat % 16) (by omega)
    simp [Visible, upper, lower]
  · next high => exact Visible.cons (Nat.le_of_not_lt high) (by simp [Visible])

theorem visible_quoted (text : String) : Visible (Text.quoted text).toList := by
  have body : Visible (text.toList.flatMap Text.escaped) := by
    intro character member
    rcases List.mem_flatMap.mp member with ⟨source, _, inside⟩
    exact visible_escaped source character inside
  rw [toList_quoted]
  exact .cons (by decide) (body.append (by simp [Visible]))

/-- A numeric character is visible. -/
theorem le_of_isNumeric {character : Char} (numeric : isNumeric character = true) :
    32 ≤ character.toNat := by
  simp only [isNumeric, Bool.or_eq_true, decide_eq_true_eq] at numeric
  rcases numeric with ((((digit | rfl) | rfl) | rfl) | rfl) | rfl
  · have range : 0x30 ≤ character.toNat ∧ character.toNat ≤ 0x39 := by
      simpa [Char.isDigit, UInt32.le_iff_toNat_le] using digit
    omega
  all_goals decide

theorem visible_numberChars (digits exponent : Int) : Visible (numberChars digits exponent) :=
  fun _ member => le_of_isNumeric (isNumeric_of_mem_numberChars member)

mutual

/-- The text of a value is a single line. -/
theorem visible_chars (json : Json) : Visible json.chars := by
  cases json with
  | null => simp [Visible, chars]
  | bool value => cases value <;> simp [Visible, chars]
  | number digits exponent => exact visible_numberChars digits exponent
  | string value => exact visible_quoted value
  | list items =>
      cases items with
      | nil => simp [Visible, chars]
      | cons item items =>
          exact .cons (by decide) ((visible_chars item).append (visible_itemsChars items))
  | object members =>
      cases members with
      | nil => simp [Visible, chars]
      | cons member members =>
          exact .cons (by decide) ((visible_memberChars member).append (visible_membersChars members))

theorem visible_itemsChars (items : List Json) : Visible (itemsChars items) := by
  cases items with
  | nil => simp [Visible, itemsChars]
  | cons item items =>
      exact .cons (by decide) ((visible_chars item).append (visible_itemsChars items))

theorem visible_memberChars (member : String × Json) : Visible (memberChars member) := by
  rcases member with ⟨name, value⟩
  exact (visible_quoted name).append (.cons (by decide) (visible_chars value))

theorem visible_membersChars (members : List (String × Json)) : Visible (membersChars members) := by
  cases members with
  | nil => simp [Visible, membersChars]
  | cons member members =>
      exact .cons (by decide) ((visible_memberChars member).append (visible_membersChars members))

end

end Json

end PropertyBinding
