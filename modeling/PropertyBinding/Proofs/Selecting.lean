import PropertyBinding.Proofs.Capture
import PropertyBinding.Proofs.Narrowing

namespace PropertyBinding

/-!
# Members and keys

A member of a value can be named after a point or by a text in brackets.  The two take
different ways: a key selects an item of an array by its number before it is looked at as
a name, and it is looked up in the value after one wrapper more is gone.  No name is the
number of an item, so the two ways meet on every value that is neither an array nor
wrapped twice.
-/

/-! ## Names are no numbers -/

namespace Text

/-- No alphabetic character is below the capital letters. -/
theorem le_toNat_of_isAlphabetic {character : Char} (alphabetic : isAlphabetic character = true) :
    0x41 ≤ character.toNat := by
  have ranges : alphabeticRanges.toList.all (fun range => 0x41 ≤ range.1) = true := by
    decide +kernel
  rw [isAlphabetic, ← Array.any_toList, List.any_eq_true] at alphabetic
  obtain ⟨range, member, inside⟩ := alphabetic
  have low := List.all_eq_true.mp ranges range member
  simp only [Bool.and_eq_true, decide_eq_true_eq] at inside low
  omega

/-- The ranges of the alphabetic and of the blank characters have nothing in common. -/
theorem not_blank_of_isAlphabetic {character : Char} (alphabetic : isAlphabetic character = true) :
    isBlank character = false := by
  have apart : alphabeticRanges.toList.all (fun range =>
      blankRanges.toList.all fun blank => range.2 < blank.1 || blank.2 < range.1) = true := by
    decide +kernel
  rw [isAlphabetic, ← Array.any_toList, List.any_eq_true] at alphabetic
  obtain ⟨range, member, inside⟩ := alphabetic
  rw [isBlank, ← Array.any_toList, List.any_eq_false]
  intro blank known
  have gap := List.all_eq_true.mp (List.all_eq_true.mp apart range member) blank known
  simp only [Bool.and_eq_true, Bool.or_eq_true, decide_eq_true_eq] at inside gap ⊢
  omega

/-- Trimming keeps a first character that is not blank. -/
theorem trimChars_cons {first : Char} (rest : List Char) (visible : isBlank first = false) :
    ∃ kept, trimChars (first :: rest) = first :: kept := by
  rw [trimChars, List.dropWhile_cons_of_neg (by simp [visible]), List.reverse_cons,
    List.dropWhile_append]
  split
  · exact ⟨[], by rw [List.dropWhile_cons_of_neg (by simp [visible])]; rfl⟩
  · exact ⟨_, by rw [List.reverse_append]; rfl⟩

end Text

namespace Script

/-- Whether a text is a name as the lexer reads it. -/
def IsName (name : String) : Prop :=
  ∃ first rest, name.toList = first :: rest ∧ Lexer.startsName first = true ∧
    ∀ character ∈ rest, Lexer.continuesName character = true

/-- A character that a name begins with is no blank, digit, sign or point. -/
theorem Lexer.of_startsName {first : Char} (starts : startsName first = true) :
    Text.isBlank first = false ∧ first.isDigit = false ∧ first ≠ '-' ∧ first ≠ '+' ∧
      first ≠ '.' := by
  simp only [startsName, Bool.or_eq_true, decide_eq_true_eq] at starts
  rcases starts with (alphabetic | rfl) | rfl
  · have low := Text.le_toNat_of_isAlphabetic alphabetic
    refine ⟨Text.not_blank_of_isAlphabetic alphabetic, ?_, ?_, ?_, ?_⟩
    · rw [Char.isDigit, Bool.and_eq_false_iff]
      right
      simp only [decide_eq_false_iff_not, UInt32.le_iff_toNat_le]
      exact Nat.not_le.mpr (Nat.lt_of_lt_of_le (by decide) low)
    all_goals
      rintro rfl
      exact absurd low (by decide)
  · decide +kernel
  · decide +kernel

end Script

namespace Number

/-- What does not begin like a numeral is read as one only if it is a special name. -/
theorem ofChars?_special {first : Char} {rest : List Char} {numeral : Numeral}
    (noDigit : first.isDigit = false) (noMinus : first ≠ '-') (noPlus : first ≠ '+')
    (noPoint : first ≠ '.') (read : Numeral.ofChars? (first :: rest) = some numeral) :
    (∃ negative, numeral = .infinite negative) ∨ numeral = .notANumber := by
  have unsigned : unsigned? false (first :: rest) = none := by
    have whole : (first :: rest).takeWhile Char.isDigit = [] :=
      List.takeWhile_cons_of_neg (by simp [noDigit])
    have after : (first :: rest).dropWhile Char.isDigit = first :: rest :=
      List.dropWhile_cons_of_neg (by simp [noDigit])
    unfold unsigned?
    rw [whole, after]
    dsimp only
    split
    · next same => exact absurd (List.cons.inj same).1 noPoint
    · rfl
  have bare : splitSign (first :: rest) = (false, first :: rest) := by
    unfold splitSign
    split
    · next same => exact absurd (List.cons.inj same).1 noMinus
    · next same => exact absurd (List.cons.inj same).1 noPlus
    · rfl
  simp only [Numeral.ofChars?, bare, unsigned] at read
  split at read
  · exact .inl ⟨false, (Option.some.inj read).symm⟩
  · split at read
    · exact .inr (Option.some.inj read).symm
    · cases read

theorem not_isWhole_special {numeral : Numeral}
    (special : (∃ negative, numeral = .infinite negative) ∨ numeral = .notANumber) :
    isWhole numeral.toFloat = false := by
  rcases special with ⟨negative, rfl⟩ | rfl
  · cases negative <;> decide
  · decide

end Number

namespace Script

/-- A name selects no item of an array. -/
theorem item_of_name {name : String} (known : IsName name) (items : List Value) :
    item items (.string name) = .undefined := by
  obtain ⟨first, rest, spelled, starts, -⟩ := known
  obtain ⟨visible, noDigit, noMinus, noPlus, noPoint⟩ := Lexer.of_startsName starts
  obtain ⟨kept, trimmed⟩ := Text.trimChars_cons rest visible
  have fraction : Number.isWhole (toNumber (.string name)) = false := by
    simp only [toNumber, Value.core, Number.readText?, spelled, trimmed, Number.readNumeral?]
    cases read : Number.Numeral.ofChars? (first :: kept) with
    | none => decide
    | some numeral =>
        exact Number.not_isWhole_special
          (Number.ofChars?_special noDigit noMinus noPlus noPoint read)
  rw [item, fraction]
  rfl

end Script

/-! ## The two ways -/

namespace Engine

open Script Evaluation

variable {σ : Type} {outside : Outside σ} {world middle : World σ} {context : CallContext}
  {locals : List (String × Value)} {object : Expr} {value : Value}

/-- A world after the arrays of a value got identities. -/
def placing (world : World σ) (value : Value) : World σ :=
  { world with identities := (value.place world.identities).2 }

theorem evaluate_member (name : String)
    (evaluates : (evaluate context locals object).run outside world = some (.ok value, middle)) :
    (evaluate context locals (.member object name)).run outside world =
      (member value name).run outside middle := by
  rw [evaluate, apply_attempt _ evaluates]

theorem evaluate_index (name : String)
    (evaluates : (evaluate context locals object).run outside world = some (.ok value, middle)) :
    (evaluate context locals (.index object (.literal (.string name)))).run outside world =
      (select (value.unwrapped.place middle.identities).1 (.string name)).run outside
        (placing middle value.unwrapped) := by
  rw [evaluate, apply_attempt _ evaluates, apply_perform, evaluate]
  rfl

theorem select_array (identity : Option Nat) (items : List Value) (key : Value) :
    (select (.array identity items) key).run outside world =
      some (.ok (item items key), world) := by
  rw [select, apply_perform]
  rfl

/-- A value that is no array is asked for the member that the text of a key names. -/
theorem select_name {name : String} (single : ∀ identity items, value ≠ .array identity items) :
    (select value (.string name)).run outside world = (member value name).run outside world := by
  rw [select, apply_perform]
  cases value with
  | array identity items => exact absurd rfl (single identity items)
  | _ => rfl

theorem member_array {identity : Option Nat} {items : List Value} (name : String)
    (unwrapped : value.unwrapped = .array identity items) :
    (member value name).run outside world =
      some (.ok (if name = "length" then .int (Int32.ofNat items.length) else .undefined), world) := by
  rw [member, apply_perform]
  simp only [unwrapped, length?, Value.isNullish]
  by_cases length : name = "length"
  · simp only [if_pos length]
    rfl
  · simp only [if_neg length]
    rfl

theorem member_wrapped {content : Variant} (name : String)
    (unwrapped : value.unwrapped = .variant content) :
    (member value name).run outside world = some (.ok .undefined, world) := by
  rw [member, apply_perform]
  simp only [unwrapped, length?, Value.isNullish]
  by_cases length : name = "length"
  · simp only [if_pos length]
    rfl
  · simp only [if_neg length]
    rfl

/-- A value is asked for its members after one wrapper is gone. -/
theorem member_unwrapped (name : String) (single : ∀ content, value.unwrapped ≠ .variant content) :
    (member value.unwrapped name).run outside world = (member value name).run outside world := by
  have once : value.unwrapped.unwrapped = value.unwrapped := by
    cases inner : value.unwrapped with
    | variant content => exact absurd inner (single content)
    | _ => rfl
  rw [member, member, once]

/-- An expression without a value has no member, by whichever way it is asked for one. -/
theorem member_alike_index_failed (name : String)
    (fails : ∀ value middle,
      (evaluate context locals object).run outside world ≠ some (.ok value, middle)) :
    (evaluate context locals (.index object (.literal (.string name)))).run outside world =
      (evaluate context locals (.member object name)).run outside world := by
  rw [evaluate, evaluate]
  show ((evaluate context locals object).run outside world).bind _ =
    ((evaluate context locals object).run outside world).bind _
  cases ends : (evaluate context locals object).run outside world with
  | none => rfl
  | some out =>
      rcases out with ⟨outcome, middle⟩
      cases outcome with
      | error error => rfl
      | ok value => exact absurd ends (fails value middle)

/--
A member that is named after a point and one that is named by a text in brackets are the
same: the same value or exception, and the same world after it with the same edges.  There
are two exceptions.  An array has its length after a point only, while by a key it has no
member that has a name.  And a container that was wrapped twice has no members after a
point, while a key is looked up in what it holds.
-/
theorem members_alike_keys_but_for_arrays {name : String} (known : IsName name)
    (outside : Outside σ) (world : World σ) (context : CallContext)
    (locals : List (String × Value)) (object : Expr) :
    let named := (evaluate context locals (.member object name)).run outside world
    let keyed := (evaluate context locals (.index object (.literal (.string name)))).run outside world
    (∀ value middle, (evaluate context locals object).run outside world = some (.ok value, middle) →
      match value.unwrapped with
      | .array _ items =>
          named = some (.ok (if name = "length" then .int (Int32.ofNat items.length)
            else .undefined), middle) ∧
          keyed = some (.ok .undefined, placing middle value.unwrapped)
      | .variant _ =>
          named = some (.ok .undefined, middle) ∧
          keyed = (member (value.unwrapped.place middle.identities).1 name).run outside
            (placing middle value.unwrapped)
      | _ => keyed = named) ∧
    ((∀ value middle,
        (evaluate context locals object).run outside world ≠ some (.ok value, middle)) →
      keyed = named) := by
  intro named keyed
  refine ⟨fun value middle evaluates => ?_, member_alike_index_failed name⟩
  have afterPoint : named = (member value name).run outside middle := evaluate_member name evaluates
  have inBrackets : keyed = _ := evaluate_index name evaluates
  cases inner : value.unwrapped with
  | array identity items =>
      refine ⟨afterPoint.trans (member_array name inner), inBrackets.trans ?_⟩
      rw [inner]
      cases identity with
      | none =>
          simp only [Value.place]
          rw [select_array, item_of_name known]
      | some number =>
          simp only [Value.place]
          rw [select_array, item_of_name known]
  | variant content =>
      refine ⟨afterPoint.trans (member_wrapped name inner), inBrackets.trans ?_⟩
      rw [inner]
      exact select_name fun identity items impossible => by
        simp only [Value.place] at impossible
        cases impossible
  | _ =>
      have unchanged : value.unwrapped.place middle.identities =
          (value.unwrapped, middle.identities) := by
        rw [inner]
        rfl
      have still : placing middle value.unwrapped = middle := by
        rw [placing, unchanged]
      show keyed = named
      rw [inBrackets, afterPoint, unchanged, still, select_name (by simp [inner]),
        member_unwrapped name (by simp [inner])]

section Singleton

/-! ## A list of one -/

/-- An empty world. -/
def emptyWorld : World Unit := .initial .empty ()

/-- An expression for a list with one number. -/
def singleton : Expr := .array [.literal (.int 7)]

theorem isName_length : IsName "length" := by
  have letters : ∀ character ∈ ['l', 'e', 'n', 'g', 't', 'h'],
      Text.isAlphabetic character = true := by
    intro character member
    rw [Text.isAlphabetic, ← Array.any_toList]
    simp only [List.mem_cons, List.not_mem_nil, or_false] at member
    rcases member with rfl | rfl | rfl | rfl | rfl | rfl <;> decide +kernel
  refine ⟨'l', ['e', 'n', 'g', 't', 'h'], by decide, ?_, fun character member => ?_⟩
  · rw [Lexer.startsName, letters 'l' (by decide)]
    rfl
  · rw [Lexer.continuesName, letters character (List.mem_cons_of_mem 'l' member)]
    rfl

/-- A list of one has the length 1 after a point, and no length in brackets. -/
theorem singleton_has_length_after_point :
    IsName "length" ∧
    (evaluate ⟨.empty, none, []⟩ [] (.member singleton "length")).run (.within Host.silent 1)
        emptyWorld = some (.ok (.int 1), { emptyWorld with identities := 1 }) ∧
    (evaluate ⟨.empty, none, []⟩ [] (.index singleton (.literal (.string "length")))).run
        (.within Host.silent 1) emptyWorld =
      some (.ok .undefined, { emptyWorld with identities := 1 }) := by
  have agree := members_alike_keys_but_for_arrays isName_length (.within Host.silent 1) emptyWorld
    ⟨.empty, none, []⟩ [] singleton
  exact ⟨isName_length, agree.1 (.array (some 0) [.int 7]) { emptyWorld with identities := 1 } rfl⟩

end Singleton

end Engine

end PropertyBinding
