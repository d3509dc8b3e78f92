namespace PropertyBinding
namespace Text

/-!
# Blank characters

White space separates the tokens of an expression and is dropped from both ends
of a number, a flag and a path before they are read.  The class is the Unicode
property `White_Space`, which has twenty-five characters.
-/

/-- The closed ranges of the blank code points, in increasing order. -/
def blankRanges : Array (Nat × Nat) := #[
    (0x9, 0xD), (0x20, 0x20), (0x85, 0x85), (0xA0, 0xA0), (0x1680, 0x1680), (0x2000, 0x200A),
    (0x2028, 0x2029), (0x202F, 0x202F), (0x205F, 0x205F), (0x3000, 0x3000)]

/-- Whether a character has the property `White_Space`. -/
def isBlank (c : Char) : Bool :=
  blankRanges.any fun (low, high) => low ≤ c.toNat && c.toNat ≤ high

/-- The characters between the leading and the trailing blanks. -/
def trimChars (text : List Char) : List Char :=
  ((text.dropWhile isBlank).reverse.dropWhile isBlank).reverse

/-- The text between the leading and the trailing blanks. -/
def trim (text : String) : String :=
  String.ofList (trimChars text.toList)

/-- Trimming leaves no blank at the front. -/
theorem not_blank_of_head_trimChars {text : List Char} {first : Char}
    (present : (trimChars text).head? = some first) : isBlank first = false := by
  unfold trimChars at present
  have suffix : ∀ rest : List Char,
      (rest.reverse.dropWhile isBlank).reverse <+: rest := by
    intro rest
    have := List.reverse_prefix.mpr (List.dropWhile_suffix (l := rest.reverse) isBlank)
    simpa using this
  obtain ⟨tail, same⟩ := suffix (text.dropWhile isBlank)
  have head : (text.dropWhile isBlank).head? = some first := by
    rw [← same, List.head?_append, present]
    rfl
  have := List.head?_dropWhile_not isBlank text
  rw [head] at this
  simpa using this

end Text
end PropertyBinding
