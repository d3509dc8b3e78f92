namespace PropertyBinding

/-!
# Places in source text

Lines and columns count from one.  A `Position` is a place in some text, and a
`Location` adds the address of the text.
-/

/-- A line and a column, both counted from one. -/
structure Position where
  line : Nat
  column : Nat
deriving Repr, DecidableEq

/-- The place an expression or a failure comes from. -/
structure Location where
  url : String
  line : Nat
  column : Nat
deriving Repr, DecidableEq

namespace Location

/-- A position in the text at an address. -/
def ofPosition (url : String) (position : Position) : Location :=
  ⟨url, position.line, position.column⟩

/-- The place of code that has no source text. -/
def none : Location := ⟨"", 0, 0⟩

/-- The location as messages show it. -/
def text (location : Location) : String :=
  let url := if location.url.isEmpty then "<Unknown File>" else location.url
  s!"{url}:{location.line}:{location.column}"

end Location

end PropertyBinding
