import PropertyBinding.Value.Basic

namespace PropertyBinding

/-!
# Identities of arrays

An array that was just built by a conversion has no identity.  Placing a value
gives the next free identities to all such arrays in it, the outer before the
inner, and leaves every other value as it is.
-/

mutual

/-- Gives identities to the arrays of a script value that have none. -/
def Value.place (next : Nat) : Value → Value × Nat
  | .variant content =>
      let (placed, next) := Variant.place next content
      (.variant placed, next)
  | .array none items =>
      let (placed, after) := Value.placeAll (next + 1) items
      (.array (some next) placed, after)
  | other => (other, next)

/-- Gives identities to the arrays of several script values that have none. -/
def Value.placeAll (next : Nat) : List Value → List Value × Nat
  | [] => ([], next)
  | value :: rest =>
      let (placed, next) := Value.place next value
      let (others, next) := Value.placeAll next rest
      (placed :: others, next)

/-- Gives identities to the arrays of a container that have none. -/
def Variant.place (next : Nat) : Variant → Variant × Nat
  | .list items =>
      let (placed, next) := Variant.placeAll next items
      (.list placed, next)
  | .script value =>
      let (placed, next) := Value.place next value
      (.script placed, next)
  | other => (other, next)

/-- Gives identities to the arrays of several containers that have none. -/
def Variant.placeAll (next : Nat) : List Variant → List Variant × Nat
  | [] => ([], next)
  | variant :: rest =>
      let (placed, next) := Variant.place next variant
      let (others, next) := Variant.placeAll next rest
      (placed :: others, next)

end

namespace Native

/-- Gives identities to the arrays of a stored value that have none. -/
def place (next : Nat) : Native → Native × Nat
  | .variant value =>
      let (placed, next) := value.place next
      (.variant placed, next)
  | .script value =>
      let (placed, next) := value.place next
      (.script placed, next)
  | other => (other, next)

end Native

end PropertyBinding
