namespace PropertyBinding

/-!
# Property types

The declared type of a property.  Classes, enumerations and record types are
named by their index in the schema they were registered in.
-/

/-- The index of a class in its schema. -/
abbrev ClassId : Type := Nat

/-- The index of an enumeration in its schema. -/
abbrev EnumId : Type := Nat

/-- The index of a record type in its schema. -/
abbrev RecordId : Type := Nat

/-- The static type of a property. -/
inductive PropertyType where
  | bool
  | int
  | float
  | double
  | string
  | enum (id : EnumId)
  /-- A pointer to an object of a class or a subclass of it, or to none. -/
  | object (declared : ClassId)
  /-- A list of pointers to objects of a class or its subclasses. -/
  | list (declared : ClassId)
  | record (id : RecordId)
  /-- A container for any value. -/
  | variant
  /-- A script value stored as it is. -/
  | script
  /-- An open slot for script values. -/
  | var
deriving Repr, DecidableEq

end PropertyBinding
