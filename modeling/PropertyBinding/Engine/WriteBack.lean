import PropertyBinding.Engine.Property

namespace PropertyBinding

/-!
# Write-back

A write adapter stores results in properties.  It follows one strategy, which
was fixed from the start or is chosen by the first property it writes as a
whole.  A native result that fits the property is stored as it is, except where
the classes of objects have to be looked at.
-/

/-- A write-back, which can end without storing anything. -/
abbrev WriteBack (σ : Type) : Type → Type := Attempt WriteError σ

namespace WriteBack

variable {σ α : Type}

/-- A property access as part of a write-back. -/
def access (attempt : Attempt PropertyError σ α) : WriteBack σ α :=
  ExceptT.adapt .ofProperty attempt

/-- A conversion as part of a write-back. -/
def convert (conversion : ObjectGraph → Except ConversionError α) : WriteBack σ α :=
  ExceptT.adapt .ofConversion (Attempt.ask conversion)

/-- The name of a type as messages show it. -/
def typeName (type : PropertyType) : Engine σ String := do
  return (← Engine.graph).schema.typeName type

/-- Makes an adapter. -/
def createAdapter (strategy? : Option WriteStrategy) : Engine σ AdapterId := do
  let id := (← get).adapters.length
  modify fun world => { world with adapters := world.adapters ++ [strategy?] }
  return id

/-- The strategy of an adapter as far as it is fixed. -/
def strategy? (id : AdapterId) : Engine σ (Option WriteStrategy) := do
  return ((← get).adapters[id]?).join

/-- The strategy of an adapter, fixed by a property if it is not yet. -/
def chooseStrategy (id : AdapterId) (property : Property) : Engine σ WriteStrategy := do
  match ← strategy? id with
  | some strategy => return strategy
  | none =>
      let strategy := WriteStrategy.ofProperty property
      modify fun world => { world with adapters := world.adapters.set id (some strategy) }
      return strategy

/-- Stores `undefined`: the default if the property has one, else the empty value of the strategy. -/
def writeUndefined (strategy : WriteStrategy) (ref : PropertyRef) (property : Property)
    (flags : WriteFlags) : WriteBack σ Unit := do
  if property.resettable then
    access (Engine.reset ref flags)
  else
    match strategy with
    | .variant => access (Engine.write ref (.variant .empty) flags)
    | .script => access (Engine.write ref (.script .undefined) flags)
    | .varSlot => access (Engine.writeVar ref .undefined flags)
    | _ => throw (.undefinedAssignment (← Attempt.perform (typeName property.type)))

/-- Stores a script value under a strategy. -/
def writeValue (strategy : WriteStrategy) (ref : PropertyRef) (property : Property)
    (value : Value) (flags : WriteFlags) : WriteBack σ Unit := do
  match value with
  | .undefined => writeUndefined strategy ref property flags
  | _ =>
      match value, strategy.acceptsFunctions with
      | .function _ marked, false => throw (.functionAssignment marked)
      | _, _ =>
          if strategy = .varSlot then
            access (Engine.writeVar ref value flags)
          else
            let native ← convert fun graph => strategy.native graph.context property.type value
            access (Engine.write ref native flags)

/-- Stores a result in a property as a whole. -/
def writeProperty (strategy : WriteStrategy) (ref : PropertyRef) (property : Property)
    (result : Boxed) (flags : WriteFlags) : WriteBack σ Unit := do
  match result with
  | .dynamic value => writeValue strategy ref property value flags
  | .native _ native _ =>
      if strategy ≠ .varSlot && native.fits property.type && !strategy.checksClasses then
        access (Engine.write ref native flags)
      else
        writeValue strategy ref property (← Attempt.perform (Engine.place native.toValue)) flags

/-- The number that a field takes from a script value. -/
def fieldNumber (value : Value) : WriteBack σ Float := do
  match value with
  | .undefined => throw (.undefinedAssignment (← Attempt.perform (typeName .double)))
  | .function _ marked => throw (.functionAssignment marked)
  | .double number => return number
  | _ =>
      match ← convert fun graph => value.toNative graph.context .double with
      | .double number => return number
      | _ =>
          let context := (← Attempt.perform Engine.graph).context
          throw (.typeMismatch (value.typeName context) (context.schema.typeName .double))

/-- Stores a result in one field of a record and leaves its other fields as they are. -/
def writeField (ref : PropertyRef) (property : Property) (field : Nat) (result : Boxed)
    (flags : WriteFlags) : WriteBack σ Unit := do
  let number ← fieldNumber result.toValue
  match ← access (Engine.peek ref) with
  | .record current =>
      match current.setField? field number with
      | some changed => access (Engine.write ref (.record changed) flags)
      | none => throw (.property (.unknownField property.name field))
  | _ =>
      let schema := (← Attempt.perform Engine.graph).schema
      throw (.typeMismatch (schema.typeName .double) (schema.typeName property.type))

/-- Stores a result in a target whose property is no alias. -/
def write (adapter : AdapterId) (target : BindingTarget) (result : Boxed) (flags : WriteFlags) :
    WriteBack σ Unit := do
  let property ← access (Attempt.ask fun graph => graph.property target.property)
  match target.field? with
  | some field => writeField target.property property field result flags
  | none => do
      let strategy ← Attempt.perform (chooseStrategy adapter property)
      writeProperty strategy target.property property result flags

end WriteBack

end PropertyBinding
