import PropertyBinding.Proofs.Pointing
import PropertyBinding.Proofs.ScriptForm

namespace PropertyBinding

/-!
# Shortcuts of a write-back

The strategy of a property recognises values that are in the form of its type already,
and stores them without a conversion.  No result depends on that.  `Verdict.on` is what
a write-back decides if it converts every value: `undefined` and functions are looked
at first, and nothing else is asked of a value than its form in the declared type.  A
write-back does what that verdict says, whatever the type and the value.
-/

/-- Whether a type takes functions like any other value. -/
def PropertyType.takesFunctions : PropertyType → Bool
  | .variant | .script => true
  | _ => false

/-- What a write-back does with a script value. -/
inductive Verdict where
  /-- The property gets its default again. -/
  | reset
  | store (value : Native)
  | refuse (error : WriteError)

namespace Verdict

/-- The verdict on `undefined`: the default if the property has one, else the empty value of its type. -/
def onUndefined (context : TypeContext) (property : Property) : Verdict :=
  if property.resettable then
    .reset
  else
    match property.type with
    | .variant => .store (.variant .empty)
    | .script => .store (.script .undefined)
    | type => .refuse (.undefinedAssignment (context.schema.typeName type))

/-- The verdict on a value that is stored in the form it has in a type. -/
def onConversion (context : TypeContext) (type : PropertyType) (value : Value) : Verdict :=
  match value.toNative context type with
  | .ok native => .store native
  | .error error => .refuse (.typeMismatch error.source error.target)

/-- The verdict on a script value for a property, where every value is converted. -/
def on (context : TypeContext) (property : Property) (value : Value) : Verdict :=
  match value with
  | .undefined => onUndefined context property
  | .function _ marked =>
      if property.type.takesFunctions then
        onConversion context property.type value
      else
        .refuse (.functionAssignment marked)
  | _ => onConversion context property.type value

/-- Does what a verdict says; a refusal does nothing. -/
def carryOut {σ : Type} (ref : PropertyRef) (flags : WriteFlags) : Verdict → WriteBack σ Unit
  | .reset => WriteBack.access (Engine.reset ref flags)
  | .store value => WriteBack.access (Engine.write ref value flags)
  | .refuse error => throw error

end Verdict

/-! ## Values that need no conversion -/

namespace WriteStrategy

variable {context : TypeContext} {value : Value} {stored : Native}

/-- A plain value of the plain type is converted to itself. -/
theorem toNative_of_exactPrimitive? {primitiveType : PrimitiveType}
    (exact' : exactPrimitive? primitiveType value = some stored) :
    value.toNative context (WriteStrategy.primitive primitiveType).type = .ok stored := by
  cases primitiveType <;> cases value <;> cases exact'
  case bool.bool value => cases value <;> rfl
  all_goals rfl

/-- A pointer that suits the declared class is converted to itself. -/
theorem toNative_of_exactPointer? {declared : ClassId}
    (suits : exactPointer? context declared value = some stored) :
    value.toNative context (.object declared) = .ok stored := by
  cases value with
  | null =>
      cases suits
      rfl
  | object id =>
      simp only [exactPointer?] at suits
      split at suits
      · cases suits
      · next actual living =>
        by_cases inherits : context.schema.inherits actual declared = true
        · simp only [Schema.compatibility, inherits, if_true, Option.some.injEq] at suits
          cases suits
          simp only [Value.toNative, Value.toNative?, Value.core, Value.bareNative?,
            Value.pointer?, living, inherits, if_true, Option.map_some]
        · simp only [Schema.compatibility, if_neg inherits] at suits
          cases below : context.schema.inherits declared actual <;>
            simp [below] at suits
  | _ => cases suits

/-- What the strategy of a type stores without a conversion is what the conversion gives. -/
theorem toNative_of_fitting? {type : PropertyType}
    (fitting : (ofType type).fitting? context value = some stored) :
    value.toNative context type = .ok stored := by
  cases type with
  | object declared => exact toNative_of_exactPointer? fitting
  | enum id =>
      cases value <;> cases fitting
      rfl
  | record id =>
      cases value with
      | record fields =>
          simp only [ofType, fitting?] at fitting
          split at fitting
          · next same =>
            cases fitting
            simp only [Value.toNative, Value.toNative?, Value.core, Value.bareNative?, same,
              if_true]
          · cases fitting
      | _ => cases fitting
  | variant => cases fitting; rfl
  | script => cases fitting; rfl
  | list declared => cases fitting
  | var => cases fitting
  | _ => exact toNative_of_exactPrimitive? fitting

/-- The strategy of a type gives a value the form that the conversion gives it. -/
theorem native_ofType (context : TypeContext) (type : PropertyType) (value : Value) :
    (ofType type).native context type value = value.toNative context type := by
  unfold native
  cases fitting : (ofType type).fitting? context value with
  | none => rfl
  | some stored => exact (toNative_of_fitting? fitting).symm

theorem acceptsFunctions_ofType {type : PropertyType} (closed : type ≠ .var) :
    (ofType type).acceptsFunctions = type.takesFunctions := by
  cases type <;> first | rfl | exact absurd rfl closed

theorem ofType_ne_varSlot {type : PropertyType} (closed : type ≠ .var) :
    ofType type ≠ .varSlot := by
  cases type <;> first | exact absurd rfl closed | (intro same; cases same)

theorem ofProperty_of_closed {property : Property} (closed : property.isVar = false) :
    ofProperty property = ofType property.type := by
  rw [ofProperty, closed]
  rfl

end WriteStrategy

/-! ## Verdicts carried out -/

namespace Engine

variable {σ : Type} {outside : Outside σ} {world : World σ} {ref : PropertyRef}
  {property : Property} {adapter : AdapterId}

/-- A conversion goes on with the native form, or ends the write-back. -/
theorem apply_convert {α β : Type} (conversion : ObjectGraph → Except ConversionError α)
    (next : α → WriteBack σ β) :
    (WriteBack.convert conversion >>= next).run outside world =
      match conversion world.graph with
      | .ok native => (next native).run outside world
      | .error error => some (.error (.ofConversion error), world) := by
  show ExceptT.bindCont next ((conversion world.graph).mapError WriteError.ofConversion) outside
    world = _
  cases conversion world.graph <;> rfl

/-- What is stored after a conversion is what the verdict on the value says. -/
theorem convert_verdict (type : PropertyType) (value : Value) (flags : WriteFlags) :
    (WriteBack.convert (fun graph =>
        (WriteStrategy.ofType type).native graph.context type value) >>= fun native =>
      WriteBack.access (write ref native flags)).run outside world =
      ((Verdict.onConversion world.graph.context type value).carryOut ref flags).run
        outside world := by
  rw [apply_convert, WriteStrategy.native_ofType, Verdict.onConversion]
  cases value.toNative world.graph.context type <;> rfl

/-- `undefined` is written back as the verdict on it says. -/
theorem writeUndefined_verdict (closed : property.type ≠ .var) (flags : WriteFlags) :
    (WriteBack.writeUndefined (.ofType property.type) ref property flags).run outside world =
      ((Verdict.onUndefined world.graph.context property).carryOut ref flags).run outside world := by
  unfold WriteBack.writeUndefined Verdict.onUndefined
  cases property.resettable with
  | true => rfl
  | false =>
      cases type : property.type <;>
        first
          | rfl
          | exact absurd type closed

/-- A script value is written back as the verdict on it says. -/
theorem writeValue_verdict (closed : property.type ≠ .var) (value : Value) (flags : WriteFlags) :
    (WriteBack.writeValue (.ofType property.type) ref property value flags).run outside world =
      ((Verdict.on world.graph.context property value).carryOut ref flags).run outside world := by
  have slotless := WriteStrategy.ofType_ne_varSlot closed
  cases value with
  | undefined => exact writeUndefined_verdict closed flags
  | function callee marked =>
      have takes := WriteStrategy.acceptsFunctions_ofType closed
      cases accepted : property.type.takesFunctions with
      | true =>
          rw [accepted] at takes
          simp only [WriteBack.writeValue, Verdict.on, takes, accepted, if_neg slotless, if_true]
          exact convert_verdict property.type (.function callee marked) flags
      | false =>
          rw [accepted] at takes
          simp only [WriteBack.writeValue, Verdict.on, takes, accepted, Bool.false_eq_true, if_false]
          rfl
  | _ =>
      simp only [WriteBack.writeValue, Verdict.on, if_neg slotless]
      exact convert_verdict property.type _ flags

/--
A script value is written back to a whole property as if every value were converted,
whatever the declared type and the value, the flags and the code outside: with the
same result, and leaving the same world.  The verdict is made on the world as it is at
the start, and where it is a refusal nothing happens, but that an adapter without a
strategy has one afterwards.
-/
theorem shortcuts_agree_with_conversion
    (described : world.graph.property ref = .ok property)
    (closed : property.isVar = false) (typed : property.type ≠ .var)
    (follows : world.strategyFor adapter property = .ofProperty property)
    (value : Value) (flags : WriteFlags) :
    let written := (WriteBack.write adapter ⟨ref, none⟩ (.dynamic value) flags).run outside world
    let verdict := Verdict.on world.graph.context property value
    let chosen := choosing world adapter property
    written = (verdict.carryOut ref flags).run outside chosen ∧
    (∀ error, verdict = .refuse error → written = some (.error error, chosen)) ∧
    ((world.adapters[adapter]?).join ≠ none → chosen = world) := by
  intro written verdict chosen
  have frame : chosen.graph = world.graph := by
    simp only [chosen, choosing]
    split <;> rfl
  have carried : written = (verdict.carryOut ref flags).run outside chosen := by
    show (WriteBack.write adapter ⟨ref, none⟩ (.dynamic value) flags).run outside world = _
    rw [write_whole described, follows, WriteStrategy.ofProperty_of_closed closed]
    show (WriteBack.writeValue (.ofType property.type) ref property value flags).run outside
      chosen = _
    rw [writeValue_verdict typed, frame]
  refine ⟨carried, fun error refused => ?_, fun fixed => ?_⟩
  · rw [carried, refused]
    rfl
  · simp only [chosen, choosing]
    split
    · rfl
    · next none => exact absurd none fixed

section Crate

/-- The property of the crate as its class declares it. -/
def itemProperty : Property := ⟨"item", 0, .object 1, .native, false, .object none, 0⟩

/-- An item is stored in the crate as it is, and a base is refused with both names. -/
theorem crate_takes_items_only :
    crate.graph.property itemRef = .ok itemProperty ∧
    crate.strategyFor 0 itemProperty = .ofProperty itemProperty ∧
    (WriteBack.write 0 ⟨itemRef, none⟩ (.dynamic (.object ⟨0, 0⟩)) .none).run
        (.within Host.silent 3) crate =
      (WriteBack.access (write itemRef (.object (some ⟨0, 0⟩)) .none)).run
        (.within Host.silent 3) (choosing crate 0 itemProperty) ∧
    (WriteBack.write 0 ⟨itemRef, none⟩ (.dynamic (.object ⟨1, 0⟩)) .none).run
        (.within Host.silent 3) crate =
      some (.error (.typeMismatch "Base" "Item*"), choosing crate 0 itemProperty) := by
  have described : crate.graph.property itemRef = .ok itemProperty := rfl
  have follows : crate.strategyFor 0 itemProperty = .ofProperty itemProperty := rfl
  refine ⟨described, follows, ?_, ?_⟩
  · exact (shortcuts_agree_with_conversion described rfl (by decide) follows
      (.object ⟨0, 0⟩) .none).1
  · exact (shortcuts_agree_with_conversion described rfl (by decide) follows
      (.object ⟨1, 0⟩) .none).2.1 _ rfl

end Crate

end Engine

end PropertyBinding
