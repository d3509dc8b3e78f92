import PropertyBinding.Proofs.PlainValue

namespace PropertyBinding

/-!
# What a write stores

A write to a property without an alias, an interceptor or a writer stores a cell
or fails, and the declaration of the property and the value say which.  So does
a write-back, with the strategy and the result of the evaluation.  The cells
are given here without the identities that arrays get on the way.

Results with one plain form are stored in one plain form, or fail with one error.
-/

namespace Property

/-- The cell that a native value is written to. -/
def cellOf (schema : Schema) (property : Property) (value : Native) : Except PropertyError Cell :=
  if property.isVar then
    match value with
    | .script content => .ok (.var content)
    | _ => .error (.typeMismatch property.name "var")
  else if value.fits property.type then
    .ok (.native value)
  else
    .error (.typeMismatch property.name (schema.typeName property.type))

/-- The cell that a script value is written to as it is. -/
def cellOfVar (schema : Schema) (property : Property) (value : Value) : Except PropertyError Cell :=
  if property.isVar then
    .ok (.var value)
  else
    .error (.typeMismatch property.name (schema.typeName property.type))

/-- The cell that a reset leaves. -/
def cellOfReset (schema : Schema) (property : Property) : Except PropertyError Cell :=
  if property.resettable then
    property.cellOf schema property.default
  else
    .error (.notResettable property.name)

theorem cellOf_plain (schema : Schema) (property : Property) (value : Native) :
    (property.cellOf schema value.plain).map Cell.plain =
      (property.cellOf schema value).map Cell.plain := by
  unfold cellOf
  by_cases open' : property.isVar = true
  · rw [if_pos open', if_pos open']
    cases value with
    | script content => exact congrArg (fun value => Except.ok (Cell.var value)) content.plain_plain
    | _ => rfl
  · rw [if_neg open', if_neg open', Native.fits_plain]
    by_cases fits : value.fits property.type = true
    · rw [if_pos fits, if_pos fits]
      exact congrArg (fun value => Except.ok (Cell.native value)) value.plain_plain
    · rw [if_neg fits, if_neg fits]

theorem cellOfVar_plain (schema : Schema) (property : Property) (value : Value) :
    (property.cellOfVar schema value.plain).map Cell.plain =
      (property.cellOfVar schema value).map Cell.plain := by
  unfold cellOfVar
  by_cases open' : property.isVar = true
  · rw [if_pos open', if_pos open']
    exact congrArg (fun value => Except.ok (Cell.var value)) value.plain_plain
  · rw [if_neg open', if_neg open']

end Property

namespace WriteStrategy

variable (context : TypeContext) (strategy : WriteStrategy) (property : Property)

/-- The cell that `undefined` is written back to. -/
def cellOfUndefined : Except WriteError Cell :=
  if property.resettable then
    (property.cellOfReset context.schema).mapError .ofProperty
  else
    match strategy with
    | .variant => (property.cellOf context.schema (.variant .empty)).mapError .ofProperty
    | .script => (property.cellOf context.schema (.script .undefined)).mapError .ofProperty
    | .varSlot => (property.cellOfVar context.schema .undefined).mapError .ofProperty
    | _ => .error (.undefinedAssignment (context.schema.typeName property.type))

/-- The cell that a value with a type to it is written back to. -/
def cellOfDefined (value : Value) : Except WriteError Cell :=
  if strategy = .varSlot then
    (property.cellOfVar context.schema value).mapError .ofProperty
  else do
    let native ← (strategy.native context property.type value).mapError .ofConversion
    (property.cellOf context.schema native).mapError .ofProperty

/-- The cell that a script value is written back to. -/
def cellOfValue (value : Value) : Except WriteError Cell :=
  match value with
  | .undefined => strategy.cellOfUndefined context property
  | .function callee marked =>
      if strategy.acceptsFunctions then
        strategy.cellOfDefined context property (.function callee marked)
      else
        .error (.functionAssignment marked)
  | other => strategy.cellOfDefined context property other

/-- The cell that the result of an evaluation is written back to. -/
def cellOf (result : Boxed) : Except WriteError Cell :=
  match result with
  | .dynamic value => strategy.cellOfValue context property value
  | .native _ value _ =>
      if strategy ≠ .varSlot && value.fits property.type && !strategy.checksClasses then
        (property.cellOf context.schema value).mapError .ofProperty
      else
        strategy.cellOfValue context property value.toValue

/-! ## Living targets -/

/-- A write finds no dead target where there is a property. -/
theorem mapError_cellOf_ne_destroyed (schema : Schema) (value : Native) :
    (property.cellOf schema value).mapError WriteError.ofProperty ≠ .error .targetDestroyed := by
  unfold Property.cellOf
  by_cases open' : property.isVar = true
  · rw [if_pos open']
    cases value <;> nofun
  · rw [if_neg open']
    by_cases fits : value.fits property.type = true
    · rw [if_pos fits]
      nofun
    · rw [if_neg fits]
      nofun

theorem mapError_cellOfVar_ne_destroyed (schema : Schema) (value : Value) :
    (property.cellOfVar schema value).mapError WriteError.ofProperty ≠ .error .targetDestroyed := by
  unfold Property.cellOfVar
  by_cases open' : property.isVar = true
  · rw [if_pos open']
    nofun
  · rw [if_neg open']
    nofun

theorem cellOfUndefined_ne_destroyed :
    strategy.cellOfUndefined context property ≠ .error .targetDestroyed := by
  unfold cellOfUndefined
  by_cases resettable : property.resettable = true
  · rw [if_pos resettable, Property.cellOfReset, if_pos resettable]
    exact mapError_cellOf_ne_destroyed property _ _
  · rw [if_neg resettable]
    cases strategy with
    | variant => exact mapError_cellOf_ne_destroyed property _ _
    | script => exact mapError_cellOf_ne_destroyed property _ _
    | varSlot => exact mapError_cellOfVar_ne_destroyed property _ _
    | _ => nofun

theorem cellOfDefined_ne_destroyed (value : Value) :
    strategy.cellOfDefined context property value ≠ .error .targetDestroyed := by
  unfold cellOfDefined
  by_cases slot : strategy = .varSlot
  · rw [if_pos slot]
    exact mapError_cellOfVar_ne_destroyed property _ _
  · rw [if_neg slot]
    cases strategy.native context property.type value with
    | error error => nofun
    | ok native => exact mapError_cellOf_ne_destroyed property _ _

theorem cellOfValue_ne_destroyed (value : Value) :
    strategy.cellOfValue context property value ≠ .error .targetDestroyed := by
  cases value with
  | undefined => exact cellOfUndefined_ne_destroyed context strategy property
  | function callee marked =>
      unfold cellOfValue
      by_cases accepts : strategy.acceptsFunctions = true
      · simp only [accepts, if_true]
        exact cellOfDefined_ne_destroyed context strategy property _
      · simp only [accepts]
        nofun
  | _ => exact cellOfDefined_ne_destroyed context strategy property _

/-- A result is not stored for another reason than a dead target. -/
theorem cellOf_ne_destroyed (result : Boxed) :
    strategy.cellOf context property result ≠ .error .targetDestroyed := by
  cases result with
  | dynamic value => exact cellOfValue_ne_destroyed context strategy property value
  | native type value shared =>
      unfold cellOf
      dsimp only
      split
      · exact mapError_cellOf_ne_destroyed property _ _
      · exact cellOfValue_ne_destroyed context strategy property _

/-! ## Plain forms -/

/-- A failure by another name is as plain as it was. -/
theorem map_mapError {ε ε' α β : Type} (rename : ε → ε') (change : α → β) (outcome : Except ε α) :
    (outcome.mapError rename).map change = (outcome.map change).mapError rename := by
  cases outcome <;> rfl

theorem cellOfDefined_plain (value : Value) :
    (strategy.cellOfDefined context property value.plain).map Cell.plain =
      (strategy.cellOfDefined context property value).map Cell.plain := by
  unfold cellOfDefined
  by_cases slot : strategy = .varSlot
  · rw [if_pos slot, if_pos slot, map_mapError, map_mapError, Property.cellOfVar_plain]
  · rw [if_neg slot, if_neg slot]
    have same := native_plain context strategy property.type value
    cases found : strategy.native context property.type value with
    | error error =>
        rw [found] at same
        cases found' : strategy.native context property.type value.plain with
        | error error' =>
            rw [found'] at same
            cases same
            rfl
        | ok native' =>
            rw [found'] at same
            cases same
    | ok native =>
        rw [found] at same
        cases found' : strategy.native context property.type value.plain with
        | error error' =>
            rw [found'] at same
            cases same
        | ok native' =>
            rw [found'] at same
            have equal : native'.plain = native.plain := Except.ok.inj same
            show ((property.cellOf context.schema native').mapError _).map _ =
              ((property.cellOf context.schema native).mapError _).map _
            rw [map_mapError, map_mapError, ← Property.cellOf_plain _ _ native', equal,
              Property.cellOf_plain]

theorem cellOfValue_plain (value : Value) :
    (strategy.cellOfValue context property value.plain).map Cell.plain =
      (strategy.cellOfValue context property value).map Cell.plain := by
  cases value with
  | function callee marked =>
      have same := strategy.cellOfDefined_plain context property (.function callee marked)
      simp only [Value.plain, cellOfValue] at same ⊢
      by_cases accepts : strategy.acceptsFunctions = true
      · rw [if_pos accepts, if_pos accepts]
        exact same
      · rw [if_neg accepts, if_neg accepts]
  | undefined => rfl
  | null => rfl
  | bool value => rfl
  | int value => rfl
  | string value => rfl
  | object id => rfl
  | double value => exact strategy.cellOfDefined_plain context property (.double value)
  | variant content => exact strategy.cellOfDefined_plain context property (.variant content)
  | record value => exact strategy.cellOfDefined_plain context property (.record value)
  | array identity items =>
      exact strategy.cellOfDefined_plain context property (.array identity items)

/-- Values with one plain form are written back in one plain form. -/
theorem cellOfValue_congr {value other : Value} (plain : value.plain = other.plain) :
    (strategy.cellOfValue context property value).map Cell.plain =
      (strategy.cellOfValue context property other).map Cell.plain := by
  rw [← cellOfValue_plain, plain, cellOfValue_plain]

/-- Results with one plain form are written back in one plain form. -/
theorem cellOf_congr {result other : Boxed} (plain : result.plain = other.plain) :
    (strategy.cellOf context property result).map Cell.plain =
      (strategy.cellOf context property other).map Cell.plain := by
  cases result with
  | dynamic value =>
      cases other with
      | native type value' shared => cases plain
      | dynamic value' => exact strategy.cellOfValue_congr context property (Boxed.dynamic.inj plain)
  | native type value shared =>
      cases other with
      | dynamic value' => cases plain
      | native type' value' shared' =>
          have equal : value.plain = value'.plain := (Boxed.native.inj plain).2.1
          have fits : value.fits property.type = value'.fits property.type := by
            rw [← Native.fits_plain, equal, Native.fits_plain]
          have scripts : value.toValue.plain = value'.toValue.plain := by
            rw [← Native.plain_toValue_plain, equal, Native.plain_toValue_plain]
          have natives : (property.cellOf context.schema value).map Cell.plain =
              (property.cellOf context.schema value').map Cell.plain := by
            rw [← Property.cellOf_plain, equal, Property.cellOf_plain]
          simp only [cellOf, fits]
          by_cases direct : (strategy ≠ .varSlot && value'.fits property.type &&
              !strategy.checksClasses) = true
          · rw [if_pos direct, if_pos direct, map_mapError, map_mapError, natives]
          · rw [if_neg direct, if_neg direct]
            exact strategy.cellOfValue_congr context property scripts

end WriteStrategy

end PropertyBinding
