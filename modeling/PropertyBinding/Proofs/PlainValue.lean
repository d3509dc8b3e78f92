import PropertyBinding.Proofs.PlainNumber
import PropertyBinding.WriteBack.Strategy

namespace PropertyBinding

/-!
# Plain values

The plain form of a value has plain numbers in it, arrays without an identity,
and functions without their code.  Equal values have one plain form, and so
have a value and the same value after it got identities.  A value that is not a
number has a plain form like any other, so values with one plain form are those
that are equal when such a value counts as equal to itself.

A conversion of plain forms gives, up to plain forms, what it gives for the
values themselves.
-/

/-! ## Plain forms -/

/-- A record with plain fields. -/
def Record.plain (record : Record) : Record :=
  ⟨record.type, record.fields.map Number.plain⟩

/-- What is left of a function when only its identity counts. -/
def Function.plain (function : Function) : Function :=
  .mk function.identity "" .none .markBinding

mutual

/-- The plain form of a script value. -/
def Value.plain : Value → Value
  | .double value => .double (Number.plain value)
  | .variant content => .variant (Variant.plain content)
  | .record value => .record value.plain
  | .array _ items => .array none (Value.plainAll items)
  | .function callee marked => .function callee.plain marked
  | other => other

/-- The plain forms of several script values. -/
def Value.plainAll : List Value → List Value
  | [] => []
  | value :: rest => Value.plain value :: Value.plainAll rest

/-- The plain form of a container. -/
def Variant.plain : Variant → Variant
  | .double value => .double (Number.plain value)
  | .record value => .record value.plain
  | .list items => .list (Variant.plainAll items)
  | .script value => .script (Value.plain value)
  | other => other

/-- The plain forms of several containers. -/
def Variant.plainAll : List Variant → List Variant
  | [] => []
  | variant :: rest => Variant.plain variant :: Variant.plainAll rest

end

namespace Native

/-- The plain form of a stored value. -/
def plain : Native → Native
  | .float value => .float (Number.plainSingle value)
  | .double value => .double (Number.plain value)
  | .record value => .record value.plain
  | .variant value => .variant value.plain
  | .script value => .script value.plain
  | other => other

end Native

/-- The plain form of a result. -/
def Boxed.plain : Boxed → Boxed
  | .dynamic value => .dynamic value.plain
  | .native type value _ => .native type value.plain false

/-- The plain form of what an object holds for a property. -/
def Cell.plain : Cell → Cell
  | .native value => .native value.plain
  | .var value => .var value.plain
  | .alias target => .alias target

/-! ## A plain form has no other plain form -/

@[simp] theorem Record.plain_plain (record : Record) : record.plain.plain = record.plain := by
  simp [Record.plain, Function.comp_def]

mutual

theorem Value.plain_plain (value : Value) : value.plain.plain = value.plain := by
  cases value with
  | double value => simp only [Value.plain, Number.plain_plain]
  | variant content => simp only [Value.plain, Variant.plain_plain content]
  | record value => simp only [Value.plain, Record.plain_plain]
  | array identity items => simp only [Value.plain, Value.plainAll_plainAll items]
  | _ => rfl

theorem Value.plainAll_plainAll (items : List Value) :
    Value.plainAll (Value.plainAll items) = Value.plainAll items := by
  cases items with
  | nil => rfl
  | cons item rest =>
      simp only [Value.plainAll, Value.plain_plain item, Value.plainAll_plainAll rest]

theorem Variant.plain_plain (variant : Variant) : variant.plain.plain = variant.plain := by
  cases variant with
  | double value => simp only [Variant.plain, Number.plain_plain]
  | record value => simp only [Variant.plain, Record.plain_plain]
  | list items => simp only [Variant.plain, Variant.plainAll_plainAll items]
  | script value => simp only [Variant.plain, Value.plain_plain value]
  | _ => rfl

theorem Variant.plainAll_plainAll (items : List Variant) :
    Variant.plainAll (Variant.plainAll items) = Variant.plainAll items := by
  cases items with
  | nil => rfl
  | cons item rest =>
      simp only [Variant.plainAll, Variant.plain_plain item, Variant.plainAll_plainAll rest]

end

attribute [simp] Value.plain_plain Value.plainAll_plainAll Variant.plain_plain
  Variant.plainAll_plainAll

@[simp] theorem Native.plain_plain (value : Native) : value.plain.plain = value.plain := by
  cases value <;> simp [Native.plain]

/-! ## Equal values -/

theorem Number.map_plain_of_beq {first second : List Float} (same : (first == second) = true) :
    first.map Number.plain = second.map Number.plain := by
  induction first generalizing second with
  | nil =>
      cases second with
      | nil => rfl
      | cons head rest => cases same
  | cons number rest step =>
      cases second with
      | nil => cases same
      | cons number' rest' =>
          have both : (number == number') = true ∧ (rest == rest') = true := by
            simpa [List.cons_beq_cons] using same
          rw [List.map_cons, List.map_cons, Number.plain_of_beq both.1, step both.2]

theorem Record.plain_of_same {left right : Record} (equal : left.same right = true) :
    left.plain = right.plain := by
  simp only [Record.same, Bool.and_eq_true, decide_eq_true_eq] at equal
  rw [Record.plain, Record.plain, equal.1, Number.map_plain_of_beq equal.2]

theorem Function.plain_of_same {left right : Function} (equal : left.same right = true) :
    left.plain = right.plain := by
  simp only [Function.same, decide_eq_true_eq] at equal
  rw [Function.plain, Function.plain, equal]

mutual

theorem Value.plain_of_same {left right : Value} (equal : left.same right = true) :
    left.plain = right.plain := by
  cases left with
  | double value =>
      cases right with
      | double value' =>
          simp only [Value.same] at equal
          rw [Value.plain, Value.plain, Number.plain_of_beq equal]
      | _ => simp [Value.same] at equal
  | variant content =>
      cases right with
      | variant content' =>
          simp only [Value.same] at equal
          rw [Value.plain, Value.plain, Variant.plain_of_same equal]
      | _ => simp [Value.same] at equal
  | record value =>
      cases right with
      | record value' =>
          simp only [Value.same] at equal
          rw [Value.plain, Value.plain, Record.plain_of_same equal]
      | _ => simp [Value.same] at equal
  | array identity items =>
      cases right with
      | array identity' items' =>
          simp only [Value.same] at equal
          rw [Value.plain, Value.plain, Value.plainAll_of_same equal]
      | _ => simp [Value.same] at equal
  | function callee marked =>
      cases right with
      | function callee' marked' =>
          simp only [Value.same, Bool.and_eq_true, decide_eq_true_eq] at equal
          rw [Value.plain, Value.plain, equal.1, Function.plain_of_same equal.2]
      | _ => simp [Value.same] at equal
  | _ => cases right <;> simp_all [Value.same]

theorem Value.plainAll_of_same {left right : List Value} (equal : Value.sameAll left right = true) :
    Value.plainAll left = Value.plainAll right := by
  cases left with
  | nil =>
      cases right with
      | nil => rfl
      | cons value rest => simp [Value.sameAll] at equal
  | cons value rest =>
      cases right with
      | nil => simp [Value.sameAll] at equal
      | cons value' rest' =>
          simp only [Value.sameAll, Bool.and_eq_true] at equal
          rw [Value.plainAll, Value.plainAll, Value.plain_of_same equal.1,
            Value.plainAll_of_same equal.2]

theorem Variant.plain_of_same {left right : Variant} (equal : left.same right = true) :
    left.plain = right.plain := by
  cases left with
  | double value =>
      cases right with
      | double value' =>
          simp only [Variant.same] at equal
          rw [Variant.plain, Variant.plain, Number.plain_of_beq equal]
      | _ => simp [Variant.same] at equal
  | record value =>
      cases right with
      | record value' =>
          simp only [Variant.same] at equal
          rw [Variant.plain, Variant.plain, Record.plain_of_same equal]
      | _ => simp [Variant.same] at equal
  | list items =>
      cases right with
      | list items' =>
          simp only [Variant.same] at equal
          rw [Variant.plain, Variant.plain, Variant.plainAll_of_same equal]
      | _ => simp [Variant.same] at equal
  | script value =>
      cases right with
      | script value' =>
          simp only [Variant.same] at equal
          rw [Variant.plain, Variant.plain, Value.plain_of_same equal]
      | _ => simp [Variant.same] at equal
  | _ => cases right <;> simp_all [Variant.same]

theorem Variant.plainAll_of_same {left right : List Variant}
    (equal : Variant.sameAll left right = true) :
    Variant.plainAll left = Variant.plainAll right := by
  cases left with
  | nil =>
      cases right with
      | nil => rfl
      | cons value rest => simp [Variant.sameAll] at equal
  | cons value rest =>
      cases right with
      | nil => simp [Variant.sameAll] at equal
      | cons value' rest' =>
          simp only [Variant.sameAll, Bool.and_eq_true] at equal
          rw [Variant.plainAll, Variant.plainAll, Variant.plain_of_same equal.1,
            Variant.plainAll_of_same equal.2]

end

/-- Equal stored values have one plain form. -/
theorem Native.plain_of_same {left right : Native} (equal : left.same right = true) :
    left.plain = right.plain := by
  cases left with
  | float value =>
      cases right with
      | float value' => rw [Native.plain, Native.plain, Number.plainSingle_of_beq equal]
      | _ => cases equal
  | double value =>
      cases right with
      | double value' => rw [Native.plain, Native.plain, Number.plain_of_beq equal]
      | _ => cases equal
  | record value =>
      cases right with
      | record value' => rw [Native.plain, Native.plain, Record.plain_of_same equal]
      | _ => cases equal
  | variant value =>
      cases right with
      | variant value' => rw [Native.plain, Native.plain, Variant.plain_of_same equal]
      | _ => cases equal
  | script value =>
      cases right with
      | script value' => rw [Native.plain, Native.plain, Value.plain_of_same equal]
      | _ => cases equal
  | _ => cases right <;> simp_all [Native.same]

/-! ## Values with one plain form -/

theorem Number.beq_of_map_plain {first second : List Float}
    (same : first.map Number.plain = second.map Number.plain) (itself : (first == first) = true) :
    (first == second) = true := by
  induction first generalizing second with
  | nil =>
      cases second with
      | nil => rfl
      | cons head rest => cases same
  | cons number rest step =>
      cases second with
      | nil => cases same
      | cons number' rest' =>
          rw [List.cons_beq_cons, Bool.and_eq_true] at itself ⊢
          rw [List.map_cons, List.map_cons, List.cons.injEq] at same
          exact ⟨Number.beq_of_plain same.1 itself.1, step same.2 itself.2⟩

theorem Record.same_of_plain {left right : Record} (plain : left.plain = right.plain)
    (itself : left.same left = true) : left.same right = true := by
  simp only [Record.plain, Record.mk.injEq] at plain
  simp only [Record.same, Bool.and_eq_true, decide_eq_true_eq] at itself ⊢
  exact ⟨plain.1, Number.beq_of_map_plain plain.2 itself.2⟩

theorem Function.same_of_plain {left right : Function} (plain : left.plain = right.plain) :
    left.same right = true := by
  simp only [Function.plain, Function.mk.injEq] at plain
  simpa only [Function.same, decide_eq_true_eq] using plain.1

mutual

theorem Value.same_of_plain {left right : Value} (plain : left.plain = right.plain)
    (itself : left.same left = true) : left.same right = true := by
  cases left with
  | double value =>
      cases right with
      | double value' =>
          simp only [Value.same] at itself ⊢
          exact Number.beq_of_plain (Value.double.inj plain) itself
      | _ => simp [Value.plain] at plain
  | variant content =>
      cases right with
      | variant content' =>
          simp only [Value.same] at itself ⊢
          exact Variant.same_of_plain (Value.variant.inj plain) itself
      | _ => simp [Value.plain] at plain
  | record value =>
      cases right with
      | record value' =>
          simp only [Value.same] at itself ⊢
          exact Record.same_of_plain (Value.record.inj plain) itself
      | _ => simp [Value.plain] at plain
  | array identity items =>
      cases right with
      | array identity' items' =>
          simp only [Value.same] at itself ⊢
          exact Value.sameAll_of_plain (Value.array.inj plain).2 itself
      | _ => simp [Value.plain] at plain
  | function callee marked =>
      cases right with
      | function callee' marked' =>
          simp only [Value.plain, Value.function.injEq] at plain
          simp only [Value.same, Bool.and_eq_true, decide_eq_true_eq]
          exact ⟨plain.2, Function.same_of_plain plain.1⟩
      | _ => simp [Value.plain] at plain
  | _ => cases right <;> simp_all [Value.same, Value.plain]

theorem Value.sameAll_of_plain {left right : List Value}
    (plain : Value.plainAll left = Value.plainAll right) (itself : Value.sameAll left left = true) :
    Value.sameAll left right = true := by
  cases left with
  | nil =>
      cases right with
      | nil => exact itself
      | cons value rest => simp [Value.plainAll] at plain
  | cons value rest =>
      cases right with
      | nil => simp [Value.plainAll] at plain
      | cons value' rest' =>
          simp only [Value.plainAll, List.cons.injEq] at plain
          simp only [Value.sameAll, Bool.and_eq_true] at itself ⊢
          exact ⟨Value.same_of_plain plain.1 itself.1, Value.sameAll_of_plain plain.2 itself.2⟩

theorem Variant.same_of_plain {left right : Variant} (plain : left.plain = right.plain)
    (itself : left.same left = true) : left.same right = true := by
  cases left with
  | double value =>
      cases right with
      | double value' =>
          simp only [Variant.same] at itself ⊢
          exact Number.beq_of_plain (Variant.double.inj plain) itself
      | _ => simp [Variant.plain] at plain
  | record value =>
      cases right with
      | record value' =>
          simp only [Variant.same] at itself ⊢
          exact Record.same_of_plain (Variant.record.inj plain) itself
      | _ => simp [Variant.plain] at plain
  | list items =>
      cases right with
      | list items' =>
          simp only [Variant.same] at itself ⊢
          exact Variant.sameAll_of_plain (Variant.list.inj plain) itself
      | _ => simp [Variant.plain] at plain
  | script value =>
      cases right with
      | script value' =>
          simp only [Variant.same] at itself ⊢
          exact Value.same_of_plain (Variant.script.inj plain) itself
      | _ => simp [Variant.plain] at plain
  | _ => cases right <;> simp_all [Variant.same, Variant.plain]

theorem Variant.sameAll_of_plain {left right : List Variant}
    (plain : Variant.plainAll left = Variant.plainAll right)
    (itself : Variant.sameAll left left = true) : Variant.sameAll left right = true := by
  cases left with
  | nil =>
      cases right with
      | nil => exact itself
      | cons value rest => simp [Variant.plainAll] at plain
  | cons value rest =>
      cases right with
      | nil => simp [Variant.plainAll] at plain
      | cons value' rest' =>
          simp only [Variant.plainAll, List.cons.injEq] at plain
          simp only [Variant.sameAll, Bool.and_eq_true] at itself ⊢
          exact ⟨Variant.same_of_plain plain.1 itself.1, Variant.sameAll_of_plain plain.2 itself.2⟩

end

/-- Stored values with one plain form are equal, unless there is something in them that is not a number. -/
theorem Native.same_of_plain {left right : Native} (plain : left.plain = right.plain)
    (itself : left.same left = true) : left.same right = true := by
  cases left with
  | float value =>
      cases right with
      | float value' => exact Number.beq_of_plainSingle (Native.float.inj plain) itself
      | _ => cases plain
  | double value =>
      cases right with
      | double value' => exact Number.beq_of_plain (Native.double.inj plain) itself
      | _ => cases plain
  | record value =>
      cases right with
      | record value' => exact Record.same_of_plain (Native.record.inj plain) itself
      | _ => cases plain
  | variant value =>
      cases right with
      | variant value' => exact Variant.same_of_plain (Native.variant.inj plain) itself
      | _ => cases plain
  | script value =>
      cases right with
      | script value' => exact Value.same_of_plain (Native.script.inj plain) itself
      | _ => cases plain
  | _ => cases right <;> simp_all [Native.same, Native.plain]

/-! ## Identities of arrays -/

mutual

theorem Value.plain_place (value : Value) (next : Nat) :
    (value.place next).1.plain = value.plain := by
  cases value with
  | variant content => simp only [Value.place, Value.plain, Variant.plain_place content]
  | array identity items =>
      cases identity with
      | none => simp only [Value.place, Value.plain, Value.plainAll_placeAll items]
      | some given => rfl
  | _ => rfl

theorem Value.plainAll_placeAll (items : List Value) (next : Nat) :
    Value.plainAll (Value.placeAll next items).1 = Value.plainAll items := by
  cases items with
  | nil => rfl
  | cons item rest =>
      simp only [Value.placeAll, Value.plainAll, Value.plain_place item,
        Value.plainAll_placeAll rest]

theorem Variant.plain_place (variant : Variant) (next : Nat) :
    (variant.place next).1.plain = variant.plain := by
  cases variant with
  | list items => simp only [Variant.place, Variant.plain, Variant.plainAll_placeAll items]
  | script value => simp only [Variant.place, Variant.plain, Value.plain_place value]
  | _ => rfl

theorem Variant.plainAll_placeAll (items : List Variant) (next : Nat) :
    Variant.plainAll (Variant.placeAll next items).1 = Variant.plainAll items := by
  cases items with
  | nil => rfl
  | cons item rest =>
      simp only [Variant.placeAll, Variant.plainAll, Variant.plain_place item,
        Variant.plainAll_placeAll rest]

end

/-! ## Conversions -/

mutual

theorem Variant.plain_toValue_plain (variant : Variant) :
    variant.plain.toValue.plain = variant.toValue.plain := by
  cases variant with
  | list items =>
      simp only [Variant.plain, Variant.toValue, Value.plain,
        Variant.plainAll_toValues_plainAll items]
  | script value => exact Value.plain_plain value
  | double value => simp only [Variant.plain, Variant.toValue, Value.plain, Number.plain_plain]
  | record value => simp only [Variant.plain, Variant.toValue, Value.plain, Record.plain_plain]
  | _ => rfl

theorem Variant.plainAll_toValues_plainAll (items : List Variant) :
    Value.plainAll (Variant.toValues (Variant.plainAll items)) =
      Value.plainAll (Variant.toValues items) := by
  cases items with
  | nil => rfl
  | cons item rest =>
      simp only [Variant.plainAll, Variant.toValues, Value.plainAll,
        Variant.plain_toValue_plain item, Variant.plainAll_toValues_plainAll rest]

end

@[simp] theorem Function.plain_plain (function : Function) :
    function.plain.plain = function.plain := rfl

mutual

theorem Value.plain_toVariant_plain (value : Value) :
    value.plain.toVariant.plain = value.toVariant.plain := by
  cases value with
  | variant content => exact Variant.plain_plain content
  | array identity items =>
      simp only [Value.plain, Value.toVariant, Variant.plain,
        Value.plainAll_toVariants_plainAll items]
  | double value => simp only [Value.plain, Value.toVariant, Variant.plain, Number.plain_plain]
  | record value => simp only [Value.plain, Value.toVariant, Variant.plain, Record.plain_plain]
  | _ => rfl

theorem Value.plainAll_toVariants_plainAll (items : List Value) :
    Variant.plainAll (Value.toVariants (Value.plainAll items)) =
      Variant.plainAll (Value.toVariants items) := by
  cases items with
  | nil => rfl
  | cons item rest =>
      simp only [Value.plainAll, Value.toVariants, Variant.plainAll,
        Value.plain_toVariant_plain item, Value.plainAll_toVariants_plainAll rest]

end

mutual

theorem Value.plain_core_plain (value : Value) : value.plain.core.plain = value.core.plain := by
  cases value with
  | variant content => exact Variant.plain_core_plain content
  | double value => simp only [Value.plain, Value.core, Number.plain_plain]
  | record value => simp only [Value.plain, Value.core, Record.plain_plain]
  | array identity items => simp only [Value.plain, Value.core, Value.plainAll_plainAll]
  | _ => rfl

theorem Variant.plain_core_plain (variant : Variant) :
    variant.plain.core.plain = variant.core.plain := by
  cases variant with
  | script value => exact Value.plain_core_plain value
  | double value => simp only [Variant.plain, Variant.core, Variant.toValue, Value.plain, Number.plain_plain]
  | record value => simp only [Variant.plain, Variant.core, Variant.toValue, Value.plain, Record.plain_plain]
  | list items => exact Variant.plain_toValue_plain (.list items)
  | _ => rfl

end

namespace Value

variable (context : TypeContext) (value : Value)

@[simp] theorem typeName_plain : value.plain.typeName context = value.typeName context := by
  cases value with
  | variant content => cases content <;> rfl
  | _ => rfl

@[simp] theorem truthy_plain : value.plain.truthy = value.truthy := by
  cases value with
  | double value =>
      exact Number.apply_plain (fun number => number != 0 && !number.isNaN) rfl value
  | variant content => cases content <;> rfl
  | _ => rfl

theorem pointers?_plainAll (declared : ClassId) (items : List Value) :
    pointers? context declared (Value.plainAll items) = pointers? context declared items := by
  induction items with
  | nil => rfl
  | cons item rest step =>
      cases item with
      | null => exact step
      | object id => simp only [Value.plainAll, Value.plain, pointers?, step]
      | _ => rfl

/-- A conversion of a number that does not tell the zeros apart. -/
theorem map_toNumber?_plain (convert : Float → Native)
    (plain : ∀ number, (convert (Number.plain number)).plain = (convert number).plain) :
    (value.plain.toNumber?.map convert).map Native.plain =
      (value.toNumber?.map convert).map Native.plain := by
  cases value with
  | double value => exact congrArg some (plain value)
  | _ => rfl

theorem bareNative?_plain (type : PropertyType) :
    (value.plain.bareNative? context type).map Native.plain =
      (value.bareNative? context type).map Native.plain := by
  cases type with
  | bool =>
      have truthy := value.truthy_plain
      cases value with
      | undefined => rfl
      | function callee marked => rfl
      | double number => exact congrArg (fun truth => some (Native.bool truth)) truthy
      | variant content => exact congrArg (fun truth => some (Native.bool truth)) truthy
      | _ => rfl
  | int =>
      have converted := value.map_toNumber?_plain (fun number => .int (Number.toInt32 number))
        fun number => by rw [Number.toInt32_plain]
      cases value <;> first | rfl | exact converted
  | float =>
      exact value.map_toNumber?_plain (fun number => .float (Number.narrow number))
        fun number => by simp [Native.plain]
  | double => exact value.map_toNumber?_plain .double fun number => by simp [Native.plain]
  | string =>
      cases value with
      | double number => simp [Value.plain, bareNative?]
      | _ => rfl
  | enum id =>
      cases value with
      | double number => simp [Value.plain, bareNative?]
      | _ => rfl
  | list declared =>
      cases value with
      | array identity items =>
          simp only [Value.plain, bareNative?, pointers?_plainAll context declared items]
      | _ => rfl
  | record id =>
      cases value with
      | record value =>
          by_cases same : value.type = id
          · simp [Value.plain, bareNative?, Record.plain, same, Native.plain, Function.comp_def]
          · simp [Value.plain, bareNative?, Record.plain, same]
      | _ => rfl
  | _ => cases value <;> rfl

theorem toNative?_plain (type : PropertyType) :
    (value.plain.toNative? context type).map Native.plain =
      (value.toNative? context type).map Native.plain := by
  have core : (value.plain.core.bareNative? context type).map Native.plain =
      (value.core.bareNative? context type).map Native.plain := by
    rw [← bareNative?_plain context value.plain.core, plain_core_plain,
      bareNative?_plain context value.core]
  cases type with
  | variant =>
      simp only [toNative?, Option.map_some, Native.plain, plain_toVariant_plain]
  | script => simp only [toNative?, Option.map_some, Native.plain, Value.plain_plain]
  | var => simp only [toNative?, Option.map_some, Native.plain, Value.plain_plain]
  | _ => exact core

theorem toNative_plain (type : PropertyType) :
    (value.plain.toNative context type).map Native.plain =
      (value.toNative context type).map Native.plain := by
  have same := value.toNative?_plain context type
  unfold toNative
  cases found : value.toNative? context type with
  | none =>
      rw [found] at same
      rw [Option.map_eq_none_iff.mp same]
      simp [Except.map]
  | some native =>
      rw [found] at same
      rcases Option.map_eq_some_iff.mp same with ⟨native', found', equal⟩
      rw [found']
      exact congrArg Except.ok equal

end Value

namespace Native

theorem plain_toValue_plain (value : Native) : value.plain.toValue.plain = value.toValue.plain := by
  cases value with
  | variant content => exact Variant.plain_toValue_plain content
  | script value => exact Value.plain_plain value
  | float value => exact congrArg Value.double (Number.plain_widen_plain value)
  | double value => exact congrArg Value.double (Number.plain_plain value)
  | record value => exact congrArg Value.record (Record.plain_plain value)
  | _ => rfl

@[simp] theorem fits_plain (value : Native) (type : PropertyType) :
    value.plain.fits type = value.fits type := by
  cases value <;> cases type <;> rfl

end Native

namespace WriteStrategy

theorem exactPrimitive?_plain (type : PrimitiveType) (value : Value) :
    (exactPrimitive? type value.plain).map Native.plain =
      (exactPrimitive? type value).map Native.plain := by
  cases value with
  | double number => cases type <;> simp [Value.plain, exactPrimitive?, Native.plain]
  | _ => cases type <;> rfl

theorem fitting?_plain (context : TypeContext) (strategy : WriteStrategy) (value : Value) :
    (strategy.fitting? context value.plain).map Native.plain =
      (strategy.fitting? context value).map Native.plain := by
  cases strategy with
  | primitive type => exact exactPrimitive?_plain type value
  | variant => exact congrArg (fun content => some (Native.variant content)) value.plain_toVariant_plain
  | script => exact congrArg (fun content => some (Native.script content)) value.plain_plain
  | record id =>
      cases value with
      | record value =>
          by_cases same : value.type = id
          · simp [Value.plain, fitting?, Record.plain, same, Native.plain, Function.comp_def]
          · simp [Value.plain, fitting?, Record.plain, same]
      | _ => rfl
  | _ => cases value <;> rfl

theorem native_plain (context : TypeContext) (strategy : WriteStrategy) (type : PropertyType)
    (value : Value) :
    (strategy.native context type value.plain).map Native.plain =
      (strategy.native context type value).map Native.plain := by
  have same := fitting?_plain context strategy value
  unfold native
  cases found : strategy.fitting? context value with
  | none =>
      rw [found] at same
      rw [Option.map_eq_none_iff.mp same]
      exact value.toNative_plain context type
  | some stored =>
      rw [found] at same
      rcases Option.map_eq_some_iff.mp same with ⟨stored', found', equal⟩
      rw [found']
      exact congrArg Except.ok equal

end WriteStrategy

end PropertyBinding
