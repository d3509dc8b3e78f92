import PropertyBinding.Proofs.ScriptForm

namespace PropertyBinding

/-!
# Containers and script values

The container for a script value and the script form of a container undo each other, up to
two things.  A script value that was wrapped is unwrapped on its way through a container,
and a container that wraps a script value takes the value's own form if it has one.  Only
functions have none.

The arrays that come out are new ones.  They have the items of the arrays that went in, but
not their identities.
-/

mutual

/-- Whether something holds of each container that a value wraps, by itself or in its arrays. -/
def Value.EachWrapped (holds : Variant → Prop) : Value → Prop
  | .variant content => holds content
  | .array _ items => Value.EachWrappedIn holds items
  | _ => True

/-- Whether something holds of each container that several values wrap. -/
def Value.EachWrappedIn (holds : Variant → Prop) : List Value → Prop
  | [] => True
  | item :: rest => Value.EachWrapped holds item ∧ Value.EachWrappedIn holds rest

end

mutual

/-- A value with new arrays, and with a form of its own for each container that is wrapped in it. -/
def Value.rebuilt (form : Variant → Value) : Value → Value
  | .variant content => form content
  | .array _ items => .array none (Value.rebuiltAll form items)
  | other => other

/-- Several values with new arrays, and with a form for each container that is wrapped in them. -/
def Value.rebuiltAll (form : Variant → Value) : List Value → List Value
  | [] => []
  | item :: rest => Value.rebuilt form item :: Value.rebuiltAll form rest

end

namespace Value

/-- Whether a value wraps no container, by itself or in its arrays. -/
def IsUnwrapped (value : Value) : Prop :=
  value.EachWrapped fun _ => False

/-- A value with new arrays in place of its own. -/
def anonymous (value : Value) : Value :=
  value.rebuilt .variant

/-- A value with new arrays, and with the content of each container in place of its wrapper. -/
def stripped (value : Value) : Value :=
  value.rebuilt Variant.toValue

variable {holds : Variant → Prop} {form other : Variant → Value}

/-! ## What is wrapped in a value -/

mutual

theorem EachWrapped.mono {weaker : Variant → Prop} {value : Value}
    (step : ∀ content, holds content → weaker content) (each : value.EachWrapped holds) :
    value.EachWrapped weaker := by
  cases value with
  | variant content => exact step content each
  | array identity items => exact EachWrappedIn.mono step each
  | _ => trivial

theorem EachWrappedIn.mono {weaker : Variant → Prop} {items : List Value}
    (step : ∀ content, holds content → weaker content) (each : EachWrappedIn holds items) :
    EachWrappedIn weaker items := by
  cases items with
  | nil => trivial
  | cons item rest => exact ⟨EachWrapped.mono step each.1, EachWrappedIn.mono step each.2⟩

end

mutual

/-- Two ways to rebuild a value differ only in the forms of what is wrapped in it. -/
theorem rebuilt_eq_rebuilt_iff (value : Value) :
    value.rebuilt form = value.rebuilt other ↔
      value.EachWrapped fun content => form content = other content := by
  cases value with
  | variant content => exact Iff.rfl
  | array identity items =>
      simp only [rebuilt, EachWrapped, array.injEq, true_and]
      exact rebuiltAll_eq_rebuiltAll_iff items
  | _ => exact ⟨fun _ => trivial, fun _ => rfl⟩

theorem rebuiltAll_eq_rebuiltAll_iff (items : List Value) :
    rebuiltAll form items = rebuiltAll other items ↔
      EachWrappedIn (fun content => form content = other content) items := by
  cases items with
  | nil => exact ⟨fun _ => trivial, fun _ => rfl⟩
  | cons item rest =>
      simp only [rebuiltAll, EachWrappedIn, List.cons.injEq]
      exact and_congr (rebuilt_eq_rebuilt_iff item) (rebuiltAll_eq_rebuiltAll_iff rest)

end

mutual

/-- What is wrapped in a rebuilt value is what is wrapped in the forms. -/
theorem eachWrapped_rebuilt_iff (value : Value) :
    (value.rebuilt form).EachWrapped holds ↔
      value.EachWrapped fun content => (form content).EachWrapped holds := by
  cases value with
  | variant content => exact Iff.rfl
  | array identity items =>
      simp only [rebuilt, EachWrapped]
      exact eachWrappedIn_rebuiltAll_iff items
  | _ => exact Iff.rfl

theorem eachWrappedIn_rebuiltAll_iff (items : List Value) :
    EachWrappedIn holds (rebuiltAll form items) ↔
      EachWrappedIn (fun content => (form content).EachWrapped holds) items := by
  cases items with
  | nil => exact Iff.rfl
  | cons item rest =>
      simp only [rebuiltAll, EachWrappedIn]
      exact and_congr (eachWrapped_rebuilt_iff item) (eachWrappedIn_rebuiltAll_iff rest)

end

/-! ## Through a container -/

/-- The script form of a container never wraps the container itself. -/
theorem toValue_ne_variant (content : Variant) : content.toValue ≠ .variant content := by
  intro same
  cases content with
  | script value =>
      have size := congrArg sizeOf same
      simp [Variant.toValue] at size
      omega
  | _ => simp [Variant.toValue] at same

mutual

/-- The script form of a value's container is the value with its wrappers gone. -/
theorem toValue_toVariant (value : Value) : value.toVariant.toValue = value.stripped := by
  cases value with
  | array identity items =>
      exact congrArg (Value.array none) (toValues_toVariants items)
  | _ => rfl

theorem toValues_toVariants (items : List Value) :
    Variant.toValues (toVariants items) = rebuiltAll Variant.toValue items := by
  cases items with
  | nil => rfl
  | cons item rest =>
      exact congrArg₂ List.cons (toValue_toVariant item) (toValues_toVariants rest)

end

mutual

/-- A value's container is settled if the containers that the value wraps are. -/
theorem isSettled_toVariant_iff (value : Value) :
    value.toVariant.IsSettled ↔ value.EachWrapped Variant.IsSettled := by
  cases value with
  | variant content => exact Iff.rfl
  | array identity items => exact allSettled_toVariants_iff items
  | function callee marked => exact ⟨fun _ => trivial, fun _ => ⟨callee, marked, rfl⟩⟩
  | _ => exact Iff.rfl

theorem allSettled_toVariants_iff (items : List Value) :
    Variant.AllSettled (toVariants items) ↔ EachWrappedIn Variant.IsSettled items := by
  cases items with
  | nil => exact Iff.rfl
  | cons item rest =>
      exact and_congr (isSettled_toVariant_iff item) (allSettled_toVariants_iff rest)

end

mutual

/-- The script form of a settled container wraps nothing. -/
theorem isUnwrapped_toValue {content : Variant} (settled : content.IsSettled) :
    content.toValue.IsUnwrapped := by
  cases content with
  | list items => exact eachUnwrapped_toValues settled
  | script value =>
      rcases settled with ⟨callee, marked, rfl⟩
      trivial
  | _ => trivial

theorem eachUnwrapped_toValues {items : List Variant} (settled : Variant.AllSettled items) :
    EachWrappedIn (fun _ => False) (Variant.toValues items) := by
  cases items with
  | nil => trivial
  | cons item rest => exact ⟨isUnwrapped_toValue settled.1, eachUnwrapped_toValues settled.2⟩

end

/-- Only a value that wraps nothing is the same, but for its arrays, with its wrappers gone. -/
theorem stripped_eq_anonymous_iff (value : Value) :
    value.stripped = value.anonymous ↔ value.IsUnwrapped := by
  refine (rebuilt_eq_rebuilt_iff value).trans ⟨?_, ?_⟩
  · exact EachWrapped.mono fun content same => toValue_ne_variant content same
  · exact EachWrapped.mono fun _ absent => absent.elim

/-- With the wrappers of settled containers gone, nothing in a value is wrapped. -/
theorem isUnwrapped_stripped {value : Value} (settled : value.EachWrapped Variant.IsSettled) :
    value.stripped.IsUnwrapped :=
  (eachWrapped_rebuilt_iff value).mpr (settled.mono fun _ => isUnwrapped_toValue)

/--
A script value is the script form of its container, its arrays being new ones, just if it
wraps nothing; and a container is the container for its script form just if the only
script values that it wraps are functions.  The container for a value is of that kind just
if all containers are that the value wraps.  Its script form is the value with the content
of each container in place of the wrapper, and if they all are of that kind, then nothing
in it is wrapped.
-/
theorem script_values_and_containers_are_inverse (value : Value) (content : Variant) :
    (value.toVariant.toValue = value.anonymous ↔ value.IsUnwrapped) ∧
    (content.toValue.toVariant = content ↔ content.IsSettled) ∧
    (value.toVariant.IsSettled ↔ value.EachWrapped Variant.IsSettled) ∧
    value.toVariant.toValue = value.stripped ∧
    (value.EachWrapped Variant.IsSettled → value.stripped.IsUnwrapped) := by
  refine ⟨?_, Variant.settled_eq_self_iff content, isSettled_toVariant_iff value,
    toValue_toVariant value, isUnwrapped_stripped⟩
  rw [toValue_toVariant]
  exact stripped_eq_anonymous_iff value

/-- An array of a wrapped list and a number. -/
def mixedArray : Value :=
  .array (some 4) [.variant (.list [.object ⟨2, 0⟩, .empty]), .int 7]

/-- Out of its container the array comes as two nested arrays, with nothing wrapped. -/
theorem wrapped_list_comes_out_unwrapped :
    mixedArray.toVariant.toValue =
      .array none [.array none [.object ⟨2, 0⟩, .undefined], .int 7] ∧
    mixedArray.stripped.IsUnwrapped := by
  refine ⟨rfl, ?_⟩
  exact (script_values_and_containers_are_inverse mixedArray .empty).2.2.2.2
    ⟨⟨trivial, trivial, trivial⟩, trivial, trivial⟩

end Value

end PropertyBinding
