import PropertyBinding.Proofs.Capture

namespace PropertyBinding

/-!
# Truth

Four places ask whether a value is true.  A condition and the two logical operators take
the value as it is, the negation takes the content of a wrapped container, and the
conversion to a flag takes what is left when all wrappers are gone.  They agree on every
value that is not wrapped.  A wrapped container is true as it is unless it is empty or
null; so they part where a container with another content hides a value that is false.
-/

namespace Value

/-- Whether a value is a container that is true as it is, around a content that is false. -/
def HidesFalsehood : Value → Prop
  | .variant .empty | .variant .null => False
  | .variant content => content.core.truthy = false
  | _ => False

/-- What is true without its wrappers is true with them. -/
theorem truthy_of_core {value : Value} (holds : value.core.truthy = true) :
    value.truthy = true := by
  cases value with
  | variant content =>
      cases content with
      | empty => cases holds
      | null => cases holds
      | _ => rfl
  | _ => exact holds

/-- The truth of a value as it is differs from that of what it wraps only if it hides a falsehood. -/
theorem truthy_eq_core_iff (value : Value) :
    value.truthy = value.core.truthy ↔ ¬value.HidesFalsehood := by
  cases value with
  | variant content =>
      cases content with
      | empty => exact ⟨fun _ hides => hides, fun _ => rfl⟩
      | null => exact ⟨fun _ hides => hides, fun _ => rfl⟩
      | _ => exact eq_comm.trans (Bool.not_eq_false _).symm.to_iff
  | _ => exact ⟨fun _ hides => hides, fun _ => rfl⟩

/-- A value that hides a falsehood is true as it is, and what it wraps is false. -/
theorem truthy_of_hidesFalsehood {value : Value} (hides : value.HidesFalsehood) :
    value.truthy = true ∧ value.core.truthy = false := by
  have differ := mt (truthy_eq_core_iff value).mp (not_not_intro hides)
  cases inner : value.core.truthy with
  | true => exact absurd ((truthy_of_core inner).trans inner.symm) differ
  | false =>
      rw [inner] at differ
      exact ⟨(Bool.not_eq_false _).mp differ, rfl⟩

/-- A value that hides no falsehood is as true as its content. -/
theorem truthy_unwrapped {value : Value} (plain : ¬value.HidesFalsehood) :
    value.unwrapped.truthy = value.truthy := by
  have same := (truthy_eq_core_iff value).mpr plain
  cases value with
  | variant content =>
      cases content with
      | script inner =>
          have holds : inner.core.truthy = true := same.symm
          exact truthy_of_core holds
      | empty => rfl
      | null => rfl
      | _ => exact same.symm
  | _ => rfl

/-- The conversion to a flag, where there is one, is the truth of the value without its wrappers. -/
theorem toNative_bool {types : TypeContext} {value : Value} {native : Native}
    (converts : value.toNative types .bool = .ok native) : native = .bool value.core.truthy := by
  unfold toNative toNative? at converts
  cases inner : value.core with
  | undefined => simp [inner, bareNative?] at converts
  | function callee marked => simp [inner, bareNative?] at converts
  | _ =>
      simp only [inner, bareNative?, Except.ok.injEq] at converts
      exact converts.symm

end Value

namespace Engine

open Script Evaluation

variable {σ : Type} {outside : Outside σ} {world middle : World σ} {context : CallContext}
  {locals : List (String × Value)} {test : Expr} {value : Value}

theorem evaluate_conditional
    (evaluates : (evaluate context locals test).run outside world = some (.ok value, middle))
    (yes no : Expr) :
    (evaluate context locals (.conditional test yes no)).run outside world =
      (evaluate context locals (if value.truthy then yes else no)).run outside middle := by
  rw [evaluate, apply_attempt _ evaluates]
  cases value.truthy <;> rfl

theorem evaluate_not
    (evaluates : (evaluate context locals test).run outside world = some (.ok value, middle)) :
    (evaluate context locals (.unary .not test)).run outside world =
      some (.ok (.bool !value.unwrapped.truthy), middle) := by
  rw [evaluate, apply_attempt _ evaluates]
  rfl

theorem evaluate_and
    (evaluates : (evaluate context locals test).run outside world = some (.ok value, middle))
    (right : Expr) :
    (evaluate context locals (.and test right)).run outside world =
      if value.truthy then (evaluate context locals right).run outside middle
      else some (.ok value, middle) := by
  rw [evaluate, apply_attempt _ evaluates]
  cases value.truthy <;> rfl

theorem evaluate_or
    (evaluates : (evaluate context locals test).run outside world = some (.ok value, middle))
    (right : Expr) :
    (evaluate context locals (.or test right)).run outside world =
      if value.truthy then some (.ok value, middle)
      else (evaluate context locals right).run outside middle := by
  rw [evaluate, apply_attempt _ evaluates]
  cases value.truthy <;> rfl

/--
What an expression with a value decides, in a condition, under one negation and under two,
in front of the logical operators and when it is converted to a flag.  A condition and the
operators ask for the truth of the value as it is, a negation for that of its content, and
the conversion for that of the value without its wrappers.  The three are the same truth
unless the value hides a falsehood, and then the first and the last differ.
-/
theorem truth_agrees_but_for_hidden_falsehoods
    (evaluates : (evaluate context locals test).run outside world = some (.ok value, middle))
    (yes no : Expr) :
    let run := fun expr (start : World σ) => (evaluate context locals expr).run outside start
    run (.conditional test yes no) world = run (if value.truthy then yes else no) middle ∧
    run (.conditional (.unary .not test) no yes) world =
      run (if value.unwrapped.truthy then yes else no) middle ∧
    run (.conditional (.unary .not (.unary .not test)) yes no) world =
      run (if value.unwrapped.truthy then yes else no) middle ∧
    run (.and test yes) world =
      (if value.truthy then run yes middle else some (.ok value, middle)) ∧
    run (.or test no) world =
      (if value.truthy then some (.ok value, middle) else run no middle) ∧
    (∀ types native, value.toNative types .bool = .ok native →
      native = .bool value.core.truthy) ∧
    (¬value.HidesFalsehood →
      value.unwrapped.truthy = value.truthy ∧ value.core.truthy = value.truthy) ∧
    (value.HidesFalsehood → value.truthy = true ∧ value.core.truthy = false) := by
  intro run
  have negated := evaluate_not evaluates
  refine ⟨evaluate_conditional evaluates yes no, ?_, ?_, ?_, ?_,
    fun types native => Value.toNative_bool, fun plain => ?_, fun hides => ?_⟩
  · show (evaluate context locals _).run outside world = _
    rw [evaluate_conditional negated no yes]
    cases value.unwrapped.truthy <;> rfl
  · show (evaluate context locals _).run outside world = _
    rw [evaluate_conditional (evaluate_not negated) yes no]
    cases value.unwrapped.truthy <;> rfl
  · exact evaluate_and evaluates yes
  · exact evaluate_or evaluates no
  · exact ⟨Value.truthy_unwrapped plain, ((Value.truthy_eq_core_iff value).mpr plain).symm⟩
  · exact Value.truthy_of_hidesFalsehood hides

section Wrapped

/-! ## A wrapped zero -/

/-- A world with a notifier that holds a wrapped zero. -/
def wrappedZero : World Unit :=
  { World.initial .empty () with notifiers := [⟨"zero", .variant (.int 0), 0⟩] }

/-- A call in whose scope the notifier has a name. -/
def zeroCall : CallContext := ⟨Scope.empty.withNotifier "zero" 0, none, []⟩

/-- The wrapped zero is true in a condition, and so is its negation. -/
theorem wrapped_zero_is_true_and_false :
    (evaluate zeroCall [] (.name "zero")).run (.within Host.silent 1) wrappedZero =
      some (.ok (.variant (.int 0)), wrappedZero) ∧
    (evaluate zeroCall [] (.conditional (.name "zero") (.literal (.int 1)) (.literal (.int 2)))).run
      (.within Host.silent 1) wrappedZero = some (.ok (.int 1), wrappedZero) ∧
    (evaluate zeroCall [] (.conditional (.unary .not (.name "zero"))
        (.literal (.int 2)) (.literal (.int 1)))).run
      (.within Host.silent 1) wrappedZero = some (.ok (.int 2), wrappedZero) := by
  have evaluates : (evaluate zeroCall [] (.name "zero")).run (.within Host.silent 1) wrappedZero =
      some (.ok (.variant (.int 0)), wrappedZero) := rfl
  have decides := truth_agrees_but_for_hidden_falsehoods evaluates (.literal (.int 1))
    (.literal (.int 2))
  exact ⟨evaluates, decides.1, decides.2.1⟩

end Wrapped

end Engine

end PropertyBinding
