import PropertyBinding.Proofs.Depositing

namespace PropertyBinding

/-!
# Pointers that are written back

A property for objects declares a class, and a conversion to its type looks at the class
of every object.  The store itself looks at the shape only.  So what a binding stores in
such a property points to living objects of the declared class, as long as the result of
its evaluation was converted.

There are three ways round the conversion.  A native result is stored as it is if the
strategy does not look at classes; the default is stored as it is; and a pointer that
suits the class of the strategy is stored as it is.  The strategy of a write adapter is
fixed once, by the type that the binding was declared with or by the first property that
it wrote, and so its class need not be that of the property.
-/

/-- The objects that a value for objects points to. -/
def Native.pointers : Native → List ObjectId
  | .object id? => id?.toList
  | .list ids => ids
  | _ => []

/-- Whether a value has the shape of a pointer or of a list of pointers. -/
def Native.isPointer : Native → Bool
  | .object _ | .list _ => true
  | _ => false

/-- The class that a type for objects declares. -/
def PropertyType.pointee? : PropertyType → Option ClassId
  | .object declared | .list declared => some declared
  | _ => none

/-- Whether an id names a living object of a class or of a subclass. -/
def TypeContext.IsA (context : TypeContext) (declared : ClassId) (id : ObjectId) : Prop :=
  ∃ actual, context.classOf id = some actual ∧ context.schema.inherits actual declared = true

/-- Whether a value points to living objects of a class or of subclasses only. -/
def TypeContext.PointsTo (context : TypeContext) (declared : ClassId) (value : Native) : Prop :=
  ∀ id ∈ value.pointers, context.IsA declared id

variable {context : TypeContext} {declared : ClassId} {type : PropertyType}

/-! ## Conversions -/

theorem Value.pointer?_isA {id : ObjectId} {found : Option ObjectId}
    (pointer : Value.pointer? context declared id = some found) :
    ∀ other ∈ found.toList, context.IsA declared other := by
  unfold Value.pointer? at pointer
  split at pointer
  · cases pointer
    simp
  · next actual living =>
    split at pointer
    · next inherits =>
      cases pointer
      intro other member
      cases List.mem_singleton.mp member
      exact ⟨actual, living, inherits⟩
    · cases pointer

theorem Value.pointers?_isA {items : List Value} {ids : List ObjectId}
    (pointers : Value.pointers? context declared items = some ids) :
    ∀ id ∈ ids, context.IsA declared id := by
  induction items generalizing ids with
  | nil =>
      cases pointers
      simp
  | cons item rest step =>
      cases item with
      | null => exact step pointers
      | object id =>
          simp only [Value.pointers?, Option.bind_eq_bind, Option.bind_eq_some_iff] at pointers
          rcases pointers with ⟨head, first, tail, others, same⟩
          cases same
          intro other member
          exact (List.mem_append.mp member).elim (Value.pointer?_isA first other)
            (step others other)
      | _ => cases pointers

theorem Value.bareNative?_pointsTo {value : Value} {native : Native}
    (points : type.pointee? = some declared)
    (converts : value.bareNative? context type = some native) :
    context.PointsTo declared native := by
  cases type with
  | object known =>
      cases points
      cases value with
      | null =>
          cases converts
          exact fun _ member => by cases member
      | object id =>
          rcases Option.map_eq_some_iff.mp converts with ⟨found, pointer, rfl⟩
          exact Value.pointer?_isA pointer
      | _ => cases converts
  | list known =>
      cases points
      cases value with
      | null =>
          cases converts
          exact fun _ member => by cases member
      | object id =>
          rcases Option.map_eq_some_iff.mp converts with ⟨found, pointer, rfl⟩
          exact Value.pointer?_isA pointer
      | array identity items =>
          rcases Option.map_eq_some_iff.mp converts with ⟨ids, pointers, rfl⟩
          exact Value.pointers?_isA pointers
      | _ => cases converts
  | _ => cases points

/-- What a value converts to in a type for objects points to objects of the declared class. -/
theorem Value.toNative_pointsTo {value : Value} {native : Native}
    (points : type.pointee? = some declared) (converts : value.toNative context type = .ok native) :
    context.PointsTo declared native := by
  unfold Value.toNative at converts
  split at converts
  · next found converted =>
    cases converts
    -- only open types take a value with its wrapping
    have bare : value.core.bareNative? context type = some native := by
      cases type <;> first | exact converted | cases points
    exact Value.bareNative?_pointsTo points bare
  · cases converts

theorem Schema.inherits_of_compatible {schema : Schema} {actual declared : ClassId}
    (compatible : schema.compatibility actual declared = .compatible) :
    schema.inherits actual declared = true := by
  unfold Schema.compatibility at compatible
  split at compatible
  · next inherits => exact inherits
  · split at compatible <;> cases compatible

theorem WriteStrategy.exactPointer?_pointsTo {value : Value} {native : Native}
    (exact : WriteStrategy.exactPointer? context declared value = some native) :
    context.PointsTo declared native := by
  cases value with
  | null =>
      cases exact
      exact fun _ member => by cases member
  | object id =>
      simp only [WriteStrategy.exactPointer?] at exact
      split at exact
      · cases exact
      · next actual living =>
        split at exact
        · next compatible =>
          cases exact
          intro other member
          cases List.mem_singleton.mp member
          exact ⟨actual, living, Schema.inherits_of_compatible compatible⟩
        · cases exact
  | _ => cases exact

theorem Native.isPointer_of_fits {native : Native} (points : type.pointee? = some declared)
    (fits : native.fits type = true) : native.isPointer = true := by
  cases type with
  | object _ | list _ => cases native <;> first | rfl | cases fits
  | _ => cases points

theorem WriteStrategy.exactPrimitive?_isPointer {primitive : PrimitiveType} {value : Value}
    {native : Native} (exact : WriteStrategy.exactPrimitive? primitive value = some native) :
    native.isPointer = false := by
  unfold WriteStrategy.exactPrimitive? at exact
  split at exact <;> cases exact <;> rfl

/-- A pointer that a strategy takes without conversion suits the class of the strategy. -/
theorem WriteStrategy.fitting?_pointsTo {strategy : WriteStrategy} {value : Value}
    {native : Native} (pointer : native.isPointer = true)
    (fitting : strategy.fitting? context value = some native) :
    ∃ other, strategy = .object other ∧ context.PointsTo other native := by
  unfold WriteStrategy.fitting? at fitting
  split at fitting
  · rw [exactPrimitive?_isPointer fitting] at pointer
    cases pointer
  · cases fitting
    cases pointer
  · next other => exact ⟨other, rfl, exactPointer?_pointsTo fitting⟩
  · split at fitting <;> cases fitting
    cases pointer
  · cases fitting
    cases pointer
  · cases fitting
    cases pointer
  · cases fitting

/-! ## Results -/

variable {strategy : WriteStrategy} {property : Property} {result : Boxed}

/-- The ways for a result to be stored without that the class of a property is looked at. -/
inductive WriteStrategy.Evades (context : TypeContext) (strategy : WriteStrategy)
    (property : Property) (result : Boxed) (declared : ClassId) : Native → Prop
  /-- It is a native value already, and the strategy does not look at classes. -/
  | whole {type : PropertyType} {value : Native} {shared : Bool}
      (boxed : result = .native type value shared) (unchecked : strategy.checksClasses = false) :
      Evades context strategy property result declared value
  /-- It is `undefined`, and the property has a default to go back to. -/
  | default (absent : result.Reads .undefined) (resettable : property.resettable = true) :
      Evades context strategy property result declared property.default
  /-- It is a pointer that suits the class of the strategy, which is another one. -/
  | elsewhere {other : ClassId} {value : Native} (fixed : strategy = .object other)
      (different : other ≠ declared) (points : context.PointsTo other value) :
      Evades context strategy property result declared value

/-- What a strategy makes of a result suits the class of the property, unless that was evaded. -/
theorem WriteStrategy.Hands.pointsTo {value : Native}
    (points : property.type.pointee? = some declared) (fits : value.fits property.type = true)
    (hands : strategy.Hands context property result value) :
    context.PointsTo declared value ∨ strategy.Evades context property result declared value := by
  have pointer := Native.isPointer_of_fits points fits
  cases hands with
  | whole boxed _ unchecked => exact .inr (.whole boxed unchecked)
  | default absent resettable => exact .inr (.default absent resettable)
  | empty _ _ => cases pointer
  | undefined _ _ => cases pointer
  | converted reads converts =>
      unfold WriteStrategy.native at converts
      split at converts
      · next stored fitting =>
        cases converts
        rcases fitting?_pointsTo pointer fitting with ⟨other, fixed, suits⟩
        by_cases same : other = declared
        · exact .inl (same ▸ suits)
        · exact .inr (.elsewhere fixed same suits)
      · exact .inl (Value.toNative_pointsTo points converts)

/-- The strategy for a type for objects looks at the class that the type declares. -/
theorem WriteStrategy.ofType_pointee (points : type.pointee? = some declared) :
    ofType type = .object declared ∨ ofType type = .list declared := by
  cases type with
  | object _ => cases points; exact .inl rfl
  | list _ => cases points; exact .inr rfl
  | _ => cases points

/-- The strategy for a property is evaded by `undefined` only. -/
theorem WriteStrategy.Evades.absent {value : Native} (closed : property.isVar = false)
    (points : property.type.pointee? = some declared)
    (evades : (ofProperty property).Evades context property result declared value) :
    result.Reads .undefined ∧ property.resettable = true := by
  have fixed : ofProperty property = .object declared ∨ ofProperty property = .list declared := by
    rw [ofProperty, closed]
    exact ofType_pointee points
  cases evades with
  | whole _ unchecked => rcases fixed with same | same <;> rw [same] at unchecked <;> cases unchecked
  | default absent resettable => exact ⟨absent, resettable⟩
  | elsewhere other different _ =>
      rcases fixed with same | same <;> cases other.symm.trans same
      exact absurd rfl different

/-- A property for objects has no fields. -/
theorem ObjectGraph.Revises.unfit {graph : ObjectGraph} {ref : PropertyRef} {field : Nat}
    {value : Native} (revises : graph.Revises ref field result value)
    (points : type.pointee? = some declared) : value.fits type = false := by
  cases revises with
  | record _ _ _ =>
      cases type <;> first | rfl | cases points

namespace Engine

variable {σ : Type} {outside : Outside σ} {world after : World σ} {id : BindingId}
  {binding : Binding} {flags : WriteFlags}

/--
What a binding stores in a property for objects, unless an interceptor has changed it,
points to objects that live when the write begins and belong to the class of the property.
The exceptions are a native value under a strategy that does not look at classes, the
default for `undefined`, and a pointer that suits another class, which the strategy is for.
If the strategy is the one for the property, then only the default is left of them.
-/
theorem written_back_pointers_suit_but_evasions
    (run : (storeResult id binding result flags).run outside world = some (.ok (), after)) :
    ∃ target property,
      world.graph.resolve binding.target.property binding.context.config.aliasDepth = .ok target ∧
      world.graph.property target = .ok property ∧
      (property.isVar = false → ∀ declared, property.type.pointee? = some declared →
        ∃ value start final ready, world.Aside start ∧
          Consults outside target (writeBackFlags world id flags) value start final ready ∧
          Deposits outside target (.native final) (.property target.object property.signal)
            ready after ∧
          (world.graph.context.PointsTo declared value ∨
            (world.strategyFor binding.adapter property).Evades world.graph.context property
              result declared value) ∧
          (world.strategyFor binding.adapter property = .ofProperty property →
            world.graph.context.PointsTo declared value ∨
              result.Reads .undefined ∧ property.resettable = true)) := by
  rcases Lands.succeeded (storeResult_lands id binding result flags _ _ run) with
    ⟨start, target, property, aside, found, described, course⟩
  refine ⟨target, property, found, described, fun closed declared points => ?_⟩
  cases course with
  | slot slotted _ =>
      rw [closed] at slotted
      cases slotted
  | @native value _ given course =>
      cases course with
      | @stored _ ready _ final fits relieves consults fit alive deposits =>
          -- a binding that writes back does not replace writers
          cases relieves with
          | removed replaces _ => cases replaces
          | kept _ =>
              have suits : world.graph.context.PointsTo declared value ∨
                  (world.strategyFor binding.adapter property).Evades world.graph.context
                    property result declared value := by
                simp only [Assignment.aim] at given
                split at given
                -- what is stored for a field is a record, and does not fit
                · rcases given with ⟨ref, _, revises⟩
                  rw [revises.unfit points] at fits
                  cases fits
                · exact given.pointsTo points fits
              refine ⟨value, start, final, ready, aside, consults, deposits, suits, fun same => ?_⟩
              rw [same] at suits
              exact suits.imp_right fun evades => evades.absent closed points

section Crate

/-! ## A crate with an item -/

/-- A class, and a subclass with a property for objects of its own. -/
def crateSchema : Schema :=
  (Schema.empty.defineClass "Base" none []).defineClass "Item" (some 0)
    [.native "item" (.object 1)]

def itemRef : PropertyRef := ⟨⟨0, 0⟩, 0⟩

/-- An expression that nobody evaluates. -/
def crateExpression : BindingExpression :=
  .function (.mk 0 "item" .none (.host 0))

/-- Makes an item and a base, and two bindings of the item: one of its own type, one for bases. -/
def prepareCrate : Attempt PropertyError Unit Unit := do
  let _ ← Attempt.perform (create 1 none)
  let _ ← Attempt.perform (create 0 none)
  let _ ← createBinding ⟨0, {}, .empty⟩ ⟨itemRef, none⟩ crateExpression {}
  let _ ← createBinding ⟨0, {}, .empty⟩ ⟨itemRef, none⟩ crateExpression
    { declaredType? := some (.object 0) }

/-- The crate. -/
def crate : World Unit := panelAfter prepareCrate.run (.initial crateSchema ())

/-- A binding of the crate, with the write adapter of the number. -/
def crateBinding (adapter : AdapterId) : Binding :=
  { context := ⟨0, {}, .empty⟩, expression := crateExpression, target := ⟨itemRef, none⟩,
    this? := none, arguments := [], adapter := adapter, notifyOnChange := true }

/-- The crate after a binding has stored a pointer. -/
def crateAfter (id : BindingId) (pointee : ObjectId) : World Unit :=
  panelAfter (storeResult id (crateBinding id) (.dynamic (.object pointee)) .none).run crate

/-- The binding of the item's own type stores items, and the binding for bases stores a base. -/
theorem crate_pointer_suits :
    (storeResult 0 (crateBinding 0) (.dynamic (.object ⟨0, 0⟩)) .none).run
        (.within Host.silent 3) crate = some (.ok (), crateAfter 0 ⟨0, 0⟩) ∧
    (∃ value start final ready, crate.Aside start ∧
      Consults (.within Host.silent 3) itemRef (writeBackFlags crate 0 .none) value start final
        ready ∧
      Deposits (.within Host.silent 3) itemRef (.native final) (.property ⟨0, 0⟩ 0) ready
        (crateAfter 0 ⟨0, 0⟩) ∧
      crate.graph.context.PointsTo 1 value) ∧
    crate.bindings[1]? = some (crateBinding 1) ∧
    (storeResult 1 (crateBinding 1) (.dynamic (.object ⟨1, 0⟩)) .none).run
      (.within Host.silent 3) crate = some (.ok (), crateAfter 1 ⟨1, 0⟩) ∧
    (crateAfter 1 ⟨1, 0⟩).graph.cell? itemRef = some (.native (.object (some ⟨1, 0⟩))) ∧
    ¬crate.graph.context.PointsTo 1 (.object (some ⟨1, 0⟩)) := by
  have run : (storeResult 0 (crateBinding 0) (.dynamic (.object ⟨0, 0⟩)) .none).run
      (.within Host.silent 3) crate = some (.ok (), crateAfter 0 ⟨0, 0⟩) := rfl
  refine ⟨run, ?_, rfl, rfl, rfl, fun points => ?_⟩
  · rcases written_back_pointers_suit_but_evasions run with
      ⟨target, property, found, described, suits⟩
    cases found
    cases described
    rcases suits rfl 1 rfl with
      ⟨value, start, final, ready, aside, consults, deposits, _, matching⟩
    refine ⟨value, start, final, ready, aside, consults, deposits, (matching rfl).resolve_right ?_⟩
    exact fun evaded => Bool.noConfusion evaded.2
  · rcases points ⟨1, 0⟩ List.mem_cons_self with ⟨actual, living, inherits⟩
    cases living
    exact absurd inherits (by decide)

end Crate

end Engine

end PropertyBinding
