import PropertyBinding.Proofs.ActiveWriter
import PropertyBinding.Proofs.AliasTransparency
import PropertyBinding.Proofs.Assigning
import PropertyBinding.Proofs.Narrowing
import PropertyBinding.Proofs.Renaming

namespace PropertyBinding

/-!
# Native results and their script forms

A result that has a native type is stored as it is where it fits, and is brought into
its script form first where it does not.  It makes no difference for most values: the
strategy of a property takes the script form of a value that fits back to that value.

Two things are lost on the way over the script form.  A container forgets which of its
contents were wrapped script values, as they are wrapped again only where there is no
other way.  And a container or a box that holds `undefined` becomes the `undefined` that
stands for a reset.
-/

/-! ## Containers over their script forms -/

/-- A container after its content was a script value. -/
def Variant.settled (content : Variant) : Variant :=
  content.toValue.toVariant

mutual

/-- Whether the only script values that a container wraps are functions. -/
def Variant.IsSettled : Variant → Prop
  | .list items => Variant.AllSettled items
  | .script value => ∃ callee marked, value = .function callee marked
  | _ => True

/-- Whether the only script values that several containers wrap are functions. -/
def Variant.AllSettled : List Variant → Prop
  | [] => True
  | item :: rest => Variant.IsSettled item ∧ Variant.AllSettled rest

end

theorem Variant.sizeOf_lt_of_toVariant {value : Value}
    (wrapped : value.toVariant = .script value) : ∃ callee marked, value = .function callee marked := by
  cases value with
  | function callee marked => exact ⟨callee, marked, rfl⟩
  | variant content =>
      simp only [Value.toVariant] at wrapped
      have size := congrArg sizeOf wrapped
      simp at size
      omega
  | _ => simp [Value.toVariant] at wrapped

mutual

theorem Variant.settled_eq_self_iff (content : Variant) :
    content.settled = content ↔ content.IsSettled := by
  cases content with
  | list items =>
      simp only [Variant.settled, Variant.toValue, Value.toVariant, Variant.list.injEq,
        Variant.IsSettled]
      exact Variant.toVariants_toValues_eq_self_iff items
  | script value =>
      simp only [Variant.settled, Variant.toValue, Variant.IsSettled]
      constructor
      · exact Variant.sizeOf_lt_of_toVariant
      · rintro ⟨callee, marked, rfl⟩
        rfl
  | _ => exact ⟨fun _ => trivial, fun _ => rfl⟩

theorem Variant.toVariants_toValues_eq_self_iff (items : List Variant) :
    Value.toVariants (Variant.toValues items) = items ↔ Variant.AllSettled items := by
  cases items with
  | nil => exact ⟨fun _ => trivial, fun _ => rfl⟩
  | cons item rest =>
      simp only [Variant.toValues, Value.toVariants, List.cons.injEq, Variant.AllSettled]
      exact and_congr (Variant.settled_eq_self_iff item)
        (Variant.toVariants_toValues_eq_self_iff rest)

end

/-! ## Identities -/

/-- Whether all arrays in a stored value have an identity. -/
def Native.IsPlaced (value : Native) : Prop :=
  ∀ next, value.place next = (value, next)

/-- Only `undefined` is `undefined` after it got identities. -/
theorem Value.place_eq_undefined_iff {value : Value} {next : Nat} :
    (value.place next).1 = .undefined ↔ value = .undefined := by
  cases value with
  | array identity items => cases identity <;> simp [Value.place]
  | _ => simp [Value.place]

/-- Only a function is a function after it got identities. -/
theorem Value.eq_function_of_place {value : Value} {next : Nat} {callee : Function} {marked : Bool}
    (placed : (value.place next).1 = .function callee marked) : value = .function callee marked := by
  cases value with
  | array identity items => cases identity <;> simp [Value.place] at placed
  | function _ _ => exact placed
  | _ => simp [Value.place] at placed

theorem Variant.placed_of_placeAll {item : Variant} {rest : List Variant}
    (placed : ∀ next, Variant.placeAll next (item :: rest) = (item :: rest, next)) :
    (∀ next, item.place next = (item, next)) ∧
      ∀ next, Variant.placeAll next rest = (rest, next) := by
  have parts : ∀ next, item.place next = (item, next) ∧
      Variant.placeAll next rest = (rest, next) := by
    intro next
    have whole := placed next
    simp only [Variant.placeAll, Prod.mk.injEq, List.cons.injEq] at whole
    have none := Variant.le_place next item
    have none' := Variant.le_placeAll (item.place next).2 rest
    have unspent : (item.place next).2 = next := by omega
    rw [unspent] at whole
    exact ⟨Prod.ext whole.1.1 unspent, Prod.ext whole.1.2 whole.2⟩
  exact ⟨fun next => (parts next).1, fun next => (parts next).2⟩

mutual

/-- The identities that the lists of a container get as arrays are lost in the container again. -/
theorem Variant.toVariant_place_toValue (content : Variant)
    (placed : ∀ next, content.place next = (content, next)) (next : Nat) :
    (content.toValue.place next).1.toVariant = content.settled := by
  cases content with
  | list items =>
      have each : ∀ next, Variant.placeAll next items = (items, next) := by
        intro next
        simpa [Variant.place, Prod.ext_iff] using placed next
      simp only [Variant.settled, Variant.toValue, Value.place, Value.toVariant,
        Variant.toVariants_placeAll_toValues items each]
  | script value =>
      have whole : value.place next = (value, next) := by
        simpa [Variant.place, Prod.ext_iff] using placed next
      simp only [Variant.settled, Variant.toValue, whole]
  | _ => rfl

theorem Variant.toVariants_placeAll_toValues (items : List Variant)
    (placed : ∀ next, Variant.placeAll next items = (items, next)) (next : Nat) :
    Value.toVariants (Value.placeAll next (Variant.toValues items)).1 =
      Value.toVariants (Variant.toValues items) := by
  cases items with
  | nil => rfl
  | cons item rest =>
      rcases Variant.placed_of_placeAll placed with ⟨first, others⟩
      simp only [Variant.toValues, Value.placeAll, Value.toVariants,
        Variant.toVariant_place_toValue item first, Variant.toVariants_placeAll_toValues rest others]
      rfl

end

/-! ## Stored values over their script forms -/

namespace Native

/-- A stored value after it was a script value. -/
def settled : Native → Native
  | .variant content => .variant content.settled
  | other => other

theorem settled_eq_self_iff (value : Native) :
    value.settled = value ↔ ∀ content, value = .variant content → content.IsSettled := by
  cases value <;> simp [settled, Variant.settled_eq_self_iff]

@[simp] theorem fits_settled (value : Native) (type : PropertyType) :
    value.settled.fits type = value.fits type := by
  cases value <;> cases type <;> rfl

end Native

namespace WriteStrategy

/-- The strategy of a type takes the script form of a value that fits back to the value. -/
theorem fitting?_place_toValue {type : PropertyType} {value : Native} (context : TypeContext)
    (fits : value.fits type = true) (direct : (ofType type).checksClasses = false)
    (closed : ofType type ≠ .varSlot) (placed : value.IsPlaced) (next : Nat) :
    (ofType type).fitting? context (value.toValue.place next).1 = some value.settled := by
  cases value with
  | variant content =>
      have each : ∀ next, content.place next = (content, next) := by
        intro next
        simpa [Native.place, Prod.ext_iff] using placed next
      cases type <;> first | (cases fits; done) | skip
      exact congrArg (fun content => some (Native.variant content))
        (content.toVariant_place_toValue each next)
  | script value =>
      have whole : value.place next = (value, next) := by
        simpa [Native.place, Prod.ext_iff] using placed next
      cases type <;> first | (cases fits; done) | exact absurd rfl closed | skip
      simp only [Native.toValue, whole, ofType, fitting?, Native.settled]
  | float value =>
      cases type <;> first | (cases fits; done) | skip
      exact congrArg (fun number => some (Native.float number)) (Number.narrow_widen value)
  | record value =>
      cases type <;> first | cases fits | skip
      exact if_pos (of_decide_eq_true fits)
  | object id => cases type <;> first | (cases fits; done) | cases direct
  | list ids => cases type <;> first | (cases fits; done) | cases direct
  | _ => cases type <;> first | (cases fits; done) | rfl

/-- Whether a value that comes with a type is stored under a strategy without its script form. -/
def storesDirectly (strategy : WriteStrategy) (property : Property) (value : Native) : Bool :=
  strategy ≠ .varSlot && value.fits property.type && !strategy.checksClasses

theorem storesDirectly_settled (strategy : WriteStrategy) (property : Property) (value : Native) :
    strategy.storesDirectly property value.settled = strategy.storesDirectly property value := by
  simp only [storesDirectly, Native.fits_settled]

theorem storesDirectly_ofProperty {property : Property} {value : Native} :
    (ofProperty property).storesDirectly property value = true ↔
      ofProperty property = ofType property.type ∧ ofType property.type ≠ .varSlot ∧
        value.fits property.type = true ∧ (ofType property.type).checksClasses = false := by
  unfold ofProperty
  by_cases slot : property.isVar = true
  · rw [if_pos slot]
    constructor
    · intro direct
      cases direct
    · rintro ⟨same, closed, -⟩
      exact absurd same.symm closed
  · rw [if_neg slot]
    simp [storesDirectly, and_assoc]

/-- A property takes functions if a value with a function as its script form fits it. -/
theorem acceptsFunctions_of_fits {type : PropertyType} {value : Native} {callee : Function}
    {marked : Bool} (fits : value.fits type = true) (called : value.toValue = .function callee marked) :
    (ofType type).acceptsFunctions = true := by
  cases value with
  | variant content => cases type <;> first | (cases fits; done) | rfl
  | script value => cases type <;> first | (cases fits; done) | rfl
  | object id => cases id <;> cases called
  | _ => cases called

/-- The values that fit and have `undefined` as their script form. -/
theorem settled_of_undefined {type : PropertyType} {value : Native}
    (fits : value.fits type = true) (undefined : value.toValue = .undefined) :
    (∃ content, value = .variant content ∧ type = .variant ∧ value.settled = .variant .empty) ∨
      (value = .script .undefined ∧ (type = .script ∨ type = .var)) := by
  cases value with
  | variant content =>
      have emptied : content.toValue = .undefined := undefined
      cases type <;> first
        | (cases fits; done)
        | exact .inl ⟨content, rfl, rfl, by rw [Native.settled, Variant.settled, emptied]; rfl⟩
  | script value =>
      cases undefined
      cases type <;> first
        | (cases fits; done)
        | exact .inr ⟨rfl, .inl rfl⟩
        | exact .inr ⟨rfl, .inr rfl⟩
  | object id => cases id <;> cases undefined
  | _ => cases undefined

end WriteStrategy

namespace Engine

variable {σ α β ε : Type} {outside : Outside σ} {world middle : World σ} {ref : PropertyRef}
  {property : Property} {adapter : AdapterId} {flags : WriteFlags} {value : Native}

/-! ## The write of a whole property -/

/-- A world after an adapter has a strategy for a property. -/
def choosing (world : World σ) (adapter : AdapterId) (property : Property) : World σ :=
  match (world.adapters[adapter]?).join with
  | some _ => world
  | none =>
      { world with adapters := world.adapters.set adapter (some (.ofProperty property)) }

theorem chooseStrategy_chooses (world : World σ) (adapter : AdapterId) (property : Property) :
    Steps (WriteBack.chooseStrategy adapter property) world (world.strategyFor adapter property)
      (choosing world adapter property) := by
  intro outside
  simp only [WriteBack.chooseStrategy, WriteBack.strategy?, apply_bind, apply_get, apply_pure,
    Option.bind_some, World.strategyFor, choosing]
  cases (world.adapters[adapter]?).join <;> rfl

/-- A write-back to a whole property follows the strategy of its adapter. -/
theorem write_whole (described : world.graph.property ref = .ok property) (result : Boxed) :
    (WriteBack.write adapter ⟨ref, none⟩ result flags).run outside world =
      (WriteBack.writeProperty (world.strategyFor adapter property) ref property result flags).run
        outside (choosing world adapter property) := by
  have found : (WriteBack.access (σ := σ)
      (Attempt.ask fun graph => graph.property ref)).run outside world =
        some (.ok property, world) := by
    show (some (world.graph.property ref, world)).bind (fun out =>
      some (out.1.mapError WriteError.ofProperty, out.2)) = _
    rw [described]
    rfl
  have chosen : (Attempt.perform (ε := WriteError)
      (WriteBack.chooseStrategy adapter property)).run outside world =
        some (.ok (world.strategyFor adapter property), choosing world adapter property) := by
    show ((WriteBack.chooseStrategy adapter property) outside world).bind (fun out =>
      some (Except.ok out.1, out.2)) = _
    rw [chooseStrategy_chooses world adapter property outside]
    rfl
  exact (apply_attempt _ found).trans (apply_attempt _ chosen)

theorem choosing_identities (world : World σ) (adapter : AdapterId) (property : Property) :
    (choosing world adapter property).identities = world.identities := by
  unfold choosing
  cases (world.adapters[adapter]?).join <;> rfl

/-- It makes no difference whether identities are given before or after a strategy is chosen. -/
theorem choosing_informed (world : World σ) (adapter : AdapterId) (property : Property)
    (identities : Nat) : choosing { world with identities := identities } adapter property =
      { choosing world adapter property with identities := identities } := by
  unfold choosing
  cases (world.adapters[adapter]?).join <;> rfl

/-- A native result that is stored as it is. -/
theorem writeProperty_direct {strategy : WriteStrategy} {type : PropertyType} {shared : Bool}
    (direct : strategy.storesDirectly property value = true) :
    WriteBack.writeProperty (σ := σ) strategy ref property (.native type value shared) flags =
      WriteBack.access (write ref value flags) := by
  unfold WriteStrategy.storesDirectly at direct
  simp only [WriteBack.writeProperty, direct, if_true]

/-- A native result that is converted is written as its script form, after that got identities. -/
theorem writeProperty_converted {strategy : WriteStrategy} {type : PropertyType} {shared : Bool}
    (converted : strategy.storesDirectly property value = false) :
    (WriteBack.writeProperty strategy ref property (.native type value shared) flags).run outside
        world =
      (WriteBack.writeValue strategy ref property (value.toValue.place world.identities).1 flags).run
        outside { world with identities := (value.toValue.place world.identities).2 } := by
  unfold WriteStrategy.storesDirectly at converted
  simp only [WriteBack.writeProperty, converted, Bool.false_eq_true, if_false]
  rw [apply_perform]
  rfl

/-- A script value with a form that needs no conversion is written in that form. -/
theorem writeValue_of_fitting {strategy : WriteStrategy} {value : Value} {stored : Native}
    (closed : strategy ≠ .varSlot) (defined : value ≠ .undefined)
    (accepted : ∀ callee marked, value = .function callee marked → strategy.acceptsFunctions = true)
    (fitting : ∀ context, strategy.fitting? context value = some stored) :
    (WriteBack.writeValue strategy ref property value flags).run outside world =
      (WriteBack.access (write ref stored flags)).run outside world := by
  have converted : (WriteBack.convert (σ := σ) fun graph =>
      strategy.native graph.context property.type value).run outside world =
        some (.ok stored, world) := by
    show (some (strategy.native world.graph.context property.type value, world)).bind (fun out =>
      some (out.1.mapError WriteError.ofConversion, out.2)) = _
    unfold WriteStrategy.native
    rw [fitting]
    rfl
  have plain : (WriteBack.writeValue (σ := σ) strategy ref property value flags) = (do
      let native ← WriteBack.convert fun graph =>
        strategy.native graph.context property.type value
      WriteBack.access (write ref native flags)) := by
    cases value with
    | undefined => exact absurd rfl defined
    | function callee marked =>
        have accepts := accepted callee marked rfl
        simp only [WriteBack.writeValue, accepts, if_neg closed]
    | _ => simp only [WriteBack.writeValue, if_neg closed]
  rw [plain]
  exact apply_attempt _ converted

/--
The script form of a value that fits is written as the value after it was a script value,
unless it is `undefined` and the property has a default to go back to.
-/
theorem writeValue_place_toValue
    (direct : (WriteStrategy.ofProperty property).storesDirectly property value = true)
    (placed : value.IsPlaced) (next : Nat)
    (kept : ¬(property.resettable = true ∧ value.toValue = .undefined)) :
    (WriteBack.writeValue (.ofProperty property) ref property (value.toValue.place next).1
        flags).run outside world =
      (WriteBack.access (write ref value.settled flags)).run outside world := by
  rcases WriteStrategy.storesDirectly_ofProperty.mp direct with ⟨same, closed, fits, open'⟩
  rw [same]
  by_cases undefined : value.toValue = .undefined
  · have unsettable : property.resettable = false := by simpa [undefined] using kept
    rw [undefined]
    rcases WriteStrategy.settled_of_undefined fits undefined with
      ⟨content, rfl, type, emptied⟩ | ⟨rfl, type | type⟩
    · simp only [Value.place, WriteBack.writeValue, WriteBack.writeUndefined, unsettable, type,
        WriteStrategy.ofType, emptied]
      rfl
    · simp only [Value.place, WriteBack.writeValue, WriteBack.writeUndefined, unsettable, type,
        WriteStrategy.ofType, Native.settled]
      rfl
    · exact absurd (type ▸ rfl) closed
  · refine writeValue_of_fitting closed (fun gone => undefined (Value.place_eq_undefined_iff.mp gone))
      (fun callee marked called => ?_)
      fun context => WriteStrategy.fitting?_place_toValue context fits open' closed placed next
    exact WriteStrategy.acceptsFunctions_of_fits fits (Value.eq_function_of_place called)

/--
A result with a native type is written back like its script form, whatever the property
and the value, the flags and the code outside: with the same result, and leaving the same
world.  Where the value is not stored as it is, the conversion is a part of the write.
Where it is, that holds of a value whose containers wrap no script values but functions,
and of any other the script form is written like the value with the wrappers gone; unless
the property has a default and the script form is `undefined`.  Then the script form
resets the property, and the value is stored.
-/
theorem typed_alike_dynamic_but_wrapped
    (described : world.graph.property ref = .ok property)
    (follows : world.strategyFor adapter property = .ofProperty property)
    (placed : value.IsPlaced) (type : PropertyType) (shared : Bool) (flags : WriteFlags) :
    let form := value.toValue.place world.identities
    let informed : World σ := { world with identities := form.2 }
    let typed := fun stored =>
      (WriteBack.write adapter ⟨ref, none⟩ (.native type stored shared) flags).run outside
    let dynamic := (WriteBack.write adapter ⟨ref, none⟩ (.dynamic form.1) flags).run outside
    let direct := (WriteStrategy.ofProperty property).storesDirectly property value
    (direct = false → dynamic informed = typed value world) ∧
    (direct = true → ¬(property.resettable = true ∧ value.toValue = .undefined) →
      dynamic informed = typed value.settled informed ∧
      ((∀ content, value = .variant content → content.IsSettled) →
        dynamic informed = typed value informed)) ∧
    (direct = true → property.resettable = true → value.toValue = .undefined →
      let chosen := choosing informed adapter property
      dynamic informed = (WriteBack.access (reset ref flags)).run outside chosen ∧
      typed value informed = (WriteBack.access (write ref value flags)).run outside chosen) := by
  intro form informed typed dynamic direct
  have dynamicRun : dynamic informed = (WriteBack.writeValue (.ofProperty property) ref property
      form.1 flags).run outside (choosing informed adapter property) := by
    show (WriteBack.write adapter ⟨ref, none⟩ _ flags).run outside informed = _
    have followed : informed.strategyFor adapter property = .ofProperty property := follows
    have declared : informed.graph.property ref = .ok property := described
    rw [write_whole declared, followed]
    rfl
  have typedRun : ∀ stored (start : World σ), start.graph = world.graph →
      start.adapters = world.adapters → typed stored start =
        (WriteBack.writeProperty (.ofProperty property) ref property (.native type stored shared)
          flags).run outside (choosing start adapter property) := by
    intro stored start graph adapters
    have followed : start.strategyFor adapter property = .ofProperty property := by
      rw [World.strategyFor, adapters]
      exact follows
    show (WriteBack.write adapter ⟨ref, none⟩ _ flags).run outside start = _
    rw [write_whole (by rw [graph]; exact described), followed]
  have alike : direct = true → ¬(property.resettable = true ∧ value.toValue = .undefined) →
      dynamic informed = typed value.settled informed := by
    intro stores kept
    have stores' := (WriteStrategy.storesDirectly_settled _ property value).trans stores
    rw [dynamicRun, typedRun _ informed rfl rfl, writeProperty_direct stores']
    exact writeValue_place_toValue stores placed _ kept
  refine ⟨fun converted => ?_, fun stores kept => ⟨alike stores kept, fun wrapped => ?_⟩,
    fun stores resettable undefined => ⟨?_, ?_⟩⟩
  · rw [dynamicRun, typedRun _ world rfl rfl, writeProperty_converted converted,
      choosing_identities, choosing_informed]
  · have settled := alike stores kept
    rwa [(Native.settled_eq_self_iff value).mpr wrapped] at settled
  · have emptied : form.1 = .undefined := Value.place_eq_undefined_iff.mpr undefined
    rw [dynamicRun, emptied]
    simp only [WriteBack.writeValue, WriteBack.writeUndefined, resettable, if_true]
  · rw [typedRun _ informed rfl rfl, writeProperty_direct stores]

section Box

/-! ## A box that holds `undefined` -/

/-- A class with a box that has a default. -/
def boxSchema : Schema :=
  Schema.empty.defineClass "Box" none [.resettableTo (.script (.int 5)) "held" .script]

/-- The box as the class declares it. -/
def heldProperty : Property := ⟨"held", 0, .script, .native, true, .script (.int 5), 0⟩

/-- Makes a box that holds another value than its default, and a write adapter for it. -/
def prepareBox : Attempt PropertyError Unit Unit := do
  let _ ← Attempt.perform (create 0 none)
  write (panelRef 0) (.script (.int 7)) .none
  let _ ← Attempt.perform (WriteBack.createAdapter (some .script))

/-- The box. -/
def box : World Unit := panelAfter prepareBox.run (.initial boxSchema ())

/-- The box after a result was written back to it. -/
def boxAfter (result : Boxed) : World Unit :=
  panelAfter (WriteBack.write 0 ⟨panelRef 0, none⟩ result .none).run box

/-- Whether a world has a value in the box. -/
def boxHolds (world : World Unit) (value : Value) : Bool :=
  ((world.graph.cell? (panelRef 0)).map fun cell => cell.holds (.script value)).getD false

/-- A native result that is a box around `undefined` is stored, and its script form resets the box. -/
theorem emptied_box_is_no_reset :
    box.graph.property (panelRef 0) = .ok heldProperty ∧
    box.strategyFor 0 heldProperty = .ofProperty heldProperty ∧
    (Native.script .undefined).IsPlaced ∧
    (WriteBack.write 0 ⟨panelRef 0, none⟩ (.dynamic .undefined) .none).run
        (.within Host.silent 3) box =
      (WriteBack.access (reset (panelRef 0) .none)).run (.within Host.silent 3)
        (choosing box 0 heldProperty) ∧
    boxHolds box (.int 7) = true ∧
    boxHolds (boxAfter (.native .script (.script .undefined) false)) .undefined = true ∧
    boxHolds (boxAfter (.dynamic .undefined)) (.int 5) = true := by
  have described : box.graph.property (panelRef 0) = .ok heldProperty := by
    with_unfolding_all rfl
  have follows : box.strategyFor 0 heldProperty = .ofProperty heldProperty := by
    with_unfolding_all rfl
  have placed : (Native.script .undefined).IsPlaced := fun _ => rfl
  refine ⟨described, follows, placed, ?_, by decide +kernel, by decide +kernel,
    by decide +kernel⟩
  exact ((typed_alike_dynamic_but_wrapped described follows placed .script false .none).2.2
    rfl rfl rfl).1

end Box

end Engine

end PropertyBinding
