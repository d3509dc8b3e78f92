import PropertyBinding.Proofs.AliasTransparency
import PropertyBinding.Proofs.Ensuring
import PropertyBinding.Proofs.Storing

namespace PropertyBinding

/-!
# What assignments come to

There are six ways to give a property a value, and the write-back of a binding is a
seventh.  Each of them looks for the property that stores, and brings the value into a
form for it.  Up to there it may be refused, and then nothing has happened but that
identities were given out and that a write adapter has chosen its strategy.

What is left is one of two things: to store a native value in a property that is no
open slot, or a script value in an open slot.  `Aim` says where an assignment goes and
with what values, and `Lands` what becomes of it.
-/

/-- Whether nothing happened but that identities were given out and strategies chosen. -/
def World.Aside {σ : Type} (world later : World σ) : Prop :=
  { later with adapters := world.adapters, identities := world.identities } = world

namespace World.Aside

variable {σ : Type} {world middle later : World σ}

theorem refl (world : World σ) : world.Aside world := rfl

theorem trans (first : world.Aside middle) (second : middle.Aside later) : world.Aside later := by
  have there : { later with adapters := world.adapters, identities := world.identities } =
      { middle with adapters := world.adapters, identities := world.identities } :=
    congrArg (fun start : World σ =>
      { start with adapters := world.adapters, identities := world.identities }) second
  exact there.trans first

theorem eq (aside : world.Aside later) :
    { later with adapters := world.adapters, identities := world.identities } = world :=
  aside

theorem graph (aside : world.Aside later) : later.graph = world.graph :=
  (congrArg World.graph aside.eq :)

theorem host (aside : world.Aside later) : later.host = world.host :=
  (congrArg World.host aside.eq :)

end World.Aside

/-! ## Assignments -/

/-- Where an assignment goes, how, and with what values. -/
structure Aim where
  /-- The property that stores for the one that was named. -/
  target? : Except PropertyError PropertyRef
  flags : WriteFlags
  /-- What the assignment may be about to store, if the target is the property. -/
  Gives : Property → Native → Prop

/-- The script values that a result is read as; the items of an array have identities then. -/
inductive Boxed.Reads : Boxed → Value → Prop
  | dynamic (value : Value) : Reads (.dynamic value) value
  | native {type : PropertyType} {value : Native} {shared : Bool} (next : Nat) :
      Reads (.native type value shared) (value.toValue.place next).1

/-- What a strategy makes of a result for a property as a whole. -/
inductive WriteStrategy.Hands (context : TypeContext) (strategy : WriteStrategy)
    (property : Property) (result : Boxed) : Native → Prop
  /-- The native value of the result as it is. -/
  | whole {type : PropertyType} {value : Native} {shared : Bool}
      (boxed : result = .native type value shared) (fits : value.fits property.type = true)
      (unchecked : strategy.checksClasses = false) : Hands context strategy property result value
  /-- The default, for `undefined`. -/
  | default (absent : result.Reads .undefined) (resettable : property.resettable = true) :
      Hands context strategy property result property.default
  /-- The empty value, for `undefined`. -/
  | empty (absent : result.Reads .undefined) (container : strategy = .variant) :
      Hands context strategy property result (.variant .empty)
  | undefined (absent : result.Reads .undefined) (boxes : strategy = .script) :
      Hands context strategy property result (.script .undefined)
  /-- The native form of the result. -/
  | converted {content : Value} {value : Native} (reads : result.Reads content)
      (converts : strategy.native context property.type content = .ok value) :
      Hands context strategy property result value

/-- What becomes of a record when a result is stored in one of its fields. -/
inductive ObjectGraph.Revises (graph : ObjectGraph) (ref : PropertyRef) (field : Nat)
    (result : Boxed) : Native → Prop
  | record {current changed : Record} {number : Float}
      (peeked : graph.peek ref defaultAliasDepth = .ok (.record current))
      (converts : result.toValue.toNative graph.context .double = .ok (.double number))
      (set : current.setField? field number = some changed) :
      Revises graph ref field result (.record changed)

/-- The strategy with which a write adapter writes a property as a whole. -/
def World.strategyFor {σ : Type} (world : World σ) (adapter : AdapterId) (property : Property) :
    WriteStrategy :=
  ((world.adapters[adapter]?).join).getD (.ofProperty property)

/-- The ways to give a property a value. -/
inductive Assignment where
  | write (ref : PropertyRef) (value : Native) (flags : WriteFlags)
  | writeVar (ref : PropertyRef) (value : Value) (flags : WriteFlags)
  | reset (ref : PropertyRef) (flags : WriteFlags)
  | literal (ref : PropertyRef) (value : Native)
  | named (object : ObjectId) (name : String) (value : Native)
  /-- By a script. -/
  | member (object : ObjectId) (name : String) (value : Value)
  /-- By a binding, with the result of an evaluation. -/
  | writeBack (id : BindingId) (binding : Binding) (result : Boxed) (flags : WriteFlags)

/-- Why an assignment did not succeed. -/
inductive AssignmentError where
  | access (error : PropertyError)
  | script (error : Script.Exception)
  | writeBack (error : WriteError)

namespace Assignment

variable {σ : Type}

/-- Makes an assignment. -/
def perform : Assignment → Attempt AssignmentError σ Unit
  | .write ref value flags => ExceptT.adapt .access (Engine.write ref value flags)
  | .writeVar ref value flags => ExceptT.adapt .access (Engine.writeVar ref value flags)
  | .reset ref flags => ExceptT.adapt .access (Engine.reset ref flags)
  | .literal ref value => ExceptT.adapt .access (Engine.assign ref value)
  | .named object name value => ExceptT.adapt .access (Engine.assignNamed object name value)
  | .member object name value =>
      ExceptT.adapt .script (Script.Evaluation.assignMember object name value)
  | .writeBack id binding result flags =>
      ExceptT.adapt .writeBack (Engine.storeResult id binding result flags)

/-- The property that stores for a property of an object, by its name. -/
def storedNamed (graph : ObjectGraph) (object : ObjectId) (name : String) :
    Except PropertyError PropertyRef := do
  let index ← graph.propertyIndex object name
  graph.resolve ⟨object, index⟩ defaultAliasDepth

/-- Where an assignment goes in a world, how, and with what values. -/
def aim (world : World σ) : Assignment → Aim
  | .write ref value flags =>
      ⟨world.graph.resolve ref defaultAliasDepth, flags, fun _ given => given = value⟩
  | .writeVar ref _ flags =>
      ⟨world.graph.resolve ref defaultAliasDepth, flags, fun _ _ => False⟩
  | .reset ref flags =>
      ⟨world.graph.resolve ref defaultAliasDepth, flags, fun property given =>
        given = property.default⟩
  | .literal ref value =>
      ⟨world.graph.resolve ref defaultAliasDepth, .none, fun _ given => given = value⟩
  | .named object name value =>
      ⟨storedNamed world.graph object name, .none, fun _ given => given = value⟩
  | .member object name value =>
      ⟨storedNamed world.graph object name, .none, fun _ given => ∃ index property,
        world.graph.propertyIndex object name = .ok index ∧
          world.graph.property ⟨object, index⟩ = .ok property ∧
          value.toNative world.graph.context property.type = .ok given⟩
  | .writeBack id binding result flags =>
      ⟨world.graph.resolve binding.target.property binding.context.config.aliasDepth,
        Engine.writeBackFlags world id flags, fun property given =>
          match binding.target.field? with
          | some field => ∃ ref, world.graph.resolve binding.target.property
              binding.context.config.aliasDepth = .ok ref ∧
                world.graph.Revises ref field result given
          | none => (world.strategyFor binding.adapter property).Hands world.graph.context
              property result given⟩

end Assignment

namespace Engine

variable {σ α β ε ε' : Type} {outside : Outside σ} {world start after : World σ}

/-! ## What becomes of an assignment -/

/--
What becomes of an assignment: it is refused, or it is the store of a native value or of
a script value in the property that it goes to.
-/
inductive Lands (outside : Outside σ) (world : World σ) (aim : Aim) : Bool → World σ → Prop
  | refused {after : World σ} (aside : world.Aside after) : Lands outside world aim false after
  | native {start after : World σ} {target : PropertyRef} {property : Property} {value : Native}
      {outcome : Except PropertyError Unit} (aside : world.Aside start)
      (found : aim.target? = .ok target) (described : world.graph.property target = .ok property)
      (closed : property.isVar = false) (given : aim.Gives property value)
      (run : (storeNative target property value aim.flags).run outside start =
        some (outcome, after)) : Lands outside world aim outcome.isOk after
  | slot {start after : World σ} {target : PropertyRef} {property : Property} {content : Value}
      {outcome : Except PropertyError Unit} (aside : world.Aside start)
      (found : aim.target? = .ok target) (described : world.graph.property target = .ok property)
      (slotted : property.isVar = true)
      (run : (storeVar target content aim.flags).run outside start = some (outcome, after)) :
      Lands outside world aim outcome.isOk after

theorem Lands.weaken {aim other : Aim} {success : Bool}
    (lands : Lands outside start aim success after) (aside : world.Aside start)
    (flags : aim.flags = other.flags)
    (targets : ∀ target, aim.target? = .ok target → other.target? = .ok target)
    (gives : ∀ target property value, aim.target? = .ok target →
      world.graph.property target = .ok property → aim.Gives property value →
      other.Gives property value) : Lands outside world other success after := by
  cases lands with
  | refused later => exact .refused (aside.trans later)
  | native later found described closed given run =>
      rw [aside.graph] at described
      rw [flags] at run
      exact .native (aside.trans later) (targets _ found) described closed
        (gives _ _ _ found described given) run
  | slot later found described slotted run =>
      rw [aside.graph] at described
      rw [flags] at run
      exact .slot (aside.trans later) (targets _ found) described slotted run

/-- A question whose failure goes by another name is answered like any other. -/
theorem Ensures.askAs (rename : ε → ε') {question : ObjectGraph → Except ε α}
    {next : α → Attempt ε' σ β} {condition : Except ε' β → World σ → Prop}
    (succeeds : ∀ answer, question world.graph = .ok answer →
      Ensures outside (next answer).run world condition)
    (fails : ∀ error, question world.graph = .error error →
      condition (.error (rename error)) world) :
    Ensures outside (ExceptT.adapt rename (Attempt.ask question) >>= next).run world condition := by
  show Ensures outside (pure ((question world.graph).mapError rename) >>= ExceptT.bindCont next)
    world condition
  cases answered : question world.graph with
  | ok answer => exact succeeds answer answered
  | error error => exact value (fails error answered)

/-- Whether every run of an operation lands as an assignment. -/
def Landing (outside : Outside σ) (world : World σ) (aim : Aim)
    (operation : Engine σ (Except ε Unit)) : Prop :=
  Ensures outside operation world fun outcome after => Lands outside world aim outcome.isOk after

namespace Landing

variable {aim : Aim}

theorem fail (error : ε) : Landing outside world aim (throw error : Attempt ε σ Unit).run :=
  Ensures.value (.refused (.refl world))

theorem ask {question : ObjectGraph → Except ε α} {next : α → Attempt ε σ Unit}
    (succeeds : ∀ answer, question world.graph = .ok answer →
      Landing outside world aim (next answer).run) :
    Landing outside world aim (Attempt.ask question >>= next).run :=
  Ensures.ask succeeds fun _ _ => .refused (.refl world)

theorem askAs (rename : ε → ε') {question : ObjectGraph → Except ε α}
    {next : α → Attempt ε' σ Unit} (succeeds : ∀ answer, question world.graph = .ok answer →
      Landing outside world aim (next answer).run) :
    Landing outside world aim (ExceptT.adapt rename (Attempt.ask question) >>= next).run :=
  Ensures.askAs rename succeeds fun _ _ => .refused (.refl world)

theorem choose {condition : Prop} [Decidable condition] {yes no : Attempt ε σ Unit}
    (left : condition → Landing outside world aim yes.run)
    (right : ¬condition → Landing outside world aim no.run) :
    Landing outside world aim (if condition then yes else no).run :=
  Ensures.choose left right

theorem adapt {operation : Attempt ε σ Unit} (rename : ε → ε')
    (landing : Landing outside world aim operation.run) :
    Landing outside world aim (ExceptT.adapt rename operation).run := by
  refine Ensures.bind _ landing fun outcome after lands => .value ?_
  cases outcome <;> exact lands

/-- What lands as one assignment lands as another that goes on to it. -/
theorem weaken {other : Aim} {operation : Engine σ (Except ε Unit)}
    (landing : Landing outside start aim operation) (aside : world.Aside start)
    (flags : aim.flags = other.flags)
    (targets : ∀ target, aim.target? = .ok target → other.target? = .ok target)
    (gives : ∀ target property value, aim.target? = .ok target →
      world.graph.property target = .ok property → aim.Gives property value →
      other.Gives property value) :
    Ensures outside operation start fun outcome after =>
      Lands outside world other outcome.isOk after :=
  Ensures.weaken landing fun _ _ lands => lands.weaken aside flags targets gives

end Landing

/-! ## Direct assignments -/

section Writes

variable (ref : PropertyRef) (flags : WriteFlags)

theorem place_aside (value : Value) : Ensures outside (place value) world fun placed after =>
    world.Aside after ∧ placed = (value.place world.identities).1 :=
  .look (.change (.value ⟨rfl, rfl⟩))

theorem writeVar_lands (value : Value) :
    Landing outside world ((Assignment.writeVar ref value flags).aim world)
      (writeVar ref value flags).run := by
  refine .ask fun target resolved => ?_
  rcases ObjectGraph.not_alias_of_resolve resolved with ⟨property, described, _⟩
  cases slotted : property.isVar with
  | true => exact fun outcome after run => .slot rfl resolved described slotted run
  | false =>
      -- the operation finds out for itself that the property is no slot
      refine .ask fun found same => .choose (fun slotted' => ?_) fun _ =>
        Ensures.performGraph (Landing.fail _)
      rw [described] at same
      cases same
      rw [slotted] at slotted'
      cases slotted'

theorem write_lands (value : Native) :
    Landing outside world ((Assignment.write ref value flags).aim world)
      (write ref value flags).run := by
  unfold write
  refine .ask fun target resolved => .ask fun property described => ?_
  refine .choose (fun slotted => ?_) fun closed => ?_
  · cases value with
    | script content => exact fun outcome after run => .slot rfl resolved described slotted run
    | _ => exact .fail _
  · rw [Bool.not_eq_true] at closed
    exact fun outcome after run => .native rfl resolved described closed rfl run

theorem reset_lands :
    Landing outside world ((Assignment.reset ref flags).aim world) (reset ref flags).run := by
  refine .ask fun target resolved => .ask fun property described => ?_
  refine .choose (fun _ => ?_) fun _ => .fail _
  -- the write follows aliases again, from where they have been followed to
  have settled := ObjectGraph.resolve_resolved resolved defaultAliasDepth
  refine (write_lands target flags property.default).weaken (.refl world) rfl ?_ ?_
  · intro stored found
    exact (resolved.trans settled.symm).trans found
  · intro stored other value found described' given
    cases settled.symm.trans found
    cases described.symm.trans described'
    exact given

theorem assign_lands (value : Native) :
    Landing outside world ((Assignment.literal ref value).aim world) (assign ref value).run := by
  refine .ask fun property described => .choose (fun slotted => ?_) fun _ =>
    write_lands ref .none value
  refine Ensures.perform _ (place_aside value.toValue) ?_
  rintro placed start ⟨aside, _⟩
  refine (writeVar_lands ref .none placed).weaken aside rfl ?_ fun _ _ _ _ _ impossible =>
    impossible.elim
  intro target found
  exact (congrArg (ObjectGraph.resolve · ref defaultAliasDepth) aside.graph).symm.trans found

theorem storedNamed_eq {object : ObjectId} {name : String} {index : Nat}
    (named : world.graph.propertyIndex object name = .ok index) :
    Assignment.storedNamed world.graph object name =
      world.graph.resolve ⟨object, index⟩ defaultAliasDepth := by
  unfold Assignment.storedNamed
  rw [named]
  rfl

theorem assignNamed_lands (object : ObjectId) (name : String) (value : Native) :
    Landing outside world ((Assignment.named object name value).aim world)
      (assignNamed object name value).run := by
  refine .ask fun index named => ?_
  refine (assign_lands ⟨object, index⟩ value).weaken (.refl world) rfl ?_
    fun _ _ _ _ _ given => given
  exact fun target found => (storedNamed_eq named).trans found

theorem assignMember_lands (object : ObjectId) (name : String) (value : Value) :
    Landing outside world ((Assignment.member object name value).aim world)
      (Script.Evaluation.assignMember object name value).run := by
  unfold Script.Evaluation.assignMember
  refine Ensures.performGraph (Landing.askAs _ fun index named =>
    Landing.askAs _ fun property described => ?_)
  split
  · next native converts =>
    refine Landing.adapt _ ?_
    refine (assign_lands ⟨object, index⟩ native).weaken (.refl world) rfl ?_ ?_
    · exact fun target found => (storedNamed_eq named).trans found
    · intro _ _ given _ _ same
      exact ⟨index, property, named, described, same ▸ converts⟩
  · exact Landing.fail _

end Writes

/-! ## Write-back -/

/-- The number that a field takes is the number that the value converts to. -/
theorem fieldNumber_ensures (value : Value) :
    Ensures outside (WriteBack.fieldNumber value).run world fun outcome after => after = world ∧
      ∀ number, outcome = .ok number →
        value.toNative world.graph.context .double = .ok (.double number) := by
  have refusal : ∀ error : WriteError, world = world ∧ ∀ number : Float,
      Except.error error = Except.ok number →
        value.toNative world.graph.context .double = .ok (.double number) :=
    fun error => ⟨rfl, fun _ impossible => by cases impossible⟩
  have refused : ∀ error : WriteError, Ensures outside
      (throw error : WriteBack σ Float).run world fun outcome after => after = world ∧
        ∀ number, outcome = .ok number →
          value.toNative world.graph.context .double = .ok (.double number) :=
    fun error => .value (refusal error)
  unfold WriteBack.fieldNumber
  split
  · exact .perform (fun _ after => after = world) (.lookGraph (.value rfl)) fun _ _ same => by
      subst same
      exact refused _
  · exact refused _
  · refine .value ⟨rfl, fun number same => ?_⟩
    cases same
    rfl
  · refine .askAs _ (fun native converts => ?_) fun _ _ => refusal _
    split
    · refine .value ⟨rfl, fun number same => ?_⟩
      cases same
      exact converts
    · exact .performGraph (refused _)

theorem chooseStrategy_ensures (adapter : AdapterId) (property : Property) :
    Ensures outside (WriteBack.chooseStrategy adapter property) world fun strategy after =>
      world.Aside after ∧ strategy = world.strategyFor adapter property := by
  refine .bind (fun chosen after => after = world ∧ chosen = (world.adapters[adapter]?).join)
    (.look (.value ⟨rfl, rfl⟩)) ?_
  rintro chosen _ ⟨rfl, same⟩
  unfold World.strategyFor
  rw [← same]
  cases chosen with
  | some strategy => exact .value ⟨.refl _, rfl⟩
  | none => exact .change (.value ⟨rfl, rfl⟩)

section WriteBack

variable {ref : PropertyRef} {property : Property} {flags : WriteFlags} {result : Boxed}

/-- Where the result of an evaluation goes that is stored in a property as a whole. -/
def handing (graph : ObjectGraph) (strategy : WriteStrategy) (ref : PropertyRef)
    (result : Boxed) (flags : WriteFlags) : Aim :=
  ⟨.ok ref, flags, fun property given => strategy.Hands graph.context property result given⟩

/-- The write of a property that is no alias, as part of a write-back. -/
theorem access_lands {operation : Attempt PropertyError σ Unit} {aim other : Aim}
    (landing : Landing outside world aim operation.run) (flags : aim.flags = other.flags)
    (aims : aim.target? = world.graph.resolve ref defaultAliasDepth)
    (resolved : world.graph.resolve ref defaultAliasDepth = .ok ref)
    (described : world.graph.property ref = .ok property) (goes : other.target? = .ok ref)
    (gives : ∀ value, aim.Gives property value → other.Gives property value) :
    Landing outside world other (WriteBack.access operation).run := by
  have settled := aims.trans resolved
  refine Landing.adapt _ (landing.weaken (.refl world) flags ?_ ?_)
  · intro target found
    exact goes.trans (settled.symm.trans found)
  · intro target found value same described'
    cases settled.symm.trans same
    cases described.symm.trans described'
    exact gives value

theorem writeUndefined_lands (strategy : WriteStrategy)
    (resolved : world.graph.resolve ref defaultAliasDepth = .ok ref)
    (described : world.graph.property ref = .ok property) (absent : result.Reads .undefined) :
    Landing outside world (handing world.graph strategy ref result flags)
      (WriteBack.writeUndefined strategy ref property flags).run := by
  refine .choose (fun resettable => ?_) fun _ => ?_
  · refine access_lands (reset_lands ref flags) rfl rfl resolved described rfl ?_
    rintro _ rfl
    exact .default absent resettable
  · cases strategy with
    | variant =>
        refine access_lands (write_lands ref flags _) rfl rfl resolved described rfl ?_
        rintro _ rfl
        exact .empty absent rfl
    | script =>
        refine access_lands (write_lands ref flags _) rfl rfl resolved described rfl ?_
        rintro _ rfl
        exact .undefined absent rfl
    | varSlot =>
        exact access_lands (writeVar_lands ref flags _) rfl rfl resolved described rfl
          fun _ => False.elim
    | _ =>
        refine Ensures.perform (fun _ after => after = world) (.lookGraph (.value rfl)) ?_
        rintro _ _ rfl
        exact Landing.fail _

theorem writeValue_lands (strategy : WriteStrategy)
    (resolved : world.graph.resolve ref defaultAliasDepth = .ok ref)
    (described : world.graph.property ref = .ok property) {value : Value}
    (reads : result.Reads value) :
    Landing outside world (handing world.graph strategy ref result flags)
      (WriteBack.writeValue strategy ref property value flags).run := by
  have defined : Landing outside world (handing world.graph strategy ref result flags)
      (if strategy = .varSlot then
        WriteBack.access (writeVar ref value flags)
      else do
        let native ← WriteBack.convert fun graph =>
          strategy.native graph.context property.type value
        WriteBack.access (write ref native flags)).run := by
    refine .choose (fun _ => ?_) fun _ => Landing.askAs _ fun native converts => ?_
    · exact access_lands (writeVar_lands ref flags value) rfl rfl resolved described rfl
        fun _ => False.elim
    · refine access_lands (write_lands ref flags native) rfl rfl resolved described rfl ?_
      rintro _ rfl
      exact .converted reads converts
  unfold WriteBack.writeValue
  cases value with
  | undefined => exact writeUndefined_lands strategy resolved described reads
  | function callee marked =>
      cases strategy.acceptsFunctions with
      | false => exact .fail _
      | true => exact defined
  | _ => exact defined

theorem writeProperty_lands (strategy : WriteStrategy)
    (resolved : world.graph.resolve ref defaultAliasDepth = .ok ref)
    (described : world.graph.property ref = .ok property) :
    Landing outside world (handing world.graph strategy ref result flags)
      (WriteBack.writeProperty strategy ref property result flags).run := by
  cases result with
  | dynamic value => exact writeValue_lands strategy resolved described (.dynamic value)
  | native type value shared =>
      refine .choose (fun whole => ?_) fun _ => ?_
      · simp only [Bool.and_eq_true, Bool.not_eq_true'] at whole
        refine access_lands (write_lands ref flags value) rfl rfl resolved described rfl ?_
        rintro _ rfl
        exact .whole rfl whole.1.2 whole.2
      · -- the value is a script value from here on, and its arrays get identities for that
        refine Ensures.perform _ (place_aside value.toValue) ?_
        rintro _ start ⟨aside, rfl⟩
        have located := aside.graph
        have landing : Landing outside start (handing start.graph strategy ref
            (.native type value shared) flags) _ :=
          writeValue_lands strategy (located ▸ resolved) (located ▸ described)
            (.native world.identities)
        rw [located] at landing
        exact landing.weaken aside rfl (fun _ found => found) fun _ _ _ _ _ given => given

theorem writeField_lands (field : Nat)
    (resolved : world.graph.resolve ref defaultAliasDepth = .ok ref)
    (described : world.graph.property ref = .ok property) :
    Landing outside world
      ⟨.ok ref, flags, fun _ given => world.graph.Revises ref field result given⟩
      (WriteBack.writeField ref property field result flags).run := by
  refine Ensures.attempt _ (fieldNumber_ensures result.toValue) ?_ ?_
  · rintro number _ ⟨rfl, converts⟩
    refine Landing.askAs _ fun current peeked => ?_
    split
    · split
      · next set =>
        refine access_lands (write_lands ref flags _) rfl rfl resolved described rfl ?_
        rintro _ rfl
        exact .record peeked (converts number rfl) set
      · exact Landing.fail _
    · exact Ensures.performGraph (Landing.fail _)
  · rintro error _ ⟨rfl, _⟩
    exact .refused (.refl _)

/-- The result of an evaluation lands in the property that the target resolves to. -/
theorem storeResult_lands (id : BindingId) (binding : Binding) (result : Boxed)
    (flags : WriteFlags) :
    Landing outside world ((Assignment.writeBack id binding result flags).aim world)
      (storeResult id binding result flags).run := by
  refine Landing.askAs _ fun ref resolved => ?_
  have settled := ObjectGraph.resolve_resolved resolved defaultAliasDepth
  refine Ensures.performBinding (Landing.askAs _ fun property described => ?_)
  cases field : binding.target.field? with
  | some index =>
      refine (writeField_lands index settled described).weaken (.refl world) rfl ?_ ?_
      · exact fun target found => resolved.trans found
      · intro target other value _ _ given
        show match binding.target.field? with | some _ => _ | none => _
        rw [field]
        exact ⟨ref, resolved, given⟩
  | none =>
      refine Ensures.perform _ (chooseStrategy_ensures binding.adapter property) ?_
      rintro strategy start ⟨aside, rfl⟩
      have located := aside.graph
      have landing : Landing outside start
          (handing start.graph _ ref result (writeBackFlags world id flags)) _ :=
        writeProperty_lands (world.strategyFor binding.adapter property) (located ▸ settled)
          (located ▸ described)
      rw [located] at landing
      refine landing.weaken aside rfl ?_ ?_
      · exact fun target found => resolved.trans found
      · intro target other value found described' given
        cases found
        cases described.symm.trans described'
        show match binding.target.field? with | some _ => _ | none => _
        rw [field]
        exact given

end WriteBack

/-- Every run of an assignment lands as it aims. -/
theorem perform_lands (assignment : Assignment) :
    Landing outside world (assignment.aim world) (assignment.perform (σ := σ)).run := by
  cases assignment with
  | write ref value flags => exact .adapt _ (write_lands ref flags value)
  | writeVar ref value flags => exact .adapt _ (writeVar_lands ref flags value)
  | reset ref flags => exact .adapt _ (reset_lands ref flags)
  | literal ref value => exact .adapt _ (assign_lands ref value)
  | named object name value => exact .adapt _ (assignNamed_lands object name value)
  | member object name value => exact .adapt _ (assignMember_lands object name value)
  | writeBack id binding result flags => exact .adapt _ (storeResult_lands id binding result flags)

end Engine

end PropertyBinding
