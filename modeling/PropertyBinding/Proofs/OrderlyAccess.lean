import PropertyBinding.Proofs.Orderly

namespace PropertyBinding

/-!
# Orderly access

Reads, writes, reports and write-backs are orderly.  A write that does not keep
the active writers relieves them: when it succeeds, whoever held the property it
resolves to, or a field of it, is out.
-/

/-- Whether a place belongs to a property: to all of it, or to one of its fields. -/
def Place.Of (place : Place) (ref : PropertyRef) : Prop :=
  place.object = ref.object ∧ place.slot.index = ref.index

/-- Whether all who held a property are out. -/
def World.Relieved {σ : Type} (world : World σ) (ref : PropertyRef) (after : World σ) : Prop :=
  ∀ id (place : Place), place.Of ref → world.Holds id place → after.IsOut id

namespace Engine

variable {σ α ε : Type} {outside : Outside σ} {world : World σ}

/-- What has to be shown for reads, writes and reports to be orderly. -/
theorem orderly_chores (code : outside.Orderly) : Chores outside World.Proceeds where
  toSteady := proceeds_steady
  code := code.keeps
  elsewhere _ graph holders bindings := fun tidy => .elsewhere tidy graph holders bindings
  object _ _ _ kept := fun tidy => .update tidy _ kept
  slight _ id _ slight := fun tidy => .modifyBinding tidy id fun binding found =>
    have kept := slight binding found
    ⟨kept.target, kept.context, fun out => ⟨kept.retired.trans out, kept.evaluations⟩⟩
  relieve ref := (removeWriters_orderly code ref).keeps

theorem orderly_upkeep (code : outside.Orderly) : Upkeep outside World.Proceeds :=
  (orderly_chores code).upkeep

/-! ## Writes -/

section Writes

variable (code : outside.Orderly) (ref : PropertyRef)
include code

theorem write_orderly (value : Native) (flags : WriteFlags) :
    Orderly outside (write ref value flags).run :=
  ((orderly_upkeep code).write ref value flags).orderly

theorem writeVar_orderly (value : Value) (flags : WriteFlags) :
    Orderly outside (writeVar ref value flags).run :=
  ((orderly_upkeep code).writeVar ref value flags).orderly

theorem reset_orderly (flags : WriteFlags) : Orderly outside (reset ref flags).run :=
  ((orderly_upkeep code).reset ref flags).orderly

theorem assign_orderly (value : Native) : Orderly outside (assign ref value).run :=
  ((orderly_upkeep code).assign ref value).orderly

theorem assignNamed_orderly (id : ObjectId) (name : String) (value : Native) :
    Orderly outside (assignNamed id name value).run :=
  ((orderly_upkeep code).assignNamed id name value).orderly

end Writes

/-! ## Explicit writes -/

/-- The active writers go before anything is stored. -/
theorem relieves_of_removeWriters (code : outside.Orderly) (tidy : world.Tidy) (ref : PropertyRef)
    {next : Attempt ε σ α} (rest : Orderly outside next.run) :
    Ensures outside (Attempt.perform (removeWriters ref) >>= fun _ => next).run world
      fun _ after => world.Relieved ref after := by
  have relieves : Ensures outside (removeWriters ref) world fun _ after =>
      after.Tidy ∧ world.Relieved ref after := by
    intro result after run
    refine ⟨(removeWriters_orderly code ref world tidy result after run).tidy, ?_⟩
    intro id place belongs holds
    exact removeWriters_out code tidy belongs.1 belongs.2 holds result after run
  refine .perform _ relieves ?_
  rintro _ middle ⟨tidy, relieved⟩
  refine (rest middle tidy).weaken fun _ after later => ?_
  intro id place belongs holds
  exact later.isOut (relieved id place belongs holds)

theorem storeVar_relieves (code : outside.Orderly) (tidy : world.Tidy) (ref : PropertyRef)
    (value : Value) {flags : WriteFlags} (explicit : flags.keep = false) :
    Ensures outside (storeVar ref value flags).run world
      fun outcome after => outcome = .ok () → world.Relieved ref after := by
  refine .ask (fun property _ => ?_) fun _ _ impossible => by cases impossible
  refine .choose (fun _ => ?_) fun _ => ?_
  · rw [explicit]
    refine (relieves_of_removeWriters code tidy ref ?_).weaken fun _ _ relieved _ => relieved
    exact ((orderly_chores code).store _ _ _ _ _).orderly
  · exact .performGraph (.value fun impossible => by cases impossible)

theorem storeNative_relieves (code : outside.Orderly) (tidy : world.Tidy) (ref : PropertyRef)
    (property : Property) (value : Native) {flags : WriteFlags} (explicit : flags.keep = false) :
    Ensures outside (storeNative ref property value flags).run world
      fun outcome after => outcome = .ok () → world.Relieved ref after := by
  have looks : Ensures outside (requireFit property value).run world fun _ after =>
      after = world :=
    .choose (fun _ => .performGraph (.value rfl)) fun _ => .value rfl
  refine .attempt _ looks ?_ fun _ _ _ impossible => by cases impossible
  intro _ _ same
  subst same
  rw [explicit]
  refine (relieves_of_removeWriters code tidy ref ?_).weaken fun _ _ relieved _ => relieved
  exact ((orderly_chores code).storeFitting ref property value flags).orderly

/-- An explicit write relieves once it knows the property. -/
theorem writeStored_relieves (code : outside.Orderly) (tidy : world.Tidy) (ref : PropertyRef)
    (value : Native) {flags : WriteFlags} (explicit : flags.keep = false) :
    Ensures outside (do
      let property ← Attempt.ask fun graph => graph.property ref
      if property.isVar then
        match value with
        | .script content => storeVar ref content flags
        | _ => throw (.typeMismatch property.name "var")
      else
        storeNative ref property value flags
      : Attempt PropertyError σ Unit).run world
      fun outcome after => outcome = .ok () → world.Relieved ref after := by
  refine .ask (fun property _ => ?_) fun _ _ impossible => by cases impossible
  refine .choose (fun _ => ?_) fun _ => storeNative_relieves code tidy ref property value explicit
  cases value with
  | script content => exact storeVar_relieves code tidy ref content explicit
  | _ => exact .value fun impossible => by cases impossible

/-- The writes that are meant to replace the active writers of a property. -/
inductive Explicit (graph : ObjectGraph) : PropertyRef → Attempt PropertyError σ Unit → Prop
  | write {ref : PropertyRef} {value : Native} {flags : WriteFlags} (explicit : flags.keep = false) :
      Explicit graph ref (write ref value flags)
  | writeVar {ref : PropertyRef} {value : Value} {flags : WriteFlags}
      (explicit : flags.keep = false) : Explicit graph ref (writeVar ref value flags)
  | reset {ref : PropertyRef} {flags : WriteFlags} (explicit : flags.keep = false) :
      Explicit graph ref (reset ref flags)
  | assign {ref : PropertyRef} {value : Native} : Explicit graph ref (assign ref value)
  | assignNamed {id : ObjectId} {name : String} {index : Nat} {value : Native}
      (named : graph.propertyIndex id name = .ok index) :
      Explicit graph ⟨id, index⟩ (assignNamed id name value)

/-- Whether a write that succeeded relieved those who held what its property resolves to. -/
def RelievesTarget (world : World σ) (ref : PropertyRef) (outcome : Except PropertyError Unit)
    (after : World σ) : Prop :=
  outcome = .ok () → ∃ target, world.graph.resolve ref defaultAliasDepth = .ok target ∧
    world.Relieved target after

/-- A write that resolves its property relieves as the write of what it resolves to. -/
theorem relieves_of_resolve {ref : PropertyRef} {next : PropertyRef → Attempt PropertyError σ Unit}
    (stores : ∀ target property, world.graph.property target = .ok property →
      property.isAlias = false → Ensures outside (next target).run world
        fun outcome after => outcome = .ok () → world.Relieved target after) :
    Ensures outside (resolve ref >>= next).run world (RelievesTarget world ref) := by
  refine .ask (fun target resolved => ?_) fun _ _ impossible => by cases impossible
  rcases ObjectGraph.not_alias_of_resolve resolved with ⟨property, described, direct⟩
  refine (stores target property described direct).weaken ?_
  exact fun _ _ relieved success => ⟨target, resolved, relieved success⟩

theorem writeVar_relieves (code : outside.Orderly) (tidy : world.Tidy) (ref : PropertyRef)
    (value : Value) {flags : WriteFlags} (explicit : flags.keep = false) :
    Ensures outside (writeVar ref value flags).run world (RelievesTarget world ref) :=
  relieves_of_resolve fun target _ _ _ => storeVar_relieves code tidy target value explicit

theorem write_relieves (code : outside.Orderly) (tidy : world.Tidy) (ref : PropertyRef)
    (value : Native) {flags : WriteFlags} (explicit : flags.keep = false) :
    Ensures outside (write ref value flags).run world (RelievesTarget world ref) := by
  unfold write
  exact relieves_of_resolve fun target _ _ _ => writeStored_relieves code tidy target value explicit

theorem reset_relieves (code : outside.Orderly) (tidy : world.Tidy) (ref : PropertyRef)
    {flags : WriteFlags} (explicit : flags.keep = false) :
    Ensures outside (reset ref flags).run world (RelievesTarget world ref) := by
  refine relieves_of_resolve fun target property described direct => ?_
  refine .ask (fun found _ => ?_) fun _ _ impossible => by cases impossible
  refine .choose (fun _ => ?_) fun _ => .value fun impossible => by cases impossible
  refine .ask (fun again resolved => ?_) fun _ _ impossible => by cases impossible
  rw [ObjectGraph.resolve_of_direct described direct] at resolved
  cases resolved
  exact writeStored_relieves code tidy target found.default explicit

theorem assign_relieves (code : outside.Orderly) (tidy : world.Tidy) (ref : PropertyRef)
    (value : Native) :
    Ensures outside (assign ref value).run world (RelievesTarget world ref) := by
  refine .ask (fun property _ => ?_) fun _ _ impossible => by cases impossible
  refine .choose (fun _ => ?_) fun _ => write_relieves code tidy ref value rfl
  have places : Ensures outside (place value.toValue) world fun _ after =>
      ∃ next, after = { world with identities := next } :=
    .look (.change (.value ⟨_, rfl⟩))
  refine .perform _ places ?_
  intro placed _ reached
  rcases reached with ⟨next, rfl⟩
  have tidy : World.Tidy { world with identities := next } := ⟨tidy.vacant, tidy.known⟩
  exact writeVar_relieves code tidy ref placed rfl

/-- An explicit write relieves whoever held the property that it resolves to. -/
theorem explicit_relieves (code : outside.Orderly) (tidy : world.Tidy) {ref : PropertyRef}
    {operation : Attempt PropertyError σ Unit}
    (explicit : Explicit world.graph ref operation) :
    Ensures outside operation.run world (RelievesTarget world ref) := by
  cases explicit with
  | write explicit => exact write_relieves code tidy ref _ explicit
  | writeVar explicit => exact writeVar_relieves code tidy ref _ explicit
  | reset explicit => exact reset_relieves code tidy ref explicit
  | assign => exact assign_relieves code tidy ref _
  | assignNamed named =>
      refine .ask (fun index found => ?_) fun _ _ impossible => by cases impossible
      rw [named] at found
      cases found
      exact assign_relieves code tidy _ _

end Engine

end PropertyBinding
