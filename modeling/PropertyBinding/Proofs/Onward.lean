import PropertyBinding.Proofs.FullKeeping

namespace PropertyBinding

/-!
# What stays true of a binding

A binding keeps its target, and a retired one stays retired; it is disabled and
follows nothing.  While a binding is being updated nothing but that update clears
the mark or changes the latest failure, for an update that is started in the
middle of it is refused.  `World.Onward` says all of this of two worlds, and a
plain host keeps it.  The update of a binding itself is the exception, which the
relation names while the update runs.
-/

/-- Whether a binding is disabled and follows nothing, if it is retired. -/
def Binding.Spent (binding : Binding) : Prop :=
  binding.retired = true → binding.enabled = false ∧ binding.reads = .empty

/-- What stays true of a binding; an exempt one may be marked and its failures noted. -/
structure Binding.Onward (exempt : Prop) (former binding : Binding) : Prop where
  target : binding.target = former.target
  retired : former.retired = true → binding.retired = true
  spent : former.Spent → binding.Spent
  updating : ¬exempt → former.updating = true →
    binding.updating = true ∧ binding.error? = former.error?

namespace Binding.Onward

variable {exempt : Prop} {first second third former binding : Binding}

theorem refl (binding : Binding) : binding.Onward exempt binding :=
  ⟨rfl, id, id, fun _ updating => ⟨updating, rfl⟩⟩

theorem trans (left : first.Onward exempt second) (right : second.Onward exempt third) :
    first.Onward exempt third := by
  refine ⟨right.target.trans left.target, fun retired => right.retired (left.retired retired),
    fun spent => right.spent (left.spent spent), fun strict updating => ?_⟩
  rcases left.updating strict updating with ⟨updating, error⟩
  rcases right.updating strict updating with ⟨updating, error'⟩
  exact ⟨updating, error'.trans error⟩

theorem of_slight (slight : former.Slight binding) : former.Onward exempt binding := by
  refine ⟨slight.target, fun retired => slight.retired.trans retired, fun spent retired => ?_,
    fun _ updating => ⟨slight.updating.trans updating, slight.error⟩⟩
  have before := slight.retired.symm.trans retired
  rcases spent before with ⟨disabled, empty⟩
  refine ⟨slight.enabled.trans disabled, ?_⟩
  rcases slight.reads before with same | cleared
  · exact same.trans empty
  · exact cleared

theorem of_worked (exempted : exempt) (worked : former.Worked binding) :
    former.Onward exempt binding := by
  refine ⟨worked.target, fun retired => worked.retired.trans retired, fun spent retired => ?_,
    fun strict => absurd exempted strict⟩
  rcases spent (worked.retired.symm.trans retired) with ⟨disabled, empty⟩
  exact ⟨worked.enabled.trans disabled, worked.reads.trans empty⟩

end Binding.Onward

namespace World

variable {σ : Type} {world middle later : World σ} {exempt? : Option BindingId}

/-- Whether a world can come out of another, with one binding perhaps in the middle of an update. -/
structure Onward (exempt? : Option BindingId) (world later : World σ) : Prop where
  bindings : ∀ (id : BindingId) former, world.bindings[id]? = some former →
    ∃ binding, later.bindings[id]? = some binding ∧ former.Onward (exempt? = some id) binding
  fresh : ∀ id : BindingId, world.bindings[id]? = none →
    ∀ binding, later.bindings[id]? = some binding → binding.Spent

namespace Onward

theorem of_bindings (same : later.bindings = world.bindings) : world.Onward exempt? later := by
  refine ⟨fun id former found => ⟨former, same ▸ found, .refl former⟩, ?_⟩
  intro id absent binding found
  rw [same, absent] at found
  cases found

theorem refl (world : World σ) : world.Onward exempt? world :=
  of_bindings rfl

theorem trans (first : world.Onward exempt? middle) (second : middle.Onward exempt? later) :
    world.Onward exempt? later := by
  constructor
  · intro id former found
    rcases first.bindings id former found with ⟨between, found, left⟩
    rcases second.bindings id between found with ⟨binding, found, right⟩
    exact ⟨binding, found, left.trans right⟩
  · intro id absent binding found
    cases present : middle.bindings[id]? with
    | none => exact second.fresh id present binding found
    | some between =>
        rcases second.bindings id between present with ⟨last, found', right⟩
        rw [found] at found'
        cases found'
        exact right.spent (first.fresh id absent between present)

/-- A change of one binding. -/
theorem modify (id : BindingId) {change : Binding → Binding}
    (same : later.bindings = world.bindings.modify id change)
    (onward : ∀ binding, world.bindings[id]? = some binding →
      binding.Onward (exempt? = some id) (change binding)) : world.Onward exempt? later := by
  constructor
  · intro other former found
    rw [same, List.getElem?_modify, found]
    by_cases changed : id = other
    · subst changed
      exact ⟨change former, by simp, onward former found⟩
    · exact ⟨former, by simp [changed], .refl former⟩
  · intro other absent binding found
    rw [same, List.getElem?_modify, absent] at found
    cases found

/-- Nothing is lost by an exemption. -/
theorem exempting (onward : world.Onward none later) (id : BindingId) :
    world.Onward (some id) later := by
  refine ⟨fun other former found => ?_, onward.fresh⟩
  rcases onward.bindings other former found with ⟨binding, found, step⟩
  exact ⟨binding, found, step.target, step.retired, step.spent, fun _ => step.updating (by simp)⟩

/-- A binding that was not being updated needs no exemption. -/
theorem strict {id : BindingId} (onward : world.Onward (some id) later)
    (idle : ∀ binding, world.bindings[id]? = some binding → binding.updating = false) :
    world.Onward none later := by
  refine ⟨fun other former found => ?_, onward.fresh⟩
  rcases onward.bindings other former found with ⟨binding, found', step⟩
  refine ⟨binding, found', step.target, step.retired, step.spent, fun _ updating => ?_⟩
  refine step.updating ?_ updating
  intro same
  cases same
  rw [idle former found] at updating
  cases updating

end Onward

end World

namespace Engine

variable {σ α : Type} {outside : Outside σ} {world : World σ} {exempt? : Option BindingId}

/-! ## Retirement -/

theorem retireBinding_onward (id : BindingId) :
    Keeps outside (World.Onward exempt?) (retireBinding id : Engine σ Unit) := by
  intro world
  refine (retireBinding_ends id).weaken fun _ after reached => ?_
  exact .modify id reached.1 fun _ _ => ⟨rfl, fun _ => rfl, fun _ _ => ⟨rfl, rfl⟩,
    fun _ updating => ⟨updating, rfl⟩⟩

theorem onward_steady : Steady (World.Onward (σ := σ) exempt?) :=
  ⟨World.Onward.refl, World.Onward.trans⟩

/-- A change that leaves the bindings alone. -/
theorem aside {change : World σ → World σ}
    (same : ∀ world, (change world).bindings = world.bindings) :
    Keeps outside (World.Onward exempt?) (modify change) :=
  Steady.change fun world => .of_bindings (same world)

theorem retire_onward (code : outside.Keeps (World.Onward exempt?)) (writer : Writer) :
    Keeps outside (World.Onward exempt?) (retire writer) := by
  cases writer with
  | binding id => exact retireBinding_onward id
  | host id => exact code.retire id

theorem onward_staffing (code : outside.Keeps (World.Onward exempt?)) :
    Staffing outside (World.Onward exempt?) where
  toSteady := onward_steady
  retired := retire_onward code
  rewired _ _ _ _ := .of_bindings rfl

/-! ## All operations -/

theorem onward_chores (code : outside.Keeps (World.Onward exempt?)) :
    Chores outside (World.Onward exempt?) where
  toSteady := onward_steady
  code := code
  elsewhere _ _ _ same := .of_bindings same
  object _ _ _ _ := .of_bindings rfl
  slight _ id _ slight := .modify id rfl fun binding found => .of_slight (slight binding found)
  relieve := (onward_staffing code).removeWriters

theorem onward_upkeep (code : outside.Keeps (World.Onward exempt?)) :
    Upkeep outside (World.Onward exempt?) :=
  (onward_chores code).upkeep

/-- A binding may be worked on in an update of its own. -/
theorem onward_works (id : BindingId) : Works (World.Onward (σ := σ) (some id)) id :=
  fun _ _ worked => .modify id rfl fun binding _ => .of_worked rfl (worked binding)

theorem releaseGraph_onward (code : outside.Keeps (World.Onward exempt?)) :
    Keeps outside (World.Onward exempt?) (releaseGraph : Engine σ Unit) :=
  (onward_upkeep code).discreet.releaseGraph (fun _ => .of_bindings rfl) fun _ _ => .of_bindings rfl

/-- An update is over when it ends, so that its binding is exempt no longer. -/
theorem update_onward (code : outside.Keeps (World.Onward none)) (id : BindingId)
    (flags : WriteFlags) : Keeps outside (World.Onward none) (update id flags) := by
  have exempting := code.weaken fun _ _ onward => onward.exempting id
  refine (onward_upkeep code).update (fun _ _ => .of_bindings rfl) (releaseGraph_onward code) ?_ flags
  intro world binding flags found _ idle
  have runs := (onward_upkeep exempting).runUpdate (onward_works id) (fun world => ?_) binding flags
  · refine (runs world).weaken fun _ after onward => onward.strict fun former located => ?_
    rw [found] at located
    cases located
    exact idle
  · exact .modify id rfl fun _ _ => ⟨rfl, fun retired => retired, fun spent => spent,
      fun strict => absurd rfl strict⟩

theorem destroy_onward (code : outside.Keeps (World.Onward exempt?)) (id : ObjectId) :
    Keeps outside (World.Onward exempt?) (destroy id) :=
  (onward_staffing code).destroy id fun _ _ _ _ => .of_bindings rfl

theorem onward_full (code : outside.Keeps (World.Onward none)) :
    FullUpkeep outside (World.Onward none) where
  toUpkeep := onward_upkeep code
  create _ _ := onward_steady.bind onward_steady.seen fun _ =>
    onward_steady.bind (aside fun _ => rfl) fun _ => onward_steady.value _
  detach := (onward_staffing code).detach
  releaseGraph := releaseGraph_onward code
  update := update_onward code
  append world binding active _ _ := by
    constructor
    · intro id former found
      refine ⟨former, ?_, .refl former⟩
      rw [List.getElem?_append_left (List.getElem?_eq_some_iff.mp found).1]
      exact found
    · intro id absent other found retired
      have inside := List.getElem?_eq_none_iff.mp absent
      rw [List.getElem?_append_right inside] at found
      rcases List.mem_singleton.mp (List.mem_of_getElem? found) with rfl
      rw [active] at retired
      cases retired
  switch world id binding enabled found permitted := by
    refine .modify id rfl fun former located => ?_
    rw [found] at located
    cases located
    refine ⟨rfl, fun retired => retired, fun spent retired => ?_, fun _ updating => ⟨updating, rfl⟩⟩
    refine ⟨?_, (spent retired).2⟩
    have active : binding.retired = true := retired
    simpa [active] using permitted

/-! ## Plain hosts -/

variable {host : Host σ}

theorem Program.onward (code : outside.Keeps (World.Onward none)) {operation : Engine σ α}
    (program : Program operation) : Keeps outside (World.Onward none) operation :=
  (onward_full code).program (fun _ _ same => .of_bindings same) (destroy_onward code)
    (onward_staffing code).install (fun id slot _ => (onward_staffing code).attach id slot _) program

/-- What stays true of a binding stays true whatever the code of a plain host does. -/
theorem within_onward (plain : host.Plain) (bound : Nat) :
    (Outside.within host bound).Keeps (World.Onward none) :=
  within_keeps (fun _ code => onward_full code) (fun _ code => plain.obeys.weaken (Program.onward code))
    bound

theorem Reaches.onward (plain : host.Plain) {now : World σ} (reaches : Reaches host world now) :
    world.Onward none now := by
  induction reaches with
  | start => exact .refl world
  | step earlier program run step =>
      exact step.trans (program.onward (within_onward plain _) _ _ _ run)

end Engine

end PropertyBinding
