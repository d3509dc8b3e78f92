import PropertyBinding.Proofs.FullKeeping

namespace PropertyBinding

/-!
# What each binding keeps

A binding changes in few ways: slightly, when it is read through or reported; in its own
update, which marks it, notes its failures and counts its evaluations; when it is retired;
and when it is enabled or disabled.  A relation that allows each of these is kept by every
binding over every program of a plain host.  `Binding.Allows` lists what has to be shown.
-/

/-- Whether a relation allows all that happens to a binding. -/
structure Binding.Allows (step : Binding → Binding → Prop) : Prop where
  refl : ∀ binding, step binding binding
  trans : ∀ {first second third}, step first second → step second third → step first third
  slight : ∀ {former binding : Binding}, former.Slight binding → step former binding
  worked : ∀ {former binding : Binding}, former.Worked binding → step former binding
  counted : ∀ binding : Binding,
    step binding { binding with evaluations := binding.evaluations + 1 }
  retired : ∀ binding, step binding (Engine.retiredForm binding)
  switched : ∀ (binding : Binding) enabled, step binding { binding with enabled := enabled }

/-- Whether each binding is still there and stands in a relation to what it was. -/
def World.Each {σ : Type} (step : Binding → Binding → Prop) (world later : World σ) : Prop :=
  ∀ (id : BindingId) former, world.bindings[id]? = some former →
    ∃ binding, later.bindings[id]? = some binding ∧ step former binding

namespace Engine

variable {σ α : Type} {outside : Outside σ} {world later : World σ}
  {step : Binding → Binding → Prop} (allows : Binding.Allows step)
include allows

theorem each_of_bindings (same : later.bindings = world.bindings) : world.Each step later :=
  fun _ former found => ⟨former, same ▸ found, allows.refl former⟩

theorem each_of_modify (id : BindingId) {change : Binding → Binding}
    (same : later.bindings = world.bindings.modify id change)
    (changed : ∀ binding, world.bindings[id]? = some binding → step binding (change binding)) :
    world.Each step later := by
  intro other former found
  rw [same, List.getElem?_modify, found]
  by_cases there : id = other
  · subst there
    exact ⟨change former, by simp, changed former found⟩
  · exact ⟨former, by simp [there], allows.refl former⟩

theorem each_steady : Steady (World.Each (σ := σ) step) where
  refl _ := each_of_bindings allows rfl
  trans first second id former found := by
    rcases first id former found with ⟨middle, found, left⟩
    rcases second id middle found with ⟨binding, found, right⟩
    exact ⟨binding, found, allows.trans left right⟩

theorem each_apart {change : World σ → World σ}
    (same : ∀ world, (change world).bindings = world.bindings) :
    Keeps outside (World.Each step) (modify change) :=
  Steady.change fun world => each_of_bindings allows (same world)

theorem retire_each (code : outside.Keeps (World.Each step)) (writer : Writer) :
    Keeps outside (World.Each step) (retire writer) := by
  cases writer with
  | binding id =>
      intro world
      refine (retireBinding_ends id).weaken fun _ after reached => ?_
      exact each_of_modify allows id reached.1 fun binding _ => allows.retired binding
  | host id => exact code.retire id

theorem each_staffing (code : outside.Keeps (World.Each step)) :
    Staffing outside (World.Each step) where
  toSteady := each_steady allows
  retired := retire_each allows code
  rewired _ _ _ _ := each_of_bindings allows rfl

theorem each_chores (code : outside.Keeps (World.Each step)) :
    Chores outside (World.Each step) where
  toSteady := each_steady allows
  code := code
  elsewhere _ _ _ same := each_of_bindings allows same
  object _ _ _ _ := each_of_bindings allows rfl
  slight _ id _ slight := each_of_modify allows id rfl fun binding found =>
    allows.slight (slight binding found)
  relieve := (each_staffing allows code).removeWriters

theorem each_upkeep (code : outside.Keeps (World.Each step)) : Upkeep outside (World.Each step) :=
  (each_chores allows code).upkeep

theorem each_works (id : BindingId) : Works (World.Each (σ := σ) step) id :=
  fun _ _ worked => each_of_modify allows id rfl fun binding _ => allows.worked (worked binding)

theorem each_counts (id : BindingId) (world : World σ) : world.Each step { world with
    bindings := world.bindings.modify id fun binding =>
      { binding with evaluations := binding.evaluations + 1 } } :=
  each_of_modify allows id rfl fun binding _ => allows.counted binding

theorem releaseGraph_each (code : outside.Keeps (World.Each step)) :
    Keeps outside (World.Each step) (releaseGraph : Engine σ Unit) :=
  (each_upkeep allows code).discreet.releaseGraph (fun _ => each_of_bindings allows rfl)
    fun _ _ => each_of_bindings allows rfl

theorem each_full (code : outside.Keeps (World.Each step)) :
    FullUpkeep outside (World.Each step) where
  toUpkeep := each_upkeep allows code
  create _ _ := by
    have steady := each_steady (σ := σ) allows
    exact steady.bind steady.seen fun _ => steady.bind (each_apart allows fun _ => rfl) fun _ =>
      steady.value _
  detach := (each_staffing allows code).detach
  releaseGraph := releaseGraph_each allows code
  update id flags := by
    have upkeep := each_upkeep allows code
    refine upkeep.update (fun _ _ => each_of_bindings allows rfl) (releaseGraph_each allows code)
      (fun world binding flags _ _ _ => ?_) flags
    exact upkeep.runUpdate (each_works allows id) (each_counts allows id) binding flags world
  append world binding _ _ _ := by
    intro id former found
    refine ⟨former, ?_, allows.refl former⟩
    rw [List.getElem?_append_left (List.getElem?_eq_some_iff.mp found).1]
    exact found
  switch world id binding enabled _ _ :=
    each_of_modify allows id rfl fun binding _ => allows.switched binding enabled

/-- Each binding keeps what is allowed over every program. -/
theorem Program.each (code : outside.Keeps (World.Each step)) {operation : Engine σ α}
    (program : Program operation) : Keeps outside (World.Each step) operation := by
  have staffing := each_staffing allows code
  have apart : ∀ {world later : World σ}, later.bindings = world.bindings →
      world.Each step later := each_of_bindings allows
  exact (each_full allows code).program (fun _ _ same => apart same)
    (fun id => staffing.destroy id fun _ _ _ _ => apart rfl) staffing.install
    (fun id slot _ => staffing.attach id slot _) program

/-- Each binding keeps what is allowed, whatever the code of a plain host does. -/
theorem within_each {host : Host σ} (plain : host.Plain) (bound : Nat) :
    (Outside.within host bound).Keeps (World.Each step) :=
  within_keeps (fun _ code => each_full allows code)
    (fun _ code => plain.obeys.weaken (Program.each allows code)) bound

end Engine

end PropertyBinding
