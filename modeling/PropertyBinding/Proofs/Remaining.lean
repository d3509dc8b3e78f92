import PropertyBinding.Proofs.Resettling

namespace PropertyBinding

/-!
# What requests leave at rest

A world at rest is at rest again after every request that neither writes to a
target nor disables a binding, and after a binding is installed.  Where a source
changes, its announcement settles all that has become stale; where a binding is
enabled, its first evaluation settles it.
-/

variable {σ : Type}

namespace Engine

variable {host : Host σ} {start world : World σ} {rank : PropertyRef → Nat} {id : BindingId}
  {binding : Binding} {ref : PropertyRef} {property : Property} {flags : WriteFlags}

/-- Whether all bindings are at rest, and those that were enabled still are. -/
structure Remains (host : Host σ) (start : World σ) (rank : PropertyRef → Nat)
    (world after : World σ) : Prop where
  resting : Resting host start rank [] [] (fun _ => False) after
  enabled : ∀ (id : BindingId) binding, world.bindings[id]? = some binding →
    ∃ changed, after.bindings[id]? = some changed ∧
      (binding.enabled = true → changed.enabled = true)

namespace Remains

theorem refl (resting : Resting host start rank [] [] (fun _ => False) world) :
    Remains host start rank world world :=
  ⟨resting, fun _ binding found => ⟨binding, found, fun enabled => enabled⟩⟩

theorem trans {middle after : World σ} (first : Remains host start rank world middle)
    (second : Remains host start rank middle after) : Remains host start rank world after := by
  refine ⟨second.resting, fun id binding found => ?_⟩
  rcases first.enabled id binding found with ⟨changed, present, keeps⟩
  rcases second.enabled id changed present with ⟨changed', present', keeps'⟩
  exact ⟨changed', present', fun enabled => keeps' (keeps enabled)⟩

theorem of_changes {level : Nat} {middle after : World σ}
    (resting : Resting host start rank [] [] (fun _ => False) after)
    (above : ChangesAbove rank level middle after) (same : middle.bindings = world.bindings) :
    Remains host start rank world after := by
  refine ⟨resting, fun id binding found => ?_⟩
  rcases above.enabled id binding (same ▸ found) with ⟨changed, present, _, enabled⟩
  exact ⟨changed, present, fun was => enabled.trans was⟩

/-- Nothing but the identities has changed. -/
theorem identities (lawful : LawfulFamily host start rank)
    (resting : Resting host start rank [] [] (fun _ => False) world) (identities : Nat) :
    Remains host start rank world { world with identities := identities } :=
  .of_changes (resting.withIdentities lawful identities) (.refl rank 0 _) rfl

end Remains

/-! ## Writes -/

theorem below_nil (start : World σ) (rank : PropertyRef → Nat) (level : Nat) :
    Below start rank level [] :=
  fun _ member => by cases member

/-- A write to a property that is nobody's target leaves all bindings at rest. -/
theorem StoresAs.remains (ready : start.Ready) (lawful : LawfulFamily host start rank)
    (resting : Resting host start rank [] [] (fun _ => False) world)
    (described : start.graph.property ref = .ok property) (free : start.Free ref)
    (loud : flags.quiet = false) {operation : Engine σ (Except PropertyError Unit)}
    {outcome : Except PropertyError Cell}
    (stores : StoresAs host.surroundings world ref property flags operation outcome) :
    Leads host.surroundings operation world fun _ after =>
      Remains host start rank world after := by
  cases outcome with
  | error error =>
      rcases stores with ⟨identities, ends⟩
      exact ⟨_, _, ends, .identities lawful resting identities⟩
  | ok cell =>
      rcases stores with ⟨stored, identities, _, ends⟩
      have moved := Remains.identities lawful resting identities
      have own : ∀ (id : BindingId) binding, world.bindings[id]? = some binding →
          binding.target.property = ref → False := by
        intro id binding found same
        rcases resting.sound.persists id binding found with ⟨former, known, persists⟩
        exact free id former known (persists.target ▸ same)
      rcases storeCell_leads ready lawful (calls_settle ready lawful _) (below_nil start rank _)
        moved.resting described loud own stored with ⟨_, after, storing, rfl, rested, above⟩
      exact ⟨_, after, ends after storing, .of_changes rested above rfl⟩

/-- A property that there is not cannot be written. -/
theorem fails_remains {α : Type} {error : PropertyError} {next : PropertyRef → Attempt PropertyError σ α}
    (resting : Resting host start rank [] [] (fun _ => False) world)
    (missing : start.graph.property ref = .error error) :
    Leads host.surroundings (resolve ref >>= next).run world fun _ after =>
      Remains host start rank world after := by
  have unresolved : world.graph.resolve ref defaultAliasDepth = .error error := by
    have absent := (resting.sound.graph.property ref).trans missing
    unfold ObjectGraph.resolve ObjectGraph.follow
    rw [absent]
    rfl
  refine .ask (fun found resolved => ?_) fun _ _ => .refl resting
  rw [unresolved] at resolved
  cases resolved

section Writing

variable (ready : start.Ready) (lawful : LawfulFamily host start rank)
  (resting : Resting host start rank [] [] (fun _ => False) world) (free : start.Free ref)
include ready lawful resting free

omit lawful in
theorem takes_of_free (described : start.graph.property ref = .ok property) (flags : WriteFlags) :
    world.graph.Takes ref property flags :=
  resting.sound.graph.takes ready described (.inr free)

/-- An operation leaves a world at rest if it fails for want of the property, and stores otherwise. -/
theorem storing_remains {operation : Engine σ (Except PropertyError Unit)}
    (loud : flags.quiet = false)
    (fails : ∀ error, start.graph.property ref = .error error →
      Leads host.surroundings operation world fun _ after => Remains host start rank world after)
    (stores : ∀ property, world.graph.Takes ref property flags →
      ∃ outcome, StoresAs host.surroundings world ref property flags operation outcome) :
    Leads host.surroundings operation world fun _ after => Remains host start rank world after := by
  cases described : start.graph.property ref with
  | error error => exact fails error described
  | ok property =>
      rcases stores property (takes_of_free ready resting free described flags) with ⟨outcome, stores⟩
      exact stores.remains ready lawful resting described free loud

theorem write_remains (value : Native) (loud : flags.quiet = false) :
    Leads host.surroundings (write ref value flags).run world fun _ after =>
      Remains host start rank world after :=
  storing_remains ready lawful resting free loud (fun _ => fails_remains resting)
    fun _ takes => ⟨_, write_stores takes value⟩

theorem writeVar_remains (value : Value) (loud : flags.quiet = false) :
    Leads host.surroundings (writeVar ref value flags).run world fun _ after =>
      Remains host start rank world after :=
  storing_remains ready lawful resting free loud (fun _ => fails_remains resting)
    fun _ takes => ⟨_, writeVar_stores takes value⟩

theorem reset_remains (loud : flags.quiet = false) :
    Leads host.surroundings (reset ref flags).run world fun _ after =>
      Remains host start rank world after :=
  storing_remains ready lawful resting free loud (fun _ => fails_remains resting)
    fun _ takes => ⟨_, reset_stores takes⟩

theorem assign_remains (value : Native) :
    Leads host.surroundings (assign ref value).run world fun _ after =>
      Remains host start rank world after := by
  refine storing_remains ready lawful resting free rfl (fun error missing => ?_)
    fun _ takes => ⟨_, assign_stores takes value⟩
  have absent := (resting.sound.graph.property ref).trans missing
  refine .ask (fun found there => ?_) fun _ _ => .refl resting
  rw [absent] at there
  cases there

end Writing

/-- A property is found by its name, or there is none. -/
theorem assignNamed_remains (ready : start.Ready) (lawful : LawfulFamily host start rank)
    (resting : Resting host start rank [] [] (fun _ => False) world) {object : ObjectId}
    {name : String} (free : ∀ index, start.graph.propertyIndex object name = .ok index →
      start.Free ⟨object, index⟩) (value : Native) :
    Leads host.surroundings (assignNamed object name value).run world fun _ after =>
      Remains host start rank world after := by
  refine .ask (fun index found => ?_) fun _ _ => .refl resting
  rw [← resting.sound.graph.shape.propertyIndex] at found
  exact assign_remains ready lawful resting (free index found) value

/-- A notifier is nobody's target. -/
theorem assignNotifier_remains (ready : start.Ready) (lawful : LawfulFamily host start rank)
    (resting : Resting host start rank [] [] (fun _ => False) world) (id : NotifierId)
    (value : Value) :
    Leads host.surroundings (assignNotifier id value) world fun _ after =>
      Remains host start rank world after := by
  refine .look ?_
  cases (world.notifiers[id]?).bind fun notifier => notifier.assign? value with
  | none => exact .value (.refl resting)
  | some changed =>
      have sound : Sound start rank [] []
          { world with notifiers := world.notifiers.set id changed } :=
        resting.sound.congr resting.sound.holders rfl rfl rfl rfl rfl rfl
      have behind : Resting host start rank [] []
          (fun reader => False ∨ ∃ binding, world.bindings[reader]? = some binding ∧
            .notifier id ∈ binding.reads.sources)
          { world with notifiers := world.notifiers.set id changed } := by
        refine resting.transfer lawful sound fun reader binding present _ fresh => .inr ?_
        refine ⟨fun was => was, present, fun source member => .inl ?_, rfl⟩
        cases source with
        | property object signal => rfl
        | notifier other =>
            have different : id ≠ other := by
              rintro rfl
              exact fresh (.inr ⟨binding, present, member⟩)
            simp [World.valueOf?, different]
      refine .step (fun _ => rfl) ?_
      refine .weaken (announce_leads lawful (calls_settle ready lawful _) (below_nil start rank _)
        behind fun _ was => was) ?_
      rintro _ after ⟨rested, above⟩
      exact .of_changes rested above rfl

/-! ## Installing and enabling -/

/-- Where a binding would be attached, no other binding is. -/
theorem writer?_target (ready : start.Ready)
    (resting : Resting host start rank [] [] (fun _ => False) world)
    (found : world.bindings[id]? = some binding) {writer : Writer}
    (attached : world.graph.writer? binding.target.property.object
      ⟨binding.target.property.index, binding.target.field?⟩ = some writer) :
    writer = .binding id := by
  rcases resting.sound.persists id binding found with ⟨former, known, persists⟩
  rcases Option.bind_eq_some_iff.mp attached with ⟨object, living, got⟩
  rcases resting.sound.graph.writers _ object living _ (Entries.mem_toList_of_get? got) with
    ⟨other, owner, same, known', target⟩
  have properties : owner.target.property = former.target.property := by
    rw [target, ← persists.target]
  rw [ready.distinct other id owner former known' known properties] at same
  exact same

/-- The graph stays sound when a binding is attached at its own target. -/
theorem attached_sound {graph : ObjectGraph} {former : Binding} (sound : graph.Sound start)
    (known : start.bindings[id]? = some former) :
    (graph.update former.target.property.object fun object => { object with
      writers := object.writers.put ⟨former.target.property.index, former.target.field?⟩
        (.binding id) }).Sound start := by
  refine sound.update _ (.update _ _ (fun _ => rfl) fun _ => rfl) (fun _ => rfl) ?_ ?_
  · intro other cell located
    refine ⟨cell, ?_⟩
    rw [ObjectGraph.cell?_update]
    · exact located
    · exact fun _ => rfl
  · intro object entry member
    rcases Entries.mem_toList_of_put member with kept | new
    · exact .inl kept
    · subst new
      exact .inr ⟨id, former, rfl, known, rfl⟩

/-- A binding that is installed becomes the writer of its own target, where no other one was. -/
theorem install_remains (ready : start.Ready) (lawful : LawfulFamily host start rank)
    (resting : Resting host start rank [] [] (fun _ => False) world) (id : BindingId) :
    Leads host.surroundings (install id).run world fun _ after =>
      Remains host start rank world after := by
  unfold install
  refine .performStep (apply_binding? · world id) ?_
  cases found : world.bindings[id]? with
  | none => exact .value (.refl resting)
  | some binding =>
      rcases resting.sound.persists id binding found with ⟨former, known, persists⟩
      rcases (ready.bindings id former known).described with ⟨property, described⟩
      have described' : world.graph.property binding.target.property = .ok property := by
        rw [persists.target]
        exact (resting.sound.graph.property _).trans described
      have hasGraph : world.hasGraph = true := by
        simpa [World.hasGraph] using resting.sound.holders
      have resolved := ObjectGraph.resolve_of_direct described' (ready.direct _ property described)
        binding.context.config.aliasDepth
      refine .performStep (fun _ => rfl) ?_
      simp only [hasGraph, resolved, Bool.not_true, Bool.false_eq_true, if_false]
      by_cases attached : world.graph.writer? binding.target.property.object
          ⟨binding.target.property.index, binding.target.field?⟩ = some (.binding id)
      · rw [if_neg (not_not_intro attached)]
        exact .value (.refl resting)
      · rw [if_pos attached]
        have vacant : world.graph.writer? binding.target.property.object
            ⟨binding.target.property.index, binding.target.field?⟩ = none := by
          cases occupied : world.graph.writer? binding.target.property.object
              ⟨binding.target.property.index, binding.target.field?⟩ with
          | none => rfl
          | some writer =>
              rw [writer?_target ready resting found occupied] at occupied
              exact absurd occupied attached
        unfold attach
        refine .performGraph ?_
        rw [if_pos (ObjectGraph.isAlive_of_property described'), vacant]
        refine .of_steps (fun _ => rfl) ⟨?_, fun _ binding present =>
          ⟨binding, present, fun enabled => enabled⟩⟩
        refine resting.unchanged lawful (resting.sound.withGraph ?_) (fun ref => ?_) rfl
          fun _ _ present _ notStale => ⟨notStale, present⟩
        · rw [persists.target]
          exact attached_sound resting.sound.graph known
        · exact world.graph.cell?_update _ ref fun _ => rfl

theorem refreshFastPath_changes {foreign : Surroundings σ}
    (found : world.bindings[id]? = some binding) :
    Leads foreign (refreshFastPath id) world fun _ after => ∃ fast, after = { world with
      bindings := world.bindings.modify id fun binding => { binding with fastPath := fast } } := by
  refine .lookBinding ?_
  rw [found]
  have looked : Leads foreign (hasInterceptor binding.target.property) world
      fun _ after => after = world := by
    refine .lookGraph ?_
    cases world.graph.resolve binding.target.property defaultAliasDepth with
    | ok target => exact .value rfl
    | error error => exact .value rfl
  refine .bind _ looked ?_
  rintro intercepted _ rfl
  exact .look (.change ⟨_, rfl⟩)

/-- What a world has become when a binding is enabled and not evaluated yet. -/
def enabling (world : World σ) (id : BindingId) (fast : Bool) : World σ :=
  { world with bindings := world.bindings.modify id fun binding =>
    { binding with enabled := true, fastPath := fast } }

/-- A binding that has just been enabled is all that may be stale. -/
theorem enabling_rests (lawful : LawfulFamily host start rank)
    (resting : Resting host start rank [] [] (fun _ => False) world)
    (found : world.bindings[id]? = some binding) (fast : Bool) :
    Resting host start rank [] [] (fun other => other = id ∧ binding.enabled = false)
      (enabling world id fast) := by
  rcases resting.sound.persists id binding found with ⟨former, known, persists⟩
  have sound : Sound start rank [] [] (enabling world id fast) :=
    resting.sound.modify found ⟨rfl, rfl, rfl, rfl, rfl, rfl, fun _ may => may⟩ (fun _ => rfl)
      (fun _ => rfl) (resting.sound.updating id binding found) (fun _ _ => Iff.rfl)
      (resting.sound.failures id binding found)
  refine resting.modify lawful sound rfl rfl rfl (fun _ _ was => was.elim) ?_
  intro fresh changed present _
  have before : binding.enabled = true := by simpa using fresh
  have here : changed = { binding with enabled := true, fastPath := fast } := by
    simpa [enabling, found] using present.symm
  subst here
  exact (resting.settled id binding found before fun was => was).transfer
    (lawful.persists known persists) persists.call resting.sound.graph.shape rfl rfl rfl rfl rfl
    rfl rfl rfl rfl

/-- An update that is asked for settles its binding once more. -/
theorem update_remains (ready : start.Ready) (lawful : LawfulFamily host start rank)
    (resting : Resting host start rank [] [] (fun _ => False) world) (id : BindingId)
    {flags : WriteFlags} (loud : flags.quiet = false) :
    Leads host.surroundings (update id flags) world fun _ after =>
      Remains host start rank world after := by
  cases found : world.bindings[id]? with
  | none =>
      refine .lookBinding ?_
      rw [found]
      exact .value (.refl resting)
  | some binding =>
      refine .weaken (update_settles ready lawful (calls_settle ready lawful _)
        (below_nil start rank _) resting found List.not_mem_nil loud) ?_
      rintro _ after ⟨rested, above⟩
      exact .of_changes (rested.weaken fun _ was => was.1) (above 0 (Nat.succ_pos _)) rfl

/-- Whether a binding is enabled afterwards, if there is one. -/
def Enables (id : BindingId) (world after : World σ) : Prop :=
  ∀ binding, world.bindings[id]? = some binding →
    ∃ changed, after.bindings[id]? = some changed ∧ changed.enabled = true

/-- A binding that is enabled is evaluated, unless it was enabled before. -/
theorem enable_remains (ready : start.Ready) (lawful : LawfulFamily host start rank)
    (resting : Resting host start rank [] [] (fun _ => False) world) (id : BindingId)
    {flags : WriteFlags} (loud : flags.quiet = false) :
    Leads host.surroundings (setEnabled id true (some flags)) world fun _ after =>
      Remains host start rank world after ∧ Enables id world after := by
  refine .lookBinding ?_
  cases found : world.bindings[id]? with
  | none =>
      refine .value ⟨.refl resting, fun binding present => ?_⟩
      rw [found] at present
      cases present
  | some binding =>
      rcases resting.sound.persists id binding found with ⟨former, known, persists⟩
      have active : binding.retired = false :=
        persists.retired.trans (ready.bindings id former known).active
      have marks : (world.bindings.modify id fun binding => { binding with enabled := true })[id]? =
          some { binding with enabled := true } := by
        simp [found]
      simp only [active, Bool.and_false, Bool.false_eq_true, if_false]
      refine .step (fun _ => rfl) ?_
      refine .bind (fun _ after => ∃ fast, after = enabling world id fast) ?_ ?_
      · refine (refreshFastPath_changes marks).weaken ?_
        rintro _ _ ⟨fast, rfl⟩
        exact ⟨fast, by simp only [enabling, List.modify_modify_eq]; rfl⟩
      rintro _ _ ⟨fast, rfl⟩
      have rested := enabling_rests lawful resting found fast
      have here : (enabling world id fast).bindings[id]? =
          some { binding with enabled := true, fastPath := fast } := by
        simp [enabling, found]
      have switched : ∀ (other : BindingId) former, world.bindings[other]? = some former →
          ∃ changed, (enabling world id fast).bindings[other]? = some changed ∧
            (former.enabled = true → changed.enabled = true) := by
        intro other former present
        by_cases same : id = other
        · subst same
          exact ⟨_, here, fun _ => rfl⟩
        · exact ⟨former, by simpa [enabling, same] using present, fun enabled => enabled⟩
      cases before : binding.enabled with
      | true =>
          have whole : Resting host start rank [] [] (fun _ => False) (enabling world id fast) :=
            rested.weaken fun _ was => Bool.noConfusion (before.symm.trans was.2)
          exact .value ⟨⟨whole, switched⟩, fun _ _ => ⟨_, here, rfl⟩⟩
      | false =>
          refine .weaken (update_settles ready lawful (calls_settle ready lawful _)
            (below_nil start rank _) rested here List.not_mem_nil loud) ?_
          rintro _ after ⟨settled, above⟩
          have whole : Resting host start rank [] [] (fun _ => False) after :=
            settled.weaken fun _ was => was.2 was.1.1
          have keeps := (above 0 (Nat.succ_pos _)).enabled
          refine ⟨⟨whole, fun other former present => ?_⟩, fun _ _ => ?_⟩
          · rcases switched other former present with ⟨middle, located, switches⟩
            rcases keeps other middle located with ⟨changed, located', _, same⟩
            exact ⟨changed, located', fun enabled => same.trans (switches enabled)⟩
          · rcases keeps id _ here with ⟨changed, located, _, same⟩
            exact ⟨changed, located, same⟩

end Engine

end PropertyBinding
