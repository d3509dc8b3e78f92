import PropertyBinding.Proofs.FullKeeping
import PropertyBinding.Proofs.OrderlyAccess

namespace PropertyBinding

/-!
# Orderly updates

An update is orderly because it evaluates no binding that was retired when it
began: what it counts and stores, it counts and stores for one that was not.
With that the rest of the life of a binding is orderly, and so is the code of a
host that is put together from operations of the engine.
-/

/--
The place a binding competes for: what its target resolves to as the graph is,
or the target itself where it does not resolve.
-/
def Binding.place (binding : Binding) (graph : ObjectGraph) : Place :=
  let ref :=
    match graph.resolve binding.target.property binding.context.config.aliasDepth with
    | .ok ref => ref
    | .error _ => binding.target.property
  ⟨ref.object, ⟨ref.index, binding.target.field?⟩⟩

namespace World

variable {σ : Type} {start world : World σ}

/-- What was not retired at the start may change, whatever has become of it since. -/
theorem Later.unretired (step : start.Later world) (id : BindingId) {binding : Binding}
    (found : start.bindings[id]? = some binding) (active : binding.retired = false)
    (change : Binding → Binding) (target : ∀ binding, (change binding).target = binding.target)
    (context : ∀ binding, (change binding).context = binding.context)
    (retired : ∀ binding, (change binding).retired = binding.retired) :
    start.Later { world with bindings := world.bindings.modify id change } := by
  refine ⟨⟨step.tidy.vacant, ?_⟩, step.gone, ?_, ?_⟩
  · intro place other attached
    simpa using step.tidy.known place other attached
  · intro other former foundFormer
    rcases step.bindings other former foundFormer with ⟨current, foundCurrent, precedes⟩
    rw [List.getElem?_modify, foundCurrent]
    by_cases same : id = other
    · subst same
      rw [found] at foundFormer
      cases foundFormer
      refine ⟨change current, by simp, ?_, ?_, ?_⟩
      · rw [target, precedes.target]
      · rw [context, precedes.context]
      · intro impossible
        rw [active] at impossible
        cases impossible
    · exact ⟨current, by simp [same], precedes⟩
  · intro other place holds
    rcases step.holds other place holds with attached | gone | ⟨current, foundCurrent, out⟩
    · exact .inl attached
    · exact .inr (.inl gone)
    · right
      right
      by_cases same : id = other
      · subst same
        refine ⟨change current, ?_, (retired current).trans out⟩
        simp [foundCurrent]
      · refine ⟨current, ?_, out⟩
        rw [List.getElem?_modify, foundCurrent]
        simp [same]

/-- A graph that exists may have one more holder. -/
theorem Later.retainGraph (tidy : world.Tidy) (present : world.hasGraph = true) :
    world.Later { world with graphHolders := world.graphHolders + 1 } := by
  refine ⟨⟨tidy.vacant, tidy.known⟩, ?_, (Later.refl tidy).bindings, ?_⟩
  · intro gone
    rw [present] at gone
    cases gone
  · intro id place holds
    rcases holds with attached | gone | out
    · exact .inl attached
    · rw [present] at gone
      cases gone
    · exact .inr (.inr out)

/-- One holder of the graph goes. -/
theorem Later.dropHolder (tidy : world.Tidy) :
    world.Later { world with graphHolders := world.graphHolders - 1 } := by
  have gone : world.hasGraph = false →
      ({ world with graphHolders := world.graphHolders - 1 } : World σ).hasGraph = false := by
    simp only [hasGraph, decide_eq_false_iff_not]
    omega
  refine ⟨⟨tidy.vacant, tidy.known⟩, gone, (Later.refl tidy).bindings, ?_⟩
  intro id place holds
  rcases holds with attached | without | out
  · exact .inl attached
  · exact .inr (.inl (gone without))
  · exact .inr (.inr out)

/-- What is left of a graph that is gone may go. -/
theorem Later.emptyGraph (tidy : world.Tidy) (gone : world.hasGraph = false) :
    world.Later { world with
      graph := .empty world.graph.schema, channels := world.channels.removeProperties } := by
  refine ⟨⟨.empty _, ?_⟩, fun _ => gone,
    (Later.refl tidy).bindings, fun _ _ _ => .inr (.inl gone)⟩
  intro place id attached
  simp [ObjectGraph.writerAt?, ObjectGraph.writer?, ObjectGraph.object?, ObjectGraph.empty]
    at attached

/-- A new binding takes a place behind the others. -/
theorem Later.append (tidy : world.Tidy) (binding : Binding) :
    world.Later { world with bindings := world.bindings ++ [binding] } := by
  refine ⟨⟨tidy.vacant, ?_⟩, fun gone => gone, ?_, ?_⟩
  · intro place id attached
    rw [List.length_append]
    exact Nat.lt_add_right _ (tidy.known place id attached)
  · intro id former found
    refine ⟨former, ?_, rfl, rfl, fun retired => ⟨retired, rfl⟩⟩
    rw [List.getElem?_append_left (List.getElem?_eq_some_iff.mp found).1]
    exact found
  · intro id place holds
    rcases holds with attached | gone | ⟨former, found, retired⟩
    · exact .inl attached
    · exact .inr (.inl gone)
    · refine .inr (.inr ⟨former, ?_, retired⟩)
      rw [List.getElem?_append_left (List.getElem?_eq_some_iff.mp found).1]
      exact found

end World

namespace Engine

variable {σ : Type} {outside : Outside σ} {world : World σ}

/-- With the last holder the graph goes, and all bindings are out. -/
theorem releaseGraph_orderly (code : outside.Orderly) :
    Orderly outside (releaseGraph : Engine σ Unit) :=
  ((orderly_upkeep code).discreet.releaseGraph (fun _ tidy => .dropHolder tidy)
    fun _ gone tidy => .emptyGraph tidy gone).orderly

/-! ## Updates -/

/-- A binding that is marked, or whose failures are noted, stays what it was for its place. -/
theorem works_orderly (id : BindingId) : Works (World.Proceeds (σ := σ)) id :=
  fun _ _ worked tidy => .modifyBinding tidy id fun binding _ =>
    have kept := worked binding
    ⟨kept.target, kept.context, fun out => ⟨kept.retired.trans out, kept.evaluations⟩⟩

/-- An update of a binding that is not retired. -/
theorem runUpdate_ends (code : outside.Orderly) (tidy : world.Tidy) {id : BindingId}
    {binding : Binding} (found : world.bindings[id]? = some binding)
    (active : binding.retired = false) (flags : WriteFlags) :
    Ensures outside (runUpdate id binding flags) world fun _ after => world.Later after := by
  have upkeep := orderly_upkeep code
  have works : Works (World.Proceeds (σ := σ)) id := works_orderly id
  have marked : ∀ updating, Keeps outside World.Proceeds
      (modifyBinding id fun binding => { binding with updating := updating }) :=
    fun _ => Steady.change fun world => works world _ fun _ => ⟨rfl, rfl, rfl, rfl, rfl, rfl⟩
  have last : Orderly outside (do
      modifyBinding id fun binding => { binding with updating := false }
      settle id : Engine σ Unit) := (upkeep.bind (marked false) fun _ => upkeep.discreet.settle id).orderly
  refine .bind _ ((marked true).orderly.after (.refl tidy)) fun _ _ step => ?_
  refine .bind _ ((upkeep.discreet.clearReads id).orderly.after step) fun _ _ step => ?_
  refine .bind _ ((upkeep.evaluateBinding id binding).orderly.after step) fun result _ step => ?_
  -- the expression may have retired the binding, and its evaluation counts all the same
  refine .change ?_
  have counted := step.unretired id found active
    (fun binding => { binding with evaluations := binding.evaluations + 1 })
    (fun _ => rfl) (fun _ => rfl) fun _ => rfl
  refine .lookGraph ?_
  dsimp only
  split
  · have finishes := (upkeep.finishUpdate works binding result flags).orderly
    exact .bind _ (finishes.after counted) fun _ _ step => last.after step
  · exact last.after counted

theorem update_orderly (code : outside.Orderly) (id : BindingId) (flags : WriteFlags) :
    Orderly outside (update id flags : Engine σ Unit) := by
  refine Keeps.orderly ((orderly_upkeep code).update ?_ (releaseGraph_orderly code).keeps ?_ flags)
  · exact fun _ present tidy => .retainGraph tidy present
  · intro world binding flags found active _ result after run tidy
    exact runUpdate_ends code tidy found active flags result after run

/-! ## Life of a binding -/

/-- What has to be shown for programs to be orderly. -/
theorem orderly_full (code : outside.Orderly) : FullUpkeep outside World.Proceeds where
  toUpkeep := orderly_upkeep code
  create classId name? := (create_orderly classId name?).keeps
  detach id slot := (detach_orderly code id slot).keeps
  releaseGraph := (releaseGraph_orderly code).keeps
  update id flags := (update_orderly code id flags).keeps
  append _ binding _ _ _ := fun tidy => .append tidy binding
  switch _ id _ _ _ _ := fun tidy => .modifyBinding tidy id fun _ _ =>
    ⟨rfl, rfl, fun out => ⟨out, rfl⟩⟩

/-- An installation that succeeds gives a binding the place it competes for. -/
theorem install_ends (code : outside.Orderly) (tidy : world.Tidy) (id : BindingId) :
    Ensures outside (install id).run world fun outcome after =>
      world.Later after ∧ (outcome = .ok () → ∀ binding, world.bindings[id]? = some binding →
        after.Holds id (binding.place world.graph)) := by
  refine .performBinding ?_
  cases found : world.bindings[id]? with
  | none => exact .value ⟨.refl tidy, fun _ _ impossible => by cases impossible⟩
  | some binding =>
      refine .performLook ?_
      have known := (List.getElem?_eq_some_iff.mp found).1
      have attaches : Ensures outside (attach (binding.place world.graph).object
          (binding.place world.graph).slot (.binding id)).run world fun outcome after =>
          world.Later after ∧ (outcome = .ok () → ∀ former, some binding = some former →
            after.Holds id (former.place world.graph)) := by
        refine (attach_ends code tidy _ _ (.binding id) ?_).weaken ?_
        · intro other same
          cases same
          exact known
        · rintro outcome after ⟨later, held⟩
          refine ⟨later, fun success former same => ?_⟩
          cases same
          exact held success id rfl
      by_cases gone : (!world.hasGraph) = true
      · rw [if_pos gone]
        exact .value ⟨.refl tidy, fun impossible => by cases impossible⟩
      · rw [if_neg gone]
        refine .choose (fun _ => attaches) fun attached => ?_
        refine .value ⟨.refl tidy, fun _ former same => ?_⟩
        cases same
        exact .inl (Decidable.not_not.mp attached)

theorem install_orderly (code : outside.Orderly) (id : BindingId) :
    Orderly outside (install id : Attempt PropertyError σ Unit).run :=
  fun _ tidy => (install_ends code tidy id).weaken fun _ _ reached => reached.1

end Engine

end PropertyBinding
