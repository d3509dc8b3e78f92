import PropertyBinding.Proofs.Interception
import PropertyBinding.Proofs.Silence

namespace PropertyBinding

/-!
# Assignments that fail

An assignment that fails never tells a subscriber, and leaves all cells as they are.  Most
of the time it leaves everything as it was: whatever can be found out about the value in
advance is found out before anything happens.

There is one exception.  The writers that an assignment replaces are retired before the
interceptor is asked, and when the interceptor leaves a value that does not have the shape
of the property, the assignment fails and they stay retired.  The same happens if the
object dies when its writers are told.
-/

/-- Whether nothing has changed in the engine but identities and strategies of write adapters. -/
def World.Unmoved {σ : Type} (world later : World σ) : Prop :=
  World.Aside { world with host := later.host } later

namespace World.Unmoved

variable {σ : Type} {world middle later : World σ}

theorem trans (first : world.Unmoved middle) (second : middle.Unmoved later) :
    world.Unmoved later := by
  have there : World.Aside { world with host := later.host } { middle with host := later.host } :=
    (congrArg (fun start : World σ => { start with host := later.host }) first.eq :)
  exact there.trans second

theorem of_aside (aside : world.Aside later) : world.Unmoved later := by
  unfold Unmoved
  rw [aside.host]
  exact aside

theorem graph (unmoved : world.Unmoved later) : later.graph = world.graph :=
  (World.Aside.graph (show World.Aside _ later from unmoved) :)

end World.Unmoved

/-- Whether an interceptor of a property leaves the engine as it is. -/
def Outside.Observes {σ : Type} (outside : Outside σ) (ref : PropertyRef) : Prop :=
  ∀ id value (before : World σ) final later, before.graph.interceptor? ref = some id →
    outside.intercept id ref.object value before = some (final, later) → before.Unmoved later

/-- Whether foreign code is asked something before a value is in place. -/
def Query.isEarly : Query → Prop
  | .intercept _ _ _ | .retire _ => True
  | _ => False

namespace Engine

variable {σ : Type} {outside : Outside σ} {world start freed ready after : World σ}
  {target : PropertyRef} {property : Property} {value final : Native} {flags : WriteFlags}
  {aim : Aim} {error : PropertyError}

/-! ## What is asked -/

theorem Consults.asks {freed ready : World (σ × Trace σ)}
    (consults : Consults outside.traced target flags value freed final ready) :
    freed.Asks Query.isEarly ready := by
  cases consults with
  | skipped _ => exact .none rfl
  | unwatched _ => exact .none rfl
  | @asked id _ _ _ _ answered =>
      rcases Step.run_of_traced (.intercept id target.object value) answered with ⟨later, _, rfl⟩
      exact .one trivial freed later

/-- A store that fails asks nobody but writers and the interceptor. -/
theorem Course.asks {start after : World (σ × Trace σ)}
    (course : Course outside.traced target property aim start (.error error) after) :
    start.Asks Query.isEarly after := by
  cases course with
  | native closed given course =>
      cases course with
      | unfit _ => exact .none rfl
      | bereft _ relieves _ => exact relieves.asks fun _ => trivial
      | spoiled _ relieves consults _ => exact (relieves.asks fun _ => trivial).trans consults.asks
      | lost _ relieves consults _ => exact (relieves.asks fun _ => trivial).trans consults.asks
  | slot slotted course =>
      cases course with
      | bereft relieves _ => exact relieves.asks fun _ => trivial

/-! ## What has happened -/

/-- How an assignment can fail when the writers that it replaces are gone. -/
inductive Thwarted (outside : Outside σ) (target : PropertyRef) (property : Property) (aim : Aim)
    (freed after : World σ) : Prop
  /-- The object did not survive that its writers were told. -/
  | bereft (dead : freed.graph.isAlive target.object = false) :
      Thwarted outside target property aim freed after
  /-- The interceptor left a value that does not have the shape that the property asks for. -/
  | spoiled {id : HostId} {value final : Native} (closed : property.isVar = false)
      (given : aim.Gives property value) (fits : value.fits property.type = true)
      (seen : aim.flags.bypass = false) (watched : freed.graph.interceptor? target = some id)
      (answered : outside.intercept id target.object value freed = some (final, after))
      (unfit : final.fits property.type = false) :
      Thwarted outside target property aim freed after

theorem Consults.unmoved (consults : Consults outside target flags value freed final ready)
    (observes : outside.Observes target) : freed.Unmoved ready := by
  cases consults with
  | skipped _ => exact .of_aside (.refl _)
  | unwatched _ => exact .of_aside (.refl _)
  | asked _ watched answered => exact observes _ _ _ _ _ watched answered

/-- A store fails before anything has happened, or after the writers are gone. -/
theorem Course.failed (observes : outside.Observes target)
    (course : Course outside target property aim start (.error error) after) :
    start.Unmoved after ∨ ∃ freed, Relieves outside target aim.flags start freed ∧
      freed.Unmoved after ∧ Thwarted outside target property aim freed after := by
  cases course with
  | native closed given course =>
      cases course with
      | unfit _ => exact .inl (.of_aside (.refl _))
      | bereft _ relieves dead => exact .inr ⟨_, relieves, .of_aside (.refl _), .bereft dead⟩
      | @spoiled freed _ final _ fits relieves consults unfit =>
          refine .inr ⟨freed, relieves, consults.unmoved observes, ?_⟩
          -- a value that nobody has rewritten fits as it did before
          cases consults with
          | skipped _ => rw [fits] at unfit; cases unfit
          | unwatched _ => rw [fits] at unfit; cases unfit
          | asked seen watched answered =>
              exact .spoiled closed given fits seen watched answered unfit
      | @lost freed _ _ _ _ relieves consults dead =>
          -- the interceptor did not kill the object, so it was dead when the writers were gone
          have unmoved := consults.unmoved observes
          rw [unmoved.graph] at dead
          exact .inr ⟨freed, relieves, unmoved, .bereft dead⟩
  | slot slotted course =>
      cases course with
      | bereft relieves dead => exact .inr ⟨_, relieves, .of_aside (.refl _), .bereft dead⟩

/-- Where nobody is to be replaced, the first phase changes nothing. -/
theorem Relieves.vacant (relieves : Relieves outside target flags start freed)
    (vacant : start.graph.writersAt target = []) : freed = start := by
  cases relieves with
  | kept _ => rfl
  | removed _ run =>
      have steps : Steps (removeWriters target) start () start := by
        refine removeWriters_steps fun object found => ?_
        rw [ObjectGraph.writersAt, found] at vacant
        exact vacant
      rw [steps outside] at run
      cases run
      rfl

/--
An assignment that fails asks nobody but the writers that it replaces and the interceptor;
no subscriber is told.  If the interceptor leaves the engine as it is, then everything is as
before, unless there were writers to be replaced: they are gone if the interceptor answered
with a misfit, or if the object did not survive that writers were told.  If all of them were
bindings, then the object survived, and nothing has changed but that they are retired.
-/
theorem failed_assignment_unmoved_but_retirement {assignment : Assignment}
    {error : AssignmentError}
    (observes : ∀ target, (assignment.aim world).target? = .ok target → outside.Observes target)
    (run : assignment.perform.run outside world = some (.error error, after)) :
    (∃ recorded, assignment.perform.run outside.traced (world.traced (.empty world)) =
        some (.error error, recorded) ∧ recorded.untraced = after ∧
      ∀ query ∈ recorded.queries, query.isEarly) ∧
    (world.Unmoved after ∨ ∃ start target property freed, world.Aside start ∧
      (assignment.aim world).target? = .ok target ∧ world.graph.property target = .ok property ∧
      (assignment.aim world).flags.keep = false ∧ world.graph.writersAt target ≠ [] ∧
      removeWriters target outside start = some ((), freed) ∧ freed.Unmoved after ∧
      Thwarted outside target property (assignment.aim world) freed after ∧
      ((∀ writer ∈ world.graph.writersAt target, ∃ id, writer = .binding id) →
        freed.graph.isAlive target.object = true ∧
        Dismisses (world.graph.writersAt target) (start.withoutWritersOf target) freed)) := by
  constructor
  · rcases perform_traced run with ⟨recorded, traced, same, lands⟩
    refine ⟨recorded, traced, same, ?_⟩
    have asks : World.Asks Query.isEarly (world.traced (.empty world)) recorded := by
      rcases Lands.failed lands with aside |
        ⟨start, _, _, _, aside, _, _, course⟩
      · exact .none (congrArg Prod.snd aside.host)
      · exact .trans (.none (congrArg Prod.snd aside.host)) course.asks
    rcases asks with ⟨asked, same, early⟩
    rw [same]
    exact early
  · rcases (perform_lands assignment _ _ run).failed with aside |
      ⟨start, target, property, _, aside, found, described, course⟩
    · exact .inl (.of_aside aside)
    · rcases course.failed (observes target found) with
        unmoved | ⟨freed, relieves, unmoved, thwarted⟩
      · exact .inl ((World.Unmoved.of_aside aside).trans unmoved)
      · have settled : freed = start → world.Unmoved after := by
          rintro rfl
          exact (World.Unmoved.of_aside aside).trans unmoved
        by_cases vacant : world.graph.writersAt target = []
        · exact .inl (settled (relieves.vacant (aside.graph ▸ vacant)))
        · cases relieves with
          | kept _ => exact .inl (settled rfl)
          | removed replaces run =>
              refine .inr ⟨start, target, property, freed, aside, found, described, replaces,
                vacant, run, unmoved, thwarted, fun bindings => ?_⟩
              have relieves : Relieves outside target _ start freed := .removed replaces run
              have bound := aside.graph ▸ bindings
              have spared := relieves.writersOnly (.inr bound)
              refine ⟨?_, aside.graph ▸ relieves.dismisses replaces bound⟩
              rw [spared.isAlive, aside.graph]
              exact ObjectGraph.isAlive_of_property described

section Panel

/-! ## A flag that is spoiled -/

/-- An interceptor that answers with a number, whatever it is asked about. -/
def spoiler : Host Unit :=
  { Host.silent with intercept := fun _ _ _ => return .int 1 }

def turnOn : Assignment := .write (panelRef 1) (.bool true) .none

/-- The panel with an interceptor and a binding after the flag was to be turned on. -/
def spoiledPanel : World Unit :=
  ((turnOn.perform.run (.within spoiler 1) (interceptedPanel 0)).map Prod.snd).getD
    (interceptedPanel 0)

theorem spoiler_observes (ref : PropertyRef) : (Outside.within spoiler 1).Observes ref := by
  intro id value before final later _ answered
  cases answered
  exact .of_aside (.refl _)

/-- The assignment fails, no subscriber is told, and the flag has lost its binding. -/
theorem spoiled_assignment_retires :
    (∀ target, (turnOn.aim (interceptedPanel 0)).target? = .ok target →
      (Outside.within spoiler 1).Observes target) ∧
    turnOn.perform.run (.within spoiler 1) (interceptedPanel 0) =
      some (.error (.access (.typeMismatch "first" "bool")), spoiledPanel) ∧
    (∃ recorded, turnOn.perform.run (.traced (.within spoiler 1))
        ((interceptedPanel 0).traced (.empty (interceptedPanel 0))) =
          some (.error (.access (.typeMismatch "first" "bool")), recorded) ∧
      recorded.untraced = spoiledPanel ∧ ∀ query ∈ recorded.queries, query.isEarly) ∧
    (interceptedPanel 0).graph.writersAt (panelRef 1) = [.binding 0] ∧
    spoiledPanel.graph.writersAt (panelRef 1) = [] ∧
    (interceptedPanel 0).isRetired 0 = false ∧ spoiledPanel.isRetired 0 = true := by
  have observes : ∀ target, (turnOn.aim (interceptedPanel 0)).target? = .ok target →
      (Outside.within spoiler 1).Observes target := fun target _ => spoiler_observes target
  have run : turnOn.perform.run (.within spoiler 1) (interceptedPanel 0) =
      some (.error (.access (.typeMismatch "first" "bool")), spoiledPanel) := by
    with_unfolding_all rfl
  have failed := failed_assignment_unmoved_but_retirement observes run
  exact ⟨observes, run, failed.1, by decide +kernel, by decide +kernel, by decide +kernel,
    by decide +kernel⟩

end Panel

end Engine

end PropertyBinding
