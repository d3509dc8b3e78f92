import PropertyBinding.Proofs.ActiveWriter
import PropertyBinding.Proofs.Onward

namespace PropertyBinding

/-!
# The end of an object

When an object is destroyed, all writers that are attached to it are retired.  A
binding is attached where its target resolves to when it is installed: on the
object of the target, if the target is stored there.  So with an object go the
bindings of the properties that it stores, through whatever aliases they were
bound.  The binding of an alias to a property of another object stays with that
other object.
-/

/-- A target that is no alias is the place that its binding competes for. -/
theorem Binding.place_of_direct {binding : Binding} {graph : ObjectGraph} {property : Property}
    (described : graph.property binding.target.property = .ok property)
    (direct : property.isAlias = false) :
    binding.place graph = ⟨binding.target.object, binding.target.slot⟩ := by
  unfold place
  rw [ObjectGraph.resolve_of_direct described direct]
  rfl

/-- The one object of a graph has the id of its slot. -/
theorem ObjectGraph.eq_of_single {graph : ObjectGraph} {slot : Slot} (single : graph.slots = [slot])
    {id : ObjectId} {object : Object} (living : graph.object? id = some object) :
    id = ⟨0, slot.generation⟩ := by
  rcases id with ⟨index, generation⟩
  unfold object? at living
  rw [single] at living
  cases index with
  | zero =>
      simp only [List.getElem?_cons_zero] at living
      split at living
      · next same => rw [same]
      · cases living
  | succ index => simp at living

/-- An object that was removed has no writers. -/
theorem ObjectGraph.writer?_of_removed {graph removed : ObjectGraph} {id : ObjectId}
    {object : Object} (gone : graph.remove? id = some (object, removed)) (slot : WriterSlot) :
    removed.writer? id slot = none := by
  rcases Option.map_eq_some_iff.mp gone with ⟨found, living, same⟩
  cases same
  unfold writer? object?
  rw [List.getElem?_set]
  simp only [if_true]
  split
  · next entry located =>
    split at located
    · cases located
      simp
    · cases located
  · rfl

namespace World

variable {σ : Type}

/-- Whether a binding is attached nowhere. -/
def Unattached (id : BindingId) (world : World σ) : Prop :=
  ∀ place, world.graph.writerAt? place ≠ some (.binding id)

/-- Whether a binding is retired and disabled and follows nothing. -/
def Over (id : BindingId) (world : World σ) : Prop :=
  ∃ binding, world.bindings[id]? = some binding ∧ binding.retired = true ∧
    binding.enabled = false ∧ binding.reads = .empty

/-- Whether all retired bindings are disabled and follow nothing. -/
def Spent (world : World σ) : Prop :=
  ∀ (id : BindingId) binding, world.bindings[id]? = some binding → binding.Spent

/-- Whether a binding is attached nowhere, if it was attached nowhere before. -/
def StaysUnattached (id : BindingId) (world later : World σ) : Prop :=
  world.Unattached id → later.Unattached id

theorem Onward.spent {world later : World σ} (onward : world.Onward none later)
    (spent : world.Spent) : later.Spent := by
  intro id binding found
  cases present : world.bindings[id]? with
  | none => exact onward.fresh id present binding found
  | some former =>
      rcases onward.bindings id former present with ⟨last, found', step⟩
      rw [found] at found'
      cases found'
      exact step.spent (spent id former present)

end World

namespace Engine

variable {σ : Type} {outside : Outside σ} {world : World σ} {host : Host σ}

/-! ## Retiring all writers of an object -/

/-- All bindings on a list of writers that are retired end up retired. -/
theorem retireAll_retires (code : outside.Keeps (World.Onward none)) {writers : List Writer}
    {id : BindingId} {binding : Binding} (listed : Writer.binding id ∈ writers)
    (found : world.bindings[id]? = some binding) :
    Ensures outside (retireAll writers) world fun _ after =>
      ∃ last, after.bindings[id]? = some last ∧ last.retired = true := by
  induction writers generalizing world binding with
  | nil => cases listed
  | cons writer rest step =>
      rcases List.mem_cons.mp listed with same | listed
      · subst same
        have first : Ensures outside (retireBinding id) world fun _ after =>
            after.bindings[id]? = some (retiredForm binding) := by
          refine (retireBinding_ends id).weaken fun _ after reached => ?_
          simp [reached.1, found]
        refine .bind _ first fun _ middle retired => ?_
        refine ((onward_staffing code).retireAll rest middle).weaken fun _ after onward => ?_
        rcases onward.bindings id _ retired with ⟨last, found, further⟩
        exact ⟨last, found, further.retired rfl⟩
      · refine .bind _ (retire_onward code writer world) fun _ middle onward => ?_
        rcases onward.bindings id binding found with ⟨between, found, _⟩
        exact step listed found

/-- A binding that is attached nowhere stays so, unless foreign code attaches it. -/
theorem retireAll_unattached {id : BindingId} {writers : List Writer}
    (aloof : ∀ other, Writer.host other ∈ writers →
      Keeps outside (World.StaysUnattached id) (retire (.host other))) :
    Keeps outside (World.StaysUnattached id) (retireAll writers) := by
  have steady : Steady (World.StaysUnattached (σ := σ) id) :=
    ⟨fun _ unattached => unattached, fun first second unattached => second (first unattached)⟩
  refine steady.retireAll fun writer listed => ?_
  cases writer with
  | binding other =>
      intro world
      refine (retireBinding_ends other).weaken fun _ middle reached unattached place => ?_
      rw [reached.2.1]
      exact unattached place
  | host other => exact aloof other listed

/-! ## Destruction -/

/-- Destruction of a living object succeeds, and whoever was attached there is over. -/
theorem destroy_ends (code : outside.Keeps (World.Onward none)) (tidy : world.Tidy)
    (spent : world.Spent) {object : ObjectId} (alive : world.graph.isAlive object = true) :
    Ensures outside (destroy object) world fun result after => result = true ∧
      ∀ id place, place.object = object →
        world.graph.writerAt? place = some (.binding id) → after.Over id := by
  refine .lookGraph ?_
  cases removal : world.graph.remove? object with
  | none =>
      rw [ObjectGraph.isAlive, Option.map_eq_none_iff.mp removal] at alive
      cases alive
  | some removed =>
      rcases removed with ⟨former, graph⟩
      let cleared : World σ :=
        { world with graph := graph, channels := world.channels.removeObject object }
      have retires : Ensures outside (retireAll former.writers.values) cleared fun _ after =>
          ∀ id place, place.object = object →
            world.graph.writerAt? place = some (.binding id) → after.Over id := by
        intro result after run id place same attached
        have listed : Writer.binding id ∈ former.writers.values := by
          rcases ObjectGraph.writer?_remove removal attached with stays | written
          · rw [same, ObjectGraph.writer?_of_removed removal] at stays
            cases stays
          · exact Entries.mem_values_of_get? written
        have known : cleared.bindings[id]? = some _ :=
          List.getElem?_eq_getElem (tidy.known place id attached)
        rcases retireAll_retires code listed known _ _ run with ⟨last, found, retired⟩
        have onward : cleared.Onward none after := (onward_staffing code).retireAll _ _ _ _ run
        rcases onward.spent spent id last found retired with ⟨disabled, empty⟩
        exact ⟨last, found, retired, disabled, empty⟩
      exact .change (.change (.bind _ retires fun _ _ ended => .value ⟨rfl, ended⟩))

/-- Who was attached to an object only is attached nowhere when the object is destroyed. -/
theorem destroy_unattached {object : ObjectId} (alive : world.graph.isAlive object = true)
    {id : BindingId}
    (only : ∀ place, world.graph.writerAt? place = some (.binding id) → place.object = object)
    (aloof : ∀ former, world.graph.object? object = some former →
      ∀ other, Writer.host other ∈ former.writers.values →
        Keeps outside (World.StaysUnattached id) (retire (.host other))) :
    Ensures outside (destroy object) world fun _ after => after.Unattached id := by
  refine .lookGraph ?_
  cases removal : world.graph.remove? object with
  | none =>
      rw [ObjectGraph.isAlive, Option.map_eq_none_iff.mp removal] at alive
      cases alive
  | some removed =>
      rcases removed with ⟨former, graph⟩
      have living := ObjectGraph.object?_of_remove removal
      refine .change (.change (.bind _ (retireAll_unattached (aloof former living) _)
        fun _ _ stays => .value (stays ?_)))
      intro place attached
      have before := ObjectGraph.writer?_of_remove removal attached
      have gone : graph.writerAt? place = none := by
        unfold ObjectGraph.writerAt?
        rw [only place before]
        exact ObjectGraph.writer?_of_removed removal place.slot
      rw [gone] at attached
      cases attached

theorem initial_spent (schema : Schema) (state : σ) : (World.initial schema state).Spent := by
  intro id binding found
  simp [World.initial] at found

/--
A binding that is attached to an object, or was installed there and has not left
since, is over when the object is destroyed, whatever the writers do that are
told.  If it is attached to that object only, it is attached nowhere any more,
unless the code of such a writer attaches it again.

A binding is installed on the object of its target if the target is no alias;
see `Binding.place_of_direct`.
-/
theorem destruction_retires (plain : host.Plain) {schema : Schema} {state : σ} {now : World σ}
    (reaches : Reaches host (.initial schema state) now) (present : now.hasGraph = true)
    {object : ObjectId} (alive : now.graph.isAlive object = true) {bound : Nat} {result : Bool}
    {after : World σ} (run : runWithin bound host (destroy object) now = some (result, after)) :
    result = true ∧ ∀ id place, place.object = object →
      now.graph.writerAt? place = some (.binding id) ∨ Installed host schema state now id place →
      after.Over id ∧
      ((∀ other, now.graph.writerAt? other = some (.binding id) → other.object = object) →
        (∀ former, now.graph.object? object = some former →
          ∀ other, Writer.host other ∈ former.writers.values →
            Keeps (Outside.within host bound) (World.StaysUnattached id) (retire (.host other))) →
        after.Unattached id) := by
  have code := within_onward plain bound
  have tidy := (reaches.later plain (initial_tidy schema state)).tidy
  have spent := (reaches.onward plain).spent (initial_spent schema state)
  rcases destroy_ends code tidy spent alive _ _ run with ⟨succeeds, ended⟩
  refine ⟨succeeds, fun id place same settled => ⟨?_, fun only aloof => ?_⟩⟩
  · have holds : now.Holds id place := by
      rcases settled with attached | installed
      · exact .inl attached
      · exact (installed.holds plain).2
    rcases holds with attached | gone | ⟨binding, found, retired⟩
    · exact ended id place same attached
    · rw [present] at gone
      cases gone
    · have onward := destroy_onward code object now _ _ run
      rcases onward.bindings id binding found with ⟨last, found', step⟩
      have retired' := step.retired retired
      rcases step.spent (spent id binding found) retired' with ⟨disabled, empty⟩
      exact ⟨last, found', retired', disabled, empty⟩
  · exact destroy_unattached alive only aloof _ _ run

/-! ## Panels that are destroyed -/

section Panel

/-- The panel when it has been destroyed. -/
def destroyedPanel : World Unit := panelAfter (destroy ⟨0, 0⟩) repointedPanel

theorem repointedPanel_reached :
    Reaches Host.silent (.initial panelSchema ()) repointedPanel := by
  rcases panel_installed with ⟨before, installed, _, _, earlier, _, _, installs, later⟩
  exact (earlier.step (.install 0) installs).append later

/-- The only binding of the panel is over when the panel is destroyed. -/
theorem panel_destruction_retires : Host.silent.Plain ∧
    Reaches Host.silent (.initial panelSchema ()) repointedPanel ∧
    repointedPanel.hasGraph = true ∧ repointedPanel.graph.isAlive ⟨0, 0⟩ = true ∧
    runWithin 3 Host.silent (destroy ⟨0, 0⟩) repointedPanel = some (true, destroyedPanel) ∧
    destroyedPanel.Over 0 ∧ destroyedPanel.Unattached 0 := by
  have retires := destruction_retires silent_plain repointedPanel_reached rfl rfl
    (rfl : runWithin 3 Host.silent (destroy ⟨0, 0⟩) repointedPanel = some (true, destroyedPanel))
  rcases retires.2 0 ⟨⟨0, 0⟩, ⟨1, none⟩⟩ rfl (.inr panel_installed) with ⟨ended, unattached⟩
  refine ⟨silent_plain, repointedPanel_reached, rfl, rfl, rfl, ended, unattached ?_ ?_⟩
  · intro place attached
    rcases Option.bind_eq_some_iff.mp attached with ⟨object, living, _⟩
    exact ObjectGraph.eq_of_single rfl living
  · exact fun _ _ _ _ => Steady.value ⟨fun _ same => same, fun first second same => second (first same)⟩ ()

/-- Two panels, the alias of the first on a flag of the second, and a binding of the alias. -/
def prepareTwoPanels : Attempt PropertyError Unit Unit := do
  let first ← Attempt.perform (create 0 none)
  let second ← Attempt.perform (create 0 none)
  setAlias ⟨first, 0⟩ ⟨second, 1⟩
  let id ← createBinding ⟨0, {}, .empty⟩ ⟨⟨first, 0⟩, none⟩
    (.function (.mk 0 "source" .none (.script [] (.member .this "source") [])))
    { this? := some second }
  install id

/-- The two panels with the binding installed. -/
def twoPanels : World Unit := panelAfter prepareTwoPanels.run (.initial panelSchema ())

/-- The panels when the first, which the binding is bound through, has been destroyed. -/
def secondPanel : World Unit := panelAfter (destroy ⟨0, 0⟩) twoPanels

/--
The binding of an alias is not retired with the object of the alias, and stays
the active writer of the property that the alias stood for.
-/
theorem aliased_writer_survives_destruction :
    runWithin 3 Host.silent (destroy ⟨0, 0⟩) twoPanels = some (true, secondPanel) ∧
    (secondPanel.bindings[0]?.map fun binding => (binding.target.object, binding.retired)) =
      some (⟨0, 0⟩, false) ∧
    secondPanel.graph.writerAt? ⟨⟨1, 0⟩, ⟨1, none⟩⟩ = some (.binding 0) :=
  ⟨rfl, rfl, rfl⟩

end Panel

end Engine

end PropertyBinding
