import PropertyBinding.Proofs.Office

namespace PropertyBinding
namespace Engine

/-!
# Vetted installations

All operations but installation and attachment leave a staffed world staffed.  A
program is careful when it installs only bindings that may be installed, and a
host when its code is put together in the same way.  Whatever careful programs
and a careful host do, no attached binding is ever retired.
-/

variable {σ α β ε : Type} {outside : Outside σ} {world : World σ} {host : Host σ}

/-! ## All other operations -/

theorem staffed_chores (code : outside.Keeps World.StaysStaffed) :
    Chores outside (World.StaysStaffed (σ := σ)) where
  toSteady := staffed_steady
  code := code
  elsewhere _ graph _ bindings staffed := staffed.elsewhere graph bindings
  object world id change kept staffed := by
    have same : ∀ place, (world.graph.update id change).writerAt? place =
        world.graph.writerAt? place :=
      fun place => world.graph.writer?_update_of_kept id place.object kept place.slot
    refine staffed.transfer (staffed.vacant.update id change) (staffed.clear.update id ?_) ?_
      (Nat.le_refl _) ?_
    · intro object living
      rw [kept]
      exact staffed.clear.object living
    · intro place writer attached
      rwa [same] at attached
    · intro _ _ former binding _ found found' active
      rw [found] at found'
      cases found'
      exact active
  slight world id change slight staffed :=
    staffed.modify id (.inr fun binding found => (slight binding found).retired)
  relieve := removeWriters_staffed

theorem staffed_upkeep (code : outside.Keeps World.StaysStaffed) :
    Upkeep outside (World.StaysStaffed (σ := σ)) :=
  (staffed_chores code).upkeep

/-- With the last holder all writers go. -/
theorem releaseGraph_staffed (code : outside.Keeps World.StaysStaffed) :
    Keeps outside World.StaysStaffed (releaseGraph : Engine σ Unit) := by
  refine (staffed_upkeep code).discreet.releaseGraph (fun _ staffed => staffed.elsewhere rfl rfl) ?_
  intro world _ staffed
  refine staffed.transfer ⟨.nil, by simp [ObjectGraph.empty]⟩ (fun _ member => by cases member)
    ?_ (Nat.le_refl _) ?_
  · intro place writer attached
    simp [ObjectGraph.writerAt?, ObjectGraph.writer?, ObjectGraph.object?, ObjectGraph.empty]
      at attached
  · intro _ _ former binding _ found found' active
    rw [found] at found'
    cases found'
    exact active

theorem staffed_full (code : outside.Keeps World.StaysStaffed) :
    FullUpkeep outside (World.StaysStaffed (σ := σ)) where
  toUpkeep := staffed_upkeep code
  create classId name? := by
    refine fun world => .lookGraph (.change (.value fun staffed => ?_))
    refine staffed.transfer (staffed.vacant.create classId name?)
      (staffed.clear.create classId name?) ?_ (Nat.le_refl _) ?_
    · exact fun place writer attached => ObjectGraph.writer?_of_create staffed.vacant attached
    · intro _ _ former binding _ found found' active
      rw [found] at found'
      cases found'
      exact active
  detach := detach_staffed
  releaseGraph := releaseGraph_staffed code
  update id flags := by
    have works : Works (World.StaysStaffed (σ := σ)) id := fun _ _ worked staffed =>
      staffed.modify id (.inr fun binding _ => (worked binding).retired)
    refine (staffed_upkeep code).update (fun _ _ staffed => staffed.elsewhere rfl rfl)
      (releaseGraph_staffed code) ?_ flags
    intro world binding flags _ _ _
    refine (staffed_upkeep code).runUpdate works (fun _ staffed => ?_) binding flags world
    exact staffed.modify id (.inr fun _ _ => rfl)
  append world binding _ _ _ staffed := by
    refine staffed.transfer staffed.vacant staffed.clear (fun _ _ attached => attached) (by simp) ?_
    intro _ id former current _ found found' active
    rw [List.getElem?_append_left (List.getElem?_eq_some_iff.mp found).1, found] at found'
    cases found'
    exact active
  switch world id binding enabled _ _ staffed := staffed.modify id (.inr fun _ _ => rfl)

/-! ## Careful programs -/

/-- Installs a binding if it may be installed. -/
def installVetted (id : BindingId) : Attempt PropertyError σ Unit := do
  let world ← Attempt.perform get
  if world.mayInstall id then
    install id

theorem installVetted_staffed (id : BindingId) :
    Keeps outside World.StaysStaffed (installVetted id : Attempt PropertyError σ Unit).run := by
  refine fun world => staying fun staffed => .performLook (.choose (fun may => ?_) fun _ => ?_)
  · exact install_staffed staffed (World.mayInstall_sound may)
  · exact .value staffed

/-- A new binding is not retired, and in no place. -/
theorem createBinding_ends (staffed : world.Staffed) (context : BindingContext)
    (target : BindingTarget) (expression : BindingExpression) (options : BindingOptions) :
    Ensures outside (createBinding context target expression options).run world fun outcome after =>
      after.Staffed ∧ ∀ id, outcome = .ok id → after.MayInstall id := by
  refine .ask (fun property _ => .done ?_) fun _ _ => ⟨staffed, fun _ impossible => by cases impossible⟩
  refine .bind (fun _ after => after.graph = world.graph ∧ after.bindings = world.bindings)
    (.look (.change (.value ⟨rfl, rfl⟩))) ?_
  rintro adapter middle ⟨graph, bindings⟩
  refine .look (.change (.value ⟨?_, fun id made binding found => ?_⟩))
  · refine staffed.transfer (graph ▸ staffed.vacant) (graph ▸ staffed.clear) ?_ ?_ ?_
    · intro place writer attached
      rwa [graph] at attached
    · simp [bindings]
    · intro _ id former current _ found found' active
      rw [bindings, List.getElem?_append_left (List.getElem?_eq_some_iff.mp found).1, found]
        at found'
      cases found'
      exact active
  · cases made
    rw [List.getElem?_concat_length] at found
    cases found
    refine ⟨rfl, .inl fun place attached => ?_⟩
    rw [graph] at attached
    have known := staffed.known place _ attached
    rw [bindings] at known
    exact Nat.lt_irrefl _ known

theorem bind_staffed (code : outside.Keeps World.StaysStaffed) (context : BindingContext)
    (object : ObjectId) (path : String) (expression : BindingExpression) :
    Keeps outside World.StaysStaffed
      (bind context object path expression : Attempt PropertyError σ BindingId).run := by
  refine fun world => staying fun staffed => .ask (fun target _ => ?_) fun _ _ => staffed
  refine .attempt _ (createBinding_ends staffed context target expression {}) ?_ ?_
  · rintro id middle ⟨staffed, may⟩
    refine .attempt _ (install_staffed staffed (may id rfl)) ?_ fun _ _ staffed => staffed
    intro _ after staffed
    refine .perform _ ((staffed_full code).setEnabled id true (some .none) after) ?_
    exact fun _ _ kept => .value (kept staffed)
  · exact fun _ _ reached => reached.1

/--
Code that is put together from operations of the engine, with all writers
bindings that are made with their installation or vetted before it.
-/
inductive Careful : {α : Type} → Engine σ α → Prop
  | value {α : Type} (result : α) : Careful (pure result)
  | sequence {α β : Type} {operation : Engine σ α} {next : α → Engine σ β}
      (first : Careful operation) (second : ∀ result, Careful (next result)) :
      Careful (operation >>= next)
  | get : Careful get
  | elsewhere {change : World σ → World σ}
      (same : ∀ world : World σ, (change world).graph = world.graph ∧
        (change world).graphHolders = world.graphHolders ∧
        (change world).bindings = world.bindings) : Careful (modify change)
  | invoke (callee : Function) (context : Script.CallContext) :
      Careful (Script.Evaluation.invoke callee context).run
  | announce (source : Source) : Careful (announce source)
  | create (classId : ClassId) (name? : Option String) : Careful (create classId name?)
  | destroy (id : ObjectId) : Careful (destroy id)
  | setAlias (ref target : PropertyRef) : Careful (setAlias ref target).run
  | read (ref : PropertyRef) : Careful (read ref).run
  | readNotifier (id : NotifierId) : Careful (readNotifier id)
  | assignNotifier (id : NotifierId) (value : Value) : Careful (assignNotifier id value)
  | write (ref : PropertyRef) (value : Native) (flags : WriteFlags) :
      Careful (write ref value flags).run
  | writeVar (ref : PropertyRef) (value : Value) (flags : WriteFlags) :
      Careful (writeVar ref value flags).run
  | reset (ref : PropertyRef) (flags : WriteFlags) : Careful (reset ref flags).run
  | assign (ref : PropertyRef) (value : Native) : Careful (assign ref value).run
  | assignNamed (id : ObjectId) (name : String) (value : Native) :
      Careful (assignNamed id name value).run
  | installInterceptor (ref : PropertyRef) (id : HostId) : Careful (installInterceptor ref id).run
  | removeInterceptor (ref : PropertyRef) : Careful (removeInterceptor ref)
  | detach (id : ObjectId) (slot : WriterSlot) : Careful (detach id slot)
  | createBinding (context : BindingContext) (target : BindingTarget)
      (expression : BindingExpression) (options : BindingOptions) :
      Careful (createBinding context target expression options).run
  | install (id : BindingId) : Careful (installVetted id).run
  | bind (context : BindingContext) (object : ObjectId) (path : String)
      (expression : BindingExpression) : Careful (bind context object path expression).run
  | setEnabled (id : BindingId) (enabled : Bool) (flags? : Option WriteFlags) :
      Careful (setEnabled id enabled flags?)
  | update (id : BindingId) (flags : WriteFlags) : Careful (update id flags)
  | refreshFastPath (id : BindingId) : Careful (refreshFastPath id)
  | reportPending (id : BindingId) : Careful (reportPending id)
  | retain (id : BindingId) : Careful (retain id)
  | release (id : BindingId) : Careful (release id)
  | releaseGraph : Careful releaseGraph

theorem Careful.attempt {operation : Attempt ε σ α} {next : α → Attempt ε σ β}
    (first : Careful operation.run) (second : ∀ result, Careful (next result).run) :
    Careful (operation >>= next).run := by
  refine .sequence first fun outcome => ?_
  cases outcome with
  | ok result => exact second result
  | error error => exact .value (Except.error error)

theorem Careful.perform {operation : Engine σ α} {next : α → Attempt ε σ β}
    (first : Careful operation) (second : ∀ result, Careful (next result).run) :
    Careful (Attempt.perform operation >>= next).run :=
  .attempt (.sequence first fun result => .value (Except.ok result)) second

theorem Careful.staffed (code : outside.Keeps World.StaysStaffed) {operation : Engine σ α}
    (careful : Careful operation) : Keeps outside World.StaysStaffed operation := by
  have upkeep := staffed_full code
  induction careful with
  | value result => exact upkeep.value result
  | sequence _ _ step steps => exact upkeep.toSteady.bind step steps
  | get => exact upkeep.get
  | elsewhere same => exact Steady.change fun world staffed =>
      staffed.elsewhere (same world).1 (same world).2.2
  | invoke callee context => exact code.call callee context
  | announce source => exact upkeep.outspoken.announce source
  | create classId name? => exact upkeep.create classId name?
  | destroy id => exact destroy_staffed id
  | setAlias ref target => exact upkeep.setAlias ref target
  | read ref => exact upkeep.read ref
  | readNotifier id => exact upkeep.readNotifier id
  | assignNotifier id value => exact upkeep.assignNotifier id value
  | write ref value flags => exact upkeep.write ref value flags
  | writeVar ref value flags => exact upkeep.writeVar ref value flags
  | reset ref flags => exact upkeep.reset ref flags
  | assign ref value => exact upkeep.assign ref value
  | assignNamed id name value => exact upkeep.assignNamed id name value
  | installInterceptor ref id => exact upkeep.installInterceptor ref id
  | removeInterceptor ref => exact upkeep.removeInterceptor ref
  | detach id slot => exact upkeep.detach id slot
  | createBinding context target expression options =>
      exact upkeep.createBinding context target expression options
  | install id => exact installVetted_staffed id
  | bind context object path expression => exact bind_staffed code context object path expression
  | setEnabled id enabled flags? => exact upkeep.setEnabled id enabled flags?
  | update id flags => exact upkeep.update id flags
  | refreshFastPath id => exact upkeep.refreshFastPath id
  | reportPending id => exact upkeep.reportPending id
  | retain id => exact upkeep.retain id
  | release id => exact upkeep.release id
  | releaseGraph => exact upkeep.releaseGraph

/-- However deep it nests, the code of a careful host leaves a staffed world staffed. -/
theorem within_staffed (careful : host.Obeys Careful) (bound : Nat) :
    (Outside.within host bound).Keeps World.StaysStaffed :=
  within_keeps (fun _ code => staffed_full code) (fun _ code => careful.weaken (Careful.staffed code))
    bound

/-- Whether a run of careful programs leads from one world to another. -/
inductive CarefullyReaches (host : Host σ) : World σ → World σ → Prop
  | start (world : World σ) : CarefullyReaches host world world
  | step {world middle later : World σ} {α : Type} {operation : Engine σ α} {bound : Nat}
      {result : α} (earlier : CarefullyReaches host world middle) (careful : Careful operation)
      (run : runWithin bound host operation middle = some (result, later)) :
      CarefullyReaches host world later

theorem CarefullyReaches.staffed (careful : host.Obeys Careful) {now : World σ}
    (reaches : CarefullyReaches host world now) : world.StaysStaffed now := by
  induction reaches with
  | start => exact fun staffed => staffed
  | step earlier program run step =>
      exact fun staffed => program.staffed (within_staffed careful _) _ _ _ run (step staffed)

theorem initial_staffed (schema : Schema) (state : σ) : (World.initial schema state).Staffed where
  toTidy := initial_tidy schema state
  clear _ member := by cases member
  bindings place writer attached := by
    simp [World.initial, ObjectGraph.writerAt?, ObjectGraph.writer?, ObjectGraph.object?,
      ObjectGraph.empty] at attached
  single first second id attached := by
    simp [World.initial, ObjectGraph.writerAt?, ObjectGraph.writer?, ObjectGraph.object?,
      ObjectGraph.empty] at attached
  active place id binding attached := by
    simp [World.initial, ObjectGraph.writerAt?, ObjectGraph.writer?, ObjectGraph.object?,
      ObjectGraph.empty] at attached

/--
The active writer of a place is alive, and has no other place, as long as new
writers are vetted.  That is just what the vetting is for: an installation that
succeeds leaves the writers so if and only if the binding is not retired and not
attached elsewhere.
-/
theorem active_writers_alive (careful : host.Obeys Careful) {schema : Schema} {state : σ}
    {now : World σ} (reaches : CarefullyReaches host (.initial schema state) now) :
    (∀ place writer, now.graph.writerAt? place = some writer →
      ∃ id binding, writer = .binding id ∧ now.bindings[id]? = some binding ∧
        binding.retired = false ∧
        ∀ other, now.graph.writerAt? other = some (.binding id) → other = place) ∧
    ∀ id bound after, runWithin bound host (install id).run now = some (.ok (), after) →
      (after.Staffed ↔ now.MayInstall id) := by
  have staffed := reaches.staffed careful (initial_staffed schema state)
  refine ⟨fun place writer attached => ?_, fun id bound after run => ⟨fun kept => ?_, fun may => ?_⟩⟩
  · rcases staffed.bindings place writer attached with ⟨id, rfl⟩
    have found := List.getElem?_eq_getElem (staffed.known place id attached)
    refine ⟨id, _, rfl, found, staffed.active place id _ attached found, fun other attached' => ?_⟩
    exact staffed.single other place id attached' attached
  · exact mayInstall_of_install staffed id _ _ run rfl kept
  · exact install_staffed staffed may _ _ run

/-! ## A panel with vetted writers -/

section Panel

/-- The panel with its binding installed after it was vetted. -/
def vettedPanel : World Unit := panelAfter (installVetted 0).run boundPanel

theorem silent_careful : Host.silent.Obeys Careful :=
  ⟨fun _ _ => .value _, fun _ _ => .value _, fun _ _ _ => .value _, fun _ => .value _,
    fun _ _ => .value _, fun _ => .value _⟩

theorem vettedPanel_reached :
    CarefullyReaches Host.silent (.initial panelSchema ()) vettedPanel := by
  have prepares : Careful preparePanel.run :=
    .perform (.create 0 none) fun _ => .attempt (.setAlias _ _) fun _ => .createBinding _ _ _ _
  have run : runWithin 3 Host.silent preparePanel.run (.initial panelSchema ()) =
      some (.ok 0, boundPanel) := rfl
  have installs : runWithin 3 Host.silent (installVetted 0).run boundPanel =
      some (.ok (), vettedPanel) := rfl
  exact .step (.step (.start _) prepares run) (.install 0) installs

/-- The active writer of the first flag is alive. -/
theorem vetted_panel_writer_alive : Host.silent.Obeys Careful ∧
    CarefullyReaches Host.silent (.initial panelSchema ()) vettedPanel ∧
    vettedPanel.graph.writerAt? ⟨⟨0, 0⟩, ⟨1, none⟩⟩ = some (.binding 0) ∧
    ∃ id binding, Writer.binding 0 = .binding id ∧ vettedPanel.bindings[id]? = some binding ∧
      binding.retired = false ∧ ∀ other,
        vettedPanel.graph.writerAt? other = some (.binding id) → other = ⟨⟨0, 0⟩, ⟨1, none⟩⟩ :=
  ⟨silent_careful, vettedPanel_reached, rfl,
    (active_writers_alive silent_careful vettedPanel_reached).1 _ _ rfl⟩

/-- Retires the binding by an explicit write, installs another in its place, and then the first again. -/
def reinstallRetired : Attempt PropertyError Unit Unit := do
  write (panelRef 1) (.bool true) .none
  let rival ← createBinding ⟨0, {}, .empty⟩ ⟨panelRef 1, none⟩
    (.function (.mk 0 "source" .none (.script [] (.member .this "source") [])))
    { this? := some ⟨0, 0⟩ }
  install rival
  install 0

/-- The panel with the retired binding in the place of the working one. -/
def misstaffedPanel : World Unit := panelAfter reinstallRetired.run vettedPanel

/-- Without vetting, a retired binding takes the place of a working one and retires it. -/
theorem unvetted_writer_dead :
    runWithin 3 Host.silent reinstallRetired.run vettedPanel = some (.ok (), misstaffedPanel) ∧
    misstaffedPanel.graph.writerAt? ⟨⟨0, 0⟩, ⟨1, none⟩⟩ = some (.binding 0) ∧
    misstaffedPanel.bindings.map (·.retired) = [true, true] :=
  ⟨rfl, rfl, rfl⟩

end Panel

end Engine

end PropertyBinding
