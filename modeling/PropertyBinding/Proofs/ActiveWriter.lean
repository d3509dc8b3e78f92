import PropertyBinding.Proofs.OrderlyUpdate

namespace PropertyBinding

/-!
# The active writer of a property

A run of an engine is a sequence of programs, each put together from operations
of the engine; the code of its host is put together in the same way.  Through
every run a binding keeps the place it was installed at until it is out.  So two
bindings in office are never at one place, and an explicit write puts everyone
out of office who was installed at the property it resolves to, for good.

The place of a binding is found once, when it is installed, while its updates
store into whatever its target resolves to then.  An alias that is pointed
elsewhere in between parts the two, and the exact scope of the guarantees is
therefore the place, not the property that is written.
-/

/-- The writers attached at a property and at its fields. -/
def ObjectGraph.writersAt (graph : ObjectGraph) (ref : PropertyRef) : List Writer :=
  ((graph.object? ref.object).map (·.writersOf ref.index)).getD []

namespace Engine

variable {σ α : Type} {outside : Outside σ} {world : World σ} {host : Host σ}

/-! ## Programs -/

theorem Program.orderly {operation : Engine σ α} (program : Program operation)
    (code : outside.Orderly) : Orderly outside operation := by
  refine ((orderly_full code).program (fun graph holders bindings tidy =>
    .elsewhere tidy graph holders bindings) (fun id => (destroy_orderly code id).keeps)
    (fun id => (install_orderly code id).keeps) ?_ program).orderly
  intro id slot writer world result after run tidy
  have unbound : ∀ binding, Writer.host writer = .binding binding →
      binding < world.bindings.length := fun _ impossible => by cases impossible
  exact (attach_ends code tidy id slot (.host writer) unbound result after run).1

/-- However deep it nests, foreign code of a plain host is orderly. -/
theorem within_orderly (plain : host.Plain) (bound : Nat) :
    (Outside.within host bound).Orderly :=
  (within_keeps (fun _ code => orderly_full code.orderly)
    (fun _ code => plain.obeys.weaken fun program => (program.orderly code.orderly).keeps) bound).orderly

/-! ## Runs -/

theorem initial_tidy (schema : Schema) (state : σ) : (World.initial schema state).Tidy := by
  refine ⟨.empty schema, ?_⟩
  intro place id attached
  simp [World.initial, ObjectGraph.writerAt?, ObjectGraph.writer?, ObjectGraph.object?,
    ObjectGraph.empty] at attached

theorem Reaches.later {now : World σ} (plain : host.Plain) (tidy : world.Tidy)
    (reaches : Reaches host world now) : world.Later now := by
  induction reaches with
  | start => exact .refl tidy
  | step earlier program run step =>
      exact step.trans (program.orderly (within_orderly plain _) _ step.tidy _ _ run)

/-! ## Who is spared -/

/-- Whether a binding is retired or not as it was before. -/
def Spares (other : BindingId) (world after : World σ) : Prop :=
  (after.bindings[other]?).map (·.retired) = (world.bindings[other]?).map (·.retired)

/-- A change that leaves retirement alone, or that is made to another binding. -/
theorem spares_modify {id other : BindingId} (change : Binding → Binding) (world : World σ)
    (kept : id = other → ∀ binding, (change binding).retired = binding.retired) :
    Spares other world { world with bindings := world.bindings.modify id change } := by
  unfold Spares
  rw [List.getElem?_modify]
  by_cases same : id = other
  · simp [same, Option.map_map, Function.comp_def, kept same]
  · simp [same]

theorem retireAll_spares {writers : List Writer}
    (bindings : ∀ writer ∈ writers, ∃ id, writer = .binding id) {other : BindingId}
    (unlisted : Writer.binding other ∉ writers) :
    Keeps outside (Spares other) (retireAll writers : Engine σ Unit) := by
  have steady : Steady (Spares (σ := σ) other) :=
    ⟨fun _ => rfl, fun first second => Eq.trans second first⟩
  refine steady.retireAll fun writer listed world => ?_
  rcases bindings writer listed with ⟨id, rfl⟩
  have different : id ≠ other := by
    rintro rfl
    exact unlisted listed
  have spared := spares_modify retiredForm world fun same => absurd same different
  refine (retireBinding_ends id).weaken fun _ after reached => ?_
  unfold Spares at spared ⊢
  rw [reached.1]
  exact spared

/-- An explicit write retires no binding but those attached at the property. -/
theorem quietWrite_spares {ref target : PropertyRef}
    (resolved : world.graph.resolve ref defaultAliasDepth = .ok target)
    (bindings : ∀ writer ∈ world.graph.writersAt target, ∃ id, writer = .binding id)
    {other : BindingId} (unlisted : Writer.binding other ∉ world.graph.writersAt target)
    (value : Native) :
    Ensures outside (write ref value { bypass := true, quiet := true }).run world
      fun _ after => Spares other world after := by
  have relieves : Ensures outside (removeWriters target) world fun _ after =>
      Spares other world after := by
    refine .lookGraph ?_
    unfold ObjectGraph.writersAt at bindings unlisted
    cases living : world.graph.object? target.object with
    | none => exact .value rfl
    | some object =>
        rw [living] at bindings unlisted
        exact .change (retireAll_spares bindings unlisted _)
  have stores : ∀ (middle : World σ) signal cell unchanged, Spares other world middle →
      Ensures outside (store target signal cell unchanged { bypass := true, quiet := true }).run
        middle fun _ after => Spares other world after := by
    intro middle signal cell unchanged spared
    refine .performGraph (.choose (fun _ => .done (.change ?_)) fun _ => .value spared)
    simp only [Bool.not_true, Bool.and_false]
    exact .value spared
  refine .ask (fun found same => ?_) fun _ _ => rfl
  rw [resolved] at same
  cases same
  refine .ask (fun property _ => ?_) fun _ _ => rfl
  refine .choose (fun _ => ?_) fun _ => ?_
  · cases value with
    | script content =>
        refine .ask (fun property _ => ?_) fun _ _ => rfl
        refine .choose (fun _ => ?_) fun _ => .performGraph (.value rfl)
        exact .perform _ relieves fun _ middle spared => stores middle _ _ _ spared
    | _ => exact .value rfl
  · have looks : Ensures outside (requireFit property value).run world fun _ after =>
        after = world :=
      .choose (fun _ => .performGraph (.value rfl)) fun _ => .value rfl
    refine .attempt _ looks ?_ fun _ _ same => by rw [same]; rfl
    intro _ _ same
    subst same
    exact .perform _ relieves fun _ middle spared => stores middle _ _ _ spared

/-! ## Installations -/

/-- Whether a run from the start installed a binding, which then competed for a place. -/
def Installed (host : Host σ) (schema : Schema) (state : σ) (now : World σ) (id : BindingId)
    (place : Place) : Prop :=
  ∃ before after binding bound, Reaches host (.initial schema state) before ∧
    before.bindings[id]? = some binding ∧ binding.place before.graph = place ∧
    runWithin bound host (install id).run before = some (.ok (), after) ∧
    Reaches host after now

/-- Whether a binding is out for good and has not been evaluated between two worlds. -/
def Dismissed (world later : World σ) (id : BindingId) : Prop :=
  later.hasGraph = false ∨ ∃ former binding, world.bindings[id]? = some former ∧
    later.bindings[id]? = some binding ∧ former.retired = true ∧ binding.retired = true ∧
    binding.evaluations = former.evaluations

theorem dismissed_of_out {later : World σ} (step : world.Later later) {id : BindingId}
    (out : world.IsOut id) : Dismissed world later id := by
  rcases out with gone | ⟨former, found, retired⟩
  · exact .inl (step.gone gone)
  · rcases step.bindings id former found with ⟨binding, found', precedes⟩
    rcases precedes.retired retired with ⟨retired', evaluations⟩
    exact .inr ⟨former, binding, found, found', retired, retired', evaluations⟩

theorem Installed.holds (plain : host.Plain) {schema : Schema} {state : σ} {now : World σ}
    {id : BindingId} {place : Place} (installed : Installed host schema state now id place) :
    now.Tidy ∧ now.Holds id place := by
  rcases installed with ⟨before, after, binding, bound, earlier, found, rfl, installs, later⟩
  have tidy := (earlier.later plain (initial_tidy schema state)).tidy
  rcases install_ends (within_orderly plain bound) tidy id _ _ installs with ⟨step, held⟩
  have rest := later.later plain step.tidy
  exact ⟨rest.tidy, rest.holds id _ (held rfl binding found)⟩

/--
One active writer for each place, and so for each property as far as no alias is
pointed elsewhere in between.  A binding that a run installed is attached to the
place its target resolved to then, until it is out.  Where the targets of two
that are not out meet, one of them resolves elsewhere than it did when it was
installed.  An explicit write that succeeds dismisses whoever was installed at
the property it resolves to.  It need not retire anyone else: with no host code
to run, it spares all bindings that are not attached there, whatever their
targets resolve to by now.
-/
theorem one_active_writer (plain : host.Plain) {schema : Schema} {state : σ} {now : World σ}
    {id : BindingId} {place : Place} (installed : Installed host schema state now id place) :
    (now.graph.writerAt? place = some (.binding id) ∨ now.IsOut id) ∧
    (∀ other otherPlace, Installed host schema state now other otherPlace → other ≠ id →
      ¬now.IsOut id → ¬now.IsOut other → ∀ binding otherBinding,
      now.bindings[id]? = some binding → now.bindings[other]? = some otherBinding →
      binding.place now.graph = otherBinding.place now.graph →
      binding.place now.graph ≠ place ∨ otherBinding.place now.graph ≠ otherPlace) ∧
    (∀ ref operation bound written, Explicit now.graph ref operation →
      runWithin bound host operation.run now = some (.ok (), written) →
      ∃ target, now.graph.resolve ref defaultAliasDepth = .ok target ∧
        (place.Of target → ∀ last, Reaches host written last → Dismissed written last id)) ∧
    (∀ ref value bound result written,
      runWithin bound host (write ref value { bypass := true, quiet := true }).run now =
        some (result, written) →
      ∀ target, now.graph.resolve ref defaultAliasDepth = .ok target →
        (∀ writer ∈ now.graph.writersAt target, ∃ id, writer = .binding id) →
        Writer.binding id ∉ now.graph.writersAt target → Spares id now written) := by
  rcases installed.holds plain with ⟨tidy, holds⟩
  refine ⟨holds, ?_, ?_, ?_⟩
  · intro other otherPlace rival different stays otherStays binding otherBinding _ _ meet
    have attached := holds.resolve_right stays
    have otherAttached := (rival.holds plain).2.resolve_right otherStays
    rcases Classical.em (binding.place now.graph = place) with same | moved
    · right
      intro otherSame
      rw [← same, meet, otherSame, otherAttached] at attached
      cases attached
      exact different rfl
    · exact .inl moved
  · intro ref operation bound written explicit run
    have code := within_orderly plain bound
    have orderly : Orderly (Outside.within host bound) operation.run := by
      cases explicit with
      | write explicit => exact write_orderly code ref _ _
      | writeVar explicit => exact writeVar_orderly code ref _ _
      | reset explicit => exact reset_orderly code ref _
      | assign => exact assign_orderly code ref _
      | assignNamed named => exact assignNamed_orderly code _ _ _
    have step := orderly now tidy _ _ run
    rcases explicit_relieves code tidy explicit _ _ run rfl with ⟨target, resolved, relieved⟩
    refine ⟨target, resolved, fun belongs last reaches => ?_⟩
    exact dismissed_of_out (reaches.later plain step.tidy) (relieved id place belongs holds)
  · intro ref value bound result written run target resolved bindings unlisted
    exact quietWrite_spares resolved bindings unlisted value _ _ run

/-! ## A panel -/

section Panel

/-- A class with an alias, two flags to point it at, and a flag to follow. -/
def panelSchema : Schema :=
  Schema.empty.defineClass "Panel" none [.aliased "shown" .bool, .native "first" .bool,
    .native "second" .bool, .native "source" .bool]

/-- A property of the panel. -/
def panelRef (index : Nat) : PropertyRef := ⟨⟨0, 0⟩, index⟩

/-- Makes a panel with the alias on the first flag, and a binding of the alias to the source. -/
def preparePanel : Attempt PropertyError Unit BindingId := do
  let panel ← Attempt.perform (create 0 none)
  setAlias (panelRef 0) (panelRef 1)
  createBinding ⟨0, {}, .empty⟩ ⟨panelRef 0, none⟩
    (.function (.mk 0 "source" .none (.script [] (.member .this "source") [])))
    { this? := some panel }

/-- Enables the binding and points the alias at the second flag. -/
def repointPanel : Attempt PropertyError Unit Unit := do
  Attempt.perform (setEnabled 0 true (some .none))
  setAlias (panelRef 0) (panelRef 2)

/-- The world after an operation. -/
def panelAfter {α : Type} (operation : Engine Unit α) (world : World Unit) : World Unit :=
  ((runWithin 3 Host.silent operation world).map Prod.snd).getD world

/-- The panel with its binding. -/
def boundPanel : World Unit := panelAfter preparePanel.run (.initial panelSchema ())

/-- The panel with its binding installed. -/
def installedPanel : World Unit := panelAfter (install 0).run boundPanel

/-- The panel with its alias pointed elsewhere after the binding was installed. -/
def repointedPanel : World Unit := panelAfter repointPanel.run installedPanel

/-- The panel after an explicit write of the second flag. -/
def writtenPanel : World Unit :=
  panelAfter (write (panelRef 2) (.bool false) .none).run repointedPanel

/-- The panel after a later change of the source. -/
def changedPanel : World Unit :=
  panelAfter (write (panelRef 3) (.bool true) .none).run writtenPanel

theorem silent_plain : Host.silent.Plain where
  call _ _ := .value _
  callTyped _ _ := .value _
  intercept _ _ _ := .value _
  announce _ := .value _
  handle _ _ := .value _
  retire _ := .value _

theorem panel_installed : Installed Host.silent panelSchema () repointedPanel 0
    ⟨⟨0, 0⟩, ⟨1, none⟩⟩ := by
  have prepares : Program preparePanel.run :=
    .perform (.create 0 none) fun _ => .attempt (.setAlias _ _) fun _ => .createBinding _ _ _ _
  have repoints : Program repointPanel.run :=
    .perform (.setEnabled 0 true _) fun _ => .setAlias _ _
  have run : runWithin 3 Host.silent preparePanel.run (.initial panelSchema ()) =
      some (.ok 0, boundPanel) := rfl
  have rerun : runWithin 3 Host.silent repointPanel.run installedPanel =
      some (.ok (), repointedPanel) := rfl
  exact ⟨boundPanel, installedPanel, _, 3, .step (.start _) prepares run, rfl, rfl, rfl,
    .step (.start _) repoints rerun⟩

/-- The binding keeps the place it was installed at when its alias is pointed elsewhere. -/
theorem repointed_writer_stays : Host.silent.Plain ∧
    (repointedPanel.graph.writerAt? ⟨⟨0, 0⟩, ⟨1, none⟩⟩ = some (.binding 0) ∨
      repointedPanel.IsOut 0) :=
  ⟨silent_plain, (one_active_writer silent_plain panel_installed).1⟩

/--
An explicit write of the flag that the alias points at by now succeeds, and the
next change of the source stores into that flag again.
-/
theorem repointed_writer_survives_write :
    Installed Host.silent panelSchema () repointedPanel 0 ⟨⟨0, 0⟩, ⟨1, none⟩⟩ ∧
    Explicit repointedPanel.graph (panelRef 2)
      (write (panelRef 2) (.bool false) .none : Attempt PropertyError Unit Unit) ∧
    runWithin 3 Host.silent (write (panelRef 2) (.bool false) .none).run repointedPanel =
      some (.ok (), writtenPanel) ∧
    writtenPanel.graph.peek (panelRef 2) defaultAliasDepth = .ok (.bool false) ∧
    runWithin 3 Host.silent (write (panelRef 3) (.bool true) .none).run writtenPanel =
      some (.ok (), changedPanel) ∧
    changedPanel.graph.peek (panelRef 2) defaultAliasDepth = .ok (.bool true) :=
  ⟨panel_installed, .write rfl, rfl, rfl, rfl, rfl⟩

end Panel

end Engine

end PropertyBinding
