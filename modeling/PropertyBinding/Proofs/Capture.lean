import PropertyBinding.Proofs.Ending
import PropertyBinding.Proofs.Shape

namespace PropertyBinding

/-!
# What a tracked read does to the world

A read tells the collector its source and changes nothing else.  A binding that
collects gets an edge for a source it does not follow yet; a recorder gets the
source at the end of its list.  `Evaluates` says of a function that all it does
to the engine is such reads, besides taking new identities.
-/

namespace ObjectGraph

/-- The source that a read of a property tells of, and the value that it gives. -/
def found (graph : ObjectGraph) (ref : PropertyRef) : Except PropertyError (Source × Native) := do
  let target ← graph.resolve ref defaultAliasDepth
  let property ← graph.property target
  let value ← graph.stored target
  .ok (.property target.object property.signal, value)

/-- A read finds a value where the alias chain ends at a property. -/
theorem found_of_property {graph : ObjectGraph} {ref target : PropertyRef} {property : Property}
    (resolved : graph.resolve ref defaultAliasDepth = .ok target)
    (described : graph.property target = .ok property) :
    ∃ value, graph.stored target = .ok value ∧
      graph.found ref = .ok (.property target.object property.signal, value) := by
  have alive := isAlive_of_property described
  rcases Option.isSome_iff_exists.mp alive with ⟨object, living⟩
  have stored : ∃ value, graph.stored target = .ok value := by
    rw [stored, living]
    exact ⟨_, rfl⟩
  rcases stored with ⟨value, stored⟩
  refine ⟨value, stored, ?_⟩
  simp only [found, resolved, described, stored, bind, Except.bind]

theorem property_of_found {graph : ObjectGraph} {ref : PropertyRef} {source : Source}
    {value : Native} (found : graph.found ref = .ok (source, value)) :
    ∃ target property, graph.resolve ref defaultAliasDepth = .ok target ∧
      graph.property target = .ok property ∧ graph.stored target = .ok value ∧
        source = .property target.object property.signal := by
  cases resolved : graph.resolve ref defaultAliasDepth with
  | error error => simp [ObjectGraph.found, resolved, bind, Except.bind] at found
  | ok target =>
      cases described : graph.property target with
      | error error => simp [ObjectGraph.found, resolved, described, bind, Except.bind] at found
      | ok property =>
          rcases found_of_property resolved described with ⟨value', stored, found'⟩
          rw [found'] at found
          cases found
          exact ⟨target, property, rfl, described, stored, rfl⟩

/-- A read that finds nothing depends on how the graph answers about its shape only. -/
theorem found_error_iff {graph : ObjectGraph} {ref : PropertyRef} {error : PropertyError} :
    graph.found ref = .error error ↔
      (graph.resolve ref defaultAliasDepth >>= graph.property) = .error error := by
  cases resolved : graph.resolve ref defaultAliasDepth with
  | error other => simp [ObjectGraph.found, resolved, bind, Except.bind]
  | ok target =>
      cases described : graph.property target with
      | error other => simp [ObjectGraph.found, resolved, described, bind, Except.bind]
      | ok property =>
          rcases found_of_property resolved described with ⟨value, _, found⟩
          simp [found, bind, Except.bind, described]

end ObjectGraph

namespace World

variable {σ : Type}

/-- Makes a binding follow a source, unless it does already or is retired. -/
def follow (world : World σ) (id : BindingId) (source : Source) : World σ :=
  match world.bindings[id]? with
  | none => world
  | some binding =>
      if binding.retired || binding.reads.contains source then
        world
      else
        let (subscription, channels) := world.channels.subscribe source (.binding id)
        { world with
          channels := channels
          bindings := world.bindings.modify id fun binding =>
            { binding with
              reads := (binding.reads.insert? ⟨source, subscription⟩).getD binding.reads } }

/-- Tells the collector that a source is read. -/
def capture (world : World σ) (source : Source) : World σ :=
  match world.collector? with
  | none => world
  | some (.binding id) => world.follow id source
  | some (.recorder reads) => { world with collector? := some (.recorder (reads ++ [source])) }

/-- Tells the collector that some sources are read in turn. -/
def captureAll (world : World σ) (sources : List Source) : World σ :=
  sources.foldl capture world

theorem captureAll_append (world : World σ) (first second : List Source) :
    world.captureAll (first ++ second) = (world.captureAll first).captureAll second :=
  List.foldl_append

/-! ## What a read leaves as it is -/

variable (world : World σ) (source : Source) (sources : List Source)

/-- Everything but the channels, the bindings and the collector is as before a read. -/
theorem capture_frame :
    (world.capture source).graph = world.graph ∧
      (world.capture source).graphHolders = world.graphHolders ∧
      (world.capture source).notifiers = world.notifiers ∧
      (world.capture source).adapters = world.adapters ∧
      (world.capture source).diagnostics = world.diagnostics ∧
      (world.capture source).identities = world.identities ∧
      (world.capture source).warnings = world.warnings ∧
      (world.capture source).host = world.host := by
  unfold capture
  split
  · exact ⟨rfl, rfl, rfl, rfl, rfl, rfl, rfl, rfl⟩
  · unfold follow
    split
    · exact ⟨rfl, rfl, rfl, rfl, rfl, rfl, rfl, rfl⟩
    · split <;> exact ⟨rfl, rfl, rfl, rfl, rfl, rfl, rfl, rfl⟩
  · exact ⟨rfl, rfl, rfl, rfl, rfl, rfl, rfl, rfl⟩

theorem captureAll_frame :
    (world.captureAll sources).graph = world.graph ∧
      (world.captureAll sources).graphHolders = world.graphHolders ∧
      (world.captureAll sources).notifiers = world.notifiers ∧
      (world.captureAll sources).adapters = world.adapters ∧
      (world.captureAll sources).diagnostics = world.diagnostics ∧
      (world.captureAll sources).identities = world.identities ∧
      (world.captureAll sources).warnings = world.warnings ∧
      (world.captureAll sources).host = world.host := by
  induction sources generalizing world with
  | nil => exact ⟨rfl, rfl, rfl, rfl, rfl, rfl, rfl, rfl⟩
  | cons source rest step =>
      have first := world.capture_frame source
      have others := step (world.capture source)
      simp only [first] at others
      exact others

@[simp] theorem graph_captureAll : (world.captureAll sources).graph = world.graph :=
  (world.captureAll_frame sources).1

@[simp] theorem notifiers_captureAll : (world.captureAll sources).notifiers = world.notifiers :=
  (world.captureAll_frame sources).2.2.1

@[simp] theorem identities_captureAll : (world.captureAll sources).identities = world.identities :=
  (world.captureAll_frame sources).2.2.2.2.2.1

end World

namespace Engine

variable {σ : Type}

theorem follow_steps (world : World σ) (id : BindingId) (source : Source) :
    Steps (follow id source) world () (world.follow id source) := by
  intro outside
  cases found : world.bindings[id]? with
  | none => simp [follow, World.follow, found]
  | some binding =>
      by_cases skipped : binding.retired = true ∨ binding.reads.contains source = true
      · simp [follow, World.follow, found, skipped]
      · simp [follow, World.follow, found, skipped, subscribe]

theorem capture_steps (world : World σ) (source : Source) :
    Steps (capture source) world () (world.capture source) := by
  intro outside
  rcases found : world.collector? with _ | id | reads
  · simp [capture, World.capture, found]
  · simpa [capture, World.capture, found] using follow_steps world id source outside
  · simp [capture, World.capture, found]

theorem apply_ask {α β ε : Type} (question : ObjectGraph → Except ε α) (next : α → Attempt ε σ β)
    (outside : Outside σ) (world : World σ) :
    (Attempt.ask question >>= next).run outside world =
      match question world.graph with
      | .ok answer => (next answer).run outside world
      | .error error => some (.error error, world) := by
  show ExceptT.bindCont next (question world.graph) outside world = _
  cases question world.graph <;> rfl

theorem apply_perform {α β ε : Type} (operation : Engine σ α) (next : α → Attempt ε σ β)
    (outside : Outside σ) (world : World σ) :
    (Attempt.perform operation >>= next).run outside world =
      (operation outside world).bind fun out => (next out.1).run outside out.2 := by
  show ((operation outside world).bind fun out => some (Except.ok out.1, out.2)).bind
    (fun out => ExceptT.bindCont next out.1 outside out.2) = _
  cases operation outside world <;> rfl

/-- What comes after a beginning that succeeds goes on from where it ended. -/
theorem apply_attempt {α β ε : Type} {first : Attempt ε σ α} {given : α} {outside : Outside σ}
    {world middle : World σ} (next : α → Attempt ε σ β)
    (run : first.run outside world = some (.ok given, middle)) :
    (first >>= next).run outside world = (next given).run outside middle := by
  show (first.run outside world).bind _ = _
  rw [run]
  rfl

/-- A read of a property finds a value and tells of its source. -/
theorem read_steps (world : World σ) (ref : PropertyRef) :
    Steps (read ref).run world ((world.graph.found ref).map Prod.snd)
      (match world.graph.found ref with
        | .ok (source, _) => world.capture source
        | .error _ => world) := by
  intro outside
  rw [read, resolve, apply_ask]
  cases resolved : world.graph.resolve ref defaultAliasDepth with
  | error error => simp only [ObjectGraph.found, resolved, Bind.bind, Except.bind, Except.map]
  | ok target =>
      dsimp only
      rw [apply_ask]
      cases described : world.graph.property target with
      | error error =>
          simp only [ObjectGraph.found, resolved, described, Bind.bind, Except.bind, Except.map]
      | ok property =>
          rcases ObjectGraph.found_of_property resolved described with ⟨value, stored, found⟩
          have graph := (world.capture_frame (.property target.object property.signal)).1
          rw [found, Except.map, ← stored, ← graph]
          dsimp only
          rw [apply_perform, capture_steps world _ outside]
          rfl

section Reading

variable {foreign : Surroundings σ} {world : World σ} {ref : PropertyRef} {source : Source}
  {native : Native}

/-- A script that reads a property gets the script form of its value. -/
theorem readValue_steps (found : world.graph.found ref = .ok (source, native)) :
    Steps (readValue ref).run world (.ok (native.toValue.place world.identities).1)
      { world.capture source with identities := (native.toValue.place world.identities).2 } := by
  intro outside
  have frame := (world.capture_frame source).2.2.2.2.2.1
  have read := read_steps world ref outside
  rw [found] at read
  rw [readValue, apply_attempt _ read, ← frame]
  rfl

/-- A member of an object is read like the property. -/
theorem objectMember_steps {id : ObjectId} {name : String} {index : Nat}
    (indexed : world.graph.propertyIndex id name = .ok index)
    (found : world.graph.found ⟨id, index⟩ = .ok (source, native)) :
    Steps (Script.Evaluation.objectMember id name).run world
      (.ok (native.toValue.place world.identities).1)
      { world.capture source with identities := (native.toValue.place world.identities).2 } := by
  have alive : world.graph.isAlive id = true := by
    cases living : world.graph.classOf? id with
    | none =>
        rw [ObjectGraph.propertyIndex, ObjectGraph.classInfo, living] at indexed
        cases indexed
    | some classId => simp [ObjectGraph.isAlive_eq, living]
  intro outside
  rw [Script.Evaluation.objectMember, apply_perform]
  simp only [apply_graph, Option.bind_some, alive, if_true, indexed]
  show ((readValue _).run outside world).bind _ = _
  rw [readValue_steps found outside]
  rfl

/-- A member of `this` is read like the property. -/
theorem memberOfThis_steps {context : Script.CallContext} {locals : List (String × Value)}
    {id : ObjectId} {name : String} {index : Nat} (this : context.this? = some id)
    (indexed : world.graph.propertyIndex id name = .ok index)
    (found : world.graph.found ⟨id, index⟩ = .ok (source, native)) :
    Steps (Script.Evaluation.evaluate context locals (.member .this name)).run world
      (.ok (native.toValue.place world.identities).1)
      { world.capture source with identities := (native.toValue.place world.identities).2 } := by
  intro outside
  simp only [Script.Evaluation.evaluate, this]
  exact objectMember_steps indexed found outside

/-- A member of `this` is read like the property, whatever code is outside. -/
theorem memberOfThis_leads {context : Script.CallContext} {locals : List (String × Value)}
    {id : ObjectId} {name : String} {index : Nat} (this : context.this? = some id)
    (indexed : world.graph.propertyIndex id name = .ok index)
    (found : world.graph.found ⟨id, index⟩ = .ok (source, native)) :
    Leads foreign (Script.Evaluation.evaluate context locals (.member .this name)).run world
      fun result after =>
        result = .ok (native.toValue.place world.identities).1 ∧
          after = { world.capture source with
            identities := (native.toValue.place world.identities).2 } :=
  .of_steps (memberOfThis_steps this indexed found) ⟨rfl, rfl⟩

end Reading

end Engine

/-- What a function reads and gives in a world, when all it does to the engine is read. -/
def Evaluates {σ : Type} (host : Host σ) (callee : Function) (context : Script.CallContext)
    (world : World σ) (reads : List Source) (result : Except Script.Exception Boxed) : Prop :=
  ∃ identities state, Engine.Ends host.surroundings
    (Engine.foreign fun outside => outside.call callee context) world result
    { world.captureAll reads with identities := identities, host := state }

/-- A function evaluates as its code does. -/
theorem Evaluates.of_leads {σ : Type} {host : Host σ} {callee : Function}
    {context : Script.CallContext} {world : World σ} {reads : List Source}
    {condition : Except Script.Exception Boxed → Prop}
    (leads : Engine.Leads host.surroundings (host.callFunction callee context).run world
      fun result after => condition result ∧
        ∃ identities, after = { world.captureAll reads with identities := identities }) :
    ∃ result, condition result ∧ Evaluates host callee context world reads result := by
  rcases leads with ⟨result, after, ends, holds, identities, rfl⟩
  refine ⟨result, holds, identities, (world.captureAll reads).host, ends.foreign_of ?_⟩
  rintro bound outside rfl
  exact ⟨_, rfl, rfl⟩

end PropertyBinding
