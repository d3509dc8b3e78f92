import PropertyBinding.Proofs.Capture
import PropertyBinding.Proofs.Looking
import PropertyBinding.Proofs.Renaming

namespace PropertyBinding

/-!
# What a tracked operation depends on

An operation is tracked when all that its end depends on is the shape of the
graph, the next identity, and what the sources that it tells the collector of
hold.  So it has the same end in every world that agrees with the first on
these, whatever else the two worlds hold.  Expressions are tracked: there is
one lemma for each way in which an evaluation looks at the world, and an
induction over the syntax puts them together.

The two runs are under code of their own.  Where the code of the first run has
no result the lemmas say nothing, so a host without results in the first run
stands for a run that does not reach host code.
-/

/-- Whether a source holds the same in two worlds. -/
def World.AgreesAt {σ : Type} (world other : World σ) : Source → Prop
  | .property object signal =>
      ∀ index property, world.graph.property ⟨object, index⟩ = .ok property →
        property.signal = signal →
          world.graph.stored ⟨object, index⟩ = other.graph.stored ⟨object, index⟩
  | .notifier id =>
      (world.notifiers[id]?).map (·.value) = (other.notifiers[id]?).map (·.value)

/-- Whether some sources hold the same in two worlds. -/
def World.AgreesOn {σ : Type} (world other : World σ) (sources : List Source) : Prop :=
  ∀ source ∈ sources, world.AgreesAt other source

namespace World

variable {σ : Type} {world other : World σ}

theorem follow_identities (world : World σ) (identities : Nat) (id : BindingId)
    (source : Source) :
    { world with identities := identities }.follow id source =
      { world.follow id source with identities := identities } := by
  unfold follow
  cases world.bindings[id]? with
  | none => rfl
  | some binding =>
      by_cases skipped : (binding.retired || binding.reads.contains source) = true
      · simp only [skipped, if_true]
      · simp only [skipped]
        rfl

theorem capture_identities (world : World σ) (identities : Nat) (source : Source) :
    { world with identities := identities }.capture source =
      { world.capture source with identities := identities } := by
  rcases world with ⟨_, _, _, _, _, _, _, collector?, _, _, _⟩
  cases collector? with
  | none => rfl
  | some collector =>
      cases collector with
      | binding id => exact follow_identities _ identities id source
      | recorder reads => rfl

/-- Reads that happen under another next identity. -/
theorem captureAll_identities (world : World σ) (identities : Nat) (sources : List Source) :
    { world with identities := identities }.captureAll sources =
      { world.captureAll sources with identities := identities } := by
  induction sources generalizing world with
  | nil => rfl
  | cons source rest step =>
      have rests := step (world.capture source)
      rw [← capture_identities] at rests
      exact rests

/-- Agreement is about the graph and the notifiers. -/
theorem AgreesOn.congr {world' other' : World σ} {sources : List Source}
    (agrees : world.AgreesOn other sources) (graph : world'.graph = world.graph)
    (notifiers : world'.notifiers = world.notifiers) (otherGraph : other'.graph = other.graph)
    (otherNotifiers : other'.notifiers = other.notifiers) : world'.AgreesOn other' sources := by
  intro source member
  have agree := agrees source member
  cases source with
  | property object signal =>
      unfold AgreesAt at agree ⊢
      rw [graph, otherGraph]
      exact agree
  | notifier id =>
      unfold AgreesAt at agree ⊢
      rw [notifiers, otherNotifiers]
      exact agree

theorem AgreesOn.refl (world : World σ) (sources : List Source) : world.AgreesOn world sources := by
  intro source _
  cases source with
  | property object signal => exact fun _ _ _ _ => rfl
  | notifier id => rfl

theorem AgreesOn.of_append {first second : List Source}
    (agrees : world.AgreesOn other (first ++ second)) :
    world.AgreesOn other first ∧ world.AgreesOn other second :=
  ⟨fun source member => agrees source (List.mem_append_left _ member),
    fun source member => agrees source (List.mem_append_right _ member)⟩

/-- What a read finds is the same in two worlds that agree on its source. -/
theorem found_congr {ref : PropertyRef} {source : Source} {value : Native}
    (shape : world.graph.SameShape other.graph)
    (found : world.graph.found ref = .ok (source, value)) (agree : world.AgreesAt other source) :
    other.graph.found ref = .ok (source, value) := by
  rcases ObjectGraph.property_of_found found with ⟨target, property, resolved, described, stored, rfl⟩
  have same := agree target.index property described rfl
  rw [shape.resolve] at resolved
  rw [shape.property] at described
  rcases ObjectGraph.found_of_property resolved described with ⟨value', stored', found'⟩
  rw [← same, stored] at stored'
  cases stored'
  exact found'

/-- A read that finds nothing depends on the shape of the graph only. -/
theorem found_error {ref : PropertyRef} {error : PropertyError}
    (shape : world.graph.SameShape other.graph) (found : world.graph.found ref = .error error) :
    other.graph.found ref = .error error := by
  have properties : world.graph.property = other.graph.property := funext shape.property
  rw [ObjectGraph.found_error_iff, shape.resolve, properties] at found
  exact ObjectGraph.found_error_iff.mpr found

end World

namespace Engine

variable {σ α β ε : Type} {known outside : Outside σ}

/-- The end of a run under the known code depends only on what is told to the collector. -/
def Tracked (known outside : Outside σ) (operation : Engine σ α) : Prop :=
  ∀ (world : World σ) result after, operation known world = some (result, after) →
    ∃ reads identities, world.identities ≤ identities ∧
      after = { world.captureAll reads with identities := identities } ∧
      ∀ other : World σ, world.graph.SameShape other.graph →
        other.identities = world.identities → world.AgreesOn other reads →
          operation outside other =
            some (result, { other.captureAll reads with identities := identities })

namespace Tracked

theorem value (result : α) : Tracked known outside (pure result : Engine σ α) := by
  intro world _ _ run
  cases run
  refine ⟨[], world.identities, Nat.le_refl _, rfl, ?_⟩
  intro other _ same _
  rw [← same]
  rfl

theorem bind {operation : Engine σ α} {next : α → Engine σ β}
    (first : Tracked known outside operation)
    (second : ∀ result, Tracked known outside (next result)) :
    Tracked known outside (operation >>= next) := by
  intro world final last run
  rcases runs_of_bind run with ⟨result, middle, start, rest⟩
  rcases first world result middle start with ⟨reads, identities, le, rfl, transfer⟩
  rcases second result _ final last rest with ⟨others, identities', le', rfl, transfer'⟩
  refine ⟨reads ++ others, identities', Nat.le_trans le le', ?_, ?_⟩
  · rw [World.captureAll_identities, World.captureAll_append]
  · intro other shape same agrees
    rcases agrees.of_append with ⟨agrees, agrees'⟩
    have goesOn : next result outside { other.captureAll reads with identities := identities } =
        some (final, { other.captureAll (reads ++ others) with identities := identities' }) := by
      rw [transfer' { other.captureAll reads with identities := identities }]
      · rw [World.captureAll_identities, World.captureAll_append]
      · simpa using shape
      · rfl
      · exact agrees'.congr (world.graph_captureAll _) (world.notifiers_captureAll _)
          (other.graph_captureAll _) (other.notifiers_captureAll _)
    rw [apply_bind, transfer other shape same agrees]
    exact goesOn

/-- What only depends on the shape of the graph may be done with the graph. -/
theorem look {next : ObjectGraph → Engine σ α}
    (shape : ∀ left right, ObjectGraph.SameShape left right → next left = next right)
    (each : ∀ graph, Tracked known outside (next graph)) :
    Tracked known outside (graph >>= next) := by
  intro world result after run
  have start : next world.graph known world = some (result, after) := run
  rcases each world.graph world result after start with ⟨reads, identities, le, reached, transfer⟩
  refine ⟨reads, identities, le, reached, ?_⟩
  intro other same identical agrees
  show next other.graph outside other = _
  rw [← shape _ _ same]
  exact transfer other same identical agrees

theorem attempt {operation : Attempt ε σ α} {next : α → Attempt ε σ β}
    (first : Tracked known outside operation.run)
    (second : ∀ result, Tracked known outside (next result).run) :
    Tracked known outside (operation >>= next).run := by
  refine .bind first fun outcome => ?_
  cases outcome with
  | ok result => exact second result
  | error error => exact value (Except.error error)

theorem map (change : α → β) {operation : Engine σ α} (first : Tracked known outside operation) :
    Tracked known outside (change <$> operation) :=
  bind first fun result => value (change result)

end Tracked

/-! ## Ways to look at the world -/

theorem freshIdentity_tracked : Tracked known outside (freshIdentity : Engine σ Nat) := by
  intro world _ _ run
  cases run
  refine ⟨[], world.identities + 1, Nat.le_succ _, rfl, ?_⟩
  intro other _ same _
  rw [← same]
  rfl

theorem place_tracked (value : Value) : Tracked known outside (place value : Engine σ Value) := by
  intro world _ _ run
  cases run
  refine ⟨[], (value.place world.identities).2, value.le_place _, rfl, ?_⟩
  intro other _ same _
  rw [← same]
  rfl

theorem read_tracked (ref : PropertyRef) :
    Tracked known outside (read ref : Attempt PropertyError σ Native).run := by
  intro world result after run
  rw [read_steps world ref known] at run
  cases found : world.graph.found ref with
  | error error =>
      rw [found] at run
      cases run
      refine ⟨[], world.identities, Nat.le_refl _, rfl, ?_⟩
      intro other shape same _
      rw [read_steps other ref outside, World.found_error shape found, ← same]
      rfl
  | ok pair =>
      rcases pair with ⟨source, value⟩
      rw [found] at run
      cases run
      refine ⟨[source], world.identities, Nat.le_refl _, ?_, ?_⟩
      · rw [← world.identities_captureAll [source]]
        rfl
      · intro other shape same agrees
        have agree := agrees source (List.mem_singleton.mpr rfl)
        rw [read_steps other ref outside, World.found_congr shape found agree, ← same,
          ← other.identities_captureAll [source]]
        rfl

theorem readValue_tracked (ref : PropertyRef) :
    Tracked known outside (readValue ref : Attempt PropertyError σ Value).run :=
  .attempt (read_tracked ref) fun value => .map _ (place_tracked value.toValue)

theorem readNotifier_tracked (id : NotifierId) :
    Tracked known outside (readNotifier id : Engine σ Value) := by
  intro world result after run
  have seen : ∀ (world : World σ) code, readNotifier id code world =
      some ((((world.notifiers[id]?).map (·.value)).getD .undefined),
        world.capture (.notifier id)) := by
    intro world code
    have notifiers := world.notifiers_captureAll [.notifier id]
    rw [readNotifier, apply_bind, capture_steps world (.notifier id) code]
    show some (_, _) = _
    rw [← notifiers]
    rfl
  rw [seen] at run
  cases run
  refine ⟨[.notifier id], world.identities, Nat.le_refl _, ?_, ?_⟩
  · rw [← world.identities_captureAll [.notifier id]]
    rfl
  · intro other _ same agrees
    have agree : (world.notifiers[id]?).map (·.value) = (other.notifiers[id]?).map (·.value) :=
      agrees (.notifier id) (List.mem_singleton.mpr rfl)
    rw [seen, agree, ← same, ← other.identities_captureAll [.notifier id]]
    rfl

/-- Being tracked is a law of evaluations. -/
theorem tracked_lawful (known outside : Outside σ) :
    Lawful fun {_} operation => Tracked known outside operation :=
  ⟨.value, .bind, .look, freshIdentity_tracked, place_tracked, readValue_tracked,
    readNotifier_tracked⟩

/-- The functions that scripts call are tracked. -/
def CallsTracked (known outside : Outside σ) : Prop :=
  ∀ callee context,
    Tracked known outside (Script.Evaluation.invoke callee context : Script.Evaluation σ Boxed).run

end Engine

/-- A host whose code never comes to an end. -/
def Host.mute {σ : Type} : Host σ where
  call _ _ := ExceptT.mk fun _ _ => none
  callTyped _ _ := ExceptT.mk fun _ _ => none
  intercept _ _ _ := fun _ _ => none
  announce _ := fun _ _ => none
  handle _ _ := fun _ _ => none
  retire _ := fun _ _ => none

namespace Engine

variable {σ : Type}

theorem callFunction_tracked {known outside : Outside σ} (calls : CallsTracked known outside)
    (callee : Function) (context : Script.CallContext) :
    Tracked known outside (Host.mute.callFunction callee context : Script.Evaluation σ Boxed).run := by
  rcases callee with ⟨identity, name, location, body⟩
  cases body with
  | script parameters expr locals =>
      exact .attempt ((tracked_lawful known outside).evaluate calls context _ expr) fun value => .value _
  | markBinding =>
      unfold Host.callFunction
      simp only [Function.body]
      split <;> exact .value _
  | host id =>
      intro world result after run
      cases run
  | typed type id =>
      intro world result after run
      cases run

/-- Where a mute host lets a function end, no host is called. -/
theorem callFunction_of_mute {known : Outside σ} {callee : Function} {context : Script.CallContext}
    {world : World σ} {out : Except Script.Exception Boxed × World σ} (host : Host σ)
    (run : (Host.mute.callFunction callee context).run known world = some out) :
    Host.mute.callFunction callee context = host.callFunction callee context := by
  rcases callee with ⟨identity, name, location, body⟩
  cases body with
  | script parameters expr locals => rfl
  | markBinding => rfl
  | host id => cases run
  | typed type id => cases run

/-- Functions are tracked as long as they do not call the host. -/
theorem calls_tracked (host : Host σ) (bound : Nat) :
    CallsTracked (Outside.within Host.mute bound) (Outside.within host bound) := by
  induction bound with
  | zero =>
      intro callee context world result after run
      cases run
  | succ bound step =>
      intro callee context world result after run
      have same := callFunction_of_mute host run
      rcases callFunction_tracked step callee context world result after run with
        ⟨reads, identities, le, reached, transfer⟩
      rw [same] at transfer
      exact ⟨reads, identities, le, reached, transfer⟩

end Engine

end PropertyBinding
