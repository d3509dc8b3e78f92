import PropertyBinding.Engine.Run

namespace PropertyBinding

/-!
# How operations end

A bound on the nesting of foreign code cuts a run off that nests deeper.  An
operation ends when some bound suffices, and then every larger bound gives the
same result.  Which code is outside is given by its surroundings: a condition
on it for each bound, so that one statement can be about several runs at once.

`Leads` is the total-correctness reading: the operation ends, and a condition
holds of its result and of the world after it.  The rules below follow the way
operations are put together, so that a proof about an operation has the shape
of the operation.
-/

/-- The foreign code that may be outside of an operation, for each bound on its nesting. -/
abbrev Surroundings (σ : Type) : Type := Nat → Outside σ → Prop

/-- The code of a host and nothing else. -/
def Host.surroundings {σ : Type} (host : Host σ) : Surroundings σ :=
  fun bound outside => outside = Outside.within host bound

/-- A host whose functions do nothing. -/
def Host.silent : Host Unit where
  call _ _ := return .undefined
  callTyped _ _ := return .bool false
  intercept _ _ value := return value
  announce _ := return
  handle _ _ := return
  retire _ := return

namespace Engine

variable {σ α β ε : Type} {foreign : Surroundings σ}

/-- An operation ends with a result and a world, whatever larger bound foreign code has. -/
def Ends (foreign : Surroundings σ) (operation : Engine σ α) (world : World σ) (result : α)
    (after : World σ) : Prop :=
  ∃ bound, ∀ larger, bound ≤ larger → ∀ outside, foreign larger outside →
    operation outside world = some (result, after)

/-- An operation ends, and a condition holds of its result and of the world after it. -/
def Leads (foreign : Surroundings σ) (operation : Engine σ α) (world : World σ)
    (condition : α → World σ → Prop) : Prop :=
  ∃ result after, Ends foreign operation world result after ∧ condition result after

/-- An operation without foreign code: what it does does not depend on the code outside. -/
def Steps (operation : Engine σ α) (world : World σ) (result : α) (after : World σ) : Prop :=
  ∀ outside, operation outside world = some (result, after)

/-! ## Steps without foreign code -/

section Apply

variable (outside : Outside σ) (world : World σ)

@[simp] theorem apply_bind (operation : Engine σ α) (next : α → Engine σ β) :
    (operation >>= next) outside world =
      (operation outside world).bind fun out => next out.1 outside out.2 := rfl

@[simp] theorem apply_pure (result : α) :
    (pure result : Engine σ α) outside world = some (result, world) := rfl

@[simp] theorem apply_get : (get : Engine σ (World σ)) outside world = some (world, world) := rfl

@[simp] theorem apply_modify (change : World σ → World σ) :
    (modify change : Engine σ Unit) outside world = some ((), change world) := rfl

@[simp] theorem apply_graph : graph outside world = some (world.graph, world) := rfl

@[simp] theorem apply_binding? (id : BindingId) :
    binding? id outside world = some (world.bindings[id]?, world) := rfl

@[simp] theorem apply_modifyGraph (change : ObjectGraph → ObjectGraph) :
    modifyGraph change outside world = some ((), { world with graph := change world.graph }) := rfl

@[simp] theorem apply_modifyChannels (change : Channels → Channels) :
    modifyChannels change outside world =
      some ((), { world with channels := change world.channels }) := rfl

@[simp] theorem apply_modifyBinding (id : BindingId) (change : Binding → Binding) :
    modifyBinding id change outside world =
      some ((), { world with bindings := world.bindings.modify id change }) := rfl

end Apply

/-- A run of a sequence is one of what comes first, and one of what follows from where that leads. -/
theorem runs_of_bind {operation : Engine σ α} {next : α → Engine σ β} {outside : Outside σ}
    {world after : World σ} {final : β}
    (run : (operation >>= next) outside world = some (final, after)) :
    ∃ result middle, operation outside world = some (result, middle) ∧
      next result outside middle = some (final, after) := by
  rw [apply_bind] at run
  rcases Option.bind_eq_some_iff.mp run with ⟨⟨result, middle⟩, begun, rest⟩
  exact ⟨result, middle, begun, rest⟩

/-! ## Ends -/

namespace Ends

variable {operation : Engine σ α} {world after middle : World σ} {result : α}

/-- Under the code of one host an operation has at most one end. -/
theorem unique {host : Host σ} {other : α} (first : Ends host.surroundings operation world result after)
    (second : Ends host.surroundings operation world other middle) :
    result = other ∧ after = middle := by
  rcases first with ⟨bound, run⟩
  rcases second with ⟨bound', run'⟩
  have left := run (max bound bound') (Nat.le_max_left _ _) _ rfl
  have right := run' (max bound bound') (Nat.le_max_right _ _) _ rfl
  rw [left] at right
  cases right
  exact ⟨rfl, rfl⟩

theorem of_steps (steps : Steps operation world result after) :
    Ends foreign operation world result after :=
  ⟨0, fun _ _ outside _ => steps outside⟩

theorem bind {next : α → Engine σ β} {final : β} {last : World σ}
    (first : Ends foreign operation world result middle)
    (second : Ends foreign (next result) middle final last) :
    Ends foreign (operation >>= next) world final last := by
  rcases first with ⟨bound, run⟩
  rcases second with ⟨bound', run'⟩
  refine ⟨max bound bound', fun larger enough outside given => ?_⟩
  have left := run larger (Nat.le_trans (Nat.le_max_left _ _) enough) outside given
  have right := run' larger (Nat.le_trans (Nat.le_max_right _ _) enough) outside given
  rw [apply_bind, left]
  exact right

theorem map (change : α → β) (ends : Ends foreign operation world result after) :
    Ends foreign (change <$> operation) world (change result) after := by
  rcases ends with ⟨bound, run⟩
  refine ⟨bound, fun larger enough outside given => ?_⟩
  show (operation outside world).bind _ = _
  rw [run larger enough outside given]
  rfl

/-- A call of foreign code ends as the code does that answers it one level below. -/
theorem foreign_of {step : Outside σ → Step σ α} {code : Engine σ α} {inner : Surroundings σ}
    (answers : ∀ bound outside, foreign (bound + 1) outside →
      ∃ below, inner bound below ∧ step outside world = code below world)
    (ends : Ends inner code world result after) :
    Ends foreign (Engine.foreign step) world result after := by
  rcases ends with ⟨bound, run⟩
  refine ⟨bound + 1, fun larger enough outside given => ?_⟩
  have positive : ∃ below, larger = below + 1 := ⟨larger - 1, by omega⟩
  rcases positive with ⟨lower, rfl⟩
  rcases answers lower outside given with ⟨below, known, answered⟩
  show step outside world = _
  rw [answered]
  exact run lower (by omega) below known

end Ends

/-! ## Leads -/

namespace Leads

variable {operation : Engine σ α} {world : World σ} {condition : α → World σ → Prop}

theorem of_steps {result : α} {after : World σ} (steps : Steps operation world result after)
    (holds : condition result after) : Leads foreign operation world condition :=
  ⟨result, after, .of_steps steps, holds⟩

theorem value {result : α} (holds : condition result world) :
    Leads foreign (pure result : Engine σ α) world condition :=
  of_steps (fun _ => rfl) holds

theorem weaken {weaker : α → World σ → Prop} (leads : Leads foreign operation world condition)
    (weakens : ∀ result after, condition result after → weaker result after) :
    Leads foreign operation world weaker := by
  rcases leads with ⟨result, after, ends, holds⟩
  exact ⟨result, after, ends, weakens result after holds⟩

theorem bind {next : α → Engine σ β} (middle : α → World σ → Prop)
    {condition : β → World σ → Prop} (first : Leads foreign operation world middle)
    (second : ∀ result after, middle result after → Leads foreign (next result) after condition) :
    Leads foreign (operation >>= next) world condition := by
  rcases first with ⟨result, after, ends, holds⟩
  rcases second result after holds with ⟨final, last, endsNext, reached⟩
  exact ⟨final, last, ends.bind endsNext, reached⟩

/-- An operation that begins with a step without foreign code goes on from where that leads. -/
theorem step {next : α → Engine σ β} {condition : β → World σ → Prop} {result : α}
    {after : World σ} (steps : Steps operation world result after)
    (rest : Leads foreign (next result) after condition) :
    Leads foreign (operation >>= next) world condition :=
  bind (fun given reached => given = result ∧ reached = after) (of_steps steps ⟨rfl, rfl⟩) <| by
    rintro _ _ ⟨rfl, rfl⟩
    exact rest

theorem look {next : World σ → Engine σ β} {condition : β → World σ → Prop}
    (rest : Leads foreign (next world) world condition) :
    Leads foreign (get >>= next) world condition :=
  step (fun _ => rfl) rest

theorem lookGraph {next : ObjectGraph → Engine σ β} {condition : β → World σ → Prop}
    (rest : Leads foreign (next world.graph) world condition) :
    Leads foreign (graph >>= next) world condition :=
  step (apply_graph · world) rest

theorem lookBinding {id : BindingId} {next : Option Binding → Engine σ β}
    {condition : β → World σ → Prop}
    (rest : Leads foreign (next world.bindings[id]?) world condition) :
    Leads foreign (binding? id >>= next) world condition :=
  step (apply_binding? · world id) rest

theorem change {change : World σ → World σ} {condition : Unit → World σ → Prop}
    (holds : condition () (change world)) :
    Leads foreign (modify change : Engine σ Unit) world condition :=
  of_steps (fun _ => rfl) holds

/-- An operation that can fail goes on only after a success. -/
theorem attempt {operation : Attempt ε σ α} {next : α → Attempt ε σ β}
    (middle : Except ε α → World σ → Prop) {condition : Except ε β → World σ → Prop}
    (first : Leads foreign operation.run world middle)
    (succeeds : ∀ result after, middle (.ok result) after →
      Leads foreign (next result).run after condition)
    (fails : ∀ error after, middle (.error error) after → condition (.error error) after) :
    Leads foreign (operation >>= next).run world condition := by
  show Leads foreign (operation.run >>= ExceptT.bindCont next) world condition
  refine bind middle first ?_
  intro outcome after reached
  cases outcome with
  | ok result => exact succeeds result after reached
  | error error => exact value (fails error after reached)

theorem perform {operation : Engine σ α} {next : α → Attempt ε σ β}
    (middle : α → World σ → Prop) {condition : Except ε β → World σ → Prop}
    (first : Leads foreign operation world middle)
    (succeeds : ∀ result after, middle result after →
      Leads foreign (next result).run after condition) :
    Leads foreign (Attempt.perform operation >>= next).run world condition := by
  rcases first with ⟨result, after, ends, reached⟩
  rcases succeeds result after reached with ⟨final, last, endsNext, holds⟩
  have lifted : Ends foreign (Except.ok (ε := ε) <$> operation) world (.ok result) after :=
    ends.map _
  have whole : Ends foreign ((Except.ok (ε := ε) <$> operation) >>= ExceptT.bindCont next) world
      final last := lifted.bind endsNext
  exact ⟨final, last, whole, holds⟩

/-- Like `step`, among operations that can fail. -/
theorem performStep {operation : Engine σ α} {next : α → Attempt ε σ β}
    {condition : Except ε β → World σ → Prop} {result : α} {after : World σ}
    (steps : Steps operation world result after)
    (rest : Leads foreign (next result).run after condition) :
    Leads foreign (Attempt.perform operation >>= next).run world condition :=
  perform (fun given reached => given = result ∧ reached = after) (of_steps steps ⟨rfl, rfl⟩) <| by
    rintro _ _ ⟨rfl, rfl⟩
    exact rest

theorem performGraph {next : ObjectGraph → Attempt ε σ β} {condition : Except ε β → World σ → Prop}
    (rest : Leads foreign (next world.graph).run world condition) :
    Leads foreign (Attempt.perform graph >>= next).run world condition :=
  performStep (apply_graph · world) rest

/-- A question about the graph is answered by the graph as it is. -/
theorem ask {question : ObjectGraph → Except ε α} {next : α → Attempt ε σ β}
    {condition : Except ε β → World σ → Prop}
    (succeeds : ∀ answer, question world.graph = .ok answer →
      Leads foreign (next answer).run world condition)
    (fails : ∀ error, question world.graph = .error error → condition (.error error) world) :
    Leads foreign (Attempt.ask question >>= next).run world condition := by
  refine attempt (fun outcome after => outcome = question world.graph ∧ after = world)
    (of_steps (fun _ => rfl) ⟨rfl, rfl⟩) ?_ ?_
  · rintro answer _ ⟨same, rfl⟩
    exact succeeds answer same.symm
  · rintro error _ ⟨same, rfl⟩
    exact fails error same.symm

end Leads

/-! ## Worlds that runs leave -/

section Runs

variable {host : Host σ} {bound : Nat} {world : World σ}

/-- A run that ends leads to the world that it leaves. -/
theorem runWithin_of_ends {operation : Engine σ Unit} (other : World σ)
    (ends : (runWithin bound host operation world).isSome = true) :
    runWithin bound host operation world =
      some ((), ((runWithin bound host operation world).map Prod.snd).getD other) := by
  rcases Option.isSome_iff_exists.mp ends with ⟨out, run⟩
  rw [run]
  rfl

/-- A run that succeeds leads to the world that it leaves. -/
theorem runWithin_of_succeeds {operation : Attempt ε σ Unit} (other : World σ)
    (succeeds : (runWithin bound host operation.run world).map (fun out => out.1.toOption) =
      some (some ())) :
    runWithin bound host operation.run world =
      some (.ok (), ((runWithin bound host operation.run world).map Prod.snd).getD other) := by
  rcases Option.map_eq_some_iff.mp succeeds with ⟨⟨outcome, after⟩, run, done⟩
  cases outcome with
  | error => cases done
  | ok =>
      rw [run]
      rfl

end Runs

end Engine

end PropertyBinding
