import PropertyBinding.Proofs.Ending

namespace PropertyBinding
namespace Engine

/-!
# What operations ensure

`Ensures` is the partial-correctness reading of an operation: if it ends, then so
that a condition holds of its result and of the world after it.  It is about one
run, under whatever code is outside.  As with `Leads`, the rules follow the way
operations are put together.
-/

variable {σ α β ε : Type} {outside : Outside σ} {world : World σ}

/-- If an operation ends, then so that a condition holds of its result and of the world after it. -/
def Ensures (outside : Outside σ) (operation : Engine σ α) (world : World σ)
    (condition : α → World σ → Prop) : Prop :=
  ∀ result after, operation outside world = some (result, after) → condition result after

namespace Ensures

variable {operation : Engine σ α} {condition : α → World σ → Prop}

theorem of_steps {result : α} {after : World σ} (steps : Steps operation world result after)
    (holds : condition result after) : Ensures outside operation world condition := by
  intro result' after' run
  rw [steps outside] at run
  cases run
  exact holds

theorem value {result : α} (holds : condition result world) :
    Ensures outside (pure result) world condition :=
  of_steps (fun _ => rfl) holds

theorem weaken {weaker : α → World σ → Prop} (ensures : Ensures outside operation world condition)
    (weakens : ∀ result after, condition result after → weaker result after) :
    Ensures outside operation world weaker :=
  fun result after run => weakens result after (ensures result after run)

theorem and {other : α → World σ → Prop} (left : Ensures outside operation world condition)
    (right : Ensures outside operation world other) :
    Ensures outside operation world fun result after =>
      condition result after ∧ other result after :=
  fun result after run => ⟨left result after run, right result after run⟩

theorem bind {next : α → Engine σ β} (middle : α → World σ → Prop)
    {condition : β → World σ → Prop} (first : Ensures outside operation world middle)
    (second : ∀ result after, middle result after →
      Ensures outside (next result) after condition) :
    Ensures outside (operation >>= next) world condition := by
  intro final last run
  rcases runs_of_bind run with ⟨result, after, begun, rest⟩
  exact second result after (first result after begun) final last rest

theorem look {next : World σ → Engine σ β} {condition : β → World σ → Prop}
    (rest : Ensures outside (next world) world condition) :
    Ensures outside (get >>= next) world condition :=
  rest

theorem lookGraph {next : ObjectGraph → Engine σ β} {condition : β → World σ → Prop}
    (rest : Ensures outside (next world.graph) world condition) :
    Ensures outside (graph >>= next) world condition :=
  rest

theorem lookBinding {id : BindingId} {next : Option Binding → Engine σ β}
    {condition : β → World σ → Prop}
    (rest : Ensures outside (next world.bindings[id]?) world condition) :
    Ensures outside (binding? id >>= next) world condition :=
  rest

theorem change {change : World σ → World σ} {next : Unit → Engine σ β}
    {condition : β → World σ → Prop}
    (rest : Ensures outside (next ()) (change world) condition) :
    Ensures outside (modify change >>= next) world condition :=
  rest

theorem performGraph {next : ObjectGraph → Attempt ε σ β} {condition : Except ε β → World σ → Prop}
    (rest : Ensures outside (next world.graph).run world condition) :
    Ensures outside (Attempt.perform graph >>= next).run world condition :=
  rest

theorem performLook {next : World σ → Attempt ε σ β} {condition : Except ε β → World σ → Prop}
    (rest : Ensures outside (next world).run world condition) :
    Ensures outside (Attempt.perform get >>= next).run world condition :=
  rest

theorem performBinding {id : BindingId} {next : Option Binding → Attempt ε σ β}
    {condition : Except ε β → World σ → Prop}
    (rest : Ensures outside (next world.bindings[id]?).run world condition) :
    Ensures outside (Attempt.perform (binding? id) >>= next).run world condition :=
  rest

theorem ask {question : ObjectGraph → Except ε α} {next : α → Attempt ε σ β}
    {condition : Except ε β → World σ → Prop}
    (succeeds : ∀ answer, question world.graph = .ok answer →
      Ensures outside (next answer).run world condition)
    (fails : ∀ error, question world.graph = .error error → condition (.error error) world) :
    Ensures outside (Attempt.ask question >>= next).run world condition := by
  show Ensures outside (pure (question world.graph) >>= ExceptT.bindCont next) world condition
  cases answered : question world.graph with
  | ok answer => exact succeeds answer answered
  | error error => exact value (fails error answered)

theorem perform {operation : Engine σ α} {next : α → Attempt ε σ β}
    (middle : α → World σ → Prop) {condition : Except ε β → World σ → Prop}
    (first : Ensures outside operation world middle)
    (rest : ∀ result after, middle result after → Ensures outside (next result).run after condition) :
    Ensures outside (Attempt.perform operation >>= next).run world condition := by
  have lifted : Ensures outside (Except.ok (ε := ε) <$> operation) world fun outcome after =>
      ∃ result, outcome = .ok result ∧ middle result after :=
    bind middle first fun result _ reached => value ⟨result, rfl, reached⟩
  refine bind _ lifted ?_
  intro _ after reached
  rcases reached with ⟨result, rfl, reached⟩
  exact rest result after reached

theorem choose {condition : Prop} [Decidable condition] {yes no : Attempt ε σ α}
    {ensured : Except ε α → World σ → Prop}
    (left : condition → Ensures outside yes.run world ensured)
    (right : ¬condition → Ensures outside no.run world ensured) :
    Ensures outside (if condition then yes else no).run world ensured := by
  by_cases holds : condition
  · rw [if_pos holds]
    exact left holds
  · rw [if_neg holds]
    exact right holds

theorem done {operation : Engine σ α} {condition : Except ε α → World σ → Prop}
    (last : Ensures outside operation world fun result after => condition (.ok result) after) :
    Ensures outside (Attempt.perform operation : Attempt ε σ α).run world condition :=
  .bind _ last fun _ _ reached => .value reached

theorem attempt {operation : Attempt ε σ α} {next : α → Attempt ε σ β}
    (middle : Except ε α → World σ → Prop) {condition : Except ε β → World σ → Prop}
    (first : Ensures outside operation.run world middle)
    (succeeds : ∀ result after, middle (.ok result) after →
      Ensures outside (next result).run after condition)
    (fails : ∀ error after, middle (.error error) after → condition (.error error) after) :
    Ensures outside (operation >>= next).run world condition := by
  refine bind middle first ?_
  intro outcome after reached
  cases outcome with
  | ok result => exact succeeds result after reached
  | error error => exact value (fails error after reached)

end Ensures

end Engine
end PropertyBinding
