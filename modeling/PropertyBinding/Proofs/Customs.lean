import PropertyBinding.Proofs.Furnishing

namespace PropertyBinding
namespace Engine

/-!
# What the engine's operations are made of

`Lawful` says of a law what it takes for every expression to obey it, and `Furnished`
does the same for the operations that expressions are not made of, one respect at a
time.  `Customary` asks less of laws that need not tell these apart.  A customary law
is obeyed by the work that foreign code cannot interrupt, by queries and announcements,
and by sequences of operations that obey it; so it is obeyed by whatever the engine
makes of these.
-/

variable {σ α β ε : Type}

/-- Whether a later world differs in no binding, channel, report or diagnostics. -/
structure Aside (world later : World σ) : Prop extends world.Beside later where
  diagnostics : later.diagnostics = world.diagnostics

/-- What work on a binding may change that has nothing to do with its failures. -/
structure Serviced (former binding : Binding) : Prop extends former.Tended binding where
  pending : binding.pending? = former.pending?
  context : binding.context = former.context

/-- A law that the operations are obliged to which the others are made of. -/
structure Customary (law : {α : Type} → Engine σ α → Prop) : Prop where
  value : ∀ {α : Type} (result : α), law (pure result : Engine σ α)
  bind : ∀ {α β : Type} {operation : Engine σ α} {next : α → Engine σ β},
    law operation → (∀ result, law (next result)) → law (operation >>= next)
  get : law (get : Engine σ (World σ))
  aside : ∀ change : World σ → World σ, (∀ world : World σ, Aside world (change world)) →
    law (modify change)
  object : ∀ id change, law (modifyGraph fun graph => graph.update id change)
  tend : ∀ id change, (∀ binding : Binding, Serviced binding (change binding)) →
    law (modifyBinding id change)
  append : ∀ binding : Binding, binding.Pristine →
    law (modify fun world : World σ =>
      { world with bindings := world.bindings ++ [binding] })
  retireBinding : ∀ id, law (retireBinding id)
  settle : ∀ id, law (settle id)
  read : ∀ ref, law (read ref : Attempt PropertyError σ Native).run
  readNotifier : ∀ id, law (readNotifier id)
  announce : ∀ source, law (announce source)
  ask : ∀ query : Query, query.isCall = false → law (foreign query.step)

namespace Customary

variable {law : {α : Type} → Engine σ α → Prop}

variable (customary : Customary law)
include customary

theorem sequential : Sequential law where
  value := customary.value
  bind := customary.bind
  get := customary.get

/-! ## Writers and cells -/

theorem retire (writer : Writer) : law (retire writer : Engine σ Unit) := by
  cases writer with
  | binding id => exact customary.retireBinding id
  | host id => exact customary.ask (.retire id) rfl

theorem retireAll (writers : List Writer) : law (retireAll writers : Engine σ Unit) :=
  customary.sequential.retireAll customary.retire writers

theorem store (ref : PropertyRef) (signal : Nat) (cell : Cell) (unchanged : Cell → Bool)
    (flags : WriteFlags) :
    law (store ref signal cell unchanged flags : Attempt PropertyError σ Unit).run := by
  have sequential := customary.sequential
  refine sequential.perform sequential.seen fun graph =>
    Sequential.choose ?_ (sequential.fail _)
  refine sequential.done (customary.bind (customary.object _ _) fun _ => ?_)
  exact Sequential.branch (customary.announce _) (customary.value ())

theorem createNotifier (label : String) (value : Value) :
    law (createNotifier label value : Engine σ NotifierId) :=
  customary.bind customary.get fun _ =>
    customary.bind (customary.aside _ fun _ => ⟨⟨rfl, rfl, rfl, rfl, rfl⟩, rfl⟩) fun _ =>
      customary.value _

theorem assignNotifier (id : NotifierId) (value : Value) :
    law (assignNotifier id value : Engine σ Unit) := by
  refine customary.bind customary.get fun world => ?_
  split
  · exact customary.value ()
  · refine customary.bind (customary.aside _ fun _ => ⟨⟨rfl, rfl, rfl, rfl, rfl⟩, rfl⟩) fun _ => ?_
    exact customary.announce _

/-- A customary law is obeyed by everything that operations are made of. -/
theorem furnished : Furnished law where
  toSequential := customary.sequential
  apart change same :=
    customary.aside change fun world => ⟨(same world).toBeside, (same world).diagnostics⟩
  dress id change _ := customary.object id change
  touch id change touched := customary.tend id change fun binding => by
    rcases touched binding with ⟨_, _, _, same⟩
    rw [same]
    exact ⟨⟨rfl, rfl, rfl, rfl, .inl, fun _ => .inl⟩, rfl, rfl⟩
  append := customary.append
  relieve ref := customary.sequential.relieve
    (customary.sequential.removeWriters (fun id change _ => customary.object id change)
      customary.retire ref)
  attach := customary.sequential.attach (fun id change _ => customary.object id change)
    customary.retire
  detach := customary.sequential.detach (fun id change _ => customary.object id change)
    customary.retire
  store := customary.store
  settle := customary.settle
  read := customary.read
  readNotifier := customary.readNotifier
  announce := customary.announce
  createNotifier := customary.createNotifier
  assignNotifier := customary.assignNotifier
  ask := customary.ask

end Customary

end Engine

end PropertyBinding
