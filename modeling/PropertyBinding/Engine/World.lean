import PropertyBinding.Binding.Basic
import PropertyBinding.Diagnostic.Diagnostics
import PropertyBinding.Diagnostic.Warning
import PropertyBinding.Notification.Notifier
import PropertyBinding.Script.Exception
import PropertyBinding.Value.Identity
import PropertyBinding.WriteBack.Strategy

namespace PropertyBinding

/-!
# The world of an engine

All state of an engine is one value, the `World`, together with a state of its
host, which the engine carries along and never looks at.

Scripts, interceptors, subscribers and handlers can do anything to the world
that the engine's own operations can.  `Outside` says what they do, as steps of
the world, and an operation of the engine is a step that may take such steps.
A step that nests foreign code deeper than it may has no result.
-/

/-- Who is told of tracked reads. -/
inductive Collector where
  /-- A binding, which follows what it reads. -/
  | binding (id : BindingId)
  /-- A list of all reads so far, with repetitions. -/
  | recorder (reads : List Source)
deriving Repr, DecidableEq

/-- How a property is written. -/
structure WriteFlags where
  /-- Whether interceptors are skipped. -/
  bypass : Bool := false
  /-- Whether active writers stay. -/
  keep : Bool := false
  /-- Whether the change is not announced. -/
  quiet : Bool := false
deriving Repr, DecidableEq

namespace WriteFlags

/-- The flags of an assignment. -/
def none : WriteFlags := {}

end WriteFlags

/-- The state of an engine and of its host. -/
structure World (σ : Type) where
  graph : ObjectGraph
  /-- How many hold the object graph: its owner, the updates going on, and others for a while. -/
  graphHolders : Nat := 1
  channels : Channels := {}
  notifiers : List Notifier := []
  bindings : List Binding := []
  /-- The strategies of the write adapters; an adapter without one chooses at its first write. -/
  adapters : List (Option WriteStrategy) := []
  diagnostics : List Diagnostics := []
  collector? : Option Collector := none
  /-- The next identity of a function or an array. -/
  identities : Nat := 0
  /-- The warnings that nobody has read yet. -/
  warnings : List Warning := []
  host : σ

namespace World

/-- The world over a schema in which nothing has happened. -/
def initial {σ : Type} (schema : Schema) (host : σ) : World σ :=
  { graph := .empty schema, identities := schema.identities, host := host }

/-- Whether the object graph still exists. -/
def hasGraph {σ : Type} (world : World σ) : Bool :=
  decide (0 < world.graphHolders)

/-- Whether something keeps a binding: a name, its own update, or a slot it is attached to. -/
def keepsBinding {σ : Type} (world : World σ) (id : BindingId) : Bool :=
  match world.bindings[id]? with
  | some binding =>
      decide (0 < binding.holders) || binding.updating || world.graph.isAttached (.binding id)
  | none => false

end World

/-- A step of the world; it has no result when foreign code nests too deeply. -/
abbrev Step (σ : Type) : Type → Type := StateT (World σ) Option

/-- What foreign code does. -/
structure Outside (σ : Type) where
  /-- A function is called. -/
  call : Function → Script.CallContext → Step σ (Except Script.Exception Boxed)
  /-- A value is about to be stored in a property of an object. -/
  intercept : HostId → ObjectId → Native → Step σ Native
  /-- A subscriber is told of a change. -/
  announce : Callback → Step σ Unit
  /-- A handler is told of a failure. -/
  handle : HostId → Failure → Step σ Unit
  /-- A writer outside the engine stops being the active one. -/
  retire : HostId → Step σ Unit

/-- An operation of an engine. -/
abbrev Engine (σ : Type) : Type → Type := ReaderT (Outside σ) (Step σ)

/-- An operation of an engine that can fail, with all its effects up to there. -/
abbrev Attempt (ε σ : Type) : Type → Type := ExceptT ε (Engine σ)

namespace Engine

variable {σ α ε : Type}

/-- Takes a step of foreign code. -/
def foreign (step : Outside σ → Step σ α) : Engine σ α :=
  fun outside => step outside

/-- The object graph as it is now. -/
def graph : Engine σ ObjectGraph := do
  return (← get).graph

/-- Changes the object graph. -/
def modifyGraph (change : ObjectGraph → ObjectGraph) : Engine σ Unit :=
  modify fun world => { world with graph := change world.graph }

/-- Changes the channels. -/
def modifyChannels (change : Channels → Channels) : Engine σ Unit :=
  modify fun world => { world with channels := change world.channels }

/-- Changes one binding. -/
def modifyBinding (id : BindingId) (change : Binding → Binding) : Engine σ Unit :=
  modify fun world => { world with bindings := world.bindings.modify id change }

/-- A binding as it is now. -/
def binding? (id : BindingId) : Engine σ (Option Binding) := do
  return (← get).bindings[id]?

/-- A new identity. -/
def freshIdentity : Engine σ Nat := do
  let next := (← get).identities
  modify fun world => { world with identities := next + 1 }
  return next

/-- A script value whose arrays all have an identity. -/
def place (value : Value) : Engine σ Value := do
  let (placed, next) := value.place (← get).identities
  modify fun world => { world with identities := next }
  return placed

/-- A native value whose arrays all have an identity. -/
def placeNative (value : Native) : Engine σ Native := do
  let (placed, next) := value.place (← get).identities
  modify fun world => { world with identities := next }
  return placed

end Engine

namespace Attempt

variable {σ α ε : Type}

/-- An operation that cannot fail, among operations that can. -/
def perform (operation : Engine σ α) : Attempt ε σ α :=
  ExceptT.lift operation

/-- The answer to a question about the graph, which can fail. -/
def ask (question : ObjectGraph → Except ε α) : Attempt ε σ α :=
  ExceptT.mk do
    return question (← Engine.graph)

end Attempt

end PropertyBinding
