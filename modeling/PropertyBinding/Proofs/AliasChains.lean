import PropertyBinding.Proofs.AliasTransparency
import PropertyBinding.Proofs.FastPath
import PropertyBinding.Proofs.TypedRuns

namespace PropertyBinding

/-!
# Alias chains

An alias is set to a property, which can be an alias again.  The chain of a property goes
on hop by hop while there is an alias that is set to a property of a living object.  It
ends at a property that is no alias, and it breaks at an alias that is not set, or is set
to a property of an object that is gone.  A slot can have another object by then, which
does not count.

What a property resolves to goes by its chain alone.  The bound on the number of hops is
felt only by a chain that is longer, as one that comes round to itself always is.
-/

namespace ObjectGraph

/-- Whether a property is an alias that is set to another property, of a living object. -/
structure Hop (graph : ObjectGraph) (ref next : PropertyRef) : Prop where
  pointed : ∃ property, graph.property ref = .ok property ∧ property.isAlias = true
  aimed : (graph.cell? ref).bind Cell.target? = some next
  alive : graph.isAlive next.object = true

/-- What a number of hops from a property lead to. -/
inductive HopsTo (graph : ObjectGraph) : Nat → PropertyRef → PropertyRef → Prop
  | none (ref : PropertyRef) : HopsTo graph 0 ref ref
  | hop {count : Nat} {ref next last : PropertyRef} (first : graph.Hop ref next)
      (rest : HopsTo graph count next last) : HopsTo graph (count + 1) ref last

/-- Whether a chain ends at a property. -/
def EndsAt (graph : ObjectGraph) (ref : PropertyRef) : Prop :=
  ∃ property, graph.property ref = .ok property ∧ property.isAlias = false

/-- Whether a chain breaks at a property of some name: an alias that leads to no living object. -/
def BreaksAt (graph : ObjectGraph) (ref : PropertyRef) (name : String) : Prop :=
  ∃ property, graph.property ref = .ok property ∧ property.isAlias = true ∧
    property.name = name ∧ ∀ next, (graph.cell? ref).bind Cell.target? = some next →
      graph.isAlive next.object = false

/-- How a chain can stop at a property, and what is found out when it does. -/
inductive Stops (graph : ObjectGraph) (ref : PropertyRef) :
    Except PropertyError (Option PropertyRef) → Prop
  | ends (ends : graph.EndsAt ref) : Stops graph ref (.ok (some ref))
  | breaks {name : String} (breaks : graph.BreaksAt ref name) :
      Stops graph ref (.error (.unresolvedAlias name))
  | missing {error : PropertyError} (missing : graph.property ref = .error error) :
      Stops graph ref (.error error)

variable {graph : ObjectGraph} {ref next last start stored : PropertyRef} {property : Property}
  {count further bound depth : Nat} {name : String}
  {result : Except PropertyError (Option PropertyRef)}

/-! ## One property of a chain -/

theorem HopsTo.trans (hops : graph.HopsTo count ref next) (rest : graph.HopsTo further next last) :
    graph.HopsTo (count + further) ref last := by
  induction hops with
  | none ref =>
      rw [Nat.zero_add]
      exact rest
  | hop first _ step =>
      rw [Nat.succ_add]
      exact .hop first (step rest)

/-- A chain passes somewhere after each smaller number of hops. -/
theorem HopsTo.fewer (hops : graph.HopsTo count ref last) (le : bound ≤ count) :
    ∃ middle, graph.HopsTo bound ref middle := by
  induction hops generalizing bound with
  | none ref => exact ⟨ref, Nat.le_zero.mp le ▸ .none ref⟩
  | hop first _ step =>
      cases bound with
      | zero => exact ⟨_, .none _⟩
      | succ bound =>
          rcases step (Nat.le_of_succ_le_succ le) with ⟨middle, hops⟩
          exact ⟨middle, .hop first hops⟩

/-- A chain that comes round to a property goes on from there without end. -/
theorem HopsTo.round (round : graph.HopsTo (count + 1) ref ref) (bound : Nat) :
    ∃ last, graph.HopsTo bound ref last := by
  have rounds : ∀ times, graph.HopsTo (times * (count + 1)) ref ref := by
    intro times
    induction times with
    | zero => exact (Nat.zero_mul _).symm ▸ .none ref
    | succ times step =>
        rw [Nat.succ_mul]
        exact step.trans round
  exact (rounds bound).fewer (Nat.le_mul_of_pos_right bound (Nat.succ_pos count))

/-- In a typed graph a hop leads to a property. -/
theorem Hop.described (typed : graph.WellTyped) (hop : graph.Hop ref next) :
    ∃ property, graph.property next = .ok property := by
  rcases hop with ⟨⟨property, described, _⟩, aimed, alive⟩
  rcases typed.suits ref property described with ⟨cell, held, suits⟩
  rw [held] at aimed
  cases suits with
  | native _ _ => cases aimed
  | var _ => cases aimed
  | pointer _ leads => exact leads next aimed alive

theorem HopsTo.described (typed : graph.WellTyped) (hops : graph.HopsTo count ref last)
    (described : ∃ property, graph.property ref = .ok property) :
    ∃ property, graph.property last = .ok property := by
  induction hops with
  | none ref => exact described
  | hop first _ step => exact step (first.described typed)

/--
Whether programs and the code of a host, run over a schema that was made by definitions,
leave a graph or note it on their way, while the count of no slot can have begun again.
-/
def IsReached (graph : ObjectGraph) : Prop :=
  ∃ (σ : Type) (host : Host (σ × Journal)) (schema : Schema) (state : σ)
    (now : World (σ × Journal)), schema.Registered ∧ host.Obeys Engine.Journaled ∧
      Engine.JournaledReaches host (.initial schema (state, {})) now ∧ now.Young ∧
      Engine.Shown now graph

theorem IsReached.wellTyped (reached : graph.IsReached) : graph.WellTyped := by
  rcases reached with ⟨σ, host, schema, state, now, registered, journaled, reaches, young, shown⟩
  have stays := reaches.typed journaled
  have proper : (World.initial schema (state, ({} : Journal))).IsProper :=
    fun _ => .empty registered 0
  rcases shown with ⟨present, rfl⟩ | noted
  · exact (stays.isProper young proper present).wellTyped
  · exact stays.notes young proper (fun _ impossible => by cases impossible) graph noted

end ObjectGraph

namespace Engine

section Relay

/-! ## Three counters in a row -/

/-- Makes three counters that show one another in a row, and notes the graph. -/
def relay : Engine (Unit × Journal) Unit := do
  let first ← create 1 none
  let second ← create 1 none
  let third ← create 1 none
  let _ ← (setAlias ⟨first, 1⟩ ⟨second, 1⟩).run
  let _ ← (setAlias ⟨second, 1⟩ ⟨third, 1⟩).run
  let _ ← (setAlias ⟨third, 1⟩ ⟨third, 0⟩).run
  noteGraph

/-- Turns the last of the counters back to the second. -/
def turnBack : Engine (Unit × Journal) Unit := do
  let _ ← (setAlias ⟨⟨2, 0⟩, 1⟩ ⟨⟨1, 0⟩, 1⟩).run
  noteGraph

/-- Puts another counter in the place of the last. -/
def replaceLast : Engine (Unit × Journal) Unit := do
  let _ ← destroyCounted ⟨2, 0⟩
  let _ ← create 1 none
  noteGraph

/-- The world after an operation. -/
def relayAfter (operation : Engine (Unit × Journal) Unit) (world : World (Unit × Journal)) :
    World (Unit × Journal) :=
  ((runWithin 2 swapper operation world).map Prod.snd).getD world

/-- The counters in a row. -/
def relayed : World (Unit × Journal) :=
  relayAfter relay (.initial swapSchema ((), {}))

/-- The counters after the last was turned back. -/
def turned : World (Unit × Journal) :=
  relayAfter turnBack relayed

/-- The counters after the last was replaced. -/
def replaced : World (Unit × Journal) :=
  relayAfter replaceLast turned

end Relay

end Engine

end PropertyBinding
