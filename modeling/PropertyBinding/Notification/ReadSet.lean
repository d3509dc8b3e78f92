import PropertyBinding.Notification.Channel

namespace PropertyBinding

/-!
# Read-sets

The sources that an evaluation has read, each with the subscription that
announces its changes, in the order of the first reads.
-/

/-- A source that was read and the subscription to it. -/
structure Edge where
  source : Source
  subscription : SubscriptionId
deriving Repr, DecidableEq

/-- The edges of one reader, at most one to a source. -/
structure ReadSet where
  edges : List Edge := []
deriving Repr, DecidableEq

namespace ReadSet

/-- The read-set without edges. -/
def empty : ReadSet := {}

/-- The sources in the order of their first reads. -/
def sources (reads : ReadSet) : List Source :=
  reads.edges.map (·.source)

/-- The subscriptions of all edges. -/
def subscriptions (reads : ReadSet) : List SubscriptionId :=
  reads.edges.map (·.subscription)

/-- Whether there is an edge to a source. -/
def contains (reads : ReadSet) (source : Source) : Bool :=
  reads.sources.contains source

/-- Adds an edge, unless there is one to its source. -/
def insert? (reads : ReadSet) (edge : Edge) : Option ReadSet :=
  if reads.contains edge.source then none else some ⟨reads.edges ++ [edge]⟩

/-- The number of edges. -/
def size (reads : ReadSet) : Nat :=
  reads.edges.length

end ReadSet

end PropertyBinding
