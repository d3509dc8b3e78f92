import PropertyBinding.Config
import PropertyBinding.Diagnostic.EvidenceLog
import PropertyBinding.Value.Basic

namespace PropertyBinding

/-!
# Diagnostics

The failures that are kept in memory, the latest ones up to a capacity, with
the log that gets all of them as evidence and the handler that is told of all.
-/

/-- The kept failures and those who get all failures. -/
structure Diagnostics where
  /-- The kept failures, the oldest first. -/
  records : List Failure := []
  /-- How many failures are kept. -/
  capacity : Nat := defaultCapacity
  /-- How many failures gave way to later ones. -/
  evicted : Nat := 0
  handler? : Option HostId := none
  log? : Option EvidenceLog := none

namespace Diagnostics

/-- Diagnostics with an evidence log. -/
def withLog (log : EvidenceLog) : Diagnostics := { log? := some log }

/-- Lets the oldest records go until the others fit. -/
def trim (diagnostics : Diagnostics) : Diagnostics :=
  let excess := diagnostics.records.length - diagnostics.capacity
  { diagnostics with
    records := diagnostics.records.drop excess
    evicted := diagnostics.evicted + excess }

/-- Keeps a failure as the latest. -/
def record (diagnostics : Diagnostics) (failure : Failure) : Diagnostics :=
  trim { diagnostics with records := diagnostics.records ++ [failure] }

/-- Changes the capacity, which is at least one. -/
def setCapacity (diagnostics : Diagnostics) (capacity : Nat) : Diagnostics :=
  trim { diagnostics with capacity := max capacity 1 }

/-- Hands out all kept failures. -/
def take (diagnostics : Diagnostics) : List Failure × Diagnostics :=
  (diagnostics.records, { diagnostics with records := [] })

/-- The number of kept failures of a kind. -/
def count (diagnostics : Diagnostics) (kind : FailureKind) : Nat :=
  (diagnostics.records.filter fun failure => failure.kind = kind).length

end Diagnostics

end PropertyBinding
