import PropertyBinding.Diagnostic.EvidenceLog
import PropertyBinding.Script.Scope

namespace PropertyBinding

/-!
# Warnings

What the engine says to whoever watches it run.
-/

/-- A warning. -/
inductive Warning where
  /-- A failure was reported. -/
  | failure (failure : Failure)
  /-- A failure was not kept as evidence. -/
  | lostEvidence (error : LogError)
deriving Repr, DecidableEq

namespace Warning

/-- The parts of a warning by name. -/
def fields : Warning → List (String × String)
  | .failure reported =>
      let subject :=
        match reported.kind with
        | .bindingLoop => ("property_path", reported.path?.getD "")
        | kind => ("kind", kind.name)
      [("message", reported.message), subject, ("location", reported.location.text),
        ("object", Script.describeObject reported.object?)]
  | .lostEvidence error =>
      [("message", "failed to write binding evidence"), ("error", error.message)]

end Warning

end PropertyBinding
