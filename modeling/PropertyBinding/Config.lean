import PropertyBinding.Number.Decimal
import PropertyBinding.Text.Blank

namespace PropertyBinding

/-!
# Engine configuration

The options that all bindings of one context share.  The defaults suit
production use; `Config.fromEnvironment` applies the overrides that a process
environment may hold, and the `with` functions apply the ones a program makes.
Two options have a floor of one, and every way of setting them keeps it.
-/

/-- Where evidence lines go. -/
inductive EvidenceDestination where
  | standardOutput
  | file (path : String)
deriving Repr, DecidableEq

/-- Whether and how failures are mirrored to an evidence log. -/
structure EvidenceConfig where
  enabled : Bool := false
  destination : EvidenceDestination := .standardOutput
  /-- Whether the buffer is emptied after every line. -/
  flushOnWrite : Bool := true
deriving Repr, DecidableEq

namespace EvidenceConfig

/-- No evidence log. -/
def disabled : EvidenceConfig := {}

/-- An evidence log on standard output. -/
def toStandardOutput : EvidenceConfig := { enabled := true }

/-- An evidence log appended to a file. -/
def toFile (path : String) : EvidenceConfig :=
  { enabled := true, destination := .file path }

end EvidenceConfig

/-- The bound on alias chains that every property access uses. -/
def defaultAliasDepth : Nat := 16

/-- How many failure records are kept unless a context says otherwise. -/
def defaultCapacity : Nat := 1024

/-- The options of a binding context. -/
structure Config where
  /-- Whether a binding that re-enters its own update is reported. -/
  reportLoops : Bool := true
  /-- Whether failures wait in the binding until they are asked for or superseded. -/
  deferErrors : Bool := false
  /-- Whether write-back may skip interceptors when none is installed at enable time. -/
  fastPath : Bool := true
  /-- How many alias hops the resolution of a binding's target may take. -/
  aliasDepth : Nat := defaultAliasDepth
  /-- How many failure records are kept. -/
  capacity : Nat := defaultCapacity
  evidence : EvidenceConfig := {}
deriving Repr, DecidableEq

namespace Config

/-- The texts that switch a flag on; case and surrounding blanks do not count. -/
def isFlagOn (text : String) : Bool :=
  ["1", "true", "yes", "on"].contains ((Text.trim text).map Char.toLower)

/-- Sets the bound on alias hops, which is at least one. -/
def withAliasDepth (config : Config) (depth : Nat) : Config :=
  { config with aliasDepth := max depth 1 }

/-- Sets the number of records kept, which is at least one. -/
def withCapacity (config : Config) (capacity : Nat) : Config :=
  { config with capacity := max capacity 1 }

/-- The variable for each option an environment can override. -/
def loopsVariable : String := "PROPFLOW_BINDING_LOOPS"
@[inherit_doc loopsVariable] def deferVariable : String := "PROPFLOW_DEFER_ERRORS"
@[inherit_doc loopsVariable] def fastPathVariable : String := "PROPFLOW_FAST_PATH"
@[inherit_doc loopsVariable] def capacityVariable : String := "PROPFLOW_DIAGNOSTIC_CAPACITY"
@[inherit_doc loopsVariable] def evidenceVariable : String := "PROPFLOW_EVIDENCE_LOG"

/-- The evidence log a variable asks for: none when blank, `-` for standard output, else a file. -/
def evidenceOf (text : String) : EvidenceConfig :=
  match Text.trim text with
  | "" => .disabled
  | "-" => .toStandardOutput
  | path => .toFile path

/--
The defaults with the overrides of an environment.  A capacity that is no number
keeps the default.
-/
def fromEnvironment (lookup : String → Option String) : Config :=
  let flag (name : String) (default : Bool) : Bool :=
    ((lookup name).map isFlagOn).getD default
  let base : Config := {}
  let capacity := ((lookup capacityVariable).bind fun text =>
    Number.readNatural? (Text.trim text)).getD base.capacity
  { base with
    reportLoops := flag loopsVariable base.reportLoops
    deferErrors := flag deferVariable base.deferErrors
    fastPath := flag fastPathVariable base.fastPath
    capacity := max capacity 1
    evidence := ((lookup evidenceVariable).map evidenceOf).getD base.evidence }

end Config

end PropertyBinding
