import PropertyBinding.Binding.Target
import PropertyBinding.Config
import PropertyBinding.Diagnostic.Failure
import PropertyBinding.Notification.ReadSet
import PropertyBinding.Script.Parser
import PropertyBinding.Script.Scope

namespace PropertyBinding

/-!
# Bindings

The state of a binding: what it evaluates, what it writes, and how far it is.
-/

/-- The name of the diagnostics that some contexts share. -/
abbrev DiagnosticsId : Type := Nat

/-- The name of a write adapter. -/
abbrev AdapterId : Type := Nat

/-- What the bindings that are made together share. -/
structure BindingContext where
  diagnostics : DiagnosticsId
  config : Config := {}
  scope : Script.Scope := .empty

/-- What a binding evaluates. -/
inductive BindingExpression where
  | function (callee : Function)
  /-- Source text, compiled when it is first evaluated. -/
  | source (source : Script.Source)

/-- How one binding differs from others of its context. -/
structure BindingOptions where
  this? : Option ObjectId := none
  arguments : List Value := []
  /-- Whether the reads of an evaluation make the binding follow their sources. -/
  notifyOnChange : Bool := true
  /-- Fixes the write strategy, whatever the property says. -/
  declaredType? : Option PropertyType := none
  location? : Option Location := none

/-- The failure of the latest failed update. -/
structure PendingFailure where
  failure : Failure
  /-- Whether the diagnostics have it. -/
  reported : Bool
deriving Repr, DecidableEq

/-- A binding. -/
structure Binding where
  context : BindingContext
  expression : BindingExpression
  /-- The result of compiling the source text, once it was compiled. -/
  compiled? : Option (Except Script.CompileError Function) := none
  target : BindingTarget
  this? : Option ObjectId
  arguments : List Value
  adapter : AdapterId
  enabled : Bool := false
  /-- Whether an update is going on. -/
  updating : Bool := false
  notifyOnChange : Bool
  /-- Whether write-back skips interceptors. -/
  fastPath : Bool := false
  /-- Whether the binding is no longer the active writer and never will be again. -/
  retired : Bool := false
  reads : ReadSet := .empty
  pending? : Option PendingFailure := none
  /-- The place that failures name instead of the expression's own. -/
  location? : Option Location := none
  /-- How many evaluations came to an end. -/
  evaluations : Nat := 0
  /-- How many names the program has for the binding. -/
  holders : Nat := 1

namespace Binding

/-- Whether the call has arguments of its own. -/
def hasArguments (binding : Binding) : Bool :=
  !binding.arguments.isEmpty

/-- Where failures of the binding are. -/
def location (binding : Binding) : Location :=
  match binding.location?, binding.expression, binding.compiled? with
  | some location, _, _ => location
  | none, .function callee, _ => callee.location
  | none, .source _, some (.ok callee) => callee.location
  | none, .source source, _ => ⟨source.url, source.line, 1⟩

/-- The failure of the latest failed update, unless an update succeeded after it. -/
def error? (binding : Binding) : Option Failure :=
  binding.pending?.map (·.failure)

/-- The binding with a failure for its latest. -/
def withPending (binding : Binding) (failure : Failure) (reported : Bool) : Binding :=
  { binding with pending? := some ⟨failure, reported⟩ }

/-- The failure that the diagnostics do not have yet. -/
def unreported? (binding : Binding) : Option Failure :=
  (binding.pending?.filter fun pending => !pending.reported).map (·.failure)

end Binding

end PropertyBinding
