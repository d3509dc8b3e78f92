import PropertyBinding.Engine.Update

namespace PropertyBinding

/-!
# Hosts and runs

A host gives a meaning to the code that is not script: functions, interceptors,
subscribers, handlers and writers.  That code consists of operations of the
engine itself, so an operation can run foreign code that performs operations
that run foreign code, and so on.  `Outside.within` bounds the nesting.
-/

/-- The meaning of code that is not script. -/
structure Host (σ : Type) where
  /-- A function that returns a script value. -/
  call : HostId → Script.CallContext → Script.Evaluation σ Value
  /-- A function that returns a native value. -/
  callTyped : HostId → Script.CallContext → Script.Evaluation σ Native
  intercept : HostId → ObjectId → Native → Engine σ Native
  announce : HostId → Engine σ Unit
  handle : HostId → Failure → Engine σ Unit
  retire : HostId → Engine σ Unit

namespace Host

variable {σ : Type}

/-- Runs a function. -/
def callFunction (host : Host σ) (callee : Function) (context : Script.CallContext) :
    Script.Evaluation σ Boxed := do
  match callee.body with
  | .script parameters expr locals =>
      let values := Script.Evaluation.parameterValues parameters context
      return .dynamic (← Script.Evaluation.evaluate context (values ++ locals) expr)
  | .markBinding =>
      match context.argument 0 with
      | .function marked _ => return .dynamic (.function marked true)
      | _ => throw .notABindingExpression
  | .host id => return .dynamic (← host.call id context)
  | .typed type id =>
      let native ← host.callTyped id context
      if native.fits type then
        return .native type native false
      else
        throw (.brokenPromise callee.name (← Attempt.perform (WriteBack.typeName type)))

/-- Calls a subscriber. -/
def callSubscriber (host : Host σ) : Callback → Engine σ Unit
  | .binding id => Engine.followChange id
  | .host id => host.announce id

end Host

namespace Outside

variable {σ : Type}

/-- Foreign code that nests at most so deep as the bound. -/
def within (host : Host σ) : Nat → Outside σ
  | 0 =>
      { call := fun _ _ _ => none
        intercept := fun _ _ _ _ => none
        announce := fun _ _ => none
        handle := fun _ _ _ => none
        retire := fun _ _ => none }
  | bound + 1 =>
      { call := fun callee context world =>
          (host.callFunction callee context).run.run (within host bound) world
        intercept := fun id object value world =>
          (host.intercept id object value).run (within host bound) world
        announce := fun callback world =>
          (host.callSubscriber callback).run (within host bound) world
        handle := fun id failure world =>
          (host.handle id failure).run (within host bound) world
        retire := fun id world => (host.retire id).run (within host bound) world }

end Outside

namespace Engine

variable {σ α : Type}

/-- Performs an operation with a host whose code nests at most so deep as the bound. -/
def runWithin (bound : Nat) (host : Host σ) (operation : Engine σ α) (world : World σ) :
    Option (α × World σ) :=
  operation.run (Outside.within host bound) world

end Engine

end PropertyBinding
