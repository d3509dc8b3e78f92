import PropertyBinding.Engine.Run

namespace PropertyBinding
namespace Engine

/-!
# Programs

A run of an engine is a sequence of programs, each put together from operations
of the engine.  A host is plain when its code is put together in the same way,
so that whatever foreign code does in the middle of an operation is again what
programs do.
-/

variable {σ α β ε : Type}

/-- Code that is put together from operations of the engine. -/
inductive Program : {α : Type} → Engine σ α → Prop
  | value {α : Type} (result : α) : Program (pure result)
  | sequence {α β : Type} {operation : Engine σ α} {next : α → Engine σ β}
      (first : Program operation) (second : ∀ result, Program (next result)) :
      Program (operation >>= next)
  | get : Program get
  /-- The state of the host, subscriptions, notifiers, diagnostics and the like may be changed. -/
  | elsewhere {change : World σ → World σ}
      (same : ∀ world : World σ, (change world).graph = world.graph ∧
        (change world).graphHolders = world.graphHolders ∧
        (change world).bindings = world.bindings) : Program (modify change)
  | invoke (callee : Function) (context : Script.CallContext) :
      Program (Script.Evaluation.invoke callee context).run
  | announce (source : Source) : Program (announce source)
  | create (classId : ClassId) (name? : Option String) : Program (create classId name?)
  | destroy (id : ObjectId) : Program (destroy id)
  | setAlias (ref target : PropertyRef) : Program (setAlias ref target).run
  | read (ref : PropertyRef) : Program (read ref).run
  | readNotifier (id : NotifierId) : Program (readNotifier id)
  | assignNotifier (id : NotifierId) (value : Value) : Program (assignNotifier id value)
  | write (ref : PropertyRef) (value : Native) (flags : WriteFlags) :
      Program (write ref value flags).run
  | writeVar (ref : PropertyRef) (value : Value) (flags : WriteFlags) :
      Program (writeVar ref value flags).run
  | reset (ref : PropertyRef) (flags : WriteFlags) : Program (reset ref flags).run
  | assign (ref : PropertyRef) (value : Native) : Program (assign ref value).run
  | assignNamed (id : ObjectId) (name : String) (value : Native) :
      Program (assignNamed id name value).run
  | installInterceptor (ref : PropertyRef) (id : HostId) : Program (installInterceptor ref id).run
  | removeInterceptor (ref : PropertyRef) : Program (removeInterceptor ref)
  | attach (id : ObjectId) (slot : WriterSlot) (writer : HostId) :
      Program (attach id slot (.host writer)).run
  | detach (id : ObjectId) (slot : WriterSlot) : Program (detach id slot)
  | createBinding (context : BindingContext) (target : BindingTarget)
      (expression : BindingExpression) (options : BindingOptions) :
      Program (createBinding context target expression options).run
  | install (id : BindingId) : Program (install id).run
  | setEnabled (id : BindingId) (enabled : Bool) (flags? : Option WriteFlags) :
      Program (setEnabled id enabled flags?)
  | update (id : BindingId) (flags : WriteFlags) : Program (update id flags)
  | refreshFastPath (id : BindingId) : Program (refreshFastPath id)
  | reportPending (id : BindingId) : Program (reportPending id)
  | retain (id : BindingId) : Program (retain id)
  | release (id : BindingId) : Program (release id)
  | releaseGraph : Program releaseGraph

theorem Program.attempt {operation : Attempt ε σ α} {next : α → Attempt ε σ β}
    (first : Program operation.run) (second : ∀ result, Program (next result).run) :
    Program (operation >>= next).run := by
  refine .sequence first fun outcome => ?_
  cases outcome with
  | ok result => exact second result
  | error error => exact .value (Except.error error)

theorem Program.perform {operation : Engine σ α} {next : α → Attempt ε σ β}
    (first : Program operation) (second : ∀ result, Program (next result).run) :
    Program (Attempt.perform operation >>= next).run :=
  .attempt (.sequence first fun result => .value (Except.ok result)) second

end Engine

/-- Whether the code of a host is put together from operations of the engine. -/
structure Host.Plain {σ : Type} (host : Host σ) : Prop where
  call : ∀ id context, Engine.Program (host.call id context).run
  callTyped : ∀ id context, Engine.Program (host.callTyped id context).run
  intercept : ∀ id object value, Engine.Program (host.intercept id object value)
  announce : ∀ id, Engine.Program (host.announce id)
  handle : ∀ id failure, Engine.Program (host.handle id failure)
  retire : ∀ id, Engine.Program (host.retire id)

namespace Engine

variable {σ : Type}

/-- Whether a run of programs leads from one world to another. -/
inductive Reaches (host : Host σ) : World σ → World σ → Prop
  | start (world : World σ) : Reaches host world world
  | step {world middle later : World σ} {α : Type} {operation : Engine σ α} {bound : Nat}
      {result : α} (earlier : Reaches host world middle) (program : Program operation)
      (run : runWithin bound host operation middle = some (result, later)) :
      Reaches host world later

theorem Reaches.append {host : Host σ} {world middle later : World σ}
    (earlier : Reaches host world middle) (rest : Reaches host middle later) :
    Reaches host world later := by
  induction rest with
  | start => exact earlier
  | step _ program run step => exact .step step program run

end Engine

end PropertyBinding
