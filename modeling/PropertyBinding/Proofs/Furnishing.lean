import PropertyBinding.Proofs.FullKeeping
import PropertyBinding.Proofs.Telling

namespace PropertyBinding
namespace Engine

/-!
# What operations are furnished with

Reads, writes, write-backs, attachments and the making of bindings are made of few
things, and each of these changes the world in one respect: it stores a value, moves a
writer, makes an announcement, gives a notifier a value.  `Furnished` lists them.  A law
that they obey, and that sequences obey when their parts do, is obeyed by all these
operations, so that a law may treat each respect in its own way.
-/

variable {σ α β ε : Type}

/-- What a write does about the writers of a property, which it may have to keep. -/
def relieve (ref : PropertyRef) (flags : WriteFlags) : Engine σ Unit :=
  if flags.keep then pure () else removeWriters ref

/-! ## Sequences -/

/-- A law that looks at the world obey, and sequences of operations that obey it. -/
structure Sequential (law : {α : Type} → Engine σ α → Prop) : Prop where
  value : ∀ {α : Type} (result : α), law (pure result : Engine σ α)
  bind : ∀ {α β : Type} {operation : Engine σ α} {next : α → Engine σ β},
    law operation → (∀ result, law (next result)) → law (operation >>= next)
  get : law (get : Engine σ (World σ))

namespace Sequential

/-- What holds of every run of an operation is a law, if it goes from run to run. -/
theorem of_runs {outside : Outside σ}
    {holds : {α : Type} → Engine σ α → World σ → α → World σ → Prop}
    (value : ∀ {α : Type} (result : α) (world : World σ), holds (pure result) world result world)
    (get : ∀ world : World σ, holds MonadState.get world world world)
    (sequence : ∀ {α β : Type} {operation : Engine σ α} {next : α → Engine σ β}
      {world middle after : World σ} {result : α} {final : β},
      holds operation world result middle → holds (next result) middle final after →
        holds (operation >>= next) world final after) :
    Sequential (σ := σ) fun {_} operation =>
      ∀ world result after, operation outside world = some (result, after) →
        holds operation world result after where
  value result := by
    intro world _ _ run
    cases run
    exact value result world
  bind first second := by
    intro world final after run
    rcases runs_of_bind run with ⟨result, middle, begun, rest⟩
    exact sequence (first world result middle begun) (second result middle final after rest)
  get := by
    intro world _ _ run
    cases run
    exact get _

variable {law : {α : Type} → Engine σ α → Prop}

section Sequences

variable (sequential : Sequential law)
include sequential

theorem map (change : α → β) {operation : Engine σ α} (first : law operation) :
    law (change <$> operation) :=
  sequential.bind first fun result => sequential.value (change result)

theorem seen : law (graph : Engine σ ObjectGraph) :=
  sequential.map _ sequential.get

theorem found (id : BindingId) : law (binding? id : Engine σ (Option Binding)) :=
  sequential.map _ sequential.get

theorem attempt {operation : Attempt ε σ α} {next : α → Attempt ε σ β}
    (first : law operation.run) (second : ∀ result, law (next result).run) :
    law (operation >>= next).run := by
  refine sequential.bind first fun outcome => ?_
  cases outcome with
  | ok result => exact second result
  | error error => exact sequential.value (Except.error error)

theorem done {operation : Engine σ α} (last : law operation) :
    law (Attempt.perform operation : Attempt ε σ α).run :=
  sequential.map _ last

theorem perform {operation : Engine σ α} {next : α → Attempt ε σ β} (first : law operation)
    (second : ∀ result, law (next result).run) :
    law (Attempt.perform operation >>= next).run :=
  sequential.attempt (sequential.done first) second

theorem question {question : ObjectGraph → Except ε α} :
    law (Attempt.ask question : Attempt ε σ α).run :=
  sequential.map question sequential.seen

theorem adapt {ε' : Type} {operation : Attempt ε σ α} (rename : ε → ε')
    (inner : law operation.run) : law (ExceptT.adapt rename operation).run :=
  sequential.map _ inner

theorem succeed (result : α) : law (pure result : Attempt ε σ α).run :=
  sequential.value (Except.ok result)

theorem fail (error : ε) : law (throw error : Attempt ε σ α).run :=
  sequential.value (Except.error error)

end Sequences

theorem branch {condition : Prop} [Decidable condition] {yes no : Engine σ α}
    (left : law yes) (right : law no) : law (if condition then yes else no) := by
  split
  · exact left
  · exact right

theorem choose {condition : Prop} [Decidable condition] {yes no : Attempt ε σ α}
    (left : law yes.run) (right : law no.run) : law (if condition then yes else no).run := by
  split
  · exact left
  · exact right

/-! ## Stores in sequence -/

section Stores

variable (sequential : Sequential law) {ref : PropertyRef}
include sequential

theorem relieve (removes : law (Engine.removeWriters ref)) (flags : WriteFlags) :
    law (Engine.relieve ref flags) := by
  unfold Engine.relieve
  exact branch (sequential.value ()) removes

/-- A write that relieves the writers of a property first, unless it is to keep them. -/
theorem relieving {flags : WriteFlags} (relieves : law (Engine.relieve ref flags))
    {next : Attempt ε σ α} (rest : law next.run) :
    law (do
      if !flags.keep then
        Attempt.perform (removeWriters ref)
      next).run := by
  cases keeps : flags.keep with
  | true => exact rest
  | false =>
      have removes : law (removeWriters ref) := by simpa [Engine.relieve, keeps] using relieves
      exact sequential.perform removes fun _ => rest

theorem requireFit (property : Property) (value : Native) :
    law (requireFit property value : Attempt PropertyError σ Unit).run :=
  choose (sequential.perform sequential.seen fun _ => sequential.fail _) (sequential.succeed ())

variable (asks : ∀ id object value, law (foreign (Query.intercept id object value).step))
include asks

theorem intercepted (ref : PropertyRef) (value : Native) :
    law (intercepted ref value : Attempt PropertyError σ Native).run := by
  refine sequential.perform sequential.seen fun graph => choose ?_ (sequential.fail _)
  split
  · exact sequential.succeed value
  · exact sequential.done (asks _ _ _)

/-- A native value that is written to a property is stored there, if at all. -/
theorem storeNative {property : Property} {flags : WriteFlags}
    (relieves : law (Engine.relieve ref flags))
    (stores : ∀ cell unchanged,
      law (store ref property.signal cell unchanged flags : Attempt PropertyError σ Unit).run)
    (value : Native) :
    law (storeNative ref property value flags : Attempt PropertyError σ Unit).run := by
  refine sequential.attempt (sequential.requireFit property value) fun _ =>
    sequential.relieving relieves (choose (stores _ _) ?_)
  refine sequential.attempt (sequential.intercepted asks ref value) fun final => ?_
  exact sequential.attempt (sequential.requireFit property final) fun _ => stores _ _

end Stores

/-! ## Writers in sequence -/

section Writers

variable (sequential : Sequential law)
include sequential

theorem retireAll (retires : ∀ writer, law (retire writer)) (writers : List Writer) :
    law (retireAll writers) := by
  induction writers with
  | nil => exact sequential.value ()
  | cons writer rest step => exact sequential.bind (retires writer) fun _ => step

variable (arrange : ∀ id change, (∀ object : Object, (change object).cells = object.cells) →
    law (modifyGraph fun graph => graph.update id change))
  (retires : ∀ writer, law (retire writer))
include arrange retires

theorem removeWriters (ref : PropertyRef) : law (removeWriters ref) := by
  refine sequential.bind sequential.seen fun graph => ?_
  split
  · exact sequential.value ()
  · exact sequential.bind (arrange _ _ fun _ => rfl) fun _ => sequential.retireAll retires _

theorem attach (id : ObjectId) (slot : WriterSlot) (writer : Writer) :
    law (attach id slot writer : Attempt PropertyError σ Unit).run := by
  refine sequential.perform sequential.seen fun graph => choose ?_ (sequential.fail _)
  refine sequential.done (sequential.bind (arrange _ _ fun _ => rfl) fun _ => ?_)
  exact sequential.retireAll retires _

theorem detach (id : ObjectId) (slot : WriterSlot) : law (detach id slot) := by
  refine sequential.bind sequential.seen fun graph => ?_
  split
  · exact sequential.value false
  · refine sequential.bind (arrange _ _ fun _ => rfl) fun _ => ?_
    exact sequential.bind (retires _) fun _ => sequential.value true

end Writers

end Sequential

/-! ## What operations are made of -/

/-- Whether a later world differs in nothing but identities, write adapters and the host. -/
structure Apart (world later : World σ) : Prop extends world.Beside later where
  diagnostics : later.diagnostics = world.diagnostics
  notifiers : later.notifiers = world.notifiers
  holders : later.graphHolders = world.graphHolders

/-- Whether an object differs in nothing but its interceptors. -/
def Dressed (former object : Object) : Prop :=
  ∃ interceptors, object = { former with interceptors := interceptors }

/-- Whether a binding differs in nothing but what it has compiled, its names and its shortcut. -/
def Touched (former binding : Binding) : Prop :=
  ∃ compiled? fastPath holders,
    binding = { former with compiled? := compiled?, fastPath := fastPath, holders := holders }

/-- A law that is obeyed by changes that nobody else has to know of. -/
structure Modest (law : {α : Type} → Engine σ α → Prop) : Prop extends Sequential law where
  apart : ∀ change : World σ → World σ, (∀ world : World σ, Apart world (change world)) →
    law (modify change)
  touch : ∀ id change, (∀ binding : Binding, Touched binding (change binding)) →
    law (modifyBinding id change)

/-- A law that everything obeys of which operations are made, one respect at a time. -/
structure Furnished (law : {α : Type} → Engine σ α → Prop) : Prop extends Modest law where
  dress : ∀ id change, (∀ object : Object, Dressed object (change object)) →
    law (modifyGraph fun graph => graph.update id change)
  append : ∀ binding : Binding, binding.Pristine →
    law (modify fun world : World σ =>
      { world with bindings := world.bindings ++ [binding] })
  relieve : ∀ ref flags, law (relieve ref flags)
  attach : ∀ id slot writer, law (attach id slot writer : Attempt PropertyError σ Unit).run
  detach : ∀ id slot, law (detach id slot)
  store : ∀ ref signal cell unchanged flags,
    law (store ref signal cell unchanged flags : Attempt PropertyError σ Unit).run
  settle : ∀ id, law (settle id)
  read : ∀ ref, law (read ref : Attempt PropertyError σ Native).run
  readNotifier : ∀ id, law (readNotifier id)
  announce : ∀ source, law (announce source)
  createNotifier : ∀ label value, law (createNotifier label value)
  assignNotifier : ∀ id value, law (assignNotifier id value)
  ask : ∀ query : Query, query.isCall = false → law (foreign query.step)

namespace Modest

variable {law : {α : Type} → Engine σ α → Prop} (modest : Modest law)
include modest

theorem freshIdentity : law (freshIdentity : Engine σ Nat) :=
  modest.bind modest.get fun _ =>
    modest.bind (modest.apart _ fun _ => ⟨⟨rfl, rfl, rfl, rfl, rfl⟩, rfl, rfl, rfl⟩) fun _ =>
      modest.value _

theorem place (value : Value) : law (place value : Engine σ Value) :=
  modest.bind modest.get fun _ =>
    modest.bind (modest.apart _ fun _ => ⟨⟨rfl, rfl, rfl, rfl, rfl⟩, rfl, rfl, rfl⟩) fun _ =>
      modest.value _

theorem typeName (type : PropertyType) : law (WriteBack.typeName type : Engine σ String) :=
  modest.bind modest.seen fun _ => modest.value _

theorem createAdapter (strategy? : Option WriteStrategy) :
    law (WriteBack.createAdapter strategy? : Engine σ AdapterId) :=
  modest.bind modest.get fun _ =>
    modest.bind (modest.apart _ fun _ => ⟨⟨rfl, rfl, rfl, rfl, rfl⟩, rfl, rfl, rfl⟩) fun _ =>
      modest.value _

theorem chooseStrategy (adapter : AdapterId) (property : Property) :
    law (WriteBack.chooseStrategy adapter property : Engine σ WriteStrategy) := by
  refine modest.bind (modest.bind modest.get fun _ => modest.value _) fun chosen => ?_
  cases chosen with
  | some strategy => exact modest.value strategy
  | none =>
      refine modest.bind
        (modest.apart _ fun _ => ⟨⟨rfl, rfl, rfl, rfl, rfl⟩, rfl, rfl, rfl⟩) fun _ => ?_
      exact modest.value _

theorem fieldNumber (value : Value) :
    law (WriteBack.fieldNumber value : WriteBack σ Float).run := by
  unfold WriteBack.fieldNumber
  split
  · exact modest.perform (modest.typeName _) fun _ => modest.fail _
  · exact modest.fail _
  · exact modest.succeed _
  · refine modest.attempt (modest.adapt _ modest.question) fun native => ?_
    split
    · exact modest.succeed _
    · exact modest.perform modest.seen fun _ => modest.fail _

theorem functionOf (id : BindingId) (binding : Binding) :
    law (functionOf id binding : Engine σ (Except Script.CompileError Function)) := by
  unfold Engine.functionOf
  split
  · exact modest.value _
  · exact modest.value _
  · refine modest.bind ?_ fun compiled =>
      modest.bind (modest.touch id _ fun _ => ⟨_, _, _, rfl⟩) fun _ =>
        modest.value compiled
    unfold Script.Evaluation.compile
    split
    · exact modest.perform modest.freshIdentity fun _ => modest.succeed _
    · exact modest.fail _

theorem locationOf (id : BindingId) : law (locationOf id : Engine σ Location) :=
  modest.bind (modest.found id) fun _ => modest.value _

theorem writeFailure (id : BindingId) (binding : Binding) (error : WriteError) :
    law (writeFailure id binding error : Engine σ Failure) :=
  modest.bind (modest.locationOf id) fun _ =>
    modest.bind modest.seen fun _ => modest.value _

/-! ### Updates in sequence -/

section Updates

variable {id : BindingId} {binding : Binding}

/-- The evaluation of a binding obeys the law if calls of functions do that it listens to. -/
theorem evaluateBinding
    (calls : ∀ callee context, law (withCollector (binding.listener? id)
      (Script.Evaluation.invoke callee context : Script.Evaluation σ Boxed).run)) :
    law (evaluateBinding id binding : Engine σ (Except Failure Boxed)) := by
  refine modest.bind (modest.functionOf id binding) fun compiled => ?_
  cases compiled with
  | error error => exact modest.value _
  | ok callee =>
      refine modest.bind (calls callee _) fun outcome => ?_
      cases outcome with
      | ok value => exact modest.value _
      | error error => exact modest.bind (modest.locationOf id) fun _ => modest.value _

theorem recordFailure
    (notes : ∀ failure reported,
      law (modifyBinding id fun binding => binding.withPending failure reported))
    (reports : ∀ id failure, law (report id failure)) (failure : Failure) :
    law (recordFailure id failure : Engine σ Unit) := by
  refine modest.bind (modest.found id) fun found => ?_
  cases found with
  | none => exact modest.value ()
  | some binding =>
      refine Sequential.branch (modest.bind (notes failure false) fun _ => ?_)
        (modest.bind (notes failure true) fun _ => reports _ _)
      cases binding.unreported? with
      | none => exact modest.value ()
      | some earlier => exact reports _ _

theorem finishUpdate {flags : WriteFlags}
    (records : ∀ failure, law (Engine.recordFailure id failure : Engine σ Unit))
    (stores : ∀ value, law (storeResult id binding value flags : WriteBack σ Unit).run)
    (clears : law (modifyBinding id fun binding => { binding with pending? := none }))
    (result : Except Failure Boxed) :
    law (finishUpdate id binding result flags : Engine σ Unit) := by
  cases result with
  | error failure => exact records failure
  | ok value =>
      refine modest.bind (modest.found id) fun found => Sequential.branch (modest.value ()) ?_
      refine modest.bind (stores value) fun outcome => ?_
      split
      · exact clears
      · exact modest.value ()
      · refine modest.bind modest.seen fun graph => Sequential.branch ?_ (modest.value ())
        exact modest.bind (modest.writeFailure id binding _) fun failure => records failure

end Updates

end Modest

namespace Furnished

variable {law : {α : Type} → Engine σ α → Prop}

variable (furnished : Furnished law)
include furnished

theorem readValue (ref : PropertyRef) : law (readValue ref : Attempt PropertyError σ Value).run :=
  furnished.attempt (furnished.read ref) fun _ => furnished.done (furnished.place _)

omit furnished in
theorem lawful (furnished : Furnished law) : Lawful law where
  value := furnished.value
  bind := furnished.bind
  look _ each := furnished.bind furnished.seen each
  freshIdentity := furnished.freshIdentity
  place := furnished.place
  readValue := furnished.readValue
  readNotifier := furnished.readNotifier

/-! ## Writes -/

theorem storeNative (ref : PropertyRef) (property : Property) (value : Native)
    (flags : WriteFlags) :
    law (storeNative ref property value flags : Attempt PropertyError σ Unit).run :=
  furnished.toSequential.storeNative (fun _ _ _ => furnished.ask _ rfl)
    (furnished.relieve ref flags) (fun _ _ => furnished.store _ _ _ _ _) value

theorem storeVar (ref : PropertyRef) (value : Value) (flags : WriteFlags) :
    law (storeVar ref value flags : Attempt PropertyError σ Unit).run := by
  refine furnished.attempt furnished.question fun property => Sequential.choose ?_ ?_
  · exact furnished.relieving (furnished.relieve ref flags) (furnished.store _ _ _ _ _)
  · exact furnished.perform furnished.seen fun _ => furnished.fail _

theorem writeVar (ref : PropertyRef) (value : Value) (flags : WriteFlags) :
    law (writeVar ref value flags : Attempt PropertyError σ Unit).run :=
  furnished.attempt furnished.question fun target => furnished.storeVar target value flags

theorem write (ref : PropertyRef) (value : Native) (flags : WriteFlags) :
    law (write ref value flags : Attempt PropertyError σ Unit).run := by
  refine furnished.attempt furnished.question fun target =>
    furnished.attempt furnished.question fun property => ?_
  refine Sequential.choose ?_ (furnished.storeNative target property value flags)
  cases value with
  | script content => exact furnished.storeVar target content flags
  | _ => exact furnished.fail _

theorem reset (ref : PropertyRef) (flags : WriteFlags) :
    law (reset ref flags : Attempt PropertyError σ Unit).run := by
  refine furnished.attempt furnished.question fun target =>
    furnished.attempt furnished.question fun property => ?_
  exact Sequential.choose (furnished.write target property.default flags) (furnished.fail _)

theorem assign (ref : PropertyRef) (value : Native) :
    law (assign ref value : Attempt PropertyError σ Unit).run := by
  refine furnished.attempt furnished.question fun property =>
    Sequential.choose ?_ (furnished.write ref value .none)
  exact furnished.perform (furnished.place _) fun placed => furnished.writeVar ref placed .none

theorem assignNamed (id : ObjectId) (name : String) (value : Native) :
    law (assignNamed id name value : Attempt PropertyError σ Unit).run :=
  furnished.attempt furnished.question fun index => furnished.assign ⟨id, index⟩ value

/-! ## Interceptors -/

theorem installInterceptor (ref : PropertyRef) (id : HostId) :
    law (installInterceptor ref id : Attempt PropertyError σ Unit).run := by
  refine furnished.attempt furnished.question fun target =>
    furnished.perform furnished.seen fun graph => ?_
  exact Sequential.choose (furnished.done (furnished.dress _ _ fun _ => ⟨_, rfl⟩))
    (furnished.fail _)

theorem hasInterceptor (ref : PropertyRef) : law (hasInterceptor ref : Engine σ Bool) := by
  refine furnished.bind furnished.seen fun graph => ?_
  split <;> exact furnished.value _

theorem removeInterceptor (ref : PropertyRef) : law (removeInterceptor ref : Engine σ Bool) := by
  refine furnished.bind furnished.seen fun graph => ?_
  split
  · exact furnished.bind (furnished.dress _ _ fun _ => ⟨_, rfl⟩) fun _ => furnished.value _
  · exact furnished.value false

/-! ## Write-back -/

theorem writeUndefined (strategy : WriteStrategy) (ref : PropertyRef) (property : Property)
    (flags : WriteFlags) :
    law (WriteBack.writeUndefined strategy ref property flags : WriteBack σ Unit).run := by
  refine Sequential.choose (furnished.adapt _ (furnished.reset ref flags)) ?_
  cases strategy with
  | variant => exact furnished.adapt _ (furnished.write ref _ flags)
  | script => exact furnished.adapt _ (furnished.write ref _ flags)
  | varSlot => exact furnished.adapt _ (furnished.writeVar ref _ flags)
  | _ => exact furnished.perform (furnished.typeName _) fun _ => furnished.fail _

theorem writeValue (strategy : WriteStrategy) (ref : PropertyRef) (property : Property)
    (value : Value) (flags : WriteFlags) :
    law (WriteBack.writeValue strategy ref property value flags : WriteBack σ Unit).run := by
  have defined : law (if strategy = .varSlot then
      WriteBack.access (Engine.writeVar ref value flags)
    else do
      let native ← WriteBack.convert fun graph =>
        strategy.native graph.context property.type value
      WriteBack.access (Engine.write ref native flags) : WriteBack σ Unit).run := by
    refine Sequential.choose (furnished.adapt _ (furnished.writeVar ref value flags)) ?_
    exact furnished.attempt (furnished.adapt _ furnished.question) fun native =>
      furnished.adapt _ (furnished.write ref native flags)
  unfold WriteBack.writeValue
  cases value with
  | undefined => exact furnished.writeUndefined strategy ref property flags
  | function callee marked =>
      cases strategy.acceptsFunctions with
      | false => exact furnished.fail _
      | true => exact defined
  | _ => exact defined

theorem writeProperty (strategy : WriteStrategy) (ref : PropertyRef) (property : Property)
    (result : Boxed) (flags : WriteFlags) :
    law (WriteBack.writeProperty strategy ref property result flags : WriteBack σ Unit).run := by
  cases result with
  | dynamic value => exact furnished.writeValue strategy ref property value flags
  | native type value shared =>
      refine Sequential.choose (furnished.adapt _ (furnished.write ref value flags)) ?_
      exact furnished.perform (furnished.place _) fun placed =>
        furnished.writeValue strategy ref property placed flags

theorem writeField (ref : PropertyRef) (property : Property) (field : Nat) (result : Boxed)
    (flags : WriteFlags) :
    law (WriteBack.writeField ref property field result flags : WriteBack σ Unit).run := by
  refine furnished.attempt (furnished.fieldNumber _) fun number => ?_
  refine furnished.attempt (furnished.adapt _ furnished.question) fun current => ?_
  split
  · split
    · exact furnished.adapt _ (furnished.write ref _ flags)
    · exact furnished.fail _
  · exact furnished.perform furnished.seen fun _ => furnished.fail _

theorem writeBack (adapter : AdapterId) (target : BindingTarget) (result : Boxed)
    (flags : WriteFlags) :
    law (WriteBack.write adapter target result flags : WriteBack σ Unit).run := by
  refine furnished.attempt (furnished.adapt _ furnished.question) fun property => ?_
  cases target.field? with
  | some field => exact furnished.writeField target.property property field result flags
  | none =>
      exact furnished.perform (furnished.chooseStrategy adapter property) fun strategy =>
        furnished.writeProperty strategy target.property property result flags

theorem storeResult (id : BindingId) (binding : Binding) (result : Boxed) (flags : WriteFlags) :
    law (storeResult id binding result flags : WriteBack σ Unit).run := by
  refine furnished.attempt (furnished.adapt _ furnished.question) fun ref => ?_
  exact furnished.perform (furnished.found id) fun _ => furnished.writeBack _ _ _ _

/-! ## Bindings -/

theorem createBinding (context : BindingContext) (target : BindingTarget)
    (expression : BindingExpression) (options : BindingOptions) :
    law (createBinding context target expression options :
      Attempt PropertyError σ BindingId).run := by
  refine furnished.attempt furnished.question fun property => furnished.done ?_
  refine furnished.bind (furnished.createAdapter _) fun adapter => furnished.bind furnished.get ?_
  refine fun _ => furnished.bind (furnished.append _ ?_) fun _ => furnished.value _
  exact ⟨rfl, rfl, rfl, rfl, rfl⟩

theorem install (id : BindingId) : law (install id : Attempt PropertyError σ Unit).run := by
  refine furnished.perform (furnished.found id) fun found => ?_
  cases found with
  | none => exact furnished.succeed ()
  | some binding =>
      refine furnished.perform furnished.get fun world => Sequential.choose (furnished.fail _) ?_
      exact Sequential.choose (furnished.attach _ _ _) (furnished.succeed ())

theorem refreshFastPath (id : BindingId) : law (refreshFastPath id : Engine σ Unit) := by
  refine furnished.bind (furnished.found id) fun found => ?_
  cases found with
  | none => exact furnished.value ()
  | some binding =>
      refine furnished.bind (furnished.hasInterceptor _) fun _ => furnished.bind furnished.get ?_
      exact fun _ => furnished.touch id _ fun _ => ⟨_, _, _, rfl⟩

theorem retain (id : BindingId) : law (retain id : Engine σ Unit) :=
  furnished.touch id _ fun _ => ⟨_, _, _, rfl⟩

theorem release (id : BindingId) : law (release id : Engine σ Unit) :=
  furnished.bind (furnished.touch id _ fun _ => ⟨_, _, _, rfl⟩) fun _ => furnished.settle id

/-- A function obeys the law if the code of its host does, and the calls of functions do. -/
theorem callFunction {host : Host σ} (obeys : host.Obeys law)
    (calls : ∀ callee context, law (foreign (Query.call callee context).step)) (callee : Function)
    (context : Script.CallContext) : law (host.callFunction callee context).run := by
  rcases callee with ⟨identity, name, location, body⟩
  cases body with
  | script parameters expr locals =>
      have calls : ∀ callee context,
          law (Script.Evaluation.invoke callee context : Script.Evaluation σ Boxed).run := calls
      exact furnished.attempt (furnished.lawful.evaluate calls context _ expr) fun _ =>
        furnished.succeed _
  | markBinding =>
      unfold Host.callFunction
      simp only [Function.body]
      split
      · exact furnished.succeed _
      · exact furnished.fail _
  | host id => exact furnished.attempt (obeys.call id context) fun _ => furnished.succeed _
  | typed type id =>
      refine furnished.attempt (obeys.callTyped id context) fun native => Sequential.choose ?_ ?_
      · exact furnished.succeed _
      · exact furnished.perform (furnished.typeName type) fun _ => furnished.fail _

end Furnished

end Engine

end PropertyBinding
