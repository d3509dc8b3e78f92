import PropertyBinding.Engine.World

namespace PropertyBinding

/-!
# Property access

Reads tell the collector which signal announces the value they saw.  Writes go
past the interceptor of the property, store the value, and announce the change
if there is one.  A write without the flag that keeps active writers retires
those of the property and of its fields first.  An alias stands for the
property that it resolves to in all of this.
-/

namespace Engine

variable {σ : Type}

/-! ## Channels and collectors -/

/-- Subscribes to a source. -/
def subscribe (source : Source) (callback : Callback) : Engine σ SubscriptionId := do
  let (id, channels) := (← get).channels.subscribe source callback
  modifyChannels fun _ => channels
  return id

/-- Calls some subscribers in turn. -/
def callAll : List Subscriber → Engine σ Unit
  | [] => return
  | subscriber :: rest => do
      foreign fun outside => outside.announce subscriber.callback
      callAll rest

/-- Announces a change to everyone who is subscribed when the announcement starts. -/
def announce (source : Source) : Engine σ Unit := do
  let (subscribers, channels) := (← get).channels.startAnnouncement source
  modifyChannels fun _ => channels
  callAll subscribers
  modifyChannels fun channels => channels.releaseAll (subscribers.map (·.id))

/-- Makes a binding follow a source, unless it does already or is retired. -/
def follow (id : BindingId) (source : Source) : Engine σ Unit := do
  let some binding ← binding? id | return
  if binding.retired || binding.reads.contains source then
    return
  let subscription ← subscribe source (.binding id)
  modifyBinding id fun binding =>
    { binding with reads := (binding.reads.insert? ⟨source, subscription⟩).getD binding.reads }

/-- Tells the collector that a source is read. -/
def capture (source : Source) : Engine σ Unit := do
  match (← get).collector? with
  | none => return
  | some (.binding id) => follow id source
  | some (.recorder reads) =>
      modify fun world => { world with collector? := some (.recorder (reads ++ [source])) }

/-- Runs an operation under a collector, or under none, and puts the old one back. -/
def withCollector {α : Type} (collector? : Option Collector) (operation : Engine σ α) :
    Engine σ α := do
  let outer := (← get).collector?
  modify fun world => { world with collector? := collector? }
  let result ← operation
  modify fun world => { world with collector? := outer }
  return result

/-- Runs an operation and lists the sources it reads, with repetitions. -/
def recording {α : Type} (operation : Engine σ α) : Engine σ (α × List Source) :=
  withCollector (some (.recorder [])) do
    let result ← operation
    match (← get).collector? with
    | some (.recorder reads) => return (result, reads)
    | _ => return (result, [])

/-! ## Retirement -/

/-- Lets go of all edges of a binding. -/
def clearReads (id : BindingId) : Engine σ Unit := do
  let some binding ← binding? id | return
  modifyBinding id fun binding => { binding with reads := .empty }
  modifyChannels fun channels => channels.releaseAll binding.reads.subscriptions

/-- Ends a binding for good. -/
def retireBinding (id : BindingId) : Engine σ Unit := do
  modifyBinding id fun binding => { binding with retired := true, enabled := false }
  clearReads id

/-- Tells a writer that it is no longer the active one. -/
def retire : Writer → Engine σ Unit
  | .binding id => retireBinding id
  | .host id => foreign fun outside => outside.retire id

/-- Tells some writers that they are no longer the active ones. -/
def retireAll : List Writer → Engine σ Unit
  | [] => return
  | writer :: rest => do
      retire writer
      retireAll rest

/-- Detaches and retires the writers of a property and of its fields. -/
def removeWriters (ref : PropertyRef) : Engine σ Unit := do
  match (← graph).object? ref.object with
  | none => return
  | some object =>
      modifyGraph fun graph => graph.update ref.object fun object => object.withoutWritersOf ref.index
      retireAll (object.writersOf ref.index)

/-- Makes a writer the active one of a slot and retires the one before it. -/
def attach (id : ObjectId) (slot : WriterSlot) (writer : Writer) :
    Attempt PropertyError σ Unit := do
  let graph ← Attempt.perform graph
  if graph.isAlive id then
    let previous := graph.writer? id slot
    Attempt.perform do
      modifyGraph fun graph => graph.update id fun object =>
        { object with writers := object.writers.put slot writer }
      retireAll previous.toList
  else
    throw (.destroyed id)

/-- Detaches and retires the writer of a slot; tells whether there was one. -/
def detach (id : ObjectId) (slot : WriterSlot) : Engine σ Bool := do
  match (← graph).writer? id slot with
  | none => return false
  | some writer =>
      modifyGraph fun graph => graph.update id fun object =>
        { object with writers := object.writers.drop slot }
      retire writer
      return true

/-! ## Objects -/

/-- Makes an object. -/
def create (classId : ClassId) (name? : Option String) : Engine σ ObjectId := do
  let (id, graph) := (← graph).create classId name?
  modifyGraph fun _ => graph
  return id

/-- Destroys an object, with its channels, and retires its writers; tells whether it was alive. -/
def destroy (id : ObjectId) : Engine σ Bool := do
  match (← graph).remove? id with
  | none => return false
  | some (object, graph) =>
      modifyGraph fun _ => graph
      modifyChannels fun channels => channels.removeObject id
      retireAll object.writers.values
      return true

/-- Points an alias at a property. -/
def setAlias (ref target : PropertyRef) : Attempt PropertyError σ Unit := do
  let changed ← Attempt.ask fun graph => graph.setAlias ref target
  Attempt.perform (modifyGraph fun _ => changed)

/-! ## Reads -/

/-- The property that stores the value of a property. -/
def resolve (ref : PropertyRef) : Attempt PropertyError σ PropertyRef :=
  Attempt.ask fun graph => graph.resolve ref defaultAliasDepth

/-- The value of a property, without telling the collector. -/
def peek (ref : PropertyRef) : Attempt PropertyError σ Native :=
  Attempt.ask fun graph => graph.peek ref defaultAliasDepth

/-- The value of a property; the collector is told. -/
def read (ref : PropertyRef) : Attempt PropertyError σ Native := do
  let target ← resolve ref
  let property ← Attempt.ask fun graph => graph.property target
  Attempt.perform (capture (.property target.object property.signal))
  Attempt.ask fun graph => graph.stored target

/-- The value of a property as scripts see it; the collector is told. -/
def readValue (ref : PropertyRef) : Attempt PropertyError σ Value := do
  let value ← read ref
  Attempt.perform (place value.toValue)

/-- The value of a property by its name; the collector is told. -/
def readNamed (id : ObjectId) (name : String) : Attempt PropertyError σ Native := do
  let index ← Attempt.ask fun graph => graph.propertyIndex id name
  read ⟨id, index⟩

/-! ## Writes -/

/-- Puts a cell in place, if its object is alive, and announces the change if there is one. -/
def store (ref : PropertyRef) (signal : Nat) (cell : Cell) (unchanged : Cell → Bool)
    (flags : WriteFlags) : Attempt PropertyError σ Unit := do
  let graph ← Attempt.perform graph
  if graph.isAlive ref.object then
    let changed := !((graph.cell? ref).map unchanged).getD false
    Attempt.perform do
      modifyGraph fun graph => graph.setCell ref cell
      if changed && !flags.quiet then
        announce (.property ref.object signal)
  else
    throw (.destroyed ref.object)

/-- Stores a script value in an open slot that is no alias. -/
def storeVar (ref : PropertyRef) (value : Value) (flags : WriteFlags) :
    Attempt PropertyError σ Unit := do
  let property ← Attempt.ask fun graph => graph.property ref
  if property.isVar then
    if !flags.keep then
      Attempt.perform (removeWriters ref)
    store ref property.signal (.var value) (fun cell => cell.holdsVar value) flags
  else
    let schema := (← Attempt.perform graph).schema
    throw (.typeMismatch property.name (schema.typeName property.type))

/-- Stores a script value in an open slot. -/
def writeVar (ref : PropertyRef) (value : Value) (flags : WriteFlags) :
    Attempt PropertyError σ Unit := do
  storeVar (← resolve ref) value flags

/-- What an interceptor makes of a value that is about to be stored. -/
def intercepted (ref : PropertyRef) (value : Native) : Attempt PropertyError σ Native := do
  let graph ← Attempt.perform graph
  if graph.isAlive ref.object then
    match graph.interceptor? ref with
    | none => return value
    | some id => Attempt.perform (foreign fun outside => outside.intercept id ref.object value)
  else
    throw (.destroyed ref.object)

/-- Fails unless a value has the shape that the type of a property asks for. -/
def requireFit (property : Property) (value : Native) : Attempt PropertyError σ Unit := do
  if !value.fits property.type then
    let schema := (← Attempt.perform graph).schema
    throw (.typeMismatch property.name (schema.typeName property.type))

/-- Stores a native value in a property that is no alias and no open slot. -/
def storeNative (ref : PropertyRef) (property : Property) (value : Native) (flags : WriteFlags) :
    Attempt PropertyError σ Unit := do
  requireFit property value
  if !flags.keep then
    Attempt.perform (removeWriters ref)
  if flags.bypass then
    store ref property.signal (.native value) (fun cell => cell.holds value) flags
  else
    let final ← intercepted ref value
    requireFit property final
    store ref property.signal (.native final) (fun cell => cell.holds final) flags

/-- Writes a native value; an open slot takes only script values. -/
def write (ref : PropertyRef) (value : Native) (flags : WriteFlags) :
    Attempt PropertyError σ Unit := do
  let target ← resolve ref
  let property ← Attempt.ask fun graph => graph.property target
  if property.isVar then
    match value with
    | .script content => storeVar target content flags
    | _ => throw (.typeMismatch property.name "var")
  else
    storeNative target property value flags

/-- Gives a property its default again, if it is made for that. -/
def reset (ref : PropertyRef) (flags : WriteFlags) : Attempt PropertyError σ Unit := do
  let target ← resolve ref
  let property ← Attempt.ask fun graph => graph.property target
  if property.resettable then
    write target property.default flags
  else
    throw (.notResettable property.name)

/-- Assigns a value to a property; an open slot takes its script form. -/
def assign (ref : PropertyRef) (value : Native) : Attempt PropertyError σ Unit := do
  let property ← Attempt.ask fun graph => graph.property ref
  if property.isVar then
    writeVar ref (← Attempt.perform (place value.toValue)) .none
  else
    write ref value .none

/-- Assigns a value to a property by its name. -/
def assignNamed (id : ObjectId) (name : String) (value : Native) :
    Attempt PropertyError σ Unit := do
  let index ← Attempt.ask fun graph => graph.propertyIndex id name
  assign ⟨id, index⟩ value

/-! ## Interceptors -/

/-- Installs an interceptor in the place of the one before it. -/
def installInterceptor (ref : PropertyRef) (id : HostId) : Attempt PropertyError σ Unit := do
  let target ← resolve ref
  let graph ← Attempt.perform graph
  if graph.isAlive target.object then
    Attempt.perform (modifyGraph fun graph => graph.update target.object fun object =>
      { object with interceptors := object.interceptors.put target.index id })
  else
    throw (.destroyed target.object)

/-- Whether a property has an interceptor. -/
def hasInterceptor (ref : PropertyRef) : Engine σ Bool := do
  let graph ← graph
  match graph.resolve ref defaultAliasDepth with
  | .ok target => return (graph.interceptor? target).isSome
  | .error _ => return false

/-- Removes the interceptor of a property; tells whether there was one. -/
def removeInterceptor (ref : PropertyRef) : Engine σ Bool := do
  let graph ← graph
  match graph.resolve ref defaultAliasDepth with
  | .ok target =>
      modifyGraph fun graph => graph.update target.object fun object =>
        { object with interceptors := object.interceptors.drop target.index }
      return (graph.interceptor? target).isSome
  | .error _ => return false

/-! ## Notifiers -/

/-- Makes a notifier. -/
def createNotifier (label : String) (value : Value) : Engine σ NotifierId := do
  let id := (← get).notifiers.length
  modify fun world => { world with notifiers := world.notifiers ++ [⟨label, value, 0⟩] }
  return id

/-- The value of a notifier, without telling the collector. -/
def peekNotifier (id : NotifierId) : Engine σ Value := do
  return (((← get).notifiers[id]?).map (·.value)).getD .undefined

/-- The value of a notifier; the collector is told. -/
def readNotifier (id : NotifierId) : Engine σ Value := do
  capture (.notifier id)
  peekNotifier id

/-- Gives a notifier a value, and announces it if it differs from the one before. -/
def assignNotifier (id : NotifierId) (value : Value) : Engine σ Unit := do
  match ((← get).notifiers[id]?).bind fun notifier => notifier.assign? value with
  | none => return
  | some changed =>
      modify fun world => { world with notifiers := world.notifiers.set id changed }
      announce (.notifier id)

end Engine

end PropertyBinding
