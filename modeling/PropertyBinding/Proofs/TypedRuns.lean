import PropertyBinding.Proofs.Depositing
import PropertyBinding.Proofs.Typing

namespace PropertyBinding

/-!
# Typed runs

A value is checked before foreign code runs and stored after it.  Meanwhile its object
may have been destroyed, and the slot may have gone to an object of another class.  The
store asks again whether the object is alive, and one that is alive under a name is the
one that was checked, as long as no name is given twice.

Foreign code runs in the middle of what the engine does, and what it finds there is not
told by the world in which a run ends.  So it keeps a journal beside its state.  It may
note the graph there wherever it likes, and it counts the objects that it destroys.  While
these are fewer than a slot can count, whatever is done to a proper graph leaves it proper,
and every graph that is noted meanwhile is typed.
-/

/-- What foreign code writes down. -/
structure Journal where
  /-- The graphs that it has noted. -/
  graphs : List ObjectGraph := []
  /-- How many objects it has destroyed. -/
  destroyed : Nat := 0

namespace World

variable {σ : Type}

/-- What foreign code has written down beside its state. -/
def journal (world : World (σ × Journal)) : Journal :=
  world.host.2

/-- The world after foreign code has written something down. -/
def writeDown (world : World (σ × Journal)) (change : Journal → Journal) : World (σ × Journal) :=
  { world with host := (world.host.1, change world.host.2) }

/-- Whether the graph, if there is one, is proper by the count in the journal. -/
def IsProper (world : World (σ × Journal)) : Prop :=
  world.hasGraph = true → world.graph.Proper world.journal.destroyed

/-- Whether fewer objects were destroyed than a slot can count. -/
def Young (world : World (σ × Journal)) : Prop :=
  world.journal.destroyed < UInt32.size

/-- Whether a proper graph persists and stays proper, and what is noted of it is typed. -/
structure StaysTyped (world later : World (σ × Journal)) : Prop where
  present : later.hasGraph = true → world.hasGraph = true
  counts : world.journal.destroyed ≤ later.journal.destroyed
  proper : later.Young → world.graph.Proper world.journal.destroyed → later.hasGraph = true →
    later.graph.Proper later.journal.destroyed ∧ world.graph.Persists later.graph
  notes : later.Young → world.IsProper →
    (∀ graph ∈ world.journal.graphs, graph.WellTyped) →
      ∀ graph ∈ later.journal.graphs, graph.WellTyped

namespace StaysTyped

variable {world middle later : World (σ × Journal)}

theorem young (stays : world.StaysTyped later) (young : later.Young) : world.Young :=
  Nat.lt_of_le_of_lt stays.counts young

theorem isProper (stays : world.StaysTyped later) (young : later.Young) (proper : world.IsProper) :
    later.IsProper :=
  fun present => (stays.proper young (proper (stays.present present)) present).1

theorem trans (first : world.StaysTyped middle) (second : middle.StaysTyped later) :
    world.StaysTyped later where
  present lasting := first.present (second.present lasting)
  counts := Nat.le_trans first.counts second.counts
  proper young proper lasting := by
    rcases first.proper (second.young young) proper (second.present lasting) with ⟨kept, persists⟩
    rcases second.proper young kept lasting with ⟨kept, further⟩
    exact ⟨kept, persists.trans further⟩
  notes young proper noted :=
    second.notes young (first.isProper (second.young young) proper)
      (first.notes (second.young young) proper noted)

/-- The graph may be changed to a proper one in which it persists. -/
theorem withGraph {graph : ObjectGraph} (journal : later.journal = world.journal)
    (changed : later.graph = graph) (holders : later.graphHolders = world.graphHolders)
    (step : world.graph.Proper world.journal.destroyed →
      graph.Proper world.journal.destroyed ∧ world.graph.Persists graph) :
    world.StaysTyped later where
  present lasting := by rwa [hasGraph, ← holders]
  counts := Nat.le_of_eq (by rw [journal])
  proper _ proper _ := by
    rw [journal, changed]
    exact step proper
  notes _ _ noted := by rwa [journal]

theorem beside (journal : later.journal = world.journal) (graph : later.graph = world.graph)
    (holders : later.graphHolders = world.graphHolders) : world.StaysTyped later :=
  withGraph journal graph holders fun proper => ⟨proper, .refl _⟩

/-- An object may change in all but its class and its cells. -/
theorem update (id : ObjectId) {change : Object → Object}
    (kept : ∀ object, (change object).classId = object.classId ∧
      (change object).cells = object.cells) :
    world.StaysTyped { world with graph := world.graph.update id change } :=
  withGraph rfl rfl rfl fun proper => ⟨proper.update id kept, .update id fun object => (kept object).1⟩

end StaysTyped

end World

namespace Engine

variable {σ α ε : Type} {outside : Outside (σ × Journal)}
  {world start freed ready after : World (σ × Journal)}
  {target : PropertyRef} {property : Property} {flags : WriteFlags}

theorem typed_steady : Steady (World.StaysTyped (σ := σ)) where
  refl _ := .beside rfl rfl rfl
  trans := .trans

/-! ## Assignments -/

section Assignments

variable (code : outside.Keeps World.StaysTyped)
include code

theorem typed_groundwork : Groundwork outside (World.StaysTyped (σ := σ)) where
  toSteady := typed_steady
  code := code
  elsewhere host graph holders _ := .beside (congrArg Prod.snd host) graph holders
  slight _ _ _ _ := .beside rfl rfl rfl

theorem retire_typed (writer : Writer) : Keeps outside World.StaysTyped (retire writer) := by
  cases writer with
  | binding id =>
      refine fun world => (retireBinding_frame id).weaken ?_
      rintro _ _ ⟨channels, rfl⟩
      exact .beside rfl rfl rfl
  | host id => exact code.retire id

theorem typed_staffing : Staffing outside (World.StaysTyped (σ := σ)) where
  toSteady := typed_steady
  retired := retire_typed code
  rewired _ id change rewires := .update id fun object => by
    rcases rewires object with ⟨writers, same⟩
    rw [same]
    exact ⟨rfl, rfl⟩

theorem Relieves.typed (relieves : Relieves outside target flags start freed) :
    start.StaysTyped freed := by
  cases relieves with
  | kept => exact typed_steady.refl start
  | removed _ run => exact (typed_staffing code).removeWriters target _ _ _ run

theorem Consults.typed {value final : Native}
    (consults : Consults outside target flags value freed final ready) :
    freed.StaysTyped ready := by
  cases consults with
  | skipped => exact typed_steady.refl freed
  | unwatched => exact typed_steady.refl freed
  | asked _ _ answered => exact code.intercept _ _ _ freed final ready answered

/-- What suits a property suits its object as long as that is alive, whatever was done since. -/
theorem Deposits.typed {cell : Cell} {source : Source} (stays : start.StaysTyped ready)
    (described : start.graph.property target = .ok property)
    (suits : ∀ points, cell.Suits property points)
    (deposits : Deposits outside target cell source ready after) : start.StaysTyped after := by
  have placed : start.StaysTyped { ready with graph := ready.graph.setCell target cell } := by
    refine ⟨stays.present, stays.counts, fun young proper lasting => ?_, stays.notes⟩
    rcases stays.proper young proper lasting with ⟨kept, persists⟩
    refine ⟨kept.setCell target fun other described' => ?_, persists.trans (.update _ fun _ => rfl)⟩
    rcases persists.describes described with same | spent
    · cases same.symm.trans described'
      exact suits _
    · -- the slot may be another object's by now, but then not under this name
      have alive := ObjectGraph.isAlive_of_property described'
      rw [spent.not_alive] at alive
      cases alive
  cases deposits with
  | quiet => exact placed
  | announced run =>
      exact placed.trans ((typed_groundwork code).outspoken.announce source _ () after run)

theorem NativeCourse.typed {value : Native} {outcome : Except PropertyError Unit}
    (described : start.graph.property target = .ok property) (closed : property.storage = .native)
    (course : NativeCourse outside target property value flags start outcome after) :
    start.StaysTyped after := by
  cases course with
  | unfit => exact typed_steady.refl start
  | bereft _ relieves => exact relieves.typed code
  | spoiled _ relieves consults => exact (relieves.typed code).trans (consults.typed code)
  | lost _ relieves consults => exact (relieves.typed code).trans (consults.typed code)
  | stored _ relieves consults fit _ deposits =>
      exact deposits.typed code ((relieves.typed code).trans (consults.typed code)) described
        fun _ => .native closed fit

theorem SlotCourse.typed {content : Value} {outcome : Except PropertyError Unit}
    (described : start.graph.property target = .ok property) (slotted : property.isVar = true)
    (course : SlotCourse outside target property content flags start outcome after) :
    start.StaysTyped after := by
  cases course with
  | bereft relieves => exact relieves.typed code
  | stored relieves deposits =>
      exact deposits.typed code (relieves.typed code) described
        fun _ => .var (of_decide_eq_true slotted)

/-- What lands in a property that is no alias leaves the graph typed. -/
theorem Lands.typed {aim : Aim} {success : Bool}
    (direct : ∀ target, aim.target? = .ok target → ∃ property,
      world.graph.property target = .ok property ∧ property.isAlias = false)
    (lands : Lands outside world aim success after) : world.StaysTyped after := by
  have aside : ∀ {later : World (σ × Journal)}, world.Aside later →
      world.StaysTyped later := fun same =>
    .beside (congrArg Prod.snd same.host) same.graph (congrArg World.graphHolders same.eq :)
  rcases lands.course with ⟨_, same⟩ |
    ⟨start, target, property, outcome, same, found, described, _, course⟩
  · exact aside same
  · refine (aside same).trans ?_
    rcases direct target found with ⟨_, described', unaliased⟩
    cases described.symm.trans described'
    rw [← same.graph] at described
    cases course with
    | native closed _ course =>
        refine course.typed code described ?_
        cases stored : property.storage <;> simp_all [Property.isVar, Property.isAlias]
    | slot slotted course => exact course.typed code described slotted

theorem typed_upkeep : Upkeep outside (World.StaysTyped (σ := σ)) where
  toGroundwork := typed_groundwork code
  write ref value flags := fun _ _ _ run => (write_lands ref flags value _ _ run).typed code
    fun _ resolved => ObjectGraph.not_alias_of_resolve resolved
  writeVar ref value flags := fun _ _ _ run => (writeVar_lands ref flags value _ _ run).typed code
    fun _ resolved => ObjectGraph.not_alias_of_resolve resolved
  setAlias ref target := by
    refine fun world => .ask (fun changed pointed => ?_) fun _ _ => typed_steady.refl world
    refine .done (.change (.value ?_))
    rcases ObjectGraph.parts_of_setAlias pointed with ⟨⟨property, described, pointer⟩, aimed, rfl⟩
    refine .withGraph rfl rfl rfl fun proper =>
      ⟨proper.setCell ref fun other same => ?_, .update _ fun _ => rfl⟩
    cases described.symm.trans same
    refine .pointer (of_decide_eq_true pointer) fun _ led => ?_
    cases led
    exact .inl aimed
  installInterceptor ref id := by
    have steady := typed_steady (σ := σ)
    refine steady.attempt steady.ask fun target => steady.perform steady.seen fun graph => ?_
    refine Steady.choose (steady.done (Steady.change fun world => ?_)) (steady.fail _)
    exact .update _ fun _ => ⟨rfl, rfl⟩
  removeInterceptor ref := by
    have steady := typed_steady (σ := σ)
    refine steady.bind steady.seen fun graph => ?_
    split
    · refine steady.bind (Steady.change fun world => ?_) fun _ => steady.value _
      exact .update _ fun _ => ⟨rfl, rfl⟩
    · exact steady.value false

/-! ## Lifetimes -/

omit code in
theorem create_typed (classId : ClassId) (name? : Option String) :
    Keeps outside (World.StaysTyped (σ := σ)) (create classId name?) :=
  fun _ => .lookGraph (.change (.value (.withGraph rfl rfl rfl fun proper =>
    ⟨proper.create classId name?, .create proper.vacant classId name?⟩)))

/-- With the last holder the graph goes, and nothing is asked of it any more. -/
theorem releaseGraph_typed : Keeps outside World.StaysTyped releaseGraph := by
  refine (typed_groundwork code).discreet.releaseGraph (fun world => ?_) fun world gone => ?_
  · refine ⟨fun lasting => ?_, Nat.le_refl _, fun _ proper _ => ⟨proper, .refl _⟩,
      fun _ _ noted => noted⟩
    unfold World.hasGraph at lasting ⊢
    simp only [decide_eq_true_eq] at lasting ⊢
    omega
  · have absent : ¬world.hasGraph = true := by simp [gone]
    exact ⟨fun lasting => lasting, Nat.le_refl _, fun _ _ lasting => absurd lasting absent,
      fun _ _ noted => noted⟩

/-- All operations but destruction leave the graph typed. -/
theorem typed_full : FullUpkeep outside (World.StaysTyped (σ := σ)) where
  toUpkeep := typed_upkeep code
  create := create_typed
  detach := (typed_staffing code).detach
  releaseGraph := releaseGraph_typed code
  update id flags := by
    have upkeep := typed_upkeep code
    refine upkeep.update (fun world present => ?_) (releaseGraph_typed code) ?_ flags
    · exact ⟨fun _ => present, Nat.le_refl _, fun _ proper _ => ⟨proper, .refl _⟩,
        fun _ _ noted => noted⟩
    · intro world binding flags _ _ _
      exact upkeep.runUpdate (fun _ _ _ => .beside rfl rfl rfl) (fun _ => .beside rfl rfl rfl)
        binding flags world
  append _ _ _ _ _ := .beside rfl rfl rfl
  switch _ _ _ _ _ _ := .beside rfl rfl rfl

end Assignments

/-! ## Programs with a journal -/

/-- Notes the graph, if there is one. -/
def noteGraph : Engine (σ × Journal) Unit :=
  modify fun world =>
    if world.hasGraph then
      world.writeDown fun journal => { journal with graphs := world.graph :: journal.graphs }
    else world

/-- Destroys an object, and counts it if it was alive. -/
def destroyCounted (id : ObjectId) : Engine (σ × Journal) Bool := do
  modify fun world =>
    if world.graph.isAlive id then
      world.writeDown fun journal => { journal with destroyed := journal.destroyed + 1 }
    else world
  destroy id

theorem noteGraph_typed : Keeps outside (World.StaysTyped (σ := σ)) noteGraph := by
  refine Steady.change fun world => ?_
  split
  · next present =>
    refine ⟨fun lasting => lasting, Nat.le_refl _, fun _ proper _ => ⟨proper, .refl _⟩, ?_⟩
    exact fun _ proper noted => List.forall_mem_cons.mpr ⟨(proper present).wellTyped, noted⟩
  · exact typed_steady.refl world

theorem destroyCounted_typed (code : outside.Keeps World.StaysTyped) (id : ObjectId) :
    Keeps outside World.StaysTyped (destroyCounted id) := by
  intro world
  refine .change ?_
  by_cases alive : world.graph.isAlive id = true
  · rw [if_pos alive]
    refine (typed_staffing code).destroy_ensures id (fun absent => ?_) fun object graph removal => ?_
    · have dead : world.graph.object? id = none := Option.map_eq_none_iff.mp absent
      rw [ObjectGraph.isAlive, dead] at alive
      cases alive
    · exact ⟨fun lasting => lasting, Nat.le_succ _, fun young proper _ => proper.remove removal young,
        fun _ _ noted => noted⟩
  · rw [if_neg alive]
    refine (typed_staffing code).destroy_ensures id (fun _ => typed_steady.refl world) ?_
    intro object graph removal
    rw [ObjectGraph.isAlive, ObjectGraph.object?_of_remove removal] at alive
    exact absurd rfl alive

/--
Code that is put together from operations of the engine, and keeps a journal: of the graph
wherever it likes, and of every object that it destroys.
-/
inductive Journaled : {α : Type} → Engine (σ × Journal) α → Prop
  | value {α : Type} (result : α) : Journaled (pure result)
  | sequence {α β : Type} {operation : Engine (σ × Journal) α}
      {next : α → Engine (σ × Journal) β} (first : Journaled operation)
      (second : ∀ result, Journaled (next result)) : Journaled (operation >>= next)
  | get : Journaled get
  | note : Journaled noteGraph
  /-- All may be changed but the graph, its holders, the bindings and the journal. -/
  | elsewhere {change : World (σ × Journal) → World (σ × Journal)}
      (same : ∀ world, (change world).graph = world.graph ∧
        (change world).graphHolders = world.graphHolders ∧
        (change world).bindings = world.bindings ∧ (change world).journal = world.journal) :
      Journaled (modify change)
  | invoke (callee : Function) (context : Script.CallContext) :
      Journaled (Script.Evaluation.invoke callee context).run
  | announce (source : Source) : Journaled (announce source)
  | create (classId : ClassId) (name? : Option String) : Journaled (create classId name?)
  | destroy (id : ObjectId) : Journaled (destroyCounted id)
  | setAlias (ref target : PropertyRef) : Journaled (setAlias ref target).run
  | read (ref : PropertyRef) : Journaled (read ref).run
  | readNotifier (id : NotifierId) : Journaled (readNotifier id)
  | assignNotifier (id : NotifierId) (value : Value) : Journaled (assignNotifier id value)
  | write (ref : PropertyRef) (value : Native) (flags : WriteFlags) :
      Journaled (write ref value flags).run
  | writeVar (ref : PropertyRef) (value : Value) (flags : WriteFlags) :
      Journaled (writeVar ref value flags).run
  | reset (ref : PropertyRef) (flags : WriteFlags) : Journaled (reset ref flags).run
  | assign (ref : PropertyRef) (value : Native) : Journaled (assign ref value).run
  | assignNamed (id : ObjectId) (name : String) (value : Native) :
      Journaled (assignNamed id name value).run
  | assignMember (id : ObjectId) (name : String) (value : Value) :
      Journaled (Script.Evaluation.assignMember id name value).run
  | installInterceptor (ref : PropertyRef) (id : HostId) : Journaled (installInterceptor ref id).run
  | removeInterceptor (ref : PropertyRef) : Journaled (removeInterceptor ref)
  | attach (id : ObjectId) (slot : WriterSlot) (writer : HostId) :
      Journaled (attach id slot (.host writer)).run
  | detach (id : ObjectId) (slot : WriterSlot) : Journaled (detach id slot)
  | createBinding (context : BindingContext) (target : BindingTarget)
      (expression : BindingExpression) (options : BindingOptions) :
      Journaled (createBinding context target expression options).run
  | install (id : BindingId) : Journaled (install id).run
  | setEnabled (id : BindingId) (enabled : Bool) (flags? : Option WriteFlags) :
      Journaled (setEnabled id enabled flags?)
  | update (id : BindingId) (flags : WriteFlags) : Journaled (update id flags)
  | refreshFastPath (id : BindingId) : Journaled (refreshFastPath id)
  | reportPending (id : BindingId) : Journaled (reportPending id)
  | retain (id : BindingId) : Journaled (retain id)
  | release (id : BindingId) : Journaled (release id)
  | releaseGraph : Journaled releaseGraph

theorem Journaled.typed (code : outside.Keeps World.StaysTyped)
    {operation : Engine (σ × Journal) α} (journaled : Journaled operation) :
    Keeps outside World.StaysTyped operation := by
  have upkeep := typed_full code
  induction journaled with
  | value result => exact upkeep.value result
  | sequence _ _ step steps => exact upkeep.toSteady.bind step steps
  | get => exact upkeep.get
  | note => exact noteGraph_typed
  | elsewhere same =>
      refine Steady.change fun world => ?_
      exact .beside (same world).2.2.2 (same world).1 (same world).2.1
  | invoke callee context => exact code.call callee context
  | announce source => exact upkeep.outspoken.announce source
  | create classId name? => exact upkeep.create classId name?
  | destroy id => exact destroyCounted_typed code id
  | setAlias ref target => exact upkeep.setAlias ref target
  | read ref => exact upkeep.read ref
  | readNotifier id => exact upkeep.readNotifier id
  | assignNotifier id value => exact upkeep.assignNotifier id value
  | write ref value flags => exact upkeep.write ref value flags
  | writeVar ref value flags => exact upkeep.writeVar ref value flags
  | reset ref flags => exact upkeep.reset ref flags
  | assign ref value => exact upkeep.assign ref value
  | assignNamed id name value => exact upkeep.assignNamed id name value
  | assignMember id name value => exact upkeep.assignMember id name value
  | installInterceptor ref id => exact upkeep.installInterceptor ref id
  | removeInterceptor ref => exact upkeep.removeInterceptor ref
  | attach id slot writer => exact (typed_staffing code).attach id slot _
  | detach id slot => exact upkeep.detach id slot
  | createBinding context target expression options =>
      exact upkeep.createBinding context target expression options
  | install id => exact (typed_staffing code).install id
  | setEnabled id enabled flags? => exact upkeep.setEnabled id enabled flags?
  | update id flags => exact upkeep.update id flags
  | refreshFastPath id => exact upkeep.refreshFastPath id
  | reportPending id => exact upkeep.reportPending id
  | retain id => exact upkeep.retain id
  | release id => exact upkeep.release id
  | releaseGraph => exact upkeep.releaseGraph

variable {host : Host (σ × Journal)}

/-- However deep it nests, the code of a host with a journal leaves the graph typed. -/
theorem within_typed (journaled : host.Obeys Journaled) (bound : Nat) :
    (Outside.within host bound).Keeps World.StaysTyped :=
  within_keeps (fun _ code => typed_full code) (fun _ code => journaled.weaken (Journaled.typed code))
    bound

/-- Whether a run of programs with a journal leads from one world to another. -/
inductive JournaledReaches (host : Host (σ × Journal)) :
    World (σ × Journal) → World (σ × Journal) → Prop
  | start (world : World (σ × Journal)) : JournaledReaches host world world
  | step {world middle later : World (σ × Journal)} {α : Type}
      {operation : Engine (σ × Journal) α} {bound : Nat} {result : α}
      (earlier : JournaledReaches host world middle) (journaled : Journaled operation)
      (run : runWithin bound host operation middle = some (result, later)) :
      JournaledReaches host world later

theorem JournaledReaches.typed (journaled : host.Obeys Journaled) {now : World (σ × Journal)}
    (reaches : JournaledReaches host world now) : world.StaysTyped now := by
  induction reaches with
  | start => exact typed_steady.refl _
  | step earlier program run step =>
      exact step.trans (program.typed (within_typed journaled _) _ _ _ run)

/-- Whether a graph is the one of a world, or was noted on the way there. -/
def Shown (now : World (σ × Journal)) (graph : ObjectGraph) : Prop :=
  now.hasGraph = true ∧ graph = now.graph ∨ graph ∈ now.journal.graphs

section Swap

/-- A flag, and a counter that begins at seven. -/
def swapSchema : Schema :=
  (Schema.empty.defineClass "Flag" none [.native "on" .bool]).defineClass "Counter" none
    [.resettableTo (.int 7) "count" .int, .aliased "shown" .int]

/-- A host whose interceptor puts a counter in the place of the object that is written to. -/
def swapper : Host (Unit × Journal) where
  call _ _ := return .undefined
  callTyped _ _ := return .bool false
  intercept _ object value := do
    let _ ← destroyCounted object
    let counter ← create 1 none
    let _ ← (setAlias ⟨counter, 1⟩ ⟨counter, 0⟩).run
    noteGraph
    return value
  announce _ := return
  handle _ _ := return
  retire _ := return

end Swap

end Engine
end PropertyBinding
