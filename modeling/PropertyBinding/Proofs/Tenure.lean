import PropertyBinding.Proofs.Slots

namespace PropertyBinding

/-!
# How long a binding is the active writer

A binding that is attached to a place stays attached until it is out: retired,
or left behind by a graph that is gone.  Out is for good.  `Later` says of two
worlds that the second can come out of the first: what was out is out, and what
was attached is attached still or out.  Freed slots have to be vacant for this,
or a new object could take the place of a living one with its writers.
-/

/-- What is found under a key is among the values. -/
theorem Entries.mem_values_of_get? {κ α : Type} [DecidableEq κ] {entries : Entries κ α} {key : κ}
    {value : α} (found : entries.get? key = some value) : value ∈ entries.values :=
  List.mem_map_of_mem (mem_toList_of_get? found)

/-- A place for an active writer: an object, and a slot of it. -/
structure Place where
  object : ObjectId
  slot : WriterSlot

namespace ObjectGraph

/-- The active writer of a place. -/
def writerAt? (graph : ObjectGraph) (place : Place) : Option Writer :=
  graph.writer? place.object place.slot

theorem writer?_update (graph : ObjectGraph) (id other : ObjectId) (change : Object → Object)
    (slot : WriterSlot) :
    (graph.update id change).writer? other slot =
      if id = other then (graph.object? id).bind fun object => (change object).writers.get? slot
      else graph.writer? other slot := by
  unfold writer?
  rw [object?_update]
  split
  · cases graph.object? id <;> rfl
  · rfl

/-- A change of an object other than its writers keeps all writers. -/
theorem writer?_update_of_kept (graph : ObjectGraph) (id other : ObjectId)
    {change : Object → Object} (kept : ∀ object, (change object).writers = object.writers)
    (slot : WriterSlot) : (graph.update id change).writer? other slot = graph.writer? other slot := by
  rw [writer?_update]
  split
  · next same =>
    subst same
    simp only [kept]
    rfl
  · rfl

/-- A new object takes a vacant slot, so the living ones stay. -/
theorem object?_create {graph : ObjectGraph} (vacant : graph.Vacant) (classId : ClassId)
    (name? : Option String) {id : ObjectId} {object : Object}
    (living : graph.object? id = some object) :
    (graph.create classId name?).2.object? id = some object := by
  cases making : graph.create classId name? with
  | mk fresh made =>
      have different : id ≠ fresh := by
        intro same
        rw [object?_of_place vacant making (congrArg ObjectId.index same)] at living
        cases living
      rw [object?_after_create vacant making, if_neg different, living]

theorem writer?_create {graph : ObjectGraph} (vacant : graph.Vacant) (classId : ClassId)
    (name? : Option String) {id : ObjectId} {slot : WriterSlot} {writer : Writer}
    (attached : graph.writer? id slot = some writer) :
    (graph.create classId name?).2.writer? id slot = some writer := by
  rcases Option.bind_eq_some_iff.mp attached with ⟨object, living, written⟩
  exact Option.bind_eq_some_iff.mpr ⟨object, object?_create vacant classId name? living, written⟩

/-- Who is alive after an object was made is that object, or was alive before. -/
theorem living_before_create {graph : ObjectGraph} (vacant : graph.Vacant) {classId : ClassId}
    {name? : Option String} {id : ObjectId} {object : Object}
    (living : (graph.create classId name?).2.object? id = some object) :
    object = graph.freshObject classId name? ∨ graph.object? id = some object := by
  cases making : graph.create classId name? with
  | mk fresh made =>
      rw [making, object?_after_create vacant making] at living
      split at living
      · exact .inl (Option.some.inj living).symm
      · exact .inr living

/-- A new object has no writers. -/
theorem writer?_of_create {graph : ObjectGraph} (vacant : graph.Vacant) {classId : ClassId}
    {name? : Option String} {id : ObjectId} {slot : WriterSlot} {writer : Writer}
    (attached : (graph.create classId name?).2.writer? id slot = some writer) :
    graph.writer? id slot = some writer := by
  have fresh : (graph.freshObject classId name?).writers.get? slot = none := rfl
  rcases Option.bind_eq_some_iff.mp attached with ⟨object, living, written⟩
  rcases living_before_create vacant living with rfl | lived
  · rw [fresh] at written
    cases written
  · exact Option.bind_eq_some_iff.mpr ⟨object, lived, written⟩

/-- Only the object itself is taken out of a graph. -/
theorem object?_remove {graph removed : ObjectGraph} {id : ObjectId} {object : Object}
    (gone : graph.remove? id = some (object, removed)) {other : ObjectId} {holder : Object}
    (living : graph.object? other = some holder) :
    other = id ∧ holder = object ∨ removed.object? other = some holder := by
  by_cases same : other = id
  · subst same
    exact .inl ⟨rfl, Option.some.inj (living.symm.trans (object?_of_remove gone))⟩
  · right
    rw [object?_after_remove gone, if_neg same, living]

/-- Only the writers of the object itself go with an object. -/
theorem writer?_remove {graph removed : ObjectGraph} {id : ObjectId} {object : Object}
    (gone : graph.remove? id = some (object, removed)) {other : ObjectId} {slot : WriterSlot}
    {writer : Writer} (attached : graph.writer? other slot = some writer) :
    removed.writer? other slot = some writer ∨ object.writers.get? slot = some writer := by
  rcases Option.bind_eq_some_iff.mp attached with ⟨holder, living, written⟩
  rcases object?_remove gone living with ⟨_, rfl⟩ | stays
  · exact .inr written
  · exact .inl (Option.bind_eq_some_iff.mpr ⟨holder, stays, written⟩)

/-- Who is alive after an object was taken out was alive before. -/
theorem living_before_remove {graph removed : ObjectGraph} {id : ObjectId} {object : Object}
    (gone : graph.remove? id = some (object, removed)) {other : ObjectId} {holder : Object}
    (living : removed.object? other = some holder) : graph.object? other = some holder := by
  rw [object?_after_remove gone] at living
  split at living
  · cases living
  · exact living

/-- The writers that remain were there before. -/
theorem writer?_of_remove {graph removed : ObjectGraph} {id : ObjectId} {object : Object}
    (gone : graph.remove? id = some (object, removed)) {other : ObjectId} {slot : WriterSlot}
    {writer : Writer} (attached : removed.writer? other slot = some writer) :
    graph.writer? other slot = some writer := by
  rcases Option.bind_eq_some_iff.mp attached with ⟨holder, living, written⟩
  exact Option.bind_eq_some_iff.mpr ⟨holder, living_before_remove gone living, written⟩

end ObjectGraph

/-- What an operation keeps of a binding: a retired one stays retired and is not evaluated again. -/
structure Binding.Precedes (former binding : Binding) : Prop where
  target : binding.target = former.target
  context : binding.context = former.context
  retired : former.retired = true →
    binding.retired = true ∧ binding.evaluations = former.evaluations

theorem Binding.Precedes.trans {first second third : Binding} (left : first.Precedes second)
    (right : second.Precedes third) : first.Precedes third := by
  refine ⟨right.target.trans left.target, right.context.trans left.context, ?_⟩
  intro retired
  rcases left.retired retired with ⟨retired, evaluations⟩
  rcases right.retired retired with ⟨retired, evaluations'⟩
  exact ⟨retired, evaluations'.trans evaluations⟩

namespace World

variable {σ : Type}

/-- Whether a binding can no longer be a writer: it is retired, or the graph is gone. -/
def IsOut (world : World σ) (id : BindingId) : Prop :=
  world.hasGraph = false ∨ ∃ binding, world.bindings[id]? = some binding ∧ binding.retired = true

/-- Whether a binding is attached to a place, or out. -/
def Holds (world : World σ) (id : BindingId) (place : Place) : Prop :=
  world.graph.writerAt? place = some (.binding id) ∨ world.IsOut id

/-- A world as operations leave it: only vacant slots are filled, and all writers exist. -/
structure Tidy (world : World σ) : Prop where
  vacant : world.graph.Vacant
  known : ∀ place id, world.graph.writerAt? place = some (.binding id) →
    id < world.bindings.length

/-- Whether a world can come out of another. -/
structure Later (world later : World σ) : Prop where
  tidy : later.Tidy
  gone : world.hasGraph = false → later.hasGraph = false
  bindings : ∀ (id : BindingId) former, world.bindings[id]? = some former →
    ∃ binding, later.bindings[id]? = some binding ∧ former.Precedes binding
  holds : ∀ id place, world.Holds id place → later.Holds id place

namespace Later

variable {world middle later : World σ}

theorem isOut (step : world.Later later) {id : BindingId} (out : world.IsOut id) :
    later.IsOut id := by
  rcases out with gone | ⟨former, found, retired⟩
  · exact .inl (step.gone gone)
  · rcases step.bindings id former found with ⟨binding, found, precedes⟩
    exact .inr ⟨binding, found, (precedes.retired retired).1⟩

theorem refl (tidy : world.Tidy) : world.Later world := by
  refine ⟨tidy, fun gone => gone, ?_, fun _ _ holds => holds⟩
  intro id binding found
  exact ⟨binding, found, rfl, rfl, fun retired => ⟨retired, rfl⟩⟩

theorem trans (first : world.Later middle) (second : middle.Later later) : world.Later later := by
  refine ⟨second.tidy, fun gone => second.gone (first.gone gone), ?_, ?_⟩
  · intro id former found
    rcases first.bindings id former found with ⟨between, found, precedes⟩
    rcases second.bindings id between found with ⟨binding, found, precedes'⟩
    exact ⟨binding, found, precedes.trans precedes'⟩
  · intro id place holds
    exact second.holds id place (first.holds id place holds)

/-- Only the graph, its holders and the bindings count. -/
theorem elsewhere (tidy : world.Tidy) (graph : later.graph = world.graph)
    (holders : later.graphHolders = world.graphHolders)
    (bindings : later.bindings = world.bindings) : world.Later later := by
  have hasGraph : later.hasGraph = world.hasGraph := by
    rw [hasGraph, hasGraph, holders]
  refine ⟨⟨graph ▸ tidy.vacant, ?_⟩, ?_, ?_, ?_⟩
  · rw [graph, bindings]
    exact tidy.known
  · rw [hasGraph]
    exact fun gone => gone
  · rw [bindings]
    exact (refl tidy).bindings
  · intro id place holds
    unfold Holds IsOut at holds ⊢
    rw [graph, hasGraph, bindings]
    exact holds

/-- A change of one binding that does not bring it back. -/
theorem modifyBinding (tidy : world.Tidy) (id : BindingId) {change : Binding → Binding}
    (precedes : ∀ binding, world.bindings[id]? = some binding →
      binding.Precedes (change binding)) :
    world.Later { world with bindings := world.bindings.modify id change } := by
  have bindings : ∀ (other : BindingId) former, world.bindings[other]? = some former →
      ∃ binding, (world.bindings.modify id change)[other]? = some binding ∧
        former.Precedes binding := by
    intro other former found
    rw [List.getElem?_modify, found]
    by_cases same : id = other
    · subst same
      exact ⟨change former, by simp, precedes former found⟩
    · exact ⟨former, by simp [same], rfl, rfl, fun retired => ⟨retired, rfl⟩⟩
  refine ⟨⟨tidy.vacant, ?_⟩, fun gone => gone, bindings, ?_⟩
  · intro place other attached
    simpa using tidy.known place other attached
  · intro other place holds
    rcases holds with attached | gone | ⟨former, found, retired⟩
    · exact .inl attached
    · exact .inr (.inl gone)
    · rcases bindings other former found with ⟨binding, found, precedes⟩
      exact .inr (.inr ⟨binding, found, (precedes.retired retired).1⟩)

end Later

/--
Whether a world can come out of another, but for some writers that were
detached and have not been retired yet.
-/
structure Parting (pending : List Writer) (world later : World σ) : Prop where
  tidy : later.Tidy
  gone : world.hasGraph = false → later.hasGraph = false
  bindings : ∀ (id : BindingId) former, world.bindings[id]? = some former →
    ∃ binding, later.bindings[id]? = some binding ∧ former.Precedes binding
  holds : ∀ id place, world.Holds id place → later.Holds id place ∨
    (Writer.binding id ∈ pending ∧ ∃ binding, later.bindings[id]? = some binding)

namespace Parting

variable {world middle later : World σ} {pending rest : List Writer}

/-- With the last detached writer retired the step is over. -/
theorem done (parting : world.Parting [] later) : world.Later later := by
  refine ⟨parting.tidy, parting.gone, parting.bindings, ?_⟩
  intro id place holds
  rcases parting.holds id place holds with stays | ⟨impossible, _⟩
  · exact stays
  · cases impossible

theorem trans (parting : world.Parting pending middle) (step : middle.Later later) :
    world.Parting pending later := by
  refine ⟨step.tidy, fun gone => step.gone (parting.gone gone), ?_, ?_⟩
  · intro id former found
    rcases parting.bindings id former found with ⟨between, found, precedes⟩
    rcases step.bindings id between found with ⟨binding, found, precedes'⟩
    exact ⟨binding, found, precedes.trans precedes'⟩
  · intro id place holds
    rcases parting.holds id place holds with stays | ⟨listed, former, found⟩
    · exact .inl (step.holds id place stays)
    · rcases step.bindings id former found with ⟨binding, found, _⟩
      exact .inr ⟨listed, binding, found⟩

/-- A step that leaves a detached writer out retires it. -/
theorem retiring {writer : Writer} (parting : world.Parting (writer :: rest) middle)
    (step : middle.Later later) (out : ∀ id binding, writer = .binding id →
      middle.bindings[id]? = some binding → later.IsOut id) : world.Parting rest later := by
  have further := parting.trans step
  refine ⟨further.tidy, further.gone, further.bindings, ?_⟩
  intro id place holds
  rcases parting.holds id place holds with stays | ⟨listed, former, found⟩
  · exact .inl (step.holds id place stays)
  · rcases List.mem_cons.mp listed with same | listed
    · exact .inl (.inr (out id former same.symm found))
    · rcases step.bindings id former found with ⟨binding, found, _⟩
      exact .inr ⟨listed, binding, found⟩

/-- A change of the graph that detaches some writers. -/
theorem withGraph (tidy : world.Tidy) {graph : ObjectGraph} (vacant : graph.Vacant)
    (leaves : ∀ place writer, world.graph.writerAt? place = some writer →
      graph.writerAt? place = some writer ∨ writer ∈ pending)
    (known : ∀ place id, graph.writerAt? place = some (.binding id) →
      id < world.bindings.length) :
    world.Parting pending { world with graph := graph } := by
  refine ⟨⟨vacant, known⟩, fun gone => gone, (Later.refl tidy).bindings, ?_⟩
  intro id place holds
  rcases holds with attached | out
  · rcases leaves place _ attached with stays | listed
    · exact .inl (.inl stays)
    · have exists' := tidy.known place id attached
      exact .inr ⟨listed, world.bindings[id], List.getElem?_eq_getElem exists'⟩
  · exact .inl (.inr out)

end Parting

/-- A change of the graph that detaches no writer. -/
theorem Later.withGraph {world : World σ} (tidy : world.Tidy) {graph : ObjectGraph}
    (vacant : graph.Vacant)
    (stays : ∀ place writer, world.graph.writerAt? place = some writer →
      graph.writerAt? place = some writer)
    (known : ∀ place id, graph.writerAt? place = some (.binding id) →
      id < world.bindings.length) :
    world.Later { world with graph := graph } := by
  apply Parting.done
  apply Parting.withGraph tidy vacant
  · exact fun place writer attached => .inl (stays place writer attached)
  · exact known

/-- A change of an object other than its writers. -/
theorem Later.update {world : World σ} (tidy : world.Tidy) (id : ObjectId)
    {change : Object → Object} (kept : ∀ object, (change object).writers = object.writers) :
    world.Later { world with graph := world.graph.update id change } := by
  have same : ∀ place, (world.graph.update id change).writerAt? place =
      world.graph.writerAt? place :=
    fun place => world.graph.writer?_update_of_kept id place.object kept place.slot
  apply withGraph tidy (tidy.vacant.update id change)
  · intro place writer attached
    rw [same]
    exact attached
  · intro place other attached
    rw [same] at attached
    exact tidy.known place other attached

end World

end PropertyBinding
