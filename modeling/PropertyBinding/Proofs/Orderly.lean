import PropertyBinding.Proofs.Keeping
import PropertyBinding.Proofs.Tenure

namespace PropertyBinding

/-!
# Orderly operations

An operation is orderly when every run of it leads to a later world: it brings
no binding back that is out, and detaches none that it does not retire.  All
operations of an engine are orderly if the code outside is.  This is about
retirement and about the operations that attach and detach.  Retirement may run
foreign code between a writer that was detached and the next one to be retired;
`Parting` carries those over it.
-/

/-- Whether a world comes out of another, if that one is tidy. -/
def World.Proceeds {σ : Type} (world later : World σ) : Prop :=
  world.Tidy → world.Later later

namespace Engine

variable {σ α β ε : Type} {outside : Outside σ} {world start : World σ}

/-- Every run of an operation from a tidy world leads to a later one. -/
def Orderly (outside : Outside σ) (operation : Engine σ α) : Prop :=
  ∀ world : World σ, world.Tidy → Ensures outside operation world fun _ after => world.Later after

theorem proceeds_steady : Steady (World.Proceeds (σ := σ)) :=
  ⟨fun _ tidy => .refl tidy, fun first second tidy => (first tidy).trans (second (first tidy).tidy)⟩

/-- What comes after a step leads further from where the step began. -/
theorem Orderly.after {operation : Engine σ α} (orderly : Orderly outside operation)
    (step : start.Later world) :
    Ensures outside operation world fun _ after => start.Later after :=
  (orderly world step.tidy).weaken fun _ _ further => step.trans further

theorem Orderly.keeps {operation : Engine σ α} (orderly : Orderly outside operation) :
    Keeps outside World.Proceeds operation :=
  fun world result after run tidy => orderly world tidy result after run

theorem Keeps.orderly {operation : Engine σ α} (keeps : Keeps outside World.Proceeds operation) :
    Orderly outside operation :=
  fun world tidy result after run => keeps world result after run tidy

end Engine

open Engine in
/-- Whether all code outside of the engine is orderly. -/
structure Outside.Orderly {σ : Type} (outside : Outside σ) : Prop where
  call : ∀ callee context, Engine.Orderly outside (foreign fun code => code.call callee context)
  intercept : ∀ id object value,
    Engine.Orderly outside (foreign fun code => code.intercept id object value)
  announce : ∀ callback, Engine.Orderly outside (foreign fun code => code.announce callback)
  handle : ∀ id failure, Engine.Orderly outside (foreign fun code => code.handle id failure)
  retire : ∀ id, Engine.Orderly outside (foreign fun code => code.retire id)

theorem Outside.Orderly.keeps {σ : Type} {outside : Outside σ} (code : outside.Orderly) :
    outside.Keeps World.Proceeds where
  call callee context := (code.call callee context).keeps
  intercept id object value := (code.intercept id object value).keeps
  announce callback := (code.announce callback).keeps
  handle id failure := (code.handle id failure).keeps
  retire id := (code.retire id).keeps

theorem Outside.Keeps.orderly {σ : Type} {outside : Outside σ}
    (code : outside.Keeps World.Proceeds) : outside.Orderly where
  call callee context := (code.call callee context).orderly
  intercept id object value := (code.intercept id object value).orderly
  announce callback := (code.announce callback).orderly
  handle id failure := (code.handle id failure).orderly
  retire id := (code.retire id).orderly

namespace Engine

variable {σ : Type} {outside : Outside σ} {world start : World σ}

/-! ## Retirement of writers -/

theorem retireBinding_orderly (id : BindingId) :
    Orderly outside (retireBinding id : Engine σ Unit) := by
  intro world tidy
  refine (retireBinding_ends id).weaken fun _ after reached => ?_
  have retires : world.Later { world with bindings := world.bindings.modify id retiredForm } :=
    .modifyBinding tidy id fun _ _ => ⟨rfl, rfl, fun _ => ⟨rfl, rfl⟩⟩
  exact retires.trans (.elsewhere retires.tidy reached.2.1 reached.2.2 reached.1)

/-- A binding that is retired is out. -/
theorem retireBinding_out {id : BindingId} {binding : Binding}
    (found : world.bindings[id]? = some binding) :
    Ensures outside (retireBinding id) world fun _ after => after.IsOut id := by
  refine (retireBinding_ends id).weaken fun _ after reached => .inr ⟨retiredForm binding, ?_, rfl⟩
  rw [reached.1, List.getElem?_modify_eq, found]
  rfl

theorem retire_orderly (code : outside.Orderly) (writer : Writer) :
    Orderly outside (retire writer : Engine σ Unit) := by
  cases writer with
  | binding id => exact retireBinding_orderly id
  | host id => exact code.retire id

theorem retireAll_orderly (code : outside.Orderly) (writers : List Writer) :
    Orderly outside (retireAll writers : Engine σ Unit) :=
  (proceeds_steady.retireAll fun writer _ => (retire_orderly code writer).keeps).orderly

/-- The detached writers that have not been retired yet are retired. -/
theorem retireAll_ends (code : outside.Orderly) {writers : List Writer}
    (parting : start.Parting writers world) :
    Ensures outside (retireAll writers) world fun _ after => start.Later after := by
  induction writers generalizing world with
  | nil => exact .value parting.done
  | cons writer rest step =>
      have retires : Ensures outside (retire writer) world fun _ after =>
          start.Parting rest after := by
        intro result after run
        apply parting.retiring (retire_orderly code writer world parting.tidy result after run)
        intro id binding same found
        subst same
        exact retireBinding_out found result after run
      exact .bind _ retires fun _ after parting => step parting

/-- Every binding on a list of writers that are retired is out. -/
theorem retireAll_out (code : outside.Orderly) {writers : List Writer} (tidy : world.Tidy)
    {id : BindingId} {binding : Binding} (listed : Writer.binding id ∈ writers)
    (found : world.bindings[id]? = some binding) :
    Ensures outside (retireAll writers) world fun _ after => after.IsOut id := by
  induction writers generalizing world binding with
  | nil => cases listed
  | cons writer rest step =>
      have first := retire_orderly code writer world tidy
      rcases List.mem_cons.mp listed with same | listed
      · subst same
        refine .bind _ (first.and (retireBinding_out found)) ?_
        rintro _ after ⟨later, out⟩
        have others := retireAll_orderly code rest after later.tidy
        exact others.weaken fun _ _ further => further.isOut out
      · refine .bind _ first ?_
        intro _ after later
        rcases later.bindings id binding found with ⟨binding', found', _⟩
        exact step later.tidy listed found'

/-! ## Changes of the graph -/

/-- Where a change of an object that moves its writers leaves the writers of others. -/
theorem writerAt?_update {graph : ObjectGraph} {id : ObjectId} {object : Object}
    (living : graph.object? id = some object) (change : Object → Object) (place : Place) :
    (graph.update id change).writerAt? place =
      if id = place.object then (change object).writers.get? place.slot
      else graph.writerAt? place := by
  unfold ObjectGraph.writerAt?
  rw [ObjectGraph.writer?_update, living]
  rfl

theorem writerAt?_of_living {graph : ObjectGraph} (place : Place) {object : Object}
    (living : graph.object? place.object = some object) :
    graph.writerAt? place = object.writers.get? place.slot := by
  unfold ObjectGraph.writerAt? ObjectGraph.writer?
  rw [living]
  rfl

/-- A change of an object that detaches some writers and attaches only writers that exist. -/
theorem parting_of_update (tidy : world.Tidy) {id : ObjectId} {object : Object}
    (living : world.graph.object? id = some object) {change : Object → Object}
    {pending : List Writer}
    (leaves : ∀ slot writer, object.writers.get? slot = some writer →
      (change object).writers.get? slot = some writer ∨ writer ∈ pending)
    (known : ∀ slot other, (change object).writers.get? slot = some (.binding other) →
      object.writers.get? slot = some (.binding other) ∨ other < world.bindings.length) :
    world.Parting pending { world with graph := world.graph.update id change } := by
  apply World.Parting.withGraph tidy (tidy.vacant.update id change)
  · intro place writer attached
    rw [writerAt?_update living]
    by_cases same : id = place.object
    · rw [if_pos same]
      subst same
      rw [writerAt?_of_living place living] at attached
      exact leaves place.slot writer attached
    · rw [if_neg same]
      exact .inl attached
  · intro place other attached
    rw [writerAt?_update living] at attached
    by_cases same : id = place.object
    · rw [if_pos same] at attached
      subst same
      rcases known place.slot other attached with former | known
      · apply tidy.known place other
        rw [writerAt?_of_living place living]
        exact former
      · exact known
    · rw [if_neg same] at attached
      exact tidy.known place other attached

/-- The writers of a property and of its fields are detached. -/
theorem parting_of_withoutWriters (tidy : world.Tidy) {ref : PropertyRef} {object : Object}
    (living : world.graph.object? ref.object = some object) :
    world.Parting (object.writersOf ref.index) { world with
      graph := world.graph.update ref.object fun object => object.withoutWritersOf ref.index } := by
  apply parting_of_update tidy living
  · intro slot writer attached
    by_cases under : slot.index = ref.index
    · right
      apply Entries.mem_values_of_get?
      rw [Entries.get?_keep, if_pos (decide_eq_true under)]
      exact attached
    · left
      unfold Object.withoutWritersOf
      rw [Entries.get?_keep, if_pos (decide_eq_true under)]
      exact attached
  · intro slot other attached
    unfold Object.withoutWritersOf at attached
    rw [Entries.get?_keep] at attached
    split at attached
    · exact .inl attached
    · cases attached

theorem removeWriters_orderly (code : outside.Orderly) (ref : PropertyRef) :
    Orderly outside (removeWriters ref : Engine σ Unit) := by
  intro world tidy
  refine .lookGraph ?_
  cases living : world.graph.object? ref.object with
  | none => exact .value (.refl tidy)
  | some object =>
      refine .change ?_
      exact retireAll_ends code (parting_of_withoutWriters tidy living)

/-- An explicit write leaves the writers of the property and of its fields out. -/
theorem removeWriters_out (code : outside.Orderly) (tidy : world.Tidy) {ref : PropertyRef}
    {place : Place} (object : place.object = ref.object) (index : place.slot.index = ref.index)
    {id : BindingId} (holds : world.Holds id place) :
    Ensures outside (removeWriters ref) world fun _ after => after.IsOut id := by
  rcases holds with attached | out
  · have living : ∃ object, world.graph.object? ref.object = some object ∧
        object.writers.get? place.slot = some (.binding id) := by
      rw [← object]
      exact Option.bind_eq_some_iff.mp attached
    rcases living with ⟨holder, living, written⟩
    have listed : Writer.binding id ∈ holder.writersOf ref.index := by
      apply Entries.mem_values_of_get?
      rw [Entries.get?_keep, if_pos (decide_eq_true index)]
      exact written
    have known := tidy.known place id attached
    refine .lookGraph ?_
    rw [living]
    refine .change ?_
    have parting := parting_of_withoutWriters tidy living
    exact retireAll_out code parting.tidy listed (List.getElem?_eq_getElem known)
  · exact (removeWriters_orderly code ref world tidy).weaken fun _ _ later => later.isOut out

theorem detach_orderly (code : outside.Orderly) (id : ObjectId) (slot : WriterSlot) :
    Orderly outside (detach id slot : Engine σ Bool) := by
  intro world tidy
  refine .lookGraph ?_
  cases attached : world.graph.writer? id slot with
  | none => exact .value (.refl tidy)
  | some writer =>
      rcases Option.bind_eq_some_iff.mp attached with ⟨object, living, written⟩
      have parting : world.Parting [writer] { world with
          graph := world.graph.update id fun object =>
            { object with writers := object.writers.drop slot } } := by
        apply parting_of_update tidy living
        · intro other writer' attached'
          by_cases same : other = slot
          · subst same
            rw [written] at attached'
            cases attached'
            exact .inr List.mem_cons_self
          · left
            rw [Entries.get?_drop, if_neg same]
            exact attached'
        · intro other id attached'
          rw [Entries.get?_drop] at attached'
          split at attached'
          · cases attached'
          · exact .inl attached'
      refine .change ?_
      refine .bind (fun _ after => world.Later after) ?_ fun _ after later => .value later
      intro result after run
      have step := retire_orderly code writer _ parting.tidy result after run
      apply World.Parting.done
      apply parting.retiring step
      intro other binding same found
      subst same
      exact retireBinding_out found result after run

/-- A binding that becomes the writer of a slot holds it. -/
theorem attach_ends (code : outside.Orderly) (tidy : world.Tidy) (id : ObjectId)
    (slot : WriterSlot) (writer : Writer)
    (known : ∀ binding, writer = .binding binding → binding < world.bindings.length) :
    Ensures outside (attach id slot writer).run world fun outcome after =>
      world.Later after ∧ (outcome = .ok () → ∀ binding, writer = .binding binding →
        after.Holds binding ⟨id, slot⟩) := by
  refine .performGraph ?_
  by_cases alive : world.graph.isAlive id = true
  · rw [if_pos alive]
    rcases Option.isSome_iff_exists.mp alive with ⟨object, living⟩
    have placed : (world.graph.update id fun object =>
        { object with writers := object.writers.put slot writer }).writerAt? ⟨id, slot⟩ =
        some writer := by
      rw [writerAt?_update living, if_pos rfl]
      exact Entries.get?_put_self _ _ _
    have previous : world.graph.writer? id slot = object.writers.get? slot :=
      writerAt?_of_living ⟨id, slot⟩ living
    have parting : world.Parting (world.graph.writer? id slot).toList { world with
        graph := world.graph.update id fun object =>
          { object with writers := object.writers.put slot writer } } := by
      apply parting_of_update tidy living
      · intro other writer' attached
        by_cases same : slot = other
        · subst same
          right
          rw [previous, attached]
          exact List.mem_singleton_self _
        · left
          rw [Entries.get?_put, if_neg same]
          exact attached
      · intro other binding attached
        rw [Entries.get?_put] at attached
        split at attached
        · cases attached
          exact .inr (known binding rfl)
        · exact .inl attached
    refine .done (.change ?_)
    have retires := retireAll_orderly code (world.graph.writer? id slot).toList _ parting.tidy
    refine ((retireAll_ends code parting).and retires).weaken ?_
    rintro _ after ⟨later, further⟩
    refine ⟨later, fun _ binding same => further.holds binding ⟨id, slot⟩ (.inl ?_)⟩
    rw [← same]
    exact placed
  · rw [if_neg alive]
    exact .value ⟨.refl tidy, fun impossible => by cases impossible⟩

theorem create_orderly (classId : ClassId) (name? : Option String) :
    Orderly outside (create classId name? : Engine σ ObjectId) := by
  intro world tidy
  have later : world.Later { world with graph := (world.graph.create classId name?).2 } := by
    apply World.Later.withGraph tidy (tidy.vacant.create classId name?)
    · exact fun place writer attached =>
        ObjectGraph.writer?_create tidy.vacant classId name? attached
    · exact fun place id attached => tidy.known place id (ObjectGraph.writer?_of_create tidy.vacant attached)
  refine .lookGraph (.change ?_)
  exact .value later

theorem destroy_orderly (code : outside.Orderly) (id : ObjectId) :
    Orderly outside (destroy id : Engine σ Bool) := by
  intro world tidy
  refine .look ?_
  cases gone : world.graph.remove? id with
  | none => exact .value (.refl tidy)
  | some removed =>
      rcases removed with ⟨object, graph⟩
      have parting : world.Parting object.writers.values { world with graph := graph } := by
        apply World.Parting.withGraph tidy (tidy.vacant.remove gone)
        · intro place writer attached
          rcases ObjectGraph.writer?_remove gone attached with stays | written
          · exact .inl stays
          · exact .inr (Entries.mem_values_of_get? written)
        · exact fun place other attached =>
            tidy.known place other (ObjectGraph.writer?_of_remove gone attached)
      have closed : world.Parting object.writers.values { world with
          graph := graph, channels := world.channels.removeObject id } :=
        parting.trans (.elsewhere parting.tidy rfl rfl rfl)
      refine .change (.change ?_)
      exact .bind _ (retireAll_ends code closed) fun _ after later => .value later

end Engine

end PropertyBinding
