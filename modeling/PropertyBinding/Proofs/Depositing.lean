import PropertyBinding.Proofs.ActiveWriter
import PropertyBinding.Proofs.Assigning

namespace PropertyBinding

/-!
# How values are stored

A store has phases in turn, and foreign code is called in each of them: the writers that
the assignment does not keep are told, an interceptor is asked about the value, and the
subscribers are called after the value is in place.  `NativeCourse` and `SlotCourse` say
how the phases can follow each other.  A store that fails fails in the first two phases.

As long as all writers of a property are bindings, no foreign code is called in the first
phase, and it changes no more than the bindings that it retires.
-/

/-- The world without the writers of a property. -/
def World.withoutWritersOf {σ : Type} (world : World σ) (target : PropertyRef) : World σ :=
  { world with graph := world.graph.update target.object fun object =>
      object.withoutWritersOf target.index }

namespace ObjectGraph

/-- Whether two graphs have the same objects, cells and interceptors. -/
structure WritersOnly (graph after : ObjectGraph) : Prop where
  cell : ∀ ref, after.cell? ref = graph.cell? ref
  interceptor : ∀ ref, after.interceptor? ref = graph.interceptor? ref
  classOf : ∀ id, after.classOf? id = graph.classOf? id

theorem interceptor?_update (graph : ObjectGraph) (id : ObjectId) (ref : PropertyRef)
    {change : Object → Object}
    (keeps : ∀ object, (change object).interceptors = object.interceptors) :
    (graph.update id change).interceptor? ref = graph.interceptor? ref := by
  unfold interceptor?
  rw [object?_update]
  split
  · next same =>
    subst same
    cases graph.object? ref.object <;> simp [keeps]
  · rfl

theorem WritersOnly.update (graph : ObjectGraph) (id : ObjectId) {change : Object → Object}
    (keeps : ∀ object, (change object).cells = object.cells ∧
      (change object).interceptors = object.interceptors ∧
      (change object).classId = object.classId) : graph.WritersOnly (graph.update id change) where
  cell ref := graph.cell?_update id ref fun object => (keeps object).1
  interceptor ref := graph.interceptor?_update id ref fun object => (keeps object).2.1
  classOf other := graph.classOf?_update id other fun object => (keeps object).2.2

theorem WritersOnly.isAlive {graph after : ObjectGraph} (only : graph.WritersOnly after)
    (id : ObjectId) : after.isAlive id = graph.isAlive id := by
  rw [isAlive_eq, isAlive_eq, only.classOf]

end ObjectGraph

namespace Engine

variable {σ α ε : Type} {outside : Outside σ} {world start freed after : World σ}
  {target : PropertyRef} {property : Property} {value : Native} {flags : WriteFlags}

/-! ## Phases -/

/-- How the writers of a property go before a value is stored there, unless they are kept. -/
inductive Relieves (outside : Outside σ) (target : PropertyRef) (flags : WriteFlags) :
    World σ → World σ → Prop
  | kept {start : World σ} (keep : flags.keep = true) : Relieves outside target flags start start
  | removed {start freed : World σ} (replaces : flags.keep = false)
      (run : removeWriters target outside start = some ((), freed)) :
      Relieves outside target flags start freed

/-- What the interceptor of a property, if it has one that is not skipped, makes of a value. -/
inductive Consults (outside : Outside σ) (target : PropertyRef) (flags : WriteFlags)
    (value : Native) (freed : World σ) : Native → World σ → Prop
  | skipped (bypass : flags.bypass = true) : Consults outside target flags value freed value freed
  | unwatched (nobody : freed.graph.interceptor? target = none) :
      Consults outside target flags value freed value freed
  | asked {id : HostId} {final : Native} {ready : World σ} (seen : flags.bypass = false)
      (watched : freed.graph.interceptor? target = some id)
      (answered : outside.intercept id target.object value freed = some (final, ready)) :
      Consults outside target flags value freed final ready

/-- How a cell is put in place, with or without an announcement. -/
inductive Deposits (outside : Outside σ) (target : PropertyRef) (cell : Cell) (source : Source)
    (ready : World σ) : World σ → Prop
  | quiet : Deposits outside target cell source ready
      { ready with graph := ready.graph.setCell target cell }
  | announced {after : World σ} (run : announce source outside
      { ready with graph := ready.graph.setCell target cell } = some ((), after)) :
      Deposits outside target cell source ready after

/-- How the store of a native value can go. -/
inductive NativeCourse (outside : Outside σ) (target : PropertyRef) (property : Property)
    (value : Native) (flags : WriteFlags) (start : World σ) :
    Except PropertyError Unit → World σ → Prop
  /-- The value does not have the shape that the property asks for. -/
  | unfit {error : PropertyError} (fits : value.fits property.type = false) :
      NativeCourse outside target property value flags start (.error error) start
  /-- The object did not survive that its writers were told. -/
  | bereft {freed : World σ} {error : PropertyError} (fits : value.fits property.type = true)
      (relieves : Relieves outside target flags start freed)
      (dead : freed.graph.isAlive target.object = false) :
      NativeCourse outside target property value flags start (.error error) freed
  /-- The value that the interceptor left does not have the shape. -/
  | spoiled {freed ready : World σ} {final : Native} {error : PropertyError}
      (fits : value.fits property.type = true)
      (relieves : Relieves outside target flags start freed)
      (consults : Consults outside target flags value freed final ready)
      (unfit : final.fits property.type = false) :
      NativeCourse outside target property value flags start (.error error) ready
  /-- The object did not survive the interceptor. -/
  | lost {freed ready : World σ} {final : Native} {error : PropertyError}
      (fits : value.fits property.type = true)
      (relieves : Relieves outside target flags start freed)
      (consults : Consults outside target flags value freed final ready)
      (dead : ready.graph.isAlive target.object = false) :
      NativeCourse outside target property value flags start (.error error) ready
  | stored {freed ready after : World σ} {final : Native} (fits : value.fits property.type = true)
      (relieves : Relieves outside target flags start freed)
      (consults : Consults outside target flags value freed final ready)
      (fit : final.fits property.type = true)
      (alive : ready.graph.isAlive target.object = true)
      (deposits : Deposits outside target (.native final) (.property target.object property.signal)
        ready after) :
      NativeCourse outside target property value flags start (.ok ()) after

/-- How the store of a script value can go in a property that is an open slot. -/
inductive SlotCourse (outside : Outside σ) (target : PropertyRef) (property : Property)
    (content : Value) (flags : WriteFlags) (start : World σ) :
    Except PropertyError Unit → World σ → Prop
  /-- The object did not survive that its writers were told. -/
  | bereft {freed : World σ} {error : PropertyError}
      (relieves : Relieves outside target flags start freed)
      (dead : freed.graph.isAlive target.object = false) :
      SlotCourse outside target property content flags start (.error error) freed
  | stored {freed after : World σ} (relieves : Relieves outside target flags start freed)
      (deposits : Deposits outside target (.var content) (.property target.object property.signal)
        freed after) :
      SlotCourse outside target property content flags start (.ok ()) after

theorem requireFit_ensures (property : Property) (value : Native) :
    Ensures outside (requireFit property value).run world fun outcome after => after = world ∧
      match outcome with
      | .ok _ => value.fits property.type = true
      | .error _ => value.fits property.type = false := by
  refine .of_steps (requireFit_steps property value) ⟨rfl, ?_⟩
  cases fits : value.fits property.type <;> rfl

theorem intercepted_ensures (target : PropertyRef) (value : Native) (seen : flags.bypass = false) :
    Ensures outside (intercepted target value).run world fun outcome after =>
      match outcome with
      | .ok final => Consults outside target flags value world final after
      | .error _ => after = world ∧ world.graph.isAlive target.object = false := by
  refine .performGraph (.choose (fun _ => ?_) fun dead => .value ⟨rfl, by simpa using dead⟩)
  cases watched : world.graph.interceptor? target with
  | none => exact .value (.unwatched watched)
  | some id => exact .done fun final after answered => .asked seen watched answered

theorem store_ensures (target : PropertyRef) (signal : Nat) (cell : Cell)
    (unchanged : Cell → Bool) (flags : WriteFlags) :
    Ensures outside (store target signal cell unchanged flags).run world fun outcome after =>
      match outcome with
      | .ok _ => world.graph.isAlive target.object = true ∧
          Deposits outside target cell (.property target.object signal) world after
      | .error _ => after = world ∧ world.graph.isAlive target.object = false := by
  refine .performGraph (.choose (fun alive => ?_) fun dead => .value ⟨rfl, by simpa using dead⟩)
  refine .done (.change ?_)
  split
  · exact fun _ after run => ⟨alive, .announced run⟩
  · exact .value ⟨alive, .quiet⟩

theorem relieving_ensures (target : PropertyRef) (flags : WriteFlags) {next : Attempt ε σ α}
    {condition : Except ε α → World σ → Prop}
    (rest : ∀ freed, Relieves outside target flags world freed →
      Ensures outside next.run freed condition) :
    Ensures outside (do
      if !flags.keep then
        Attempt.perform (removeWriters target)
      next).run world condition := by
  refine .choose (fun replaces => ?_) fun keeps => ?_
  · refine .perform (fun _ freed => Relieves outside target flags world freed) ?_ fun _ => rest
    exact fun _ freed run => .removed (by simpa using replaces) run
  · exact rest world (.kept (by simpa using keeps))

/-- The store of a native value takes one of its courses. -/
theorem storeNative_course (target : PropertyRef) (property : Property) (value : Native)
    (flags : WriteFlags) :
    Ensures outside (storeNative target property value flags).run world
      (NativeCourse outside target property value flags world) := by
  refine .attempt _ (requireFit_ensures property value) ?_ ?_
  · rintro _ start ⟨rfl, fits⟩
    refine relieving_ensures target flags fun freed relieves =>
      .choose (fun bypass => ?_) fun seen => ?_
    · refine (store_ensures _ _ _ _ _).weaken fun outcome after reached => ?_
      cases outcome with
      | ok _ => exact .stored fits relieves (.skipped bypass) fits reached.1 reached.2
      | error error =>
          rcases reached with ⟨rfl, dead⟩
          exact .bereft fits relieves dead
    · rw [Bool.not_eq_true] at seen
      refine .attempt _ (intercepted_ensures target value seen) (fun final ready consults => ?_) ?_
      · -- the interceptor may have left anything
        refine .attempt _ (requireFit_ensures property final) ?_ ?_
        · rintro _ ready ⟨rfl, fit⟩
          refine (store_ensures _ _ _ _ _).weaken fun outcome after reached => ?_
          cases outcome with
          | ok _ => exact .stored fits relieves consults fit reached.1 reached.2
          | error error =>
              rcases reached with ⟨rfl, dead⟩
              exact .lost fits relieves consults dead
        · rintro error ready ⟨rfl, unfit⟩
          exact .spoiled fits relieves consults unfit
      · rintro error freed ⟨rfl, dead⟩
        exact .bereft fits relieves dead
  · rintro error _ ⟨rfl, unfit⟩
    exact .unfit unfit

/-- The store of a script value in an open slot takes one of its courses. -/
theorem storeVar_course (described : world.graph.property target = .ok property)
    (slotted : property.isVar = true) (content : Value) (flags : WriteFlags) :
    Ensures outside (storeVar target content flags).run world
      (SlotCourse outside target property content flags world) := by
  refine .ask (fun found same => ?_) fun error missing => ?_
  · cases described.symm.trans same
    refine .choose (fun _ => ?_) fun closed => absurd slotted closed
    refine relieving_ensures target flags fun freed relieves => ?_
    refine (store_ensures _ _ _ _ _).weaken fun outcome after reached => ?_
    cases outcome with
    | ok _ => exact .stored relieves reached.2
    | error error =>
        rcases reached with ⟨rfl, dead⟩
        exact .bereft relieves dead
  · rw [described] at missing
    cases missing

/-- How the store of what an assignment gives can go in a property. -/
inductive Course (outside : Outside σ) (target : PropertyRef) (property : Property) (aim : Aim)
    (start : World σ) (outcome : Except PropertyError Unit) (after : World σ) : Prop
  | native {value : Native} (closed : property.isVar = false) (given : aim.Gives property value)
      (course : NativeCourse outside target property value aim.flags start outcome after) :
      Course outside target property aim start outcome after
  | slot {content : Value} (slotted : property.isVar = true)
      (course : SlotCourse outside target property content aim.flags start outcome after) :
      Course outside target property aim start outcome after

/-- An assignment is refused without an effect, or its store takes one of its courses. -/
theorem Lands.course {aim : Aim} {success : Bool}
    (lands : Lands outside world aim success after) :
    (success = false ∧ world.Aside after) ∨ ∃ start target property outcome,
      world.Aside start ∧ aim.target? = .ok target ∧ world.graph.property target = .ok property ∧
      success = outcome.isOk ∧ Course outside target property aim start outcome after := by
  cases lands with
  | refused aside => exact .inl ⟨rfl, aside⟩
  | native aside found described closed given run =>
      exact .inr ⟨_, _, _, _, aside, found, described, rfl,
        .native closed given (storeNative_course _ _ _ _ _ _ run)⟩
  | slot aside found described slotted run =>
      have located := described
      rw [← aside.graph] at located
      exact .inr ⟨_, _, _, _, aside, found, described, rfl,
        .slot slotted (storeVar_course located slotted _ _ _ _ run)⟩

theorem Lands.succeeded {aim : Aim} (lands : Lands outside world aim true after) :
    ∃ start target property, world.Aside start ∧ aim.target? = .ok target ∧
      world.graph.property target = .ok property ∧
      Course outside target property aim start (.ok ()) after := by
  rcases lands.course with ⟨impossible, _⟩ |
    ⟨start, target, property, outcome, aside, found, described, success, course⟩
  · cases impossible
  · cases outcome with
    | ok _ => exact ⟨start, target, property, aside, found, described, course⟩
    | error error => cases success

theorem Lands.failed {aim : Aim} (lands : Lands outside world aim false after) :
    world.Aside after ∨ ∃ start target property error, world.Aside start ∧
      aim.target? = .ok target ∧ world.graph.property target = .ok property ∧
      Course outside target property aim start (.error error) after := by
  rcases lands.course with ⟨_, aside⟩ |
    ⟨start, target, property, outcome, aside, found, described, failure, course⟩
  · exact .inl aside
  · cases outcome with
    | ok _ => cases failure
    | error error => exact .inr ⟨start, target, property, error, aside, found, described, course⟩

/-! ## The first phase among bindings -/

theorem retireBinding_frame (id : BindingId) :
    Ensures outside (retireBinding id) world fun _ after => ∃ channels, after =
      { world with bindings := world.bindings.modify id retiredForm, channels := channels } := by
  refine .change (.lookBinding ?_)
  cases found : world.bindings[id]? with
  | none =>
      -- there is no such binding, so none is changed
      have beyond := List.getElem?_eq_none_iff.mp found
      have same : ∀ change, world.bindings.modify id change = world.bindings :=
        fun change => List.modify_eq_self beyond
      simp only [same, found]
      exact .value ⟨world.channels, rfl⟩
  | some binding =>
      simp only [List.getElem?_modify_eq, found, Option.map_eq_map, Option.map_some]
      refine .change (.of_steps (fun outside => apply_modifyChannels outside _ _)
        ⟨world.channels.releaseAll binding.reads.subscriptions, ?_⟩)
      rw [List.modify_modify_eq]
      rfl

/-- Whether nothing changes but some bindings, which are retired, and channels. -/
def Dismisses (writers : List Writer) (world after : World σ) : Prop :=
  ∃ bindings channels, after = { world with bindings := bindings, channels := channels } ∧
    ∀ id : BindingId, bindings[id]? =
      if Writer.binding id ∈ writers then (world.bindings[id]?).map retiredForm
        else world.bindings[id]?

/-- Bindings that are retired are retired, and nothing else changes but channels. -/
theorem retireAll_dismisses {writers : List Writer}
    (bindings : ∀ writer ∈ writers, ∃ id, writer = .binding id) :
    Ensures outside (retireAll writers) world fun _ after => Dismisses writers world after := by
  induction writers generalizing world with
  | nil => exact .value ⟨world.bindings, world.channels, rfl, fun id => rfl⟩
  | cons writer rest step =>
      rcases bindings writer List.mem_cons_self with ⟨first, rfl⟩
      refine .bind _ (retireBinding_frame first) ?_
      rintro _ _ ⟨channels, rfl⟩
      refine (step fun other listed => bindings other (List.mem_cons_of_mem _ listed)).weaken ?_
      rintro _ _ ⟨dismissed, channels', rfl, each⟩
      refine ⟨dismissed, channels', rfl, fun id => ?_⟩
      rw [each, List.getElem?_modify]
      by_cases same : first = id
      · subst same
        -- a binding that is listed again is retired again, which makes no difference
        cases world.bindings[first]? <;> by_cases again : Writer.binding first ∈ rest <;>
          simp [again, retiredForm]
      · have listed : Writer.binding id ∈ Writer.binding first :: rest ↔
            Writer.binding id ∈ rest := by simp [Ne.symm same]
        simp [listed, same]

/-- The first phase retires the bindings at a property, and changes nothing else. -/
theorem Relieves.dismisses (relieves : Relieves outside target flags start freed)
    (replaces : flags.keep = false)
    (bindings : ∀ writer ∈ start.graph.writersAt target, ∃ id, writer = .binding id) :
    Dismisses (start.graph.writersAt target) (start.withoutWritersOf target) freed := by
  cases relieves with
  | kept keep =>
      rw [replaces] at keep
      cases keep
  | removed _ run =>
      have removes : Ensures outside (removeWriters target) start fun _ after =>
          Dismisses (start.graph.writersAt target) (start.withoutWritersOf target) after := by
        refine .lookGraph ?_
        unfold World.withoutWritersOf ObjectGraph.writersAt at *
        cases living : start.graph.object? target.object with
        | none =>
            refine .value ⟨start.bindings, start.channels, ?_, fun id => rfl⟩
            simp [ObjectGraph.update, living]
        | some object =>
            rw [living] at bindings
            exact .change (retireAll_dismisses bindings)
      exact removes () freed run

/-- The first phase changes no more of the graph than writers if all of them are bindings. -/
theorem Relieves.writersOnly (relieves : Relieves outside target flags start freed)
    (bindings : flags.keep = true ∨
      ∀ writer ∈ start.graph.writersAt target, ∃ id, writer = .binding id) :
    start.graph.WritersOnly freed.graph := by
  cases relieves with
  | kept keep => exact ⟨fun _ => rfl, fun _ => rfl, fun _ => rfl⟩
  | removed replaces run =>
      have frees : Relieves outside target flags start freed := .removed replaces run
      rw [replaces] at bindings
      rcases frees.dismisses replaces (bindings.resolve_left Bool.noConfusion)
        with ⟨dismissed, channels, rfl, _⟩
      exact .update _ _ fun _ => ⟨rfl, rfl, rfl⟩

end Engine

end PropertyBinding
