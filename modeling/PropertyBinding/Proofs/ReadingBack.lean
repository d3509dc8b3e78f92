import PropertyBinding.Proofs.Converting
import PropertyBinding.Proofs.ScriptForm
import PropertyBinding.Proofs.SilentWrite
import PropertyBinding.Proofs.Telling
import PropertyBinding.Proofs.Typing

namespace PropertyBinding

/-!
# Values that are read back

The script form of a stored value says less than the value: not how wide a number is, not
that it is the number of an enumeration, not that an array is a list of pointers, nor what
of it was wrapped in a container.  The type of the property says the rest.  So a conversion
to the type gives the value back that fits it, if its pointers point to living objects of
the class that the type declares and its containers wrap no script values but functions.

That makes it harmless to read a property and to assign it what was read.  The assignment
stores the value that is there, under new identities for the arrays that had none.
-/

/--
Whether a value suits a type in all that a conversion looks at: its shape, the classes of
the objects it points to, and what its containers wrap.
-/
structure TypeContext.Keeps (context : TypeContext) (type : PropertyType) (value : Native) :
    Prop where
  fits : value.fits type = true
  points : ∀ declared, type.pointee? = some declared → context.PointsTo declared value
  settled : ∀ content, value = .variant content → content.IsSettled

/-! ## Identities -/

mutual

/-- What has got identities gets no others. -/
theorem Value.isPlaced_place (value : Value) (next : Nat) : (value.place next).1.IsPlaced := by
  intro later
  cases value with
  | variant content => simp only [Value.place, Variant.place_place content]
  | array identity items => cases identity <;> rfl
  | _ => rfl

theorem Variant.place_place (content : Variant) (next later : Nat) :
    (content.place next).1.place later = ((content.place next).1, later) := by
  cases content with
  | list items => simp only [Variant.place, Variant.placeAll_placeAll items]
  | script value => simp only [Variant.place, Value.isPlaced_place value next later]
  | _ => rfl

theorem Variant.placeAll_placeAll (items : List Variant) (next later : Nat) :
    Variant.placeAll later (Variant.placeAll next items).1 =
      ((Variant.placeAll next items).1, later) := by
  cases items with
  | nil => rfl
  | cons item rest =>
      simp only [Variant.placeAll, Variant.place_place item, Variant.placeAll_placeAll rest]

end

mutual

/-- A container that wraps no script values but functions has no arrays. -/
theorem Variant.place_of_settled {content : Variant} (settled : content.IsSettled) (next : Nat) :
    content.place next = (content, next) := by
  cases content with
  | list items => simp only [Variant.place, Variant.placeAll_of_settled settled]
  | script value =>
      rcases settled with ⟨callee, marked, rfl⟩
      rfl
  | _ => rfl

theorem Variant.placeAll_of_settled {items : List Variant} (settled : Variant.AllSettled items)
    (next : Nat) : Variant.placeAll next items = (items, next) := by
  cases items with
  | nil => rfl
  | cons item rest =>
      simp only [Variant.placeAll, Variant.place_of_settled settled.1,
        Variant.placeAll_of_settled settled.2]

end

mutual

/-- Equality does not look at identities of arrays. -/
theorem Value.same_place (left right : Value) (next : Nat) :
    left.same (right.place next).1 = left.same right := by
  cases right with
  | variant content =>
      cases left <;> simp only [Value.place, Value.same, Variant.same_place _ content]
  | array identity items =>
      cases identity with
      | none =>
          cases left <;> simp only [Value.place, Value.same, Value.sameAll_placeAll _ items]
      | some given => rfl
  | _ => rfl

theorem Value.sameAll_placeAll (lefts rights : List Value) (next : Nat) :
    Value.sameAll lefts (Value.placeAll next rights).1 = Value.sameAll lefts rights := by
  cases rights with
  | nil => rfl
  | cons right rest =>
      cases lefts with
      | nil => simp only [Value.placeAll, Value.sameAll]
      | cons left others =>
          simp only [Value.placeAll, Value.sameAll, Value.same_place left right,
            Value.sameAll_placeAll others rest]

theorem Variant.same_place (left right : Variant) (next : Nat) :
    left.same (right.place next).1 = left.same right := by
  cases right with
  | list items =>
      cases left <;> simp only [Variant.place, Variant.same, Variant.sameAll_placeAll _ items]
  | script value =>
      cases left <;> simp only [Variant.place, Variant.same, Value.same_place _ value]
  | _ => rfl

theorem Variant.sameAll_placeAll (lefts rights : List Variant) (next : Nat) :
    Variant.sameAll lefts (Variant.placeAll next rights).1 = Variant.sameAll lefts rights := by
  cases rights with
  | nil => rfl
  | cons right rest =>
      cases lefts with
      | nil => simp only [Variant.placeAll, Variant.sameAll]
      | cons left others =>
          simp only [Variant.placeAll, Variant.sameAll, Variant.same_place left right,
            Variant.sameAll_placeAll others rest]

end

theorem Native.same_place (left right : Native) (next : Nat) :
    left.same (right.place next).1 = left.same right := by
  cases right with
  | variant content =>
      cases left <;> simp only [Native.place, Native.same, Variant.same_place _ content]
  | script content =>
      cases left <;> simp only [Native.place, Native.same, Value.same_place _ content]
  | _ => rfl

/-- There are no arrays in a list of pointers. -/
theorem Value.placeAll_objects (ids : List ObjectId) (next : Nat) :
    Value.placeAll next (ids.map .object) = (ids.map .object, next) := by
  induction ids with
  | nil => rfl
  | cons id rest step => simp only [List.map_cons, Value.placeAll, Value.place, step]

/-! ## Conversions -/

namespace TypeContext

variable {context : TypeContext} {type : PropertyType} {value : Native} {declared : ClassId}

theorem pointer?_of_isA {id : ObjectId} (suits : context.IsA declared id) :
    Value.pointer? context declared id = some (some id) := by
  rcases suits with ⟨actual, living, inherits⟩
  simp only [Value.pointer?, living, inherits, if_true]

/-- A list of pointers converts to the list of the objects if all of them are of the class. -/
theorem pointers?_objects {ids : List ObjectId} (suit : ∀ id ∈ ids, context.IsA declared id) :
    Value.pointers? context declared (ids.map .object) = some ids := by
  induction ids with
  | nil => rfl
  | cons id rest step =>
      have others := step fun other member => suit other (List.mem_cons_of_mem _ member)
      have first := pointer?_of_isA (suit id List.mem_cons_self)
      simp only [List.map_cons, Value.pointers?, first, others]
      rfl

/--
The script form of a value that suits a type converts to the value, before its arrays get
identities and after.
-/
theorem Keeps.toNative? (keeps : context.Keeps type value) :
    value.toValue.toNative? context type = some value ∧
      ∀ next, (value.toValue.place next).1.toNative? context type = some (value.place next).1 := by
  have fits := keeps.fits
  cases value with
  | float number =>
      cases type <;> first | (cases fits; done) | skip
      have narrowed : some (Native.float (Number.narrow (Number.widen number))) =
          some (Native.float number) := by rw [Number.narrow_widen]
      exact ⟨narrowed, fun _ => narrowed⟩
  | object id? =>
      cases type <;> first | (cases fits; done) | skip
      cases id? with
      | none => exact ⟨rfl, fun _ => rfl⟩
      | some id =>
          have found := pointer?_of_isA (keeps.points _ rfl id List.mem_cons_self)
          have converted := congrArg (Option.map Native.object) found
          exact ⟨converted, fun _ => converted⟩
  | list ids =>
      cases type <;> first | (cases fits; done) | skip
      have converted := congrArg (Option.map Native.list) (pointers?_objects (keeps.points _ rfl))
      refine ⟨converted, fun next => ?_⟩
      simp only [Native.toValue, Value.place, Value.placeAll_objects]
      exact converted
  | record fields =>
      cases type <;> first | cases fits | skip
      have same : (if fields.type = _ then some (Native.record fields) else none) =
          some (.record fields) := if_pos (of_decide_eq_true fits)
      exact ⟨same, fun _ => same⟩
  | variant content =>
      cases type <;> first | (cases fits; done) | skip
      have settled := keeps.settled content rfl
      have placed := Variant.place_of_settled settled
      have same := (Variant.settled_eq_self_iff content).mpr settled
      refine ⟨congrArg (fun content => some (Native.variant content)) same, fun next => ?_⟩
      have back : (content.toValue.place next).1.toVariant = (content.place next).1 := by
        rw [content.toVariant_place_toValue placed next, same, placed]
      exact congrArg (fun content => some (Native.variant content)) back
  | script content => cases type <;> first | (cases fits; done) | exact ⟨rfl, fun _ => rfl⟩
  | _ => cases type <;> first | (cases fits; done) | exact ⟨rfl, fun _ => rfl⟩

end TypeContext

namespace Engine

variable {σ : Type} {outside : Outside σ} {world freed : World σ} {object : ObjectId}
  {name : String} {ref target : PropertyRef} {property slot : Property} {value : Native}

/-! ## Cells -/

/-- A cell with a value in it reads as the value. -/
theorem read_writtenCell (slot : Property) (value : Native) :
    (writtenCell slot (.inl value)).read = value := by
  cases value with
  | script content => cases opened : slot.isVar <;> simp [writtenCell, opened, Cell.read]
  | _ => rfl

/-- In a typed graph a property holds the cell that a write of its value would put there. -/
theorem cell_of_stored {graph : ObjectGraph} (typed : graph.WellTyped)
    (described : graph.property target = .ok slot) (direct : slot.isAlias = false)
    (stored : graph.stored target = .ok value) :
    graph.cell? target = some (writtenCell slot (.inl value)) ∧
      (slot.isVar = false → value.fits slot.type = true) ∧
      (slot.isVar = true → ∃ content, value = .script content) := by
  rcases typed.suits target slot described with ⟨cell, held, suits⟩
  rw [stored_eq, held, if_pos (ObjectGraph.isAlive_of_property described)] at stored
  cases stored
  cases suits with
  | @native value closed fits =>
      have typed : slot.isVar = false := by simp [Property.isVar, closed]
      refine ⟨?_, fun _ => fits, fun slotted => ?_⟩
      · rw [held]
        simp only [Option.map_some, Option.getD_some, Cell.read]
        cases value <;> simp [writtenCell, typed]
      · rw [typed] at slotted
        cases slotted
  | var slotted =>
      have opened : slot.isVar = true := by simp [Property.isVar, slotted]
      refine ⟨?_, fun closed => ?_, fun _ => ⟨_, rfl⟩⟩
      · rw [held]
        simp [Cell.read, writtenCell, opened]
      · rw [opened] at closed
        cases closed
  | pointer aliased _ => simp [Property.isAlias, aliased] at direct

/-- A cell equals the one with identities if its value equals itself. -/
theorem same_writtenCell (slot : Property) (value : Native) (next : Nat) :
    (writtenCell slot (.inl value)).same (writtenCell slot (.inl (value.place next).1)) =
      value.same value := by
  rw [← Native.same_place value value next]
  cases value with
  | script content => cases opened : slot.isVar <;> simp [writtenCell, opened, Native.place] <;> rfl
  | _ => rfl

/-- What a graph holds after a value was stored again, with identities, and writers have gone. -/
theorem restored_cells {graph freed : ObjectGraph} {next : Nat}
    (described : graph.property target = .ok slot)
    (held : graph.cell? target = some (writtenCell slot (.inl value)))
    (only : graph.WritersOnly freed) :
    let restored := freed.setCell target (writtenCell slot (.inl (value.place next).1))
    restored.stored target = .ok (value.place next).1 ∧
      (∀ other, other ≠ target → restored.cell? other = graph.cell? other) ∧
      (value.IsPlaced → ∀ other, restored.cell? other = graph.cell? other) := by
  intro restored
  have alive : restored.isAlive target.object = true := by
    rw [ObjectGraph.isAlive_eq, ObjectGraph.classOf?_setCell, ← ObjectGraph.isAlive_eq,
      only.isAlive]
    exact ObjectGraph.isAlive_of_property described
  have here : restored.cell? target = some (writtenCell slot (.inl (value.place next).1)) := by
    rw [ObjectGraph.cell?_setCell, if_pos rfl, only.cell, held]
    rfl
  have elsewhere : ∀ other, other ≠ target → restored.cell? other = graph.cell? other := by
    intro other different
    rw [ObjectGraph.cell?_setCell_ne _ (Ne.symm different), only.cell]
  refine ⟨?_, elsewhere, fun placed other => ?_⟩
  · rw [stored_eq, if_pos alive, here]
    exact congrArg Except.ok (read_writtenCell slot _)
  · by_cases same : other = target
    · rw [same, here, held, placed next]
    · exact elsewhere other same

/-! ## Stores that foreign code has no part in -/

/-- Bindings are retired without that foreign code is called. -/
theorem retireAll_runs {writers : List Writer}
    (bindings : ∀ writer ∈ writers, ∃ id, writer = .binding id) (world : World σ) :
    ∃ after, Steps (retireAll writers) world () after := by
  induction writers generalizing world with
  | nil => exact ⟨world, fun _ => rfl⟩
  | cons writer rest step =>
      rcases bindings writer List.mem_cons_self with ⟨id, rfl⟩
      rcases step (fun other member => bindings other (List.mem_cons_of_mem _ member))
        (world.ended id) with ⟨after, runs⟩
      refine ⟨after, fun outside => ?_⟩
      simp only [retireAll, retire, apply_bind, retireBinding_steps world id outside,
        Option.bind_some, runs outside]

theorem removeWriters_runs
    (bindings : ∀ writer ∈ world.graph.writersAt target, ∃ id, writer = .binding id)
    (outside : Outside σ) : ∃ freed, removeWriters target outside world = some ((), freed) := by
  unfold ObjectGraph.writersAt at bindings
  cases living : world.graph.object? target.object with
  | none => exact ⟨world, by simp [removeWriters, living]⟩
  | some holder =>
      rw [living] at bindings
      rcases retireAll_runs bindings (world.withoutWritersOf target) with ⟨freed, runs⟩
      refine ⟨freed, ?_⟩
      simp only [removeWriters, apply_bind, apply_graph, Option.bind_some, living,
        apply_modifyGraph]
      exact runs outside

/-- A store puts its cell in place, and announces the change if there is one. -/
theorem store_runs {unchanged : Cell → Bool} {cell old : Cell} (signal : Nat)
    (held : world.graph.cell? target = some old) (outside : Outside σ) :
    (store target signal cell unchanged .none).run outside world =
      let stored : World σ := { world with graph := world.graph.setCell target cell }
      if unchanged old then some (.ok (), stored)
      else (announce (.property target.object signal) outside stored).map fun out =>
        (.ok (), out.2) := by
  have alive : world.graph.isAlive target.object = true := by
    rcases Option.bind_eq_some_iff.mp held with ⟨holder, living, _⟩
    simp [ObjectGraph.isAlive, living]
  unfold store
  rw [apply_perform]
  simp only [apply_graph, Option.bind_some, alive, if_true, held, Option.map_some,
    Option.getD_some]
  cases unchanged old with
  | true => rfl
  | false =>
      rw [if_neg Bool.false_ne_true]
      show ((announce _ outside _).bind fun out => some (Except.ok out.1, out.2)) = _
      cases announce (.property target.object signal) outside
        { world with graph := world.graph.setCell target cell } <;> rfl

theorem storeNative_runs (fits : value.fits slot.type = true)
    (frees : removeWriters target outside world = some ((), freed))
    (alive : freed.graph.isAlive target.object = true)
    (nobody : freed.graph.interceptor? target = none) :
    (storeNative target slot value .none).run outside world =
      (store target slot.signal (.native value) (fun cell => cell.holds value) .none).run outside
        freed := by
  have fit : ∀ start : World σ, (requireFit slot value).run outside start =
      some (.ok (), start) := fun start => by
    rw [requireFit_steps slot value outside, if_pos fits]
  have unwatched : (intercepted target value).run outside freed = some (.ok value, freed) := by
    unfold intercepted
    rw [apply_perform]
    simp only [apply_graph, Option.bind_some, alive, nobody, if_true]
    rfl
  unfold storeNative
  rw [apply_attempt _ (fit world)]
  simp only [WriteFlags.none, Bool.not_false, if_true, Bool.false_eq_true, if_false]
  rw [apply_perform, frees, Option.bind_some, apply_attempt _ unwatched,
    apply_attempt _ (fit freed)]

theorem storeVar_runs {content : Value} (described : world.graph.property target = .ok slot)
    (slotted : slot.isVar = true)
    (frees : removeWriters target outside world = some ((), freed)) :
    (storeVar target content .none).run outside world =
      (store target slot.signal (.var content) (fun cell => cell.holdsVar content) .none).run
        outside freed := by
  unfold storeVar
  rw [apply_ask, described]
  simp only [slotted, if_true, WriteFlags.none, Bool.not_false]
  rw [apply_perform, frees, Option.bind_some]

section Assigning

variable (named : world.graph.property ref = .ok property)
  (resolved : world.graph.resolve ref defaultAliasDepth = .ok target)
  (described : world.graph.property target = .ok slot)
include named resolved described

/-- An assignment to a property that is no open slot stores the native value. -/
theorem assign_alike_storeNative (typed : slot.isVar = false) (value : Native) :
    Alike world (assign ref value).run (storeNative target slot value .none).run := by
  have closed : property.isVar = false := by
    by_cases same : ref = target
    · subst same
      cases named.symm.trans described
      exact typed
    · exact ObjectGraph.not_var_of_resolve named resolved same
  refine (assign_alike_write named closed value).trans
    ((Alike.answered resolved _).trans ((Alike.answered described _).trans ?_))
  rw [typed]
  exact .refl _

/-- An assignment of a box to an open slot stores what is in the box. -/
theorem assign_alike_storeVar (slotted : slot.isVar = true) {content : Value}
    (placed : content.IsPlaced) :
    Alike world (assign ref (.script content)).run (storeVar target content .none).run := by
  have writes : Alike world (writeVar ref content .none).run (storeVar target content .none).run :=
    Alike.answered resolved fun stored => storeVar stored content .none
  refine Alike.trans ?_ writes
  cases own : property.isVar with
  | false =>
      exact (assign_alike_write named own _).trans
        (write_alike_slot resolved described slotted (.script content) .none)
  | true =>
      intro outside
      rw [assign_alike_writeVar named own _ outside, apply_perform]
      show (writeVar ref (content.place world.identities).1 .none).run outside
        { world with identities := (content.place world.identities).2 } = _
      rw [placed world.identities]

/-- An assignment that nobody intercepts stores the cell for its value once the writers are gone. -/
theorem assign_runs (fits : slot.isVar = false → value.fits slot.type = true)
    (boxed : slot.isVar = true → ∃ content : Value, value = .script content ∧ content.IsPlaced)
    (frees : removeWriters target outside world = some ((), freed))
    (alive : freed.graph.isAlive target.object = true)
    (nobody : freed.graph.interceptor? target = none) :
    (assign ref value).run outside world =
      (store target slot.signal (writtenCell slot (.inl value))
        (fun old => old.same (writtenCell slot (.inl value))) .none).run outside freed := by
  cases opened : slot.isVar with
  | false =>
      have cell : writtenCell slot (.inl value) = .native value := by
        cases value <;> simp [writtenCell, opened]
      have compares :
          (fun old : Cell => old.holds value) = fun old => old.same (.native value) := by
        funext old
        cases old <;> rfl
      rw [assign_alike_storeNative named resolved described opened value outside,
        storeNative_runs (fits opened) frees alive nobody, cell, compares]
  | true =>
      rcases boxed opened with ⟨content, rfl, placed⟩
      have cell : writtenCell slot (.inl (.script content)) = .var content := by
        simp [writtenCell, opened]
      have compares :
          (fun old : Cell => old.holdsVar content) = fun old => old.same (.var content) := by
        funext old
        cases old <;> rfl
      rw [assign_alike_storeVar named resolved described opened placed outside,
        storeVar_runs described opened frees, cell, compares]

end Assigning

/-! ## Reading and assigning back -/

/-- An assignment by a script is an assignment of what the value converts to. -/
theorem assignMember_runs {given : Value}
    (indexed : world.graph.propertyIndex ref.object name = .ok ref.index)
    (named : world.graph.property ref = .ok property)
    (converts : given.toNative world.graph.context property.type = .ok value)
    (outside : Outside σ) :
    (Script.Evaluation.assignMember ref.object name given).run outside world =
      ((assign ref value).run outside world).map fun out => (out.1.mapError .property, out.2) := by
  have asked : ∀ {α : Type} {question : ObjectGraph → Except PropertyError α} {answer : α},
      question world.graph = .ok answer →
        (Script.Evaluation.access (σ := σ) (Attempt.ask question)).run outside world =
          some (.ok answer, world) := by
    intro α question answer answered
    show (some (question world.graph, world)).bind (fun out =>
      some (out.1.mapError Script.Exception.property, out.2)) = _
    rw [answered]
    rfl
  unfold Script.Evaluation.assignMember
  rw [apply_perform, apply_graph, Option.bind_some, apply_attempt _ (asked indexed),
    apply_attempt _ (asked named)]
  simp only [converts]
  show ((assign ref value).run outside world).bind (fun out =>
    some (out.1.mapError Script.Exception.property, out.2)) = _
  cases (assign ref value).run outside world <;> rfl

/-- Reads a property of an object as scripts do, and assigns it what was read. -/
def assignBack (object : ObjectId) (name : String) : Script.Evaluation σ Unit := do
  let value ← Script.Evaluation.objectMember object name
  Script.Evaluation.assignMember object name value

/--
Whether a property of a typed graph, or the one that it stands for, holds a value that suits
the type that the property is declared with.
-/
structure Restorable (graph : ObjectGraph) (ref : PropertyRef) (name : String)
    (target : PropertyRef) (slot : Property) (value : Native) : Prop where
  typed : graph.WellTyped
  indexed : graph.propertyIndex ref.object name = .ok ref.index
  declared : ∃ property, graph.property ref = .ok property ∧
    graph.context.Keeps property.type value
  resolved : graph.resolve ref defaultAliasDepth = .ok target
  described : graph.property target = .ok slot
  stored : graph.stored target = .ok value

/-- The world after a property was read and what was read has got identities. -/
def readBack (world : World σ) (source : Source) (value : Native) : World σ :=
  { world.capture source with identities := (value.toValue.place world.identities).2 }

theorem readBack_graph (world : World σ) (source : Source) (value : Native) :
    (readBack world source value).graph = world.graph :=
  (world.capture_frame source).1

namespace Restorable

/-- The property holds the cell that a write of its value would put there. -/
theorem held {graph : ObjectGraph} (restorable : Restorable graph ref name target slot value) :
    graph.cell? target = some (writtenCell slot (.inl value)) ∧
      (slot.isVar = false → value.fits slot.type = true) ∧
      (slot.isVar = true → ∃ content, value = .script content) := by
  rcases ObjectGraph.not_alias_of_resolve restorable.resolved with ⟨other, described, direct⟩
  cases restorable.described.symm.trans described
  exact cell_of_stored restorable.typed restorable.described direct restorable.stored

variable (restorable : Restorable world.graph ref name target slot value)
include restorable

/-- What was read is assigned as the value that was there, with identities. -/
theorem assignBack_runs (outside : Outside σ) :
    (assignBack ref.object name).run outside world =
      ((assign ref (value.place world.identities).1).run outside
        (readBack world (.property target.object slot.signal) value)).map fun out =>
          (out.1.mapError .property, out.2) := by
  rcases ObjectGraph.found_of_property restorable.resolved restorable.described with
    ⟨found, given, reads⟩
  cases restorable.stored.symm.trans given
  rcases restorable.declared with ⟨property, named, keeps⟩
  have graph := readBack_graph world (.property target.object slot.signal) value
  have converts : (value.toValue.place world.identities).1.toNative
      (readBack world (.property target.object slot.signal) value).graph.context property.type =
        .ok (value.place world.identities).1 := by
    rw [graph]
    exact Value.toNative_eq_ok_iff.mpr (keeps.toNative?.2 world.identities)
  unfold assignBack
  rw [apply_attempt _ (objectMember_steps restorable.indexed reads outside)]
  exact assignMember_runs (graph ▸ restorable.indexed) (graph ▸ named) converts outside

/-- Unless an interceptor is asked or a writer told, the value is stored again and nothing else. -/
theorem assign_restores (unwatched : world.graph.interceptor? target = none)
    (bindings : ∀ writer ∈ world.graph.writersAt target, ∃ id, writer = .binding id)
    (outside : Outside σ) :
    let informed := readBack world (.property target.object slot.signal) value
    ∃ freed, Dismisses (world.graph.writersAt target) (informed.withoutWritersOf target) freed ∧
      world.graph.WritersOnly freed.graph ∧
      (assign ref (value.place world.identities).1).run outside informed =
        let cell := writtenCell slot (.inl (value.place world.identities).1)
        let quiet : World σ := { freed with graph := freed.graph.setCell target cell }
        if value.same value then some (.ok (), quiet)
        else (announce (.property target.object slot.signal) outside quiet).map fun out =>
          (.ok (), out.2) := by
  rcases restorable.held with ⟨held, fits, boxed⟩
  rcases restorable.declared with ⟨property, named, _⟩
  have graph := readBack_graph world (.property target.object slot.signal) value
  have attached : ∀ writer ∈
      (readBack world (.property target.object slot.signal) value).graph.writersAt target,
        ∃ id, writer = .binding id := by
    rw [graph]
    exact bindings
  rcases removeWriters_runs attached outside with ⟨freed, frees⟩
  have relieves : Relieves outside target .none
      (readBack world (.property target.object slot.signal) value) freed := .removed rfl frees
  have dismisses := relieves.dismisses rfl attached
  have only := relieves.writersOnly (.inr attached)
  rw [graph] at dismisses only
  have alive : freed.graph.isAlive target.object = true := by
    rw [only.isAlive]
    exact ObjectGraph.isAlive_of_property restorable.described
  have fitting : slot.isVar = false →
      (value.place world.identities).1.fits slot.type = true :=
    fun closed => (Native.fits_place value _ _).trans (fits closed)
  have placed : slot.isVar = true →
      ∃ content : Value, (value.place world.identities).1 = .script content ∧ content.IsPlaced := by
    intro opened
    rcases boxed opened with ⟨content, rfl⟩
    exact ⟨_, rfl, content.isPlaced_place _⟩
  have runs := assign_runs (graph ▸ named) (graph ▸ restorable.resolved)
    (graph ▸ restorable.described) fitting placed frees alive
    ((only.interceptor target).trans unwatched)
  refine ⟨freed, dismisses, only, runs.trans ?_⟩
  rw [store_runs slot.signal ((only.cell target).trans held) outside]
  simp only [same_writtenCell]

end Restorable

/--
A stored value that suits a type comes back when its script form is converted to the type.

So to read a property and to assign it what was read is to assign it the value that it has,
with identities for the arrays that have none.  If no interceptor is asked and no writer
outside the engine is told of it, the value is there afterwards, all other cells are as
they were, and the bindings that wrote to the property are retired.  If the value equals
itself, that is all; if there is something in it that is not a number, then the signal of
the property is announced in that state.
-/
theorem values_return_from_their_script_forms :
    (∀ (context : TypeContext) (type : PropertyType) (value : Native),
      context.Keeps type value → value.toValue.toNative context type = .ok value) ∧
    ∀ {σ : Type} (world : World σ) (ref : PropertyRef) (name : String) (target : PropertyRef)
      (slot : Property) (value : Native), Restorable world.graph ref name target slot value →
      let source := Source.property target.object slot.signal
      let informed := readBack world source value
      let kept := (value.place world.identities).1
      (∀ outside, (assignBack ref.object name).run outside world =
        ((assign ref kept).run outside informed).map fun out =>
          (out.1.mapError .property, out.2)) ∧
      (world.graph.interceptor? target = none →
        (∀ writer ∈ world.graph.writersAt target, ∃ id, writer = .binding id) →
        ∀ outside, ∃ freed, Dismisses (world.graph.writersAt target)
            (informed.withoutWritersOf target) freed ∧
          let cell := writtenCell slot (.inl kept)
          let quiet : World σ := { freed with graph := freed.graph.setCell target cell }
          quiet.graph.stored target = .ok kept ∧
          (∀ other, other ≠ target → quiet.graph.cell? other = world.graph.cell? other) ∧
          (value.IsPlaced → kept = value ∧
            ∀ other, quiet.graph.cell? other = world.graph.cell? other) ∧
          (value.same value = true →
            (assignBack ref.object name).run outside world = some (.ok (), quiet)) ∧
          (value.same value = false → (assignBack ref.object name).run outside world =
            (announce source outside quiet).map fun out => (.ok (), out.2))) := by
  refine ⟨fun context type value keeps => Value.toNative_eq_ok_iff.mpr keeps.toNative?.1, ?_⟩
  intro σ world ref name target slot value restorable source informed kept
  refine ⟨restorable.assignBack_runs, fun unwatched bindings outside => ?_⟩
  rcases restorable.assign_restores unwatched bindings outside with
    ⟨freed, dismisses, only, assigns⟩
  have runs := restorable.assignBack_runs outside
  rw [assigns] at runs
  rcases restored_cells restorable.described restorable.held.1 only with
    ⟨stored, elsewhere, everywhere⟩
  refine ⟨freed, dismisses, stored, elsewhere, fun placed =>
    ⟨congrArg Prod.fst (placed world.identities), everywhere placed⟩, fun same => ?_,
    fun differs => ?_⟩
  · rw [runs, if_pos same]
    rfl
  · rw [runs, if_neg (by rw [differs]; exact Bool.false_ne_true), Option.map_map]
    rfl

section Parcel

/-! ## A parcel with a list in it -/

/-- A class with a container that has a list in it from the beginning. -/
def parcelSchema : Schema :=
  Schema.empty.defineClass "Parcel" none
    [.resettableTo (.variant (.list [.int 4, .null])) "content" .variant]

theorem parcelSchema_registered : parcelSchema.Registered := by
  refine .defineClass .empty _ _ ?_
  intro spec member default given
  rcases List.mem_singleton.mp member with rfl
  cases given
  rfl

/-- The container as the class declares it. -/
def contentProperty : Property :=
  ⟨"content", 0, .variant, .native, true, .variant (.list [.int 4, .null]), 0⟩

/-- A parcel. -/
def parcel : World Unit := panelAfter (create 0 none) (.initial parcelSchema ())

theorem parcel_restorable : Restorable parcel.graph (panelRef 0) "content" (panelRef 0)
    contentProperty (.variant (.list [.int 4, .null])) where
  typed := ((ObjectGraph.Proper.empty parcelSchema_registered 0).create 0 none).wellTyped
  indexed := rfl
  declared := by
    refine ⟨contentProperty, rfl, rfl, fun _ impossible => (nomatch impossible), ?_⟩
    rintro _ same
    cases same
    exact ⟨trivial, trivial, trivial⟩
  resolved := rfl
  described := rfl
  stored := rfl

/-- The container is read as an array, and assigned it is the container that it was. -/
theorem parcel_content_stays :
    Restorable parcel.graph (panelRef 0) "content" (panelRef 0) contentProperty
      (.variant (.list [.int 4, .null])) ∧
    (Native.variant (.list [.int 4, .null])).toValue = .array none [.int 4, .null] ∧
    Value.toNative parcel.graph.context .variant (.array none [.int 4, .null]) =
      .ok (.variant (.list [.int 4, .null])) ∧
    ∃ after, (assignBack ⟨0, 0⟩ "content").run (.within Host.silent 3) parcel =
      some (.ok (), after) ∧
      ∀ other, after.graph.cell? other = parcel.graph.cell? other := by
  have restorable := parcel_restorable
  rcases restorable.declared with ⟨property, described, keeps⟩
  cases described
  refine ⟨restorable, rfl, values_return_from_their_script_forms.1 _ _ _ keeps, ?_⟩
  rcases values_return_from_their_script_forms.2 parcel _ _ _ _ _ restorable with ⟨_, stays⟩
  rcases stays rfl (fun _ impossible => by cases impossible) (.within Host.silent 3) with
    ⟨freed, _, _, _, unchanged, silent, _⟩
  exact ⟨_, silent (by decide +kernel), (unchanged fun _ => rfl).2⟩

end Parcel

end Engine

end PropertyBinding
