import PropertyBinding.Proofs.DependencyCapture
import PropertyBinding.Proofs.Depositing

namespace PropertyBinding

/-!
# Writes that are not announced

A write stores the new value whether or not it equals the old one, and announces the
change only if it does not.  So what depends on the property goes stale if an expression
can tell the two values apart although they are equal.

Equal values can differ in the sign of a zero and in the identity of an array.  New
identities that nothing else shares are told by no expression: every result is the same
under the new names.  The sign of a zero is told by every expression that divides by it.
-/

namespace Cell

/-- Whether two cells hold equal values. -/
def same : Cell → Cell → Bool
  | .native current, .native value => current.same value
  | .var current, .var value => current.same value
  | _, _ => false

/-- A cell under other identities. -/
def rename (names : Nat → Nat) : Cell → Cell
  | .native value => .native (value.rename names)
  | .var value => .var (value.rename names)
  | .alias target => .alias target

theorem read_rename (names : Nat → Nat) (cell : Cell) :
    (cell.rename names).read = cell.read.rename names := by
  cases cell <;> rfl

end Cell

namespace Engine

variable {σ α β : Type} {outside : Outside σ} {world freed after : World σ}
  {ref target : PropertyRef} {property : Property} {flags : WriteFlags}

/-! ## A write that succeeds -/

/--
How a write ends that stores a cell and is not to be quiet: its signal is announced, unless
the cell that was there is the same.
-/
def Emits (outside : Outside σ) (source : Source) (target : PropertyRef) (cell : Cell)
    (ready after : World σ) : Prop :=
  let stored : World σ := { ready with graph := ready.graph.setCell target cell }
  (((ready.graph.cell? target).any fun old => old.same cell) = true → after = stored) ∧
  (((ready.graph.cell? target).any fun old => old.same cell) = false →
    announce source outside stored = some ((), after))

theorem store_emits (signal : Nat) (cell : Cell) (audible : flags.quiet = false)
    {unchanged : Cell → Bool} (compares : ∀ old, unchanged old = old.same cell) :
    Ensures outside (store target signal cell unchanged flags).run world fun outcome after =>
      outcome = .ok () → Emits outside (.property target.object signal) target cell world after := by
  have compared : ((world.graph.cell? target).map unchanged).getD false =
      (world.graph.cell? target).any fun old => old.same cell := by
    cases world.graph.cell? target with
    | none => rfl
    | some old => exact compares old
  refine .performGraph (.choose (fun _ => ?_) fun _ => .value nofun)
  refine .done (.change ?_)
  rw [compared]
  cases same : (world.graph.cell? target).any fun old => old.same cell with
  | true =>
      rw [if_neg (by simp)]
      exact .value fun _ => ⟨fun _ => rfl, fun changed => nomatch same.symm.trans changed⟩
  | false =>
      rw [if_pos (by simp [audible])]
      exact fun _ after run _ => ⟨fun kept => (nomatch same.symm.trans kept), fun _ => run⟩

/-- Writes a native value, or a script value as it is. -/
def writeEither (ref : PropertyRef) (flags : WriteFlags) :
    Native ⊕ Value → Attempt PropertyError σ Unit
  | .inl value => write ref value flags
  | .inr content => writeVar ref content flags

/-- What a property holds after a write to it that no interceptor changes. -/
def writtenCell (property : Property) : Native ⊕ Value → Cell
  | .inl (.script content) => if property.isVar then .var content else .native (.script content)
  | .inl value => .native value
  | .inr content => .var content

/-- How a write goes through that meets no interceptor. -/
def Writes (outside : Outside σ) (target : PropertyRef) (flags : WriteFlags)
    (given : Native ⊕ Value) (world after : World σ) : Prop :=
  ∃ property freed, world.graph.property target = .ok property ∧
    Relieves outside target flags world freed ∧
    Emits outside (.property target.object property.signal) target (writtenCell property given)
      freed after

theorem storeVar_writes {content : Value} {given : Native ⊕ Value}
    (audible : flags.quiet = false)
    (written : ∀ property : Property, property.isVar = true →
      writtenCell property given = .var content) :
    Ensures outside (storeVar target content flags).run world fun outcome after =>
      outcome = .ok () → Writes outside target flags given world after := by
  refine .ask (fun property described => ?_) fun _ _ => nofun
  refine .choose (fun slot => ?_) fun _ => .performGraph (.value nofun)
  refine relieving_ensures target flags fun freed relieves => ?_
  refine (store_emits property.signal (.var content) audible fun old => ?_).weaken
    fun outcome after emits success =>
      ⟨property, freed, described, relieves, written property slot ▸ emits success⟩
  cases old <;> rfl

/-- Whether a write to a property asks no interceptor, whatever is done to its writers first. -/
def Unwatched (outside : Outside σ) (target : PropertyRef) (flags : WriteFlags)
    (world : World σ) : Prop :=
  flags.bypass = true ∨ ∀ freed, Relieves outside target flags world freed →
    freed.graph.interceptor? target = none

theorem storeNative_writes (described : world.graph.property target = .ok property)
    (typed : property.isVar = false) (value : Native) (audible : flags.quiet = false)
    (unwatched : Unwatched outside target flags world) :
    Ensures outside (storeNative target property value flags).run world fun outcome after =>
      outcome = .ok () → Writes outside target flags (.inl value) world after := by
  have written : writtenCell property (.inl value) = .native value := by
    cases value <;> simp [writtenCell, typed]
  have stores : ∀ freed, Relieves outside target flags world freed → Ensures outside
      (store target property.signal (.native value) (fun cell => cell.holds value) flags).run freed
        fun outcome after =>
          outcome = .ok () → Writes outside target flags (.inl value) world after := by
    intro freed relieves
    refine (store_emits property.signal (.native value) audible fun old => ?_).weaken
      fun outcome after emits success =>
        ⟨property, freed, described, relieves, written ▸ emits success⟩
    cases old <;> rfl
  refine .attempt _ (requireFit_ensures property value) ?_ ?_
  · rintro _ _ ⟨rfl, _⟩
    refine relieving_ensures target flags fun freed relieves => .choose (fun _ => stores freed relieves)
      fun seen => ?_
    rw [Bool.not_eq_true] at seen
    refine .attempt _ (intercepted_ensures target value seen) (fun final ready consults => ?_)
      fun _ _ _ => nofun
    cases consults with
    | skipped bypass => exact nomatch (seen.symm.trans bypass)
    | asked _ watched _ =>
        rcases unwatched with bypass | nobody
        · exact nomatch (seen.symm.trans bypass)
        · exact nomatch ((nobody freed relieves).symm.trans watched)
    | unwatched _ =>
        refine .attempt _ (requireFit_ensures property value) ?_ fun _ _ _ => nofun
        rintro _ _ ⟨rfl, _⟩
        exact stores _ relieves
  · exact fun _ _ _ => nofun

theorem write_writes (resolved : world.graph.resolve ref defaultAliasDepth = .ok target)
    (value : Native) (audible : flags.quiet = false)
    (unwatched : Unwatched outside target flags world) :
    Ensures outside (write ref value flags).run world fun outcome after =>
      outcome = .ok () → Writes outside target flags (.inl value) world after := by
  refine .ask (fun found same => ?_) fun _ _ => nofun
  cases resolved.symm.trans same
  refine .ask (fun property described => ?_) fun _ _ => nofun
  refine .choose (fun _ => ?_) fun typed => storeNative_writes described
    (Bool.not_eq_true _ ▸ typed) value audible unwatched
  cases value with
  | script content => exact storeVar_writes audible fun property slot => if_pos slot
  | _ => exact .value nofun

theorem writeVar_writes (resolved : world.graph.resolve ref defaultAliasDepth = .ok target)
    (content : Value) (audible : flags.quiet = false) :
    Ensures outside (writeVar ref content flags).run world fun outcome after =>
      outcome = .ok () → Writes outside target flags (.inr content) world after := by
  refine .ask (fun found same => ?_) fun _ _ => nofun
  cases resolved.symm.trans same
  exact storeVar_writes audible fun _ _ => rfl

/-! ## Worlds that differ in names -/

/-- Whether a renaming changes nothing in a world but what one property holds. -/
structure KeepsElsewhere (names : Nat → Nat) (world : World σ) (target : PropertyRef) : Prop where
  distinguishes : Distinguishes names
  stored : ∀ ref value, ref ≠ target → world.graph.stored ref = .ok value →
    ∀ identity ∈ value.identities, names identity = identity
  notifiers : ∀ notifier ∈ world.notifiers, ∀ identity ∈ notifier.value.identities,
    names identity = identity
  fresh : ∀ identity, world.identities ≤ identity → names identity = identity

/-- Whether two worlds in which reads are recorded hold the same under a renaming. -/
structure Renamed (names : Nat → Nat) (world other : World σ) : Prop where
  shape : world.graph.SameShape other.graph
  stored : ∀ ref value, world.graph.stored ref = .ok value →
    other.graph.stored ref = .ok (value.rename names)
  notifiers : other.notifiers = world.notifiers
  kept : ∀ notifier ∈ world.notifiers, ∀ identity ∈ notifier.value.identities,
    names identity = identity
  identities : other.identities = world.identities
  fresh : ∀ identity, world.identities ≤ identity → names identity = identity
  recorded : ∃ reads, world.collector? = some (.recorder reads) ∧
    other.collector? = some (.recorder reads)

theorem renamed_reflection {names : Nat → Nat} (distinguishes : Distinguishes names) :
    Reflection names 0 (Renamed (σ := σ) names) where
  distinguishes := distinguishes
  shape _ _ renamed := renamed.shape
  stored _ _ renamed := renamed.stored
  notified world other renamed id := by
    rw [renamed.notifiers]
    cases found : world.notifiers[id]? with
    | none => rfl
    | some notifier =>
        exact (Value.rename_of_kept _ (renamed.kept notifier (List.mem_of_getElem? found))).symm
  identities _ _ renamed := ⟨renamed.identities, renamed.fresh⟩
  issues _ _ renamed next le :=
    { renamed with
      identities := rfl
      fresh := fun identity new => renamed.fresh identity (Nat.le_trans le new) }
  capture world other renamed source := by
    rcases renamed.recorded with ⟨reads, recorded, recorded'⟩
    have told : world.capture source =
        { world with collector? := some (.recorder (reads ++ [source])) } := by
      rw [World.capture, recorded]
    have told' : other.capture source =
        { other with collector? := some (.recorder (reads ++ [source])) } := by
      rw [World.capture, recorded']
    rw [told, told']
    exact { renamed with recorded := ⟨_, rfl, rfl⟩ }

/-- Whether compiled expressions give the same in a world as in another, under other names. -/
def LooksLike (names : Nat → Nat) (world other : World σ) : Prop :=
  ∀ (compiled : Script.Compiled) (identity : Nat) (context : Script.CallContext) (bound : Nat),
    names identity = identity → context.rename names = context →
    (runWithin bound Host.mute (recording (Script.Evaluation.invoke (compiled.function identity)
        context).run) other).map Prod.fst =
      ((runWithin bound Host.mute (recording (Script.Evaluation.invoke
        (compiled.function identity) context).run) world).map Prod.fst).map
          fun out => (out.1.map (Boxed.rename names), out.2)

theorem Renamed.looksLike {names : Nat → Nat} (distinguishes : Distinguishes names)
    {world other : World σ} (renamed : Renamed names world.recorded other.recorded) :
    LooksLike names world other := by
  intro compiled identity context bound kept same
  have ends := calls_reflect (renamed_reflection distinguishes) bound (compiled.function identity)
    context world.recorded other.recorded renamed
  -- a compiled expression has captured nothing
  have function : (compiled.function identity).rename names = compiled.function identity := by
    rw [Script.Compiled.function, Function.rename, FunctionBody.rename, kept]
    rfl
  rw [function, same] at ends
  show ((recording _ _ _).map _) = (((recording _ _ _).map _).map _)
  rw [apply_recording, apply_recording]
  generalize (Script.Evaluation.invoke (compiled.function identity) context).run
    (Outside.within Host.mute bound) world.recorded = out,
    (Script.Evaluation.invoke (compiled.function identity) context).run
      (Outside.within Host.mute bound) other.recorded = out' at ends ⊢
  cases ends with
  | endless => rfl
  | ends relates =>
      rcases relates.recorded with ⟨reads, recorded, recorded'⟩
      simp only [Option.map_some, World.readsSoFar, recorded, recorded']

/-! ## Writes that nobody is told of -/

theorem WritersOnly.sameShape {graph other : ObjectGraph} (only : graph.WritersOnly other)
    (schema : other.schema = graph.schema) : graph.SameShape other :=
  ⟨schema.symm, fun id => (only.classOf id).symm, fun ref _ _ _ => by rw [only.cell]⟩

/-- The first phase of a write leaves what expressions see, if all writers are bindings. -/
theorem Relieves.unseen (relieves : Relieves outside target flags world freed)
    (bindings : flags.keep = true ∨
      ∀ writer ∈ world.graph.writersAt target, ∃ id, writer = .binding id) :
    freed.graph.schema = world.graph.schema ∧ freed.notifiers = world.notifiers ∧
      freed.identities = world.identities := by
  cases relieves with
  | kept keep => exact ⟨rfl, rfl, rfl⟩
  | removed replaces run =>
      have frees : Relieves outside target flags world freed := .removed replaces run
      rw [replaces] at bindings
      rcases frees.dismisses replaces (bindings.resolve_left Bool.noConfusion)
        with ⟨dismissed, channels, rfl, _⟩
      exact ⟨world.graph.schema_update _ _, rfl, rfl⟩

theorem stored_eq (graph : ObjectGraph) (ref : PropertyRef) :
    graph.stored ref = if graph.isAlive ref.object then
      .ok (((graph.cell? ref).map Cell.read).getD (.script .undefined))
    else .error (.destroyed ref.object) := by
  unfold ObjectGraph.stored ObjectGraph.isAlive ObjectGraph.cell?
  cases graph.object? ref.object <;> rfl

/-- A property that holds its old value under other names changes nothing else in a world. -/
theorem renamed_of_overwritten {names : Nat → Nat} {old : Cell}
    (described : world.graph.property target = .ok property) (direct : property.isAlias = false)
    (only : world.graph.WritersOnly freed.graph)
    (unseen : freed.graph.schema = world.graph.schema ∧ freed.notifiers = world.notifiers ∧
      freed.identities = world.identities)
    (keeps : KeepsElsewhere names world target) (held : world.graph.cell? target = some old) :
    Renamed names world.recorded
      { freed with graph := freed.graph.setCell target (old.rename names) }.recorded where
  shape := by
    have first := WritersOnly.sameShape only unseen.1
    have described' := described
    rw [first.property] at described'
    exact first.trans (.setCell described' direct _)
  stored := by
    intro ref value stored
    show (freed.graph.setCell target (old.rename names)).stored ref = _
    change world.graph.stored ref = _ at stored
    have kept : ref ≠ target → value.rename names = value := fun different =>
      Native.rename_of_kept value (keeps.stored ref value different stored)
    rw [stored_eq] at stored ⊢
    have alive : (freed.graph.setCell target (old.rename names)).isAlive ref.object =
        world.graph.isAlive ref.object := by
      rw [ObjectGraph.isAlive_eq, ObjectGraph.isAlive_eq, ObjectGraph.classOf?_setCell, only.classOf]
    rw [alive]
    split at stored
    · next living =>
      cases stored
      rw [ObjectGraph.cell?_setCell, only.cell, only.cell, if_pos living]
      by_cases same : target = ref
      · subst same
        rw [if_pos rfl, held]
        exact congrArg Except.ok (old.read_rename names)
      · rw [if_neg same, kept (Ne.symm same)]
    · cases stored
  notifiers := unseen.2.1
  kept := keeps.notifiers
  identities := unseen.2.2
  fresh := keeps.fresh
  recorded := ⟨[], rfl, rfl⟩

/-! ## Zeros -/

/-- Numbers that are equal and not the same are the two zeros. -/
theorem zeros_of_beq {x y : Float} (equal : (x == y) = true) (different : x ≠ y) :
    (x = Number.signedZero .positive ∧ y = Number.signedZero .negative) ∨
      (x = Number.signedZero .negative ∧ y = Number.signedZero .positive) := by
  have same := Number.plain_of_beq equal
  rcases Number.plain_cases x with whole | ⟨rfl, zero⟩ <;>
    rcases Number.plain_cases y with whole' | ⟨rfl, zero'⟩
  · exact absurd (whole ▸ whole' ▸ same) different
  · exact .inl ⟨by rw [← whole, same, zero'], rfl⟩
  · exact .inr ⟨rfl, by rw [← whole', ← same, zero]⟩
  · exact absurd rfl different

/-- One divided by a property of `this`. -/
def reciprocal (name : String) : Script.Compiled :=
  ⟨"reciprocal", .none, .binary .divide (.literal (.int 1)) (.member .this name)⟩

theorem reciprocal_zeros (types : TypeContext) :
    Script.binary types .divide (.int 1) (.double (Number.signedZero .positive)) ≠
      Script.binary types .divide (.int 1) (.double (Number.signedZero .negative)) := by
  have positive : Script.binary types .divide (.int 1) (.double (Number.signedZero .positive)) =
      .double (1 / 0) := by with_unfolding_all rfl
  have negative : Script.binary types .divide (.int 1) (.double (Number.signedZero .negative)) =
      .double (-1 / 0) := by with_unfolding_all rfl
  rw [positive, negative]
  exact fun same => absurd (Value.double.inj same) (by decide +kernel)

/-- What a recorded evaluation of the reciprocal gives and reads. -/
theorem reciprocal_recorded {object : ObjectId} {name : String} {index : Nat} {source : Source}
    {x : Float} (indexed : world.graph.propertyIndex object name = .ok index)
    (found : world.graph.found ⟨object, index⟩ = .ok (source, .double x)) (scope : Script.Scope)
    (identity bound : Nat) :
    (runWithin (bound + 1) Host.mute (recording (Script.Evaluation.invoke
        ((reciprocal name).function identity) ⟨scope, some object, []⟩).run) world).map Prod.fst =
      some (.ok (.dynamic (Script.binary world.graph.context .divide (.int 1) (.double x))),
        [source]) := by
  have read : Steps (Script.Evaluation.evaluate ⟨scope, some object, []⟩ []
      (.member .this name)).run world.recorded _ _ :=
    memberOfThis_steps rfl indexed found
  have divided : (Script.Evaluation.evaluate ⟨scope, some object, []⟩ []
      (reciprocal name).expr).run (Outside.within Host.mute bound) world.recorded =
        some (.ok (Script.binary world.graph.context .divide (.int 1) (.double x)),
          { world with collector? := some (.recorder [source]) }) := by
    simp only [reciprocal, Script.Evaluation.evaluate]
    exact apply_attempt _ (read _)
  have called : (Script.Evaluation.invoke ((reciprocal name).function identity)
      ⟨scope, some object, []⟩).run (Outside.within Host.mute (bound + 1)) world.recorded =
        some (.ok (.dynamic (Script.binary world.graph.context .divide (.int 1) (.double x))),
          { world with collector? := some (.recorder [source]) }) :=
    apply_attempt (fun value => pure (Boxed.dynamic value)) divided
  show (recording _ (Outside.within Host.mute (bound + 1)) world).map _ = _
  rw [apply_recording, called]
  rfl

theorem found_of_cell {cell : Cell} (described : world.graph.property target = .ok property)
    (direct : property.isAlias = false) (held : world.graph.cell? target = some cell) :
    world.graph.found target = .ok (.property target.object property.signal, cell.read) := by
  have resolved := ObjectGraph.resolve_of_direct described direct defaultAliasDepth
  rcases ObjectGraph.found_of_property resolved described with ⟨value, stored, found⟩
  rw [stored_eq, held, if_pos (ObjectGraph.isAlive_of_property described)] at stored
  cases stored
  exact found

/-! ## The law -/

/--
A write that succeeds, to a property without an interceptor and with no writers but
bindings, announces its signal if the cell that it stores is not equal to the old one.
If it is equal, nothing is announced and nothing but the cell and the writers changes.
Then every expression gives the same as before the write, reads the same, and calls no
host if it did not, as long as the new cell is the old one under names that keep
everything else.  It is not enough that the cells are equal: if they hold different
zeros, the reciprocal of the property has changed.
-/
theorem silent_write_unobservable_but_zeros
    (resolved : world.graph.resolve ref defaultAliasDepth = .ok target)
    (audible : flags.quiet = false)
    (unwatched : flags.bypass = true ∨ world.graph.interceptor? target = none)
    (bindings : flags.keep = true ∨
      ∀ writer ∈ world.graph.writersAt target, ∃ id, writer = .binding id)
    (given : Native ⊕ Value)
    (run : (writeEither ref flags given).run outside world = some (.ok (), after)) :
    ∃ property freed, world.graph.property target = .ok property ∧
      Relieves outside target flags world freed ∧ world.graph.WritersOnly freed.graph ∧
      let cell := writtenCell property given
      let stored : World σ := { freed with graph := freed.graph.setCell target cell }
      ∀ old, world.graph.cell? target = some old →
        (old.same cell = false →
          announce (.property target.object property.signal) outside stored = some ((), after)) ∧
        (old.same cell = true → after = stored ∧
          (∀ names, KeepsElsewhere names world target → cell = old.rename names →
            LooksLike names world after) ∧
          ∀ x y name, old = .native (.double x) → cell = .native (.double y) → x ≠ y →
            world.graph.propertyIndex target.object name = .ok target.index →
            ∀ scope identity bound,
              let looks := fun seen : World σ => (runWithin (bound + 1) Host.mute
                (recording (Script.Evaluation.invoke ((reciprocal name).function identity)
                  ⟨scope, some target.object, []⟩).run) seen).map Prod.fst
              (looks world).isSome = true ∧ looks world ≠ looks after) := by
  have nobody : Unwatched outside target flags world := by
    refine unwatched.imp_right fun nobody freed relieves => ?_
    rw [(relieves.writersOnly bindings).interceptor, nobody]
  have writes : Writes outside target flags given world after := by
    cases given with
    | inl value => exact write_writes resolved value audible nobody _ after run rfl
    | inr content => exact writeVar_writes resolved content audible _ after run rfl
  rcases writes with ⟨property, freed, described, relieves, emits⟩
  have only := relieves.writersOnly bindings
  have unseen := relieves.unseen bindings
  rcases ObjectGraph.not_alias_of_resolve resolved with ⟨_, described', direct⟩
  cases described.symm.trans described'
  refine ⟨property, freed, described, relieves, only, fun old held => ?_⟩
  generalize writtenCell property given = cell at emits ⊢
  unfold Emits at emits
  rw [only.cell, held] at emits
  refine ⟨emits.2, fun same => ?_⟩
  have silent := emits.1 same
  refine ⟨silent, fun names keeps renamed => ?_, ?_⟩
  · subst renamed
    rw [silent]
    exact (renamed_of_overwritten described direct only unseen keeps held).looksLike
      keeps.distinguishes
  · rintro x y name rfl rfl different indexed scope identity bound
    have shape : world.graph.SameShape after.graph := by
      have first := WritersOnly.sameShape only unseen.1
      have described' := described
      rw [first.property] at described'
      rw [silent]
      exact first.trans (.setCell described' direct _)
    have stored : after.graph.cell? target = some (.native (.double y)) := by
      rw [silent, ObjectGraph.cell?_setCell, if_pos rfl, only.cell, held]
      rfl
    have before := reciprocal_recorded indexed (found_of_cell described direct held) scope identity
      bound
    have later := reciprocal_recorded (shape.propertyIndex _ _ ▸ indexed)
      (found_of_cell (shape.property _ ▸ described) direct stored) scope identity bound
    rw [← shape.context] at later
    dsimp only
    rw [before, later]
    refine ⟨rfl, fun impossible => ?_⟩
    have quotients := Boxed.dynamic.inj (Except.ok.inj (Prod.mk.inj (Option.some.inj impossible)).1)
    rcases zeros_of_beq same different with ⟨rfl, rfl⟩ | ⟨rfl, rfl⟩
    · exact reciprocal_zeros _ quotients
    · exact reciprocal_zeros _ quotients.symm

section Gauge

/-! ## A gauge that stands at zero -/

/-- A class with a number to divide by. -/
def gaugeSchema : Schema := Schema.empty.defineClass "Gauge" none [.native "width" .double]

/-- The number as the class declares it. -/
def widthProperty : Property := ⟨"width", 0, .double, .native, false, .double 0, 0⟩

/-- A gauge that stands at zero. -/
def gauge : World Unit := panelAfter (create 0 none) (.initial gaugeSchema ())

/-- The gauge when a negative zero has been written over the zero. -/
def turnedGauge : World Unit :=
  panelAfter (write (panelRef 0) (.double (Number.signedZero .negative)) .none).run gauge

/-- What the reciprocal of the number on a gauge is, and what is read for it. -/
def reciprocalOf (world : World Unit) : Option (Except Script.Exception Boxed × List Source) :=
  (runWithin 3 Host.mute (recording (Script.Evaluation.invoke ((reciprocal "width").function 0)
    ⟨.empty, some ⟨0, 0⟩, []⟩).run) world).map Prod.fst

/-- Writing a negative zero over a zero is not announced, and changes the reciprocal. -/
theorem turned_zero_is_observed :
    gauge.graph.resolve (panelRef 0) defaultAliasDepth = .ok (panelRef 0) ∧
    gauge.graph.interceptor? (panelRef 0) = none ∧
    gauge.graph.writersAt (panelRef 0) = [] ∧
    (writeEither (panelRef 0) .none (.inl (.double (Number.signedZero .negative)))).run
      (.within Host.silent 3) gauge = some (.ok (), turnedGauge) ∧
    (reciprocalOf gauge).isSome = true ∧ reciprocalOf gauge ≠ reciprocalOf turnedGauge := by
  have resolved : gauge.graph.resolve (panelRef 0) defaultAliasDepth = .ok (panelRef 0) := by
    with_unfolding_all rfl
  have unwatched : gauge.graph.interceptor? (panelRef 0) = none := by with_unfolding_all rfl
  have unwritten : gauge.graph.writersAt (panelRef 0) = [] := by with_unfolding_all rfl
  have run : (writeEither (panelRef 0) .none (.inl (.double (Number.signedZero .negative)))).run
      (.within Host.silent 3) gauge = some (.ok (), turnedGauge) := by with_unfolding_all rfl
  have held : gauge.graph.cell? (panelRef 0) = some (.native (.double 0)) := by
    with_unfolding_all rfl
  rcases silent_write_unobservable_but_zeros resolved rfl (.inr unwatched)
    (.inr fun writer attached => nomatch unwritten ▸ attached) _ run
    with ⟨property, freed, described, _, _, observed⟩
  have declared : gauge.graph.property (panelRef 0) = .ok widthProperty := by
    with_unfolding_all rfl
  cases described.symm.trans declared
  have looks := ((observed _ held).2 (by decide +kernel)).2.2 0 (Number.signedZero .negative) "width"
    rfl rfl (by decide +kernel) (by with_unfolding_all rfl) .empty 0 2
  exact ⟨resolved, unwatched, unwritten, run, looks⟩

end Gauge

end Engine

end PropertyBinding
