import PropertyBinding.Proofs.Destruction

namespace PropertyBinding

/-!
# Who may be in office

Installation asks neither whether a binding is retired nor whether it is already
the active writer of another place.  So it can put a retired binding into the
office of a working one, and it can give one binding two offices, of which it
keeps the second when it is retired from the first.

These are the only ways.  In a world where no attached binding is retired and
none is attached to two places, everything else keeps it so, and so does the
installation of a binding that is not retired and not attached elsewhere.
-/

namespace Entries

variable {κ α : Type} [DecidableEq κ] {entries : Entries κ α}

theorem mem_keys_insertIn {key name : κ} {value : α} {pairs : List (κ × α)} :
    name ∈ (insertIn key value pairs).map Prod.fst ↔ name = key ∨ name ∈ pairs.map Prod.fst := by
  induction pairs with
  | nil => simp [insertIn]
  | cons pair rest step =>
      rcases pair with ⟨first, old⟩
      by_cases hit : first = key
      · simp [insertIn, hit]
      · simp only [insertIn, hit, if_false, List.map_cons, List.mem_cons, step]
        exact or_left_comm

theorem nodup_insertIn {key : κ} {value : α} {pairs : List (κ × α)}
    (distinct : (pairs.map Prod.fst).Nodup) : ((insertIn key value pairs).map Prod.fst).Nodup := by
  induction pairs with
  | nil => simp [insertIn]
  | cons pair rest step =>
      rcases pair with ⟨first, old⟩
      rcases List.nodup_cons.mp distinct with ⟨absent, distinct⟩
      by_cases hit : first = key
      · simp only [insertIn, hit, if_true, List.map_cons]
        exact List.nodup_cons.mpr ⟨hit ▸ absent, distinct⟩
      · simp only [insertIn, hit, if_false, List.map_cons]
        refine List.nodup_cons.mpr ⟨?_, step distinct⟩
        rw [mem_keys_insertIn]
        rintro (same | member)
        · exact hit same
        · exact absent member

theorem nodup_put (distinct : entries.keys.Nodup) (key : κ) (value : α) :
    (entries.put key value).keys.Nodup :=
  nodup_insertIn distinct

omit [DecidableEq κ] in
theorem nodup_keep (distinct : entries.keys.Nodup) (test : κ → Bool) :
    (entries.keep test).keys.Nodup :=
  distinct.sublist (List.filter_sublist.map Prod.fst)

theorem find?_of_mem {pairs : List (κ × α)} (distinct : (pairs.map Prod.fst).Nodup) {key : κ}
    {value : α} (member : (key, value) ∈ pairs) : find? pairs key = some value := by
  induction pairs with
  | nil => cases member
  | cons pair rest step =>
      rcases pair with ⟨first, old⟩
      rcases List.nodup_cons.mp distinct with ⟨absent, distinct⟩
      rcases List.mem_cons.mp member with same | member
      · cases same
        simp [find?]
      · have other : first ≠ key := by
          intro same
          exact absent (List.mem_map.mpr ⟨_, member, same.symm⟩)
        simp only [find?, other, if_false]
        exact step distinct member

/-- Each value is found under some key, if no key is listed twice. -/
theorem exists_key_of_mem (distinct : entries.keys.Nodup) {value : α}
    (member : value ∈ entries.values) : ∃ key, entries.get? key = some value := by
  rcases List.mem_map.mp member with ⟨⟨key, _⟩, listed, rfl⟩
  exact ⟨key, find?_of_mem distinct listed⟩

end Entries

theorem ObjectGraph.isAttached_of_writerAt? {graph : ObjectGraph} {place : Place} {writer : Writer}
    (attached : graph.writerAt? place = some writer) : graph.isAttached writer = true := by
  rcases Option.bind_eq_some_iff.mp attached with ⟨object, living, written⟩
  unfold object? at living
  split at living
  · next slot located =>
    split at living
    · refine List.any_eq_true.mpr ⟨slot, List.mem_of_getElem? located, ?_⟩
      simp [living, Entries.mem_values_of_get? written]
    · cases living
  · cases living

/-- Whether no object has two writers under one slot. -/
def ObjectGraph.Unambiguous (graph : ObjectGraph) : Prop :=
  ∀ slot ∈ graph.slots, ∀ object, slot.object? = some object → object.writers.keys.Nodup

namespace ObjectGraph.Unambiguous

variable {graph : ObjectGraph}

theorem object (clear : graph.Unambiguous) {id : ObjectId} {object : Object}
    (living : graph.object? id = some object) : object.writers.keys.Nodup := by
  unfold object? at living
  split at living
  · next slot located =>
    split at living
    · exact clear slot (List.mem_of_getElem? located) object living
    · cases living
  · cases living

theorem setSlot (clear : graph.Unambiguous) (index : Nat) (slot : Slot) (free : List Nat)
    (distinct : ∀ object, slot.object? = some object → object.writers.keys.Nodup) :
    Unambiguous { graph with slots := graph.slots.set index slot, free := free } := by
  intro other member object held
  rcases List.mem_or_eq_of_mem_set member with old | rfl
  · exact clear other old object held
  · exact distinct object held

theorem update (clear : graph.Unambiguous) (id : ObjectId) {change : Object → Object}
    (distinct : ∀ object, graph.object? id = some object → (change object).writers.keys.Nodup) :
    (graph.update id change).Unambiguous := by
  unfold ObjectGraph.update
  split
  · next object living =>
    refine clear.setSlot _ _ _ fun changed held => ?_
    cases held
    exact distinct object living
  · exact clear

theorem create (clear : graph.Unambiguous) (classId : ClassId) (name? : Option String) :
    (graph.create classId name?).2.Unambiguous := by
  unfold ObjectGraph.create
  dsimp only
  split
  · refine clear.setSlot _ _ _ fun object held => ?_
    cases held
    exact List.nodup_nil
  · intro slot member object held
    rcases List.mem_append.mp member with old | new
    · exact clear slot old object held
    · rw [List.mem_singleton] at new
      subst new
      cases held
      exact List.nodup_nil

theorem remove (clear : graph.Unambiguous) {id : ObjectId} {object : Object} {removed : ObjectGraph}
    (gone : graph.remove? id = some (object, removed)) : removed.Unambiguous := by
  rcases Option.map_eq_some_iff.mp gone with ⟨_, _, same⟩
  cases same
  exact clear.setSlot _ _ _ fun _ held => by cases held

end ObjectGraph.Unambiguous

namespace World

variable {σ : Type} {world later : World σ}

/-- Whether all writers are bindings that are not retired, each attached to one place. -/
structure Staffed (world : World σ) : Prop extends World.Tidy world where
  clear : world.graph.Unambiguous
  bindings : ∀ place writer, world.graph.writerAt? place = some writer → ∃ id, writer = .binding id
  single : ∀ first second id, world.graph.writerAt? first = some (.binding id) →
    world.graph.writerAt? second = some (.binding id) → first = second
  active : ∀ place id binding, world.graph.writerAt? place = some (.binding id) →
    world.bindings[id]? = some binding → binding.retired = false

/-- Whether an operation leaves a world staffed. -/
def StaysStaffed (world later : World σ) : Prop :=
  world.Staffed → later.Staffed

/-- Nobody takes office, and nobody who stays is retired. -/
theorem Staffed.transfer (staffed : world.Staffed) (vacant : later.graph.Vacant)
    (clear : later.graph.Unambiguous)
    (stays : ∀ place writer, later.graph.writerAt? place = some writer →
      world.graph.writerAt? place = some writer)
    (length : world.bindings.length ≤ later.bindings.length)
    (spares : ∀ place id former binding, later.graph.writerAt? place = some (.binding id) →
      world.bindings[id]? = some former → later.bindings[id]? = some binding →
      former.retired = false → binding.retired = false) : later.Staffed where
  vacant := vacant
  known place id attached :=
    Nat.lt_of_lt_of_le (staffed.known place id (stays place _ attached)) length
  clear := clear
  bindings place writer attached := staffed.bindings place writer (stays place _ attached)
  single first second id attached attached' :=
    staffed.single first second id (stays first _ attached) (stays second _ attached')
  active place id binding attached found := by
    have before := stays place _ attached
    have known := List.getElem?_eq_getElem (staffed.known place id before)
    exact spares place id _ binding attached known found (staffed.active place id _ before known)

/-- Only the writers in the graph and the bindings count. -/
theorem Staffed.elsewhere (staffed : world.Staffed) (graph : later.graph = world.graph)
    (bindings : later.bindings = world.bindings) : later.Staffed := by
  refine staffed.transfer (graph ▸ staffed.vacant) (graph ▸ staffed.clear) ?_ ?_ ?_
  · intro place writer attached
    rwa [graph] at attached
  · exact Nat.le_of_eq (congrArg List.length bindings.symm)
  · intro place id former binding _ found found' active
    rw [bindings, found] at found'
    cases found'
    exact active

/-- A change of a binding that does not retire it, or of one that is not in office. -/
theorem Staffed.modify (staffed : world.Staffed) (id : BindingId) {change : Binding → Binding}
    (spares : world.Unattached id ∨ ∀ binding, world.bindings[id]? = some binding →
      (change binding).retired = binding.retired) :
    Staffed { world with bindings := world.bindings.modify id change } := by
  refine staffed.transfer staffed.vacant staffed.clear (fun _ _ attached => attached) (by simp) ?_
  intro place other former binding attached found found' active
  rw [List.getElem?_modify, found] at found'
  by_cases same : id = other
  · subst same
    simp only [if_true, Option.map_eq_map, Option.map_some, Option.some.injEq] at found'
    subst found'
    rcases spares with unattached | kept
    · exact absurd attached (unattached place)
    · exact (kept former found).trans active
  · simp only [same, if_false, Option.map_eq_map, Option.map_some, Option.some.injEq] at found'
    exact found' ▸ active

/-- Who was in one place only and has left it is attached nowhere. -/
theorem Staffed.unattached (staffed : world.Staffed)
    (stays : ∀ place writer, later.graph.writerAt? place = some writer →
      world.graph.writerAt? place = some writer) {place : Place} {id : BindingId}
    (attached : world.graph.writerAt? place = some (.binding id))
    (left : later.graph.writerAt? place ≠ some (.binding id)) : later.Unattached id := by
  intro other attached'
  have same := staffed.single place other id attached (stays other _ attached')
  subst same
  exact left attached'

/-- Whether a binding may be installed: it is active, and it is in no other place. -/
def MayInstall (world : World σ) (id : BindingId) : Prop :=
  ∀ binding, world.bindings[id]? = some binding → binding.retired = false ∧
    (world.Unattached id ∨ world.graph.writerAt? (binding.place world.graph) = some (.binding id))

/-- The same as a test. -/
def mayInstall (world : World σ) (id : BindingId) : Bool :=
  (world.bindings[id]?).all fun binding => !binding.retired &&
    (!world.graph.isAttached (.binding id) ||
      decide (world.graph.writerAt? (binding.place world.graph) = some (.binding id)))

theorem mayInstall_sound {id : BindingId} (may : world.mayInstall id = true) :
    world.MayInstall id := by
  intro binding found
  have tested : binding.retired = false ∧ (world.graph.isAttached (.binding id) = false ∨
      world.graph.writerAt? (binding.place world.graph) = some (.binding id)) := by
    simpa [mayInstall, found] using may
  refine ⟨tested.1, tested.2.imp_left fun absent place attached => ?_⟩
  rw [ObjectGraph.isAttached_of_writerAt? attached] at absent
  cases absent

end World

namespace Engine

variable {σ α β ε : Type} {outside : Outside σ} {world : World σ}

/-! ## Writers that leave -/

theorem staffed_steady : Steady (World.StaysStaffed (σ := σ)) :=
  ⟨fun _ staffed => staffed, fun first second staffed => second (first staffed)⟩

/-- To stay staffed is to be staffed after a start that is. -/
theorem staying {operation : Engine σ α} (ensures : world.Staffed →
      Ensures outside operation world fun _ after => after.Staffed) :
    Ensures outside operation world fun _ after => world.StaysStaffed after :=
  fun result after run staffed => ensures staffed result after run

/-- A writer that left its place is a binding, and is attached nowhere. -/
def HasLeft (world : World σ) (writer : Writer) : Prop :=
  ∃ id, writer = .binding id ∧ world.Unattached id

/-- Who has left may be retired. -/
theorem retire_staffed {writer : Writer} (staffed : world.Staffed) (left : HasLeft world writer) :
    Ensures outside (retire writer) world fun _ after =>
      after.Staffed ∧ ∀ other, HasLeft world other → HasLeft after other := by
  rcases left with ⟨id, rfl, unattached⟩
  refine (retireBinding_ends id).weaken ?_
  rintro _ after ⟨bindings, graph, _⟩
  refine ⟨(staffed.modify id (.inl unattached)).elsewhere graph bindings, ?_⟩
  rintro _ ⟨other, rfl, away⟩
  refine ⟨other, rfl, fun place => ?_⟩
  rw [graph]
  exact away place

theorem retireAll_staffed {writers : List Writer} (staffed : world.Staffed)
    (left : ∀ writer ∈ writers, HasLeft world writer) :
    Ensures outside (retireAll writers) world fun _ after => after.Staffed := by
  induction writers generalizing world with
  | nil => exact .value staffed
  | cons writer rest step =>
      refine .bind _ (retire_staffed staffed (left writer List.mem_cons_self)) ?_
      rintro _ after ⟨staffed, stay⟩
      exact step staffed fun other listed => stay other (left other (List.mem_cons_of_mem _ listed))

/-- Writers may be dropped from an object, and they have left then. -/
theorem staffed_of_drop (staffed : world.Staffed) {id : ObjectId} {object : Object}
    (living : world.graph.object? id = some object) (test : WriterSlot → Bool)
    {change : Object → Object}
    (drops : ∀ object, (change object).writers = object.writers.keep fun slot => !test slot) :
    let later : World σ := { world with graph := world.graph.update id change }
    later.Staffed ∧ ∀ slot writer, test slot = true →
      world.graph.writerAt? ⟨id, slot⟩ = some writer → HasLeft later writer := by
  have writers : ∀ place, (world.graph.update id change).writerAt? place =
      if id = place.object then
        if !test place.slot then object.writers.get? place.slot else none
      else world.graph.writerAt? place := by
    intro place
    rw [writerAt?_update living, drops, Entries.get?_keep]
  have stays : ∀ place writer, (world.graph.update id change).writerAt? place = some writer →
      world.graph.writerAt? place = some writer := by
    intro place writer attached
    rw [writers] at attached
    split at attached
    · next same =>
      subst same
      rw [writerAt?_of_living place living]
      split at attached
      · exact attached
      · cases attached
    · exact attached
  constructor
  · refine staffed.transfer (staffed.vacant.update id change) (staffed.clear.update id ?_) stays
      (Nat.le_refl _) ?_
    · intro former living
      rw [drops]
      exact Entries.nodup_keep (staffed.clear.object living) _
    · intro _ _ former binding _ found found' active
      rw [found] at found'
      cases found'
      exact active
  · intro slot writer passes attached
    rcases staffed.bindings _ _ attached with ⟨other, rfl⟩
    refine ⟨other, rfl, staffed.unattached stays attached ?_⟩
    simp [writers, passes]

/-- The writers of a living object are attached to it. -/
theorem exists_slot_of_mem (staffed : world.Staffed) {id : ObjectId} {object : Object}
    (living : world.graph.object? id = some object) {test : WriterSlot → Bool} {writer : Writer}
    (listed : writer ∈ (object.writers.keep test).values) :
    ∃ slot, test slot = true ∧ world.graph.writerAt? ⟨id, slot⟩ = some writer := by
  have distinct := Entries.nodup_keep (staffed.clear.object living) test
  rcases Entries.exists_key_of_mem distinct listed with ⟨slot, written⟩
  rw [Entries.get?_keep] at written
  split at written
  · next passes =>
    refine ⟨slot, passes, ?_⟩
    rw [writerAt?_of_living ⟨id, slot⟩ living]
    exact written
  · cases written

theorem removeWriters_staffed (ref : PropertyRef) :
    Keeps outside World.StaysStaffed (removeWriters ref : Engine σ Unit) := by
  intro world
  refine .lookGraph ?_
  cases living : world.graph.object? ref.object with
  | none => exact .value fun staffed => staffed
  | some object =>
      have drops : ∀ former : Object, (former.withoutWritersOf ref.index).writers =
          former.writers.keep fun slot => !decide (slot.index = ref.index) := by
        simp [Object.withoutWritersOf]
      refine staying fun staffed => .change ?_
      rcases staffed_of_drop staffed living _ drops with ⟨dropped, left⟩
      refine retireAll_staffed dropped fun writer listed => ?_
      rcases exists_slot_of_mem staffed living listed with ⟨slot, passes, attached⟩
      exact left slot writer passes attached

theorem detach_staffed (id : ObjectId) (slot : WriterSlot) :
    Keeps outside World.StaysStaffed (detach id slot : Engine σ Bool) := by
  intro world
  refine .lookGraph ?_
  cases attached : world.graph.writer? id slot with
  | none => exact .value fun staffed => staffed
  | some writer =>
      rcases Option.bind_eq_some_iff.mp attached with ⟨object, living, _⟩
      have drops : ∀ former : Object, ({ former with writers := former.writers.drop slot } :
          Object).writers = former.writers.keep fun other => !decide (other = slot) := by
        simp [Entries.drop]
      refine staying fun staffed => .change ?_
      rcases staffed_of_drop staffed living _ drops with ⟨dropped, left⟩
      refine .bind _ (retire_staffed dropped (left slot writer (by simp) attached)) ?_
      exact fun _ _ reached => .value reached.1

theorem destroy_staffed (id : ObjectId) :
    Keeps outside World.StaysStaffed (destroy id : Engine σ Bool) := by
  intro world
  refine .lookGraph ?_
  cases removal : world.graph.remove? id with
  | none => exact .value fun staffed => staffed
  | some removed =>
      rcases removed with ⟨object, graph⟩
      refine staying fun staffed => ?_
      have living := ObjectGraph.object?_of_remove removal
      let cleared : World σ := { world with graph := graph, channels := world.channels.removeObject id }
      have stays : ∀ place writer, cleared.graph.writerAt? place = some writer →
          world.graph.writerAt? place = some writer :=
        fun _ _ attached => ObjectGraph.writer?_of_remove removal attached
      have kept : cleared.Staffed := by
        refine staffed.transfer (staffed.vacant.remove removal) (staffed.clear.remove removal)
          stays (Nat.le_refl _) ?_
        intro _ _ former binding _ found found' active
        rw [found] at found'
        cases found'
        exact active
      have left : ∀ writer ∈ object.writers.values, HasLeft cleared writer := by
        intro writer listed
        rcases Entries.exists_key_of_mem (staffed.clear.object living) listed with ⟨slot, written⟩
        have attached : world.graph.writerAt? ⟨id, slot⟩ = some writer := by
          rw [writerAt?_of_living ⟨id, slot⟩ living]
          exact written
        rcases staffed.bindings _ _ attached with ⟨other, rfl⟩
        refine ⟨other, rfl, staffed.unattached stays attached fun impossible => ?_⟩
        have gone : cleared.graph.writerAt? ⟨id, slot⟩ = none :=
          ObjectGraph.writer?_of_removed removal slot
        rw [gone] at impossible
        cases impossible
      exact .change (.change (.bind _ (retireAll_staffed kept left) fun _ _ reached => .value reached))

/-! ## Writers that come -/

/-- A world in which a writer has taken a place. -/
def seated (world : World σ) (place : Place) (writer : Writer) : World σ :=
  { world with graph := world.graph.update place.object fun object =>
      { object with writers := object.writers.put place.slot writer } }

section Seating

variable {place other : Place} {holder : Object} {writer current : Writer} {id rival : BindingId}
  (living : world.graph.object? place.object = some holder) (unattached : world.Unattached id)

include living

theorem writerAt?_seated_self : (seated world place writer).graph.writerAt? place = some writer := by
  unfold seated
  rw [writerAt?_update living, if_pos rfl]
  exact Entries.get?_put_self _ _ _

theorem writerAt?_seated_of_ne (different : place ≠ other) :
    (seated world place writer).graph.writerAt? other = world.graph.writerAt? other := by
  rcases place with ⟨object, slot⟩
  rcases other with ⟨object', slot'⟩
  unfold seated
  rw [writerAt?_update living, Entries.get?_put]
  by_cases same : object = object'
  · subst same
    have apart : slot ≠ slot' := by
      rintro rfl
      exact different rfl
    rw [if_pos rfl, if_neg apart]
    exact (writerAt?_of_living ⟨object, slot'⟩ living).symm
  · exact if_neg same

/-- Whoever is attached now has just come, or was there before. -/
theorem attached_of_seated
    (attached : (seated world place writer).graph.writerAt? other = some current) :
    (place = other ∧ current = writer) ∨ world.graph.writerAt? other = some current := by
  by_cases same : place = other
  · subst same
    rw [writerAt?_seated_self living] at attached
    exact .inl ⟨rfl, (Option.some.inj attached).symm⟩
  · rw [writerAt?_seated_of_ne living same] at attached
    exact .inr attached

theorem attached_of_seated_ne
    (attached : (seated world place (.binding id)).graph.writerAt? other = some (.binding rival))
    (different : rival ≠ id) : world.graph.writerAt? other = some (.binding rival) := by
  rcases attached_of_seated living attached with ⟨_, same⟩ | before
  · cases same
    exact absurd rfl different
  · exact before

include unattached

theorem eq_of_seated
    (attached : (seated world place (.binding id)).graph.writerAt? other = some (.binding id)) :
    place = other := by
  rcases attached_of_seated living attached with ⟨here, _⟩ | before
  · exact here
  · exact absurd before (unattached other)

/-- An active binding that was in no place may take one. -/
theorem staffed_of_seated (staffed : world.Staffed) {binding : Binding}
    (found : world.bindings[id]? = some binding) (active : binding.retired = false) :
    (seated world place (.binding id)).Staffed where
  -- each field for the newcomer first, and then for those who were there before
  vacant := staffed.vacant.update place.object _
  known other rival attached := by
    by_cases same : rival = id
    · subst same
      exact (List.getElem?_eq_some_iff.mp found).1
    · exact staffed.known other rival (attached_of_seated_ne living attached same)
  clear := staffed.clear.update place.object fun former living =>
    Entries.nodup_put (staffed.clear.object living) place.slot _
  bindings other writer attached := by
    rcases attached_of_seated living attached with ⟨_, same⟩ | before
    · exact ⟨id, same⟩
    · exact staffed.bindings other writer before
  single first second rival attached attached' := by
    by_cases same : rival = id
    · subst same
      have left := eq_of_seated living unattached attached
      have right := eq_of_seated living unattached attached'
      exact left.symm.trans right
    · exact staffed.single first second rival (attached_of_seated_ne living attached same)
        (attached_of_seated_ne living attached' same)
  active other rival current attached located := by
    by_cases same : rival = id
    · subst same
      have current' : current = binding := Option.some.inj (located.symm.trans found)
      exact current' ▸ active
    · exact staffed.active other rival current (attached_of_seated_ne living attached same) located

theorem hasLeft_of_seated (staffed : world.Staffed)
    (attached : world.graph.writerAt? place = some writer) :
    HasLeft (seated world place (.binding id)) writer := by
  rcases staffed.bindings _ _ attached with ⟨rival, rfl⟩
  have different : rival ≠ id := by
    rintro rfl
    exact unattached _ attached
  refine ⟨rival, rfl, fun other attached' => ?_⟩
  have same := staffed.single _ _ rival attached (attached_of_seated_ne living attached' different)
  subst same
  rw [writerAt?_seated_self living] at attached'
  cases attached'
  exact different rfl

end Seating

theorem attach_staffed (staffed : world.Staffed) {id : BindingId} {binding : Binding}
    (found : world.bindings[id]? = some binding) (active : binding.retired = false)
    (unattached : world.Unattached id) (object : ObjectId) (slot : WriterSlot) :
    Ensures outside (attach object slot (.binding id)).run world fun _ after => after.Staffed := by
  refine .performGraph (.choose (fun alive => ?_) fun _ => .value staffed)
  rcases Option.isSome_iff_exists.mp alive with ⟨holder, living⟩
  have kept : (seated world ⟨object, slot⟩ (.binding id)).Staffed :=
    staffed_of_seated living unattached staffed found active
  refine .done (.change (retireAll_staffed kept fun writer listed => ?_))
  have attached : world.graph.writerAt? ⟨object, slot⟩ = some writer := Option.mem_toList.mp listed
  exact hasLeft_of_seated living unattached staffed attached

theorem install_staffed (staffed : world.Staffed) {id : BindingId} (may : world.MayInstall id) :
    Ensures outside (install id).run world fun _ after => after.Staffed := by
  refine .performBinding ?_
  cases found : world.bindings[id]? with
  | none => exact .value staffed
  | some binding =>
      refine .performLook (.choose (fun _ => .value staffed) fun _ => ?_)
      refine .choose (fun vacant => ?_) fun _ => .value staffed
      rcases may binding found with ⟨active, unattached | attached⟩
      · exact attach_staffed staffed found active unattached _ _
      · exact absurd attached vacant

/-- Bindings that are retired leave the graph as it is, and none comes back. -/
theorem retireAll_bindings {writers : List Writer}
    (bindings : ∀ writer ∈ writers, ∃ id, writer = .binding id) :
    Ensures outside (retireAll writers) world fun _ after =>
      after.graph = world.graph ∧ world.Onward none after := by
  have steady : Steady fun world after : World σ =>
      after.graph = world.graph ∧ world.Onward none after :=
    ⟨fun world => ⟨rfl, .refl world⟩,
      fun first second => ⟨second.1.trans first.1, first.2.trans second.2⟩⟩
  refine steady.retireAll (fun writer listed world => ?_) world
  rcases bindings writer listed with ⟨id, rfl⟩
  intro result after run
  exact ⟨(retireBinding_ends id result after run).2.1, retireBinding_onward id world result after run⟩

/-- Who takes a place and leaves the world staffed is active, and was in no place. -/
theorem active_of_attach (staffed : world.Staffed) {id : BindingId} {binding : Binding}
    (found : world.bindings[id]? = some binding) (object : ObjectId) (slot : WriterSlot)
    (vacant : world.graph.writer? object slot ≠ some (.binding id)) :
    Ensures outside (attach object slot (.binding id)).run world fun outcome after =>
      outcome = .ok () → after.Staffed → binding.retired = false ∧ world.Unattached id := by
  refine .performGraph (.choose (fun alive => .done (.change ?_)) fun _ =>
    .value fun impossible => by cases impossible)
  obtain ⟨holder, living⟩ : ∃ holder, world.graph.object? (Place.mk object slot).object = some holder :=
    Option.isSome_iff_exists.mp alive
  have bindings : ∀ writer ∈ (world.graph.writer? object slot).toList,
      ∃ other, writer = .binding other :=
    fun writer listed => staffed.bindings ⟨object, slot⟩ writer (Option.mem_toList.mp listed)
  refine (retireAll_bindings bindings).weaken ?_
  rintro _ after ⟨graph, onward⟩ _ kept
  have here : after.graph.writerAt? ⟨object, slot⟩ = some (.binding id) := by
    rw [graph]
    exact writerAt?_seated_self living
  constructor
  · cases retired : binding.retired with
    | false => rfl
    | true =>
        rcases onward.bindings id binding found with ⟨last, located, step⟩
        have absurdity := step.retired retired
        rw [kept.active _ id last here located] at absurdity
        cases absurdity
  · intro place attached
    by_cases same : ⟨object, slot⟩ = place
    · subst same
      exact vacant attached
    · have elsewhere : after.graph.writerAt? place = some (.binding id) := by
        rw [graph]
        exact (writerAt?_seated_of_ne living same).trans attached
      exact same (kept.single _ _ id here elsewhere)

/-- An installation that leaves the world staffed is one that may be made. -/
theorem mayInstall_of_install (staffed : world.Staffed) (id : BindingId) :
    Ensures outside (install id).run world fun outcome after =>
      outcome = .ok () → after.Staffed → world.MayInstall id := by
  refine .performBinding ?_
  cases found : world.bindings[id]? with
  | none =>
      refine .value fun _ _ binding located => ?_
      rw [found] at located
      cases located
  | some binding =>
      have only : ∀ current, world.bindings[id]? = some current → current = binding :=
        fun current located => Option.some.inj (located.symm.trans found)
      refine .performLook (.choose (fun _ => .value fun impossible => by cases impossible) fun _ => ?_)
      refine .choose (fun vacant => ?_) fun attached => .value fun _ _ current located => ?_
      · refine (active_of_attach staffed found _ _ vacant).weaken ?_
        intro outcome after reached success kept current located
        rw [only current located]
        exact (reached success kept).imp_right .inl
      · have here : world.graph.writerAt? (binding.place world.graph) = some (.binding id) :=
          Decidable.not_not.mp attached
        rw [only current located]
        exact ⟨staffed.active _ id binding here found, .inr here⟩

end Engine

end PropertyBinding
