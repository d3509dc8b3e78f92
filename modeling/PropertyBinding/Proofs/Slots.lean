import PropertyBinding.Proofs.Shape

namespace PropertyBinding

/-!
# What is in the slots

Each step on a graph changes one slot: where it is, and what is in it afterwards, says all
about which object is found by which name.  A new object needs a vacant slot for this, or it
could take the place of a living one.
-/

namespace ObjectGraph

variable {graph removed : ObjectGraph} {id other : ObjectId} {object : Object} {index : Nat}

/-- Whether the slots to fill next are vacant, and each is listed once. -/
structure Vacant (graph : ObjectGraph) : Prop where
  distinct : graph.free.Nodup
  vacant : ∀ index ∈ graph.free, ∃ generation, graph.slots[index]? = some ⟨generation, none⟩

/-- A graph without slots has none to fill. -/
theorem Vacant.empty (schema : Schema) : (ObjectGraph.empty schema).Vacant where
  distinct := .nil
  vacant index free := by cases free

/-! ## Names and slots -/

/-- What a slot holds settles who lives in it. -/
theorem object?_congr {later : ObjectGraph}
    (same : later.slots[id.index]? = graph.slots[id.index]?) :
    later.object? id = graph.object? id := by
  rw [object?, same, object?]

theorem object?_of_vacant {generation : UInt32}
    (located : graph.slots[id.index]? = some ⟨generation, none⟩) : graph.object? id = none := by
  simp [object?, located]

/-- Whoever names a living object names its slot as it is. -/
theorem slot_of_living (living : graph.object? id = some object) :
    graph.slots[id.index]? = some ⟨id.generation, some object⟩ := by
  unfold object? at living
  cases located : graph.slots[id.index]? with
  | none =>
      rw [located] at living
      cases living
  | some entry =>
      rw [located] at living
      rcases entry with ⟨generation, object?⟩
      simp only at living
      split at living
      · next same => rw [same, living]
      · cases living

/-- The slot of a living object is not to be filled. -/
theorem Vacant.unlisted (vacant : graph.Vacant) (living : graph.object? id = some object) :
    id.index ∉ graph.free := by
  intro member
  rcases vacant.vacant id.index member with ⟨generation, unused⟩
  rw [slot_of_living living] at unused
  cases unused

/-! ## Changing an object -/

theorem free_update (id : ObjectId) (change : Object → Object) :
    (graph.update id change).free = graph.free := by
  unfold update
  split <;> rfl

theorem slot_update (living : graph.object? id = some object) (change : Object → Object) :
    (graph.update id change).slots[index]? =
      if index = id.index then some ⟨id.generation, some (change object)⟩
      else graph.slots[index]? := by
  have inRange := (List.getElem?_eq_some_iff.mp (slot_of_living living)).1
  rw [update, living]
  by_cases same : index = id.index
  · rw [if_pos same, same]
    exact List.getElem?_set_self inRange
  · rw [if_neg same]
    exact List.getElem?_set_ne (Ne.symm same)

/-- A change of a living object leaves the vacant slots alone. -/
theorem Vacant.update (vacant : graph.Vacant) (id : ObjectId) (change : Object → Object) :
    (graph.update id change).Vacant := by
  cases living : graph.object? id with
  | none =>
      rw [ObjectGraph.update, living]
      exact vacant
  | some object =>
      constructor
      · rw [free_update]
        exact vacant.distinct
      intro index member
      rw [free_update] at member
      have different : index ≠ id.index := fun same => vacant.unlisted living (same ▸ member)
      rw [slot_update living, if_neg different]
      exact vacant.vacant index member

/-! ## Making an object -/

section Made

variable {classId : ClassId} {name? : Option String} {made : ObjectGraph}

/-- An object is made in the slot that was freed last, or in a slot behind all others. -/
theorem place_create (making : graph.create classId name? = (id, made)) :
    graph.free = id.index :: made.free ∨
      graph.free = [] ∧ made.free = [] ∧ id.index = graph.slots.length := by
  unfold create at making
  cases free : graph.free with
  | nil =>
      rw [free] at making
      cases making
      exact .inr ⟨rfl, rfl, rfl⟩
  | cons place rest =>
      rw [free] at making
      cases making
      exact .inl rfl

variable (vacant : graph.Vacant)
include vacant

theorem slot_create (making : graph.create classId name? = (id, made)) :
    made.slots[index]? =
      if index = id.index then some ⟨id.generation, some (graph.freshObject classId name?)⟩
      else graph.slots[index]? := by
  unfold create at making
  cases free : graph.free with
  | nil =>
      rw [free] at making
      cases making
      rw [List.getElem?_append]
      split
      · next inRange => rw [if_neg (Nat.ne_of_lt inRange)]
      · next beyond =>
        by_cases same : index = graph.slots.length
        · simp [same]
        · have further : index - graph.slots.length ≠ 0 := by omega
          simp [same, List.getElem?_eq_none (Nat.le_of_not_lt beyond), further]
  | cons place rest =>
      rcases vacant.vacant place (by simp [free]) with ⟨generation, unused⟩
      have inRange := (List.getElem?_eq_some_iff.mp unused).1
      rw [free] at making
      cases making
      by_cases same : index = place
      · rw [if_pos same, same]
        exact List.getElem?_set_self inRange
      · rw [if_neg same]
        exact List.getElem?_set_ne (Ne.symm same)

/-- Nobody lives in the slot that a new object gets. -/
theorem object?_of_place (making : graph.create classId name? = (id, made))
    (same : other.index = id.index) : graph.object? other = none := by
  rcases place_create making with listed | ⟨_, _, last⟩
  · rcases vacant.vacant _ (listed ▸ List.mem_cons_self) with ⟨generation, unused⟩
    exact object?_of_vacant (same ▸ unused)
  · rw [object?, same, last, List.getElem?_eq_none (Nat.le_refl _)]

/-- A new object is found by its name, and all others are as they were. -/
theorem object?_after_create (making : graph.create classId name? = (id, made)) :
    made.object? other =
      if other = id then some (graph.freshObject classId name?) else graph.object? other := by
  have slot : made.slots[other.index]? = _ := slot_create vacant making
  by_cases same : other.index = id.index
  · rw [if_pos same] at slot
    by_cases named : id.generation = other.generation
    · have equal : other = id := by
        cases other
        exact congr (congrArg ObjectId.mk same) named.symm
      rw [if_pos equal, object?, slot]
      exact if_pos named
    · have different : other ≠ id := by
        intro equal
        exact named (congrArg ObjectId.generation equal.symm)
      rw [if_neg different, object?_of_place vacant making same, object?, slot]
      exact if_neg named
  · have different : other ≠ id := by
      intro equal
      exact same (congrArg ObjectId.index equal)
    rw [if_neg different]
    apply object?_congr
    rw [slot, if_neg same]

theorem Vacant.create (classId : ClassId) (name? : Option String) :
    (graph.create classId name?).2.Vacant := by
  cases making : graph.create classId name? with
  | mk id made =>
      show made.Vacant
      rcases place_create making with listed | ⟨_, full, _⟩
      · have distinct := vacant.distinct
        rw [listed] at distinct
        rcases List.nodup_cons.mp distinct with ⟨fresh, rest⟩
        refine ⟨rest, fun index member => ?_⟩
        have different : index ≠ id.index := fun same => fresh (same ▸ member)
        rw [slot_create vacant making, if_neg different]
        exact vacant.vacant index (listed ▸ List.mem_cons_of_mem _ member)
      · refine ⟨full ▸ .nil, fun index member => ?_⟩
        rw [full] at member
        cases member

end Made

/-! ## Removing an object -/

theorem object?_of_remove (gone : graph.remove? id = some (object, removed)) :
    graph.object? id = some object := by
  rcases Option.map_eq_some_iff.mp gone with ⟨found, living, same⟩
  cases same
  exact living

theorem free_remove (gone : graph.remove? id = some (object, removed)) :
    removed.free = id.index :: graph.free := by
  rcases Option.map_eq_some_iff.mp gone with ⟨found, living, same⟩
  cases same
  rfl

theorem slot_remove (gone : graph.remove? id = some (object, removed)) :
    removed.slots[index]? =
      if index = id.index then some ⟨id.generation + 1, none⟩ else graph.slots[index]? := by
  rcases Option.map_eq_some_iff.mp gone with ⟨found, living, same⟩
  cases same
  have inRange := (List.getElem?_eq_some_iff.mp (slot_of_living living)).1
  by_cases same : index = id.index
  · rw [if_pos same, same]
    exact List.getElem?_set_self inRange
  · rw [if_neg same]
    exact List.getElem?_set_ne (Ne.symm same)

/-- An object that is removed is not found any more, and all others are as they were. -/
theorem object?_after_remove (gone : graph.remove? id = some (object, removed)) :
    removed.object? other = if other = id then none else graph.object? other := by
  by_cases same : other.index = id.index
  · have dead : removed.object? other = none := by
      apply object?_of_vacant
      rw [slot_remove gone, if_pos same]
    rw [dead]
    by_cases equal : other = id
    · rw [if_pos equal]
    · have located := slot_of_living (object?_of_remove gone)
      have different : id.generation ≠ other.generation := by
        intro named
        apply equal
        cases other
        exact congr (congrArg ObjectId.mk same) named.symm
      rw [if_neg equal, object?, same, located]
      exact (if_neg different).symm
  · have different : other ≠ id := by
      intro equal
      exact same (congrArg ObjectId.index equal)
    rw [if_neg different]
    apply object?_congr
    rw [slot_remove gone, if_neg same]

theorem Vacant.remove (vacant : graph.Vacant) (gone : graph.remove? id = some (object, removed)) :
    removed.Vacant := by
  have unlisted := vacant.unlisted (object?_of_remove gone)
  refine ⟨free_remove gone ▸ List.nodup_cons.mpr ⟨unlisted, vacant.distinct⟩, fun index member => ?_⟩
  rw [free_remove gone] at member
  rw [slot_remove gone]
  split
  · exact ⟨_, rfl⟩
  · next different =>
    rcases List.mem_cons.mp member with same | listed
    · exact absurd same different
    · exact vacant.vacant index listed

end ObjectGraph

end PropertyBinding
