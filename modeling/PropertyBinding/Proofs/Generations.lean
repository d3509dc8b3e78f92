import PropertyBinding.Proofs.Moves
import PropertyBinding.Proofs.Tenure

namespace PropertyBinding

/-!
# Names of objects

A slot counts how often it was freed, and an object has the count of its slot in its
name.  So the name of a destroyed object is not given again before the count has gone
once around.  An object lasts as long as it is alive and none of its name was destroyed.
-/

variable {σ : Type}

/-! ## Objects that last -/

/-- Whether an object of a name was destroyed, or the graph is gone. -/
def Gone (past : List (Moment σ)) (object : ObjectId) : Prop :=
  ∃ moment ∈ past, moment.event = .destroys object ∨ moment.event = .vanishes

/--
Whether a source is a notifier, or a property of an object that is alive and was never
destroyed.
-/
def Lasts (past : List (Moment σ)) (world : World σ) (source : Source) : Prop :=
  ∀ object signal, source = .property object signal →
    world.graph.isAlive object = true ∧ ¬Gone past object

theorem Gone.later {past : List (Moment σ)} {object : ObjectId} (gone : Gone past object)
    (moment : Moment σ) : Gone (past ++ [moment]) object := by
  rcases gone with ⟨earlier, member, told⟩
  exact ⟨earlier, List.mem_append_left _ member, told⟩

theorem Gone.now {past : List (Moment σ)} {object : ObjectId} {moment : Moment σ}
    (told : moment.event = .destroys object ∨ moment.event = .vanishes) :
    Gone (past ++ [moment]) object :=
  ⟨moment, List.mem_append_right _ List.mem_cons_self, told⟩

namespace ObjectGraph

variable {graph removed : ObjectGraph} {id other : ObjectId} {object : Object}

theorem isAlive_update (change : Object → Object) :
    (graph.update id change).isAlive other = graph.isAlive other := by
  unfold isAlive
  rw [object?_update]
  split
  · next same => rw [Option.isSome_map, same]
  · rfl

theorem isAlive_create (vacant : graph.Vacant) (classId : ClassId) (name? : Option String)
    (alive : graph.isAlive other = true) :
    (graph.create classId name?).2.isAlive other = true := by
  rcases Option.isSome_iff_exists.mp alive with ⟨object, living⟩
  exact Option.isSome_iff_exists.mpr ⟨object, object?_create vacant classId name? living⟩

theorem isAlive_remove (gone : graph.remove? id = some (object, removed))
    (alive : graph.isAlive other = true) : other = id ∨ removed.isAlive other = true := by
  rcases Option.isSome_iff_exists.mp alive with ⟨holder, living⟩
  rcases object?_remove gone living with ⟨same, _⟩ | stays
  · exact .inl same
  · exact .inr (Option.isSome_iff_exists.mpr ⟨holder, stays⟩)

end ObjectGraph

/-! ## Generations -/

namespace ObjectGraph

variable {graph removed : ObjectGraph} {id : ObjectId} {object : Object} {index : Nat}
  {generation : UInt32}

/-- How often a slot was freed. -/
def generation? (graph : ObjectGraph) (index : Nat) : Option UInt32 :=
  (graph.slots[index]?).map (·.generation)

theorem generation?_of_living (living : graph.object? id = some object) :
    graph.generation? id.index = some id.generation := by
  rw [generation?, slot_of_living living]
  rfl

theorem generation?_update (change : Object → Object) :
    (graph.update id change).generation? index = graph.generation? index := by
  cases living : graph.object? id with
  | none => rw [update, living]
  | some object =>
      rw [generation?, slot_update living, generation?]
      split
      · next same =>
        rw [same, slot_of_living living]
        rfl
      · rfl

/-- The slots keep their generations, and a new slot begins with zero. -/
theorem generation?_after_create {classId : ClassId} {name? : Option String} {made : ObjectGraph}
    (making : graph.create classId name? = (id, made)) :
    made.generation? index = graph.generation? index ∨
      graph.generation? index = none ∧ made.generation? index = some 0 := by
  unfold create at making
  cases free : graph.free with
  | nil =>
      rw [free] at making
      cases making
      by_cases inRange : index < graph.slots.length
      · exact .inl (by rw [generation?, List.getElem?_append_left inRange, generation?])
      · by_cases last : index = graph.slots.length
        · exact .inr (by simp [generation?, last])
        · have further : index - graph.slots.length ≠ 0 := by omega
          exact .inl (by simp [generation?, List.getElem?_append, inRange, further])
  | cons place rest =>
      rw [free] at making
      cases making
      left
      rw [generation?, List.getElem?_set, generation?]
      split
      · next same =>
        subst same
        split
        · next inRange => simp [List.getElem?_eq_getElem inRange]
        · next beyond => simp [List.getElem?_eq_none (Nat.le_of_not_lt beyond)]
      · rfl

theorem generation?_create (classId : ClassId) (name? : Option String)
    (known : graph.generation? index = some generation) :
    (graph.create classId name?).2.generation? index = some generation := by
  rcases (generation?_after_create rfl : _ = graph.generation? index ∨ _) with same | ⟨unknown, _⟩
  · exact same.trans known
  · cases known.symm.trans unknown

/-- A slot begins with a count of zero, and goes on with its count. -/
theorem generation?_before_create {classId : ClassId} {name? : Option String}
    (known : (graph.create classId name?).2.generation? index = some generation) :
    generation = 0 ∨ graph.generation? index = some generation := by
  rcases (generation?_after_create rfl : _ = graph.generation? index ∨ _) with same | ⟨_, first⟩
  · exact .inr (same.symm.trans known)
  · exact .inl (Option.some.inj (known.symm.trans first))

theorem generation?_remove (gone : graph.remove? id = some (object, removed)) :
    removed.generation? index =
      if id.index = index then some (id.generation + 1) else graph.generation? index := by
  rw [generation?, slot_remove gone, generation?]
  by_cases same : id.index = index
  · rw [if_pos same, if_pos same.symm]
    rfl
  · rw [if_neg same, if_neg (Ne.symm same)]

end ObjectGraph

namespace Event

/-- Whether an object is destroyed. -/
def destroysOne : Event → Bool
  | .destroys _ => true
  | _ => false

end Event

/--
Whether the slot of each destroyed object was freed since, and no more often than objects
were destroyed.
-/
def Aged (past : List (Moment σ)) (scene : Scene σ) : Prop :=
  (∀ moment ∈ past, moment.event ≠ .vanishes) →
    ∀ moment ∈ past, ∀ object, moment.event = .destroys object → ∃ times, 0 < times ∧
      times ≤ past.countP (fun moment => moment.event.destroysOne) ∧
        scene.world.graph.generation? object.index =
          some (object.generation + UInt32.ofNat times)

namespace Aged

variable {past : List (Moment σ)} {scene next : Scene σ} {event : Event}

theorem initial (scene : Scene σ) : Aged [] scene :=
  fun _ _ member => by cases member

/-- A move that destroys nothing keeps the generations of slots. -/
theorem still (aged : Aged past scene) (quiet : event.destroysOne = false)
    (stays : ∀ index generation, scene.world.graph.generation? index = some generation →
      next.world.graph.generation? index = some generation) :
    Aged (past ++ [⟨scene, event⟩]) next := by
  intro lasting moment member object told
  rcases List.mem_append.mp member with before | last
  · rcases aged (fun moment member => lasting moment (List.mem_append_left _ member)) moment before
      object told with ⟨times, positive, bounded, generation⟩
    refine ⟨times, positive, ?_, stays _ _ generation⟩
    rw [List.countP_append]
    omega
  · rcases List.mem_singleton.mp last with rfl
    rw [show event = .destroys object from told] at quiet
    cases quiet

/-- An object that is destroyed frees its slot once more. -/
theorem destroy {stack : List Frame} {world : World σ} {id : ObjectId} {object : Object}
    {graph : ObjectGraph} {channels : Channels} (aged : Aged past ⟨stack, world⟩)
    (removed : world.graph.remove? id = some (object, graph)) :
    Aged (past ++ [⟨⟨stack, world⟩, .destroys id⟩])
      ⟨stack, { world with graph := graph, channels := channels }⟩ := by
  intro lasting moment member other told
  rcases Option.map_eq_some_iff.mp removed with ⟨found, living, _⟩
  have count : List.countP (fun moment => moment.event.destroysOne)
      (past ++ [(⟨⟨stack, world⟩, .destroys id⟩ : Moment σ)]) =
        past.countP (fun moment => moment.event.destroysOne) + 1 := by
    rw [List.countP_append]
    rfl
  show ∃ times, 0 < times ∧ _ ∧ graph.generation? other.index = _
  rw [count, ObjectGraph.generation?_remove removed]
  rcases List.mem_append.mp member with before | last
  · rcases aged (fun moment member => lasting moment (List.mem_append_left _ member)) moment before
      other told with ⟨times, positive, bounded, generation⟩
    by_cases same : id.index = other.index
    · have now := ObjectGraph.generation?_of_living living
      rw [same] at now
      have equal := Option.some.inj (now.symm.trans generation)
      refine ⟨times + 1, Nat.succ_pos _, Nat.succ_le_succ bounded, ?_⟩
      rw [if_pos same, equal, UInt32.ofNat_add, UInt32.add_assoc]
      rfl
    · exact ⟨times, positive, Nat.le_succ_of_le bounded, by rw [if_neg same]; exact generation⟩
  · rcases List.mem_singleton.mp last with rfl
    cases told
    exact ⟨1, Nat.one_pos, Nat.succ_le_succ (Nat.zero_le _), by rw [if_pos rfl]; rfl⟩

theorem act {stack : List Frame} {world later : World σ} (aged : Aged past ⟨stack, world⟩)
    (act : Act world event later) :
    Aged (past ++ [⟨⟨stack, world⟩, event⟩]) ⟨stack, later⟩ := by
  have same : later.graph = world.graph → event.destroysOne = false →
      Aged (past ++ [⟨⟨stack, world⟩, event⟩]) ⟨stack, later⟩ := fun same quiet =>
    aged.still quiet fun _ _ known => by
      show later.graph.generation? _ = _
      rw [same]
      exact known
  cases act with
  | beside others => exact same others.graph rfl
  | object => exact aged.still rfl fun _ _ known => (ObjectGraph.generation?_update _).trans known
  | create => exact aged.still rfl fun _ _ known => ObjectGraph.generation?_create _ _ known
  | destroy removed => exact aged.destroy removed
  | vanish =>
      intro lasting
      exact absurd rfl (lasting _ (List.mem_append_right _ List.mem_cons_self))
  | tend => exact same rfl rfl
  | append => exact same rfl rfl
  | read => exact same (world.capture_frame _).1 rfl
  | retire => exact same rfl rfl
  | drop => exact same rfl rfl
  | subscribe => exact same rfl rfl
  | unsubscribe => exact same rfl rfl
  | note => exact same (world.noted_frame _ _).1 rfl
  | refuse => exact same (world.noted_frame _ _).1 rfl

theorem move (aged : Aged past scene) (move : Move scene event next) :
    Aged (past ++ [⟨scene, event⟩]) next := by
  cases move with
  | act stack act => exact aged.act act
  | enter => exact aged.still rfl fun _ _ known => known
  | leave => exact aged.still rfl fun _ _ known => known
  | collect => exact aged.still rfl fun _ _ known => known
  | resume => exact aged.still rfl fun _ _ known => known
  | announce => exact aged.still rfl fun _ _ known => known
  | announced => exact aged.still rfl fun _ _ known => known
  | begin => exact aged.still rfl fun _ _ known => known
  | finish => exact aged.still rfl fun _ _ known => known

/-- Before the generations of a slot have run out, whoever is alive lasts. -/
theorem lasts (aged : Aged past scene) {object : ObjectId} {signal : Nat}
    (alive : scene.world.graph.isAlive object = true)
    (lasting : ∀ moment ∈ past, moment.event ≠ .vanishes)
    (few : past.countP (fun moment => moment.event.destroysOne) < UInt32.size) :
    Lasts past scene.world (.property object signal) := by
  rintro _ _ ⟨⟩
  refine ⟨alive, ?_⟩
  rintro ⟨moment, member, told | told⟩
  · rcases aged lasting moment member object told with ⟨times, positive, bounded, generation⟩
    rcases Option.isSome_iff_exists.mp alive with ⟨holder, living⟩
    have equal := Option.some.inj ((ObjectGraph.generation?_of_living living).symm.trans generation)
    have numbers := congrArg UInt32.toNat equal
    rw [UInt32.toNat_add, UInt32.toNat_ofNat'] at numbers
    have below := object.generation.toNat_lt
    unfold UInt32.size at few
    omega
  · exact lasting moment member told

end Aged

end PropertyBinding
