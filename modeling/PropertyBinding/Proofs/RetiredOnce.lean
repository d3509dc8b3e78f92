import Mathlib.Data.List.Nodup
import PropertyBinding.Proofs.Handovers

namespace PropertyBinding

/-!
# Every attachment is retired once

A writer that is taken from a place waits to be retired.  Retirement may run foreign code,
which may attach, detach, write and destroy while others are still waiting; those who come
to wait meanwhile go first.  So the waiting writers form a stack, and `settle?` follows it
through the handovers of a run.

Who is where is told by the handovers too.  So in a run there are as many attachments of a
writer as retirements of it, places that it has, and times that it waits; and when the run
is over nobody waits.
-/

deriving instance DecidableEq for Place

/-! ## Counting entries -/

namespace Entries

variable {κ α : Type} [DecidableEq κ] [DecidableEq α] {entries : Entries κ α}

/-- A value that is put under a key comes for the one before it. -/
theorem count_values_put (entries : Entries κ α) (key : κ) (value one : α) :
    (entries.put key value).values.count one + (entries.get? key).toList.count one =
      entries.values.count one + [value].count one := by
  rcases entries with ⟨pairs⟩
  simp only [put, values, get?]
  induction pairs with
  | nil => simp [insertIn, find?]
  | cons pair rest step =>
      rcases pair with ⟨name, old⟩
      by_cases hit : name = key
      · simp only [insertIn, find?, hit, if_true, List.map_cons, List.count_cons, List.count_nil,
          Option.toList_some]
        omega
      · simp only [insertIn, find?, hit, if_false, List.map_cons, List.count_cons] at step ⊢
        omega

omit [DecidableEq κ] in
/-- Each value is under a key that passes a test, or under one that fails it. -/
theorem count_values_keep (entries : Entries κ α) (test : κ → Bool) (one : α) :
    (entries.keep test).values.count one + (entries.keep fun key => !test key).values.count one =
      entries.values.count one := by
  rcases entries with ⟨pairs⟩
  simp only [keep, values]
  induction pairs with
  | nil => rfl
  | cons pair rest step =>
      cases passed : test pair.1 <;> simp [passed, List.count_cons] at step ⊢ <;> omega

omit [DecidableEq α] in
theorem mem_iff_get? (distinct : entries.keys.Nodup) {key : κ} {value : α} :
    (key, value) ∈ entries.toList ↔ entries.get? key = some value :=
  ⟨find?_of_mem distinct, mem_toList_of_get?⟩

/-- A value is listed once for each of its keys. -/
theorem exists_keys_of_value (distinct : entries.keys.Nodup) (one : α) :
    ∃ keys : List κ, keys.Nodup ∧ (∀ key, key ∈ keys ↔ entries.get? key = some one) ∧
      keys.length = entries.values.count one := by
  refine ⟨(entries.toList.filter fun entry => entry.2 = one).map Prod.fst, ?_, ?_, ?_⟩
  · exact distinct.sublist (List.filter_sublist.map Prod.fst)
  · intro key
    rw [← mem_iff_get? distinct]
    simp
  · rw [List.length_map, values, List.count_eq_countP, List.countP_map,
      List.countP_eq_length_filter]
    rfl

end Entries

/-! ## Places that a handover frees -/

namespace Cause

/-- Whether writers are taken from a place for a reason. -/
def reaches (place : Place) : Cause → Bool
  | .detach other => place = other
  | .write ref => place.object = ref.object ∧ place.slot.index = ref.index
  | .destroy id => place.object = id

end Cause

namespace Handover

/-- Whether a place is freed of its writer. -/
def frees (place : Place) : Handover → Bool
  | .attaches post _ _ => place = post
  | .removes cause _ => cause.reaches place
  | _ => false

/-- The writers that go, with their places. -/
def leaving : Handover → List (Place × Writer)
  | .attaches place _ former? => former?.toList.map fun writer => (place, writer)
  | .removes _ taken => taken
  | _ => []

/-- Who has a place next, by who had it before. -/
def next (holder : Place → Option Writer) : Handover → Place → Option Writer
  | .attaches post writer _, place => if place = post then some writer else holder place
  | .vanishes, _ => none
  | handover, place => if handover.frees place then none else holder place

/-- Whether exactly the writers of the places that are freed go, each once. -/
structure Rightful (graph : ObjectGraph) (handover : Handover) : Prop where
  distinct : (handover.leaving.map Prod.fst).Nodup
  leaving : ∀ place writer, (place, writer) ∈ handover.leaving ↔
    handover.frees place = true ∧ graph.writerAt? place = some writer

/-- A handover that frees no place lets nobody go. -/
theorem Rightful.none {graph : ObjectGraph} {handover : Handover} (nobody : handover.leaving = [])
    (nowhere : ∀ place, handover.frees place = false) : handover.Rightful graph where
  distinct := nobody ▸ List.nodup_nil
  leaving place writer := by simp [nobody, nowhere]

end Handover

/-! ## Who has which place -/

/-- Whether objects have names of their own, and slots writers of their own. -/
structure ObjectGraph.Clear (graph : ObjectGraph) : Prop where
  vacant : graph.Vacant
  unambiguous : graph.Unambiguous

namespace ObjectGraph

variable {graph removed changed : ObjectGraph} {id : ObjectId} {object : Object}

theorem Clear.empty (schema : Schema) : (ObjectGraph.empty schema).Clear :=
  ⟨.empty schema, fun _ member => by cases member⟩

theorem Clear.update (clear : graph.Clear) (id : ObjectId) {change : Object → Object}
    (distinct : ∀ object, graph.object? id = some object →
      object.writers.keys.Nodup → (change object).writers.keys.Nodup) :
    (graph.update id change).Clear :=
  ⟨clear.vacant.update id change,
    clear.unambiguous.update id fun object living =>
      distinct object living (clear.unambiguous.object living)⟩

theorem writerAt?_create (vacant : graph.Vacant) (classId : ClassId) (name? : Option String)
    (place : Place) :
    (graph.create classId name?).2.writerAt? place = graph.writerAt? place := by
  refine Option.ext fun writer => ⟨writer?_of_create vacant, writer?_create vacant classId name?⟩

theorem writerAt?_remove (gone : graph.remove? id = some (object, removed)) (place : Place) :
    removed.writerAt? place = if place.object = id then none else graph.writerAt? place := by
  split
  · next same =>
    rw [writerAt?, writer?, object?_after_remove gone, if_pos same]
    rfl
  · next apart =>
    refine Option.ext fun writer => ⟨writer?_of_remove gone, fun attached => ?_⟩
    rcases Option.bind_eq_some_iff.mp attached with ⟨holder, living, written⟩
    rcases object?_remove gone living with ⟨same, _⟩ | stays
    · exact absurd same apart
    · exact Option.bind_eq_some_iff.mpr ⟨holder, stays, written⟩

end ObjectGraph

namespace Object

variable {object : Object} {id : ObjectId} {test : WriterSlot → Bool}

/-- The posts of an object that pass a test are its places that do, with their writers. -/
theorem mem_posts (distinct : object.writers.keys.Nodup) {place : Place} {writer : Writer} :
    (place, writer) ∈ object.posts id test ↔
      place.object = id ∧ test place.slot = true ∧
        object.writers.get? place.slot = some writer := by
  rw [← Entries.mem_iff_get? distinct]
  rcases place with ⟨other, slot⟩
  constructor
  · intro member
    rcases List.mem_map.mp member with ⟨_, listed, same⟩
    rcases List.mem_filter.mp listed with ⟨held, passed⟩
    cases same
    exact ⟨rfl, passed, held⟩
  · rintro ⟨rfl, passed, held⟩
    exact List.mem_map.mpr ⟨_, List.mem_filter.mpr ⟨held, passed⟩, rfl⟩

theorem nodup_posts (distinct : object.writers.keys.Nodup) :
    ((object.posts id test).map Prod.fst).Nodup := by
  have slots := Entries.nodup_keep distinct test
  have places : (object.posts id test).map Prod.fst =
      (object.writers.keep test).keys.map fun slot => (⟨id, slot⟩ : Place) := by
    simp [posts, Entries.keys]
  rw [places]
  exact List.pairwise_map.mpr (slots.imp fun apart same => apart (congrArg Place.slot same))

end Object

/-! ## What each handover does -/

/-- Whether a handover does to the places of two worlds what it says. -/
structure Shift {σ : Type} (world : World σ) (handover : Handover) (later : World σ) : Prop where
  clear : later.graph.Clear
  rightful : handover.Rightful world.graph
  holders : ∀ place, later.graph.writerAt? place = handover.next world.graph.writerAt? place

namespace Shift

variable {σ : Type} {world later : World σ} {id : ObjectId} {object : Object}

theorem other (clear : later.graph.Clear)
    (same : ∀ place, later.graph.writerAt? place = world.graph.writerAt? place) :
    Shift world .other later :=
  ⟨clear, .none rfl fun _ => rfl, same⟩

theorem retires (clear : world.graph.Clear) (graph : later.graph = world.graph)
    (writer : Writer) : Shift world (.retires writer) later :=
  ⟨graph ▸ clear, .none rfl fun _ => rfl, fun _ => graph ▸ rfl⟩

theorem vanishes (world : World σ) : Shift world .vanishes world.vanished :=
  ⟨.empty _, .none rfl fun _ => rfl, fun _ => rfl⟩

theorem attaches (clear : world.graph.Clear) (place : Place) (writer : Writer)
    (alive : world.graph.isAlive place.object = true) :
    Shift world (.attaches place writer (world.graph.writerAt? place))
      (Engine.seated world place writer) where
  clear := clear.update _ fun _ _ distinct => Entries.nodup_put distinct _ _
  rightful := by
    constructor
    · cases world.graph.writerAt? place <;> simp [Handover.leaving]
    · intro post former
      simp only [Handover.leaving, Handover.frees, List.mem_map, Option.mem_toList,
        decide_eq_true_eq]
      constructor
      · rintro ⟨_, present, same⟩
        cases same
        exact ⟨rfl, present⟩
      · rintro ⟨rfl, present⟩
        exact ⟨former, present, rfl⟩
  holders post := by
    rcases Option.isSome_iff_exists.mp alive with ⟨object, living⟩
    rw [Handover.next]
    split
    · next same =>
      subst same
      exact Engine.writerAt?_seated_self living
    · next apart => exact Engine.writerAt?_seated_of_ne living (Ne.symm apart)

/-- Some writers of a living object are taken from their places. -/
theorem removes {cause : Cause} {taken : List (Place × Writer)} {test : WriterSlot → Bool}
    (clear : world.graph.Clear) (living : world.graph.object? id = some object)
    (reaches : ∀ place, cause.reaches place = (place.object = id ∧ test place.slot = false : Bool))
    (rightful : Handover.Rightful world.graph (.removes cause taken)) :
    Shift world (.removes cause taken) { world with
      graph := world.graph.update id fun object =>
        { object with writers := object.writers.keep test } } where
  clear := clear.update _ fun _ _ distinct => Entries.nodup_keep distinct _
  rightful := rightful
  holders place := by
    simp only [Engine.writerAt?_update living, Entries.get?_keep, Handover.next, Handover.frees,
      reaches, decide_eq_true_eq]
    by_cases here : id = place.object
    · cases kept : test place.slot
      · simp [here]
      · subst here
        simp [Engine.writerAt?_of_living place living]
    · simp [here, Ne.symm here]

end Shift

namespace Handover.Rightful

variable {graph : ObjectGraph} {id : ObjectId} {object : Object} {cause : Cause}

/-- The posts of a living object that a cause reaches are those that go for it. -/
theorem posts (clear : graph.Clear) (living : graph.object? id = some object)
    {test : WriterSlot → Bool}
    (reaches : ∀ place, cause.reaches place = (place.object = id ∧ test place.slot = true : Bool)) :
    Rightful graph (.removes cause (object.posts id test)) where
  distinct := Object.nodup_posts (clear.unambiguous.object living)
  leaving place writer := by
    simp only [Handover.leaving, Handover.frees, reaches, decide_eq_true_eq,
      Object.mem_posts (clear.unambiguous.object living)]
    constructor
    · rintro ⟨rfl, passed, held⟩
      exact ⟨⟨rfl, passed⟩, (Engine.writerAt?_of_living place living).trans held⟩
    · rintro ⟨⟨rfl, passed⟩, attached⟩
      exact ⟨rfl, passed, (Engine.writerAt?_of_living place living).symm.trans attached⟩

theorem detach {place : Place} {writer : Writer} (present : graph.writerAt? place = some writer) :
    Rightful graph (.removes (.detach place) [(place, writer)]) where
  distinct := List.pairwise_singleton _ _
  leaving post other := by
    simp only [Handover.leaving, Handover.frees, Cause.reaches, List.mem_singleton,
      decide_eq_true_eq]
    constructor
    · intro same
      cases same
      exact ⟨rfl, present⟩
    · rintro ⟨rfl, attached⟩
      rw [present] at attached
      cases attached
      rfl

end Handover.Rightful

/-! ## What handovers leave to be done -/

/-- Who is waiting to be retired after a handover; only the first of those who wait can be. -/
def Handover.settle? (waiting : List Writer) : Handover → Option (List Writer)
  | .retires writer => if waiting.head? = some writer then some waiting.tail else none
  | handover => some (handover.leaving.map Prod.snd ++ waiting)

theorem Handover.settle?_retires (writer : Writer) (others : List Writer) :
    settle? (writer :: others) (.retires writer) = some others :=
  if_pos rfl

/-- Who is waiting to be retired after some handovers. -/
def settle? (waiting : List Writer) (handovers : List Handover) : Option (List Writer) :=
  handovers.foldlM Handover.settle? waiting

/-- How often a writer was attached. -/
def attachments (writer : Writer) (past : List Handover) : Nat :=
  past.countP fun
    | .attaches _ other _ => other = writer
    | _ => false

/-- How often a writer was retired. -/
def retirements (writer : Writer) (past : List Handover) : Nat :=
  past.countP fun
    | .retires other => other = writer
    | _ => false

/-- How often a writer went from a place. -/
def partings (writer : Writer) (past : List Handover) : Nat :=
  ((past.flatMap Handover.leaving).map Prod.snd).count writer

theorem settle?_append (waiting : List Writer) (past rest : List Handover) :
    settle? waiting (past ++ rest) = (settle? waiting past).bind fun later => settle? later rest :=
  List.foldlM_append

theorem settle?_cons (waiting : List Writer) (handover : Handover) (rest : List Handover) :
    settle? waiting (handover :: rest) =
      (handover.settle? waiting).bind fun later => settle? later rest :=
  List.foldlM_cons

theorem attachments_append (writer : Writer) (past rest : List Handover) :
    attachments writer (past ++ rest) = attachments writer past + attachments writer rest :=
  List.countP_append

theorem retirements_append (writer : Writer) (past rest : List Handover) :
    retirements writer (past ++ rest) = retirements writer past + retirements writer rest :=
  List.countP_append

theorem partings_append (writer : Writer) (past rest : List Handover) :
    partings writer (past ++ rest) = partings writer past + partings writer rest := by
  simp only [partings, List.flatMap_append, List.map_append, List.count_append]

theorem partings_one (writer : Writer) (handover : Handover) :
    partings writer [handover] = (handover.leaving.map Prod.snd).count writer := by
  rw [partings, List.flatMap_singleton]

/-- Whoever goes is retired or waits. -/
theorem Handover.settle?_count {waiting later : List Writer} {handover : Handover}
    (settled : handover.settle? waiting = some later) (writer : Writer) :
    retirements writer [handover] + later.count writer =
      waiting.count writer + partings writer [handover] := by
  rw [partings_one]
  cases handover with
  | retires other =>
      rw [settle?] at settled
      split at settled
      · next first =>
        cases settled
        rcases List.head?_eq_some_iff.mp first with ⟨others, rfl⟩
        simp [retirements, leaving, List.count_cons, List.countP_cons]
        omega
      · cases settled
  | attaches | removes | vanishes | other =>
      cases settled
      simp [retirements, leaving, Nat.add_comm]

theorem settle?_count {past : List Handover} {waiting later : List Writer}
    (settled : settle? waiting past = some later) (writer : Writer) :
    retirements writer past + later.count writer = waiting.count writer + partings writer past := by
  induction past generalizing waiting with
  | nil =>
      cases settled
      simp [retirements, partings]
  | cons handover rest step =>
      rw [settle?_cons] at settled
      rcases Option.bind_eq_some_iff.mp settled with ⟨middle, first, others⟩
      have now := Handover.settle?_count first writer
      have onward := step others
      rw [← List.singleton_append, retirements_append, partings_append]
      omega

/-- Whoever waits went with some handover. -/
theorem exists_leaving_of_waiting {past : List Handover} {waiting later : List Writer}
    (settled : settle? waiting past = some later) {writer : Writer} (waits : writer ∈ later) :
    writer ∈ waiting ∨ ∃ early handover late, past = early ++ handover :: late ∧
      writer ∈ handover.leaving.map Prod.snd := by
  induction past generalizing waiting with
  | nil =>
      cases settled
      exact .inl waits
  | cons handover rest step =>
      rw [settle?_cons] at settled
      rcases Option.bind_eq_some_iff.mp settled with ⟨middle, first, others⟩
      rcases step others with waited | ⟨early, ended, late, rfl, gone⟩
      · have before : writer ∈ handover.leaving.map Prod.snd ∨ writer ∈ waiting := by
          cases handover with
          | retires other =>
              rw [Handover.settle?] at first
              split at first
              · cases first
                exact .inr (List.mem_of_mem_tail waited)
              · cases first
          | attaches | removes | vanishes | other =>
              cases first
              exact List.mem_append.mp waited
        exact before.symm.imp id fun gone => ⟨[], handover, rest, rfl, gone⟩
      · exact .inr ⟨handover :: early, ended, late, rfl, gone⟩

/-! ## Who has which place, by the handovers -/

/-- Whether a roll of writers has those of a graph, each as often as some handovers say. -/
structure Enlisted (past : List Handover) (graph : ObjectGraph) (roll : Entries Place Writer) :
    Prop where
  distinct : roll.keys.Nodup
  holders : ∀ place, roll.get? place = graph.writerAt? place
  balance : (∀ handover ∈ past, handover ≠ .vanishes) → ∀ writer,
    attachments writer past = partings writer past + roll.values.count writer

namespace Enlisted

variable {σ : Type} {world later : World σ} {handover : Handover} {past : List Handover}
  {graph : ObjectGraph} {roll : Entries Place Writer}

theorem start (schema : Schema) : Enlisted [] (.empty schema) .empty where
  distinct := .nil
  holders _ := rfl
  balance _ _ := rfl

/-- Those who go are those who have a place that is freed. -/
theorem partings_eq (enlisted : Enlisted past graph roll) (rightful : handover.Rightful graph)
    (writer : Writer) :
    partings writer [handover] =
      (roll.keep fun place => handover.frees place).values.count writer := by
  have kept := Entries.nodup_keep enlisted.distinct fun place => handover.frees place
  have same : handover.leaving.Perm (roll.keep fun place => handover.frees place).toList := by
    refine (List.perm_ext_iff_of_nodup (.of_map _ rightful.distinct) (.of_map _ kept)).mpr ?_
    rintro ⟨place, other⟩
    rw [rightful.leaving, Entries.mem_iff_get? kept, Entries.get?_keep, enlisted.holders]
    split <;> simp_all
  rw [partings_one]
  exact (same.map Prod.snd).count_eq writer

/-- What a handover does to the places, it does to the roll. -/
theorem step (enlisted : Enlisted past world.graph roll) (shift : Shift world handover later) :
    ∃ other, Enlisted (past ++ [handover]) later.graph other := by
  have before : (∀ one ∈ past ++ [handover], one ≠ .vanishes) → ∀ writer,
      attachments writer past = partings writer past + roll.values.count writer :=
    fun stays => enlisted.balance fun one member => stays one (List.mem_append_left _ member)
  have freed := enlisted.partings_eq shift.rightful
  -- whoever leaves no place and comes to none is where they were
  have aside : (∀ place, later.graph.writerAt? place =
      if handover.frees place then none else world.graph.writerAt? place) →
      (∀ writer, attachments writer [handover] = 0) →
        Enlisted (past ++ [handover]) later.graph
          (roll.keep fun place => !handover.frees place) := by
    intro holders nobody
    refine ⟨Entries.nodup_keep enlisted.distinct _, fun place => ?_, fun stays writer => ?_⟩
    · rw [Entries.get?_keep, holders, enlisted.holders]
      cases handover.frees place <;> rfl
    · have parts := roll.count_values_keep (fun place => handover.frees place) writer
      rw [attachments_append, partings_append, nobody, freed, before stays]
      omega
  cases handover with
  | attaches place new former? =>
      refine ⟨roll.put place new, Entries.nodup_put enlisted.distinct _ _, fun post => ?_,
        fun stays writer => ?_⟩
      · rw [shift.holders, Entries.get?_put, enlisted.holders]
        simp only [Handover.next, eq_comm]
      · have former : former? = world.graph.writerAt? place := by
          refine Option.ext fun other => ?_
          have leaves := shift.rightful.leaving place other
          simpa [Handover.leaving, Handover.frees] using leaves
        have parts := roll.count_values_put place new writer
        have gone : partings writer [.attaches place new former?] =
            (roll.get? place).toList.count writer := by
          rw [enlisted.holders, ← former, partings_one, Handover.leaving, List.map_map]
          exact congrArg (List.count writer) (List.map_id _)
        have come : attachments writer [.attaches place new former?] = [new].count writer := by
          simp [attachments, List.count_singleton]
        rw [attachments_append, partings_append, before stays, gone, come]
        omega
  | removes => exact ⟨_, aside shift.holders fun _ => rfl⟩
  | retires => exact ⟨_, aside shift.holders fun _ => rfl⟩
  | other => exact ⟨_, aside shift.holders fun _ => rfl⟩
  | vanishes =>
      refine ⟨.empty, .nil, fun place => (shift.holders place).symm, fun stays => ?_⟩
      exact absurd rfl (stays _ (List.mem_append_right _ (List.mem_singleton_self _)))

end Enlisted

namespace Engine

variable {σ α : Type} {host : Host σ} {bound : Nat} {operation : Engine σ α}
  {world after : World σ} {tale : List (Stage (World σ) Handover)} {result : α}

/-- Whoever goes in a run is retired in it, before those who waited when it began. -/
theorem Handed.settles {doing : Option (List Writer)}
    (told : Handed host bound doing operation world tale result after) (waiting : List Writer) :
    settle? (doing.getD [] ++ waiting) (eventsOf tale) = some waiting := by
  induction told generalizing waiting with
  | value | get | change | arrange | create | setAlias | vanish | done => rfl
  | sequence _ _ first second =>
      rw [eventsOf_append, settle?_append, first waiting, Option.bind_some]
      exact second waiting
  | visit _ inner => exact inner waiting
  | @retire _ id others _ _ _ _ later =>
      show settle? (.binding id :: (others ++ waiting)) _ = _
      rw [eventsOf_cons, settle?_cons, Handover.settle?_retires, Option.bind_some]
      exact later waiting
  | @retireForeign _ id others _ _ _ _ _ _ _ first later =>
      show settle? (.host id :: (others ++ waiting)) _ = _
      rw [List.cons_append, eventsOf_cons, settle?_cons, Handover.settle?_retires,
        Option.bind_some, eventsOf_append, settle?_append]
      exact (congrArg (Option.bind · _) (first (others ++ waiting))).trans (later waiting)
  | @attach _ id slot _ world _ _ _ _ inner =>
      rw [eventsOf_cons, settle?_cons]
      refine Eq.trans ?_ (inner waiting)
      cases world.graph.writer? id slot <;> rfl
  | detach _ _ inner => exact inner waiting
  | @relieve _ ref _ object _ _ _ _ _ _ inner =>
      rw [eventsOf_cons, settle?_cons]
      show settle? ((object.posts _ _).map Prod.snd ++ waiting) _ = _
      rw [object.map_snd_posts]
      exact inner waiting
  | @destroy _ id object _ _ _ _ _ _ inner =>
      rw [eventsOf_cons, settle?_cons]
      show settle? ((object.posts _ _).map Prod.snd ++ waiting) _ = _
      rw [object.map_snd_posts, Entries.keep, List.filter_true]
      exact inner waiting

/-- Each stage of what is told of a run does to the places what it says. -/
theorem Handed.trail {doing : Option (List Writer)}
    (told : Handed host bound doing operation world tale result after)
    (clear : world.graph.Clear) : Trail Shift world tale after ∧ after.graph.Clear := by
  have one : ∀ {world after : World σ} {handover : Handover}, Shift world handover after →
      Trail Shift world [⟨world, handover⟩] after ∧ after.graph.Clear :=
    fun shift => ⟨.one shift, shift.clear⟩
  have first : ∀ {world middle after : World σ} {handover : Handover}
      {rest : List (Stage (World σ) Handover)}, Shift world handover middle →
      (middle.graph.Clear → Trail Shift middle rest after ∧ after.graph.Clear) →
      Trail Shift world (⟨world, handover⟩ :: rest) after ∧ after.graph.Clear :=
    fun shift later => ⟨.step shift (later shift.clear).1, (later shift.clear).2⟩
  induction told with
  | value | get | done => exact ⟨.stay _, clear⟩
  | change untaken world =>
      have same := (untaken world).graph
      exact one (.other (same ▸ clear) fun _ => same ▸ rfl)
  | arrange id kept world =>
      refine one (.other (clear.update id fun object _ distinct => ?_) fun place => ?_)
      · rw [kept]
        exact distinct
      · exact ObjectGraph.writer?_update_of_kept _ _ _ kept _
  | create classId name? world =>
      refine one (.other ⟨clear.vacant.create _ _, clear.unambiguous.create _ _⟩ fun place => ?_)
      exact ObjectGraph.writerAt?_create clear.vacant _ _ place
  | @setAlias _ ref target _ world points =>
      rw [ObjectGraph.eq_of_setAlias points, ObjectGraph.setCell]
      refine one (.other (clear.update _ fun _ _ distinct => distinct) fun place => ?_)
      have kept : ∀ object : Object,
          (object.setCell ref.index (.alias (some target))).writers = object.writers :=
        fun _ => rfl
      exact ObjectGraph.writer?_update_of_kept world.graph ref.object place.object kept _
  | vanish world => exact one (.vanishes world)
  | sequence _ _ first second =>
      rcases first clear with ⟨trail, clear⟩
      rcases second clear with ⟨onward, clear⟩
      exact ⟨trail.append onward, clear⟩
  | visit _ inner => exact inner clear
  | @retire _ id _ world _ _ _ later =>
      exact first (.retires clear (show (world.ended id).graph = world.graph from rfl) _) later
  | retireForeign _ _ told later =>
      refine first (.retires clear rfl _) fun clear => ?_
      rcases told clear with ⟨trail, clear⟩
      rcases later clear with ⟨onward, clear⟩
      exact ⟨trail.append onward, clear⟩
  | attach alive _ inner => exact first (.attaches clear _ _ alive) inner
  | @detach _ id slot _ world _ _ present _ inner =>
      have living : ∃ object, world.graph.object? id = some object := by
        rcases Option.bind_eq_some_iff.mp present with ⟨object, living, _⟩
        exact ⟨object, living⟩
      rcases living with ⟨object, living⟩
      refine first (.removes clear living (fun place => ?_) (.detach present)) inner
      rcases place with ⟨other, third⟩
      simp [Cause.reaches]
  | @relieve _ ref _ object _ _ _ _ living _ inner =>
      refine first (.removes clear living (fun place => ?_) (.posts clear living fun place => ?_))
        inner
      · simp [Cause.reaches]
      · simp [Cause.reaches]
  | @destroy _ id object graph world _ _ removed _ inner =>
      refine first ⟨⟨clear.vacant.remove removed, clear.unambiguous.remove removed⟩, ?_, ?_⟩ inner
      · refine .posts clear (ObjectGraph.object?_of_remove removed) fun place => ?_
        simp [Cause.reaches]
      · intro place
        simp [World.without, ObjectGraph.writerAt?_remove removed, Handover.next, Handover.frees,
          Cause.reaches]

/-! ## Every attachment -/

/-- Whether what is told of a run retires every attachment that ends, and retires it once. -/
structure RetiredOnce (tale : List (Stage (World σ) Handover)) (after : World σ) : Prop where
  /--
  Those who go wait to be retired, of those who wait the first one is always next, and
  nobody waits at the end.
  -/
  settled : settle? [] (eventsOf tale) = some []
  /--
  Who goes has had a place that another attachment to it, a detachment from it, a write of
  its property or the destruction of its object has freed; and all who have had one go.
  -/
  rightful : ∀ past world handover rest, tale = past ++ ⟨world, handover⟩ :: rest →
    handover.Rightful world.graph
  /-- Nobody is retired who has not had such a place before. -/
  grounded : ∀ past world writer rest, tale = past ++ ⟨world, .retires writer⟩ :: rest →
    ∃ early former handover late, past = early ++ ⟨former, handover⟩ :: late ∧
      ∃ place, handover.frees place = true ∧ former.graph.writerAt? place = some writer
  /--
  At every moment a writer has been attached as often as it has been retired, waits for
  that, or has a place, unless the object graph has been dropped.
  -/
  balanced : ∀ past world, Stands tale after past world →
    (∀ handover ∈ eventsOf past, handover ≠ .vanishes) →
      ∃ waiting, settle? [] (eventsOf past) = some waiting ∧ ∀ writer, ∃ places : List Place,
        places.Nodup ∧ (∀ place, place ∈ places ↔ world.graph.writerAt? place = some writer) ∧
          attachments writer (eventsOf past) =
            retirements writer (eventsOf past) + waiting.count writer + places.length
  /-- At the end it has been attached as often as it has been retired or has a place. -/
  atRest : (∀ handover ∈ eventsOf tale, handover ≠ .vanishes) → ∀ writer, ∃ places : List Place,
    places.Nodup ∧ (∀ place, place ∈ places ↔ after.graph.writerAt? place = some writer) ∧
      attachments writer (eventsOf tale) = retirements writer (eventsOf tale) + places.length

theorem Handed.retiredOnce {schema : Schema} {state : σ}
    (told : Handed host bound none operation (.initial schema state) tale result after) :
    RetiredOnce tale after := by
  have trail := (told.trail (.empty schema)).1
  have settled : settle? [] (eventsOf tale) = some [] := told.settles []
  have rightful : ∀ past world handover rest, tale = past ++ ⟨world, handover⟩ :: rest →
      handover.Rightful world.graph := by
    intro past world handover rest split
    rcases (split ▸ trail).stepped with ⟨_, shift⟩
    exact shift.rightful
  have waits : ∀ past rest, eventsOf tale = past ++ rest →
      ∃ waiting, settle? [] past = some waiting ∧ settle? waiting rest = some [] := by
    intro past rest split
    rw [split, settle?_append] at settled
    exact Option.bind_eq_some_iff.mp settled
  have balanced : ∀ past world, Stands tale after past world →
      (∀ handover ∈ eventsOf past, handover ≠ .vanishes) →
        ∃ waiting, settle? [] (eventsOf past) = some waiting ∧ ∀ writer, ∃ places : List Place,
          places.Nodup ∧ (∀ place, place ∈ places ↔ world.graph.writerAt? place = some writer) ∧
            attachments writer (eventsOf past) =
              retirements writer (eventsOf past) + waiting.count writer + places.length := by
    intro past world stands stays
    have enlisted : ∃ roll, Enlisted (eventsOf past) world.graph roll :=
      (trail.upTo stands).keep (fun past world => ∃ roll, Enlisted past world.graph roll)
        (fun enlisted shift => enlisted.elim fun _ enlisted => enlisted.step shift)
        ⟨.empty, .start schema⟩
    have cut : ∃ rest, eventsOf tale = eventsOf past ++ rest := by
      rcases stands with ⟨event, rest, rfl⟩ | ⟨rfl, _⟩
      · exact ⟨_, eventsOf_append _ _⟩
      · exact ⟨[], (List.append_nil _).symm⟩
    rcases enlisted with ⟨roll, enlisted⟩
    rcases cut with ⟨rest, split⟩
    rcases waits _ rest split with ⟨waiting, waits, _⟩
    refine ⟨waiting, waits, fun writer => ?_⟩
    rcases Entries.exists_keys_of_value enlisted.distinct writer with ⟨places, distinct, has, count⟩
    refine ⟨places, distinct, fun place => (has place).trans (by rw [enlisted.holders]), ?_⟩
    have gone := settle?_count waits writer
    rw [enlisted.balance stays, count]
    simp only [List.count_nil] at gone
    omega
  refine ⟨settled, rightful, ?grounded, balanced, ?atRest⟩
  case grounded =>
    intro past world writer rest split
    have events : eventsOf tale = eventsOf past ++ .retires writer :: eventsOf rest := by
      rw [split, eventsOf_append]
      rfl
    rcases waits _ _ events with ⟨waiting, waits, onward⟩
    rw [settle?_cons] at onward
    rcases Option.bind_eq_some_iff.mp onward with ⟨others, next, _⟩
    have first : waiting.head? = some writer := by
      rw [Handover.settle?] at next
      split at next
      · assumption
      · cases next
    rcases exists_leaving_of_waiting waits (List.mem_of_head? first)
      with absent | ⟨_, _, _, cut, gone⟩
    · cases absent
    · rcases stages_of_events cut with ⟨early, former, late, stages, _⟩
      rcases List.mem_map.mp gone with ⟨⟨place, _⟩, left, rfl⟩
      rw [stages, List.append_assoc] at split
      exact ⟨early, former, _, late, stages, place,
        ((rightful early former _ _ split).leaving place _).mp left⟩
  case atRest =>
    intro stays writer
    rcases balanced tale after (.inr ⟨rfl, rfl⟩) stays with ⟨waiting, waits, places⟩
    rw [settled] at waits
    cases waits
    rcases places writer with ⟨places, distinct, has, count⟩
    exact ⟨places, distinct, has, by simpa using count⟩

/--
In a run of operations with any foreign code that deals with the engine, writers that
attach, detach, write and destroy when they are retired among it, every attachment is
retired once.  Nobody is retired but for a place that was freed by an attachment to it, a
detachment from it, a write of its property that is not to keep its writers, or the
destruction of its object; and when the run is over, each writer has been attached as often
as it has been retired or still has a place.
-/
theorem every_attachment_is_retired_once {schema : Schema} {state : σ}
    (obeys : host.Obeys Dealing) (dealing : Dealing operation)
    (run : runWithin bound host operation (.initial schema state) = some (result, after)) :
    (∃ tale, Handed host bound none operation (.initial schema state) tale result after) ∧
      ∀ tale, Handed host bound none operation (.initial schema state) tale result after →
        RetiredOnce tale after :=
  ⟨dealing.handed obeys run, fun _ told => told.retiredOnce⟩

section Contested

/-! ### A writer that sends another one when it is retired -/

/-- A host whose first writer has its second one attached when it is retired. -/
def contentiousHost : Host Unit :=
  { Host.silent with
    retire := fun id => do
      if id = 0 then
        let _ ← (attach ⟨0, 0⟩ ⟨1, none⟩ (.host 1)).run
        return
      else
        return }

/--
Makes a panel and attaches the first writer to a flag.  A third one takes its place, and
loses it to the second one before its attachment is over.
-/
def contestPanel : Attempt PropertyError Unit Unit := do
  let panel ← Attempt.perform (create 0 none)
  attach panel ⟨1, none⟩ (.host 0)
  attach panel ⟨1, none⟩ (.host 2)

/-- The panel with the second writer. -/
def contestedPanel : World Unit :=
  ((runWithin 3 contentiousHost contestPanel.run (.initial panelSchema ())).map Prod.snd).getD
    (.initial panelSchema ())

theorem contestedPanel_run :
    runWithin 3 contentiousHost contestPanel.run (.initial panelSchema ()) =
      some (.ok (), contestedPanel) :=
  runWithin_of_succeeds _ (by decide +kernel)

theorem contentiousHost_obeys : contentiousHost.Obeys Dealing where
  call _ _ := .value _
  callTyped _ _ := .value _
  intercept _ _ _ := .value _
  announce _ := .value _
  handle _ _ := .value _
  retire _ := Sequential.branch (.sequence (.offered (.attach _ _ _)) fun _ => .value ())
    (.value ())

theorem contestPanel_dealing : Dealing contestPanel.run := by
  have sequential : Sequential (σ := Unit) Dealing := ⟨.value, .sequence, .get⟩
  refine sequential.perform (.offered (.create 0 none)) fun panel => ?_
  exact sequential.attempt (.offered (.attach _ _ _)) fun _ => .offered (.attach _ _ _)

/-- The second writer has the flag, and all three attachments are accounted for. -/
theorem contested_writers_are_retired_once :
    runWithin 3 contentiousHost contestPanel.run (.initial panelSchema ()) =
        some (.ok (), contestedPanel) ∧
      contestedPanel.graph.writerAt? ⟨⟨0, 0⟩, ⟨1, none⟩⟩ = some (.host 1) ∧
      ∃ tale, Handed contentiousHost 3 none contestPanel.run (.initial panelSchema ()) tale
          (.ok ()) contestedPanel ∧
        RetiredOnce tale contestedPanel := by
  rcases every_attachment_is_retired_once contentiousHost_obeys contestPanel_dealing
    contestedPanel_run with ⟨⟨tale, told⟩, once⟩
  exact ⟨contestedPanel_run, by decide +kernel, tale, told, once tale told⟩

end Contested

end Engine

end PropertyBinding
