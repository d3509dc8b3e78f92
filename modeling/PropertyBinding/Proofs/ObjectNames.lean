import Mathlib.Data.List.Induction
import PropertyBinding.Proofs.Framing
import PropertyBinding.Proofs.SlotTable

namespace PropertyBinding

/-!
# Names that are given once

A tale of a run says how often each slot was freed.  The generation of a slot is that
number, as far as 32 bits hold it, and an object is named by the generation its slot has
when it is made.  So a name is worn once its slot was freed again; nobody has a worn name
before the generations of the slot have gone once around.  What a move does to the graph
is one of five things, and each keeps this account of the slots, foreign code or not.
-/

variable {σ : Type}

/-! ## What a move does to the graph -/

/-- What an event does to the objects of a world. -/
inductive Reshapes (world : World σ) : Event → World σ → Prop
  | keep {event : Event} {later : World σ} (quiet : event.destroysOne = false)
      (same : later.graph = world.graph) : Reshapes world event later
  | update {later : World σ} (id : ObjectId) (change : Object → Object)
      (same : later.graph = world.graph.update id change) : Reshapes world .other later
  | create {id : ObjectId} {made : ObjectGraph} {classId : ClassId} {name? : Option String}
      (making : world.graph.create classId name? = (id, made)) :
      Reshapes world .other { world with graph := made }
  | remove {id : ObjectId} {object : Object} {later : World σ}
      (gone : world.graph.remove? id = some (object, later.graph)) :
      Reshapes world (.destroys id) later
  | vanish {later : World σ} (same : later.graph = .empty world.graph.schema) :
      Reshapes world .vanishes later

theorem Act.reshapes {world later : World σ} {event : Event} (act : Act world event later) :
    Reshapes world event later := by
  cases act with
  | beside others => exact .keep rfl others.graph
  | object _ id change => exact .update id change rfl
  | create => exact .create rfl
  | destroy removed => exact .remove removed
  | vanish => exact .vanish rfl
  | tend => exact .keep rfl rfl
  | append => exact .keep rfl rfl
  | read => exact .keep rfl (world.capture_frame _).1
  | retire => exact .keep rfl rfl
  | drop => exact .keep rfl rfl
  | subscribe => exact .keep rfl rfl
  | unsubscribe => exact .keep rfl rfl
  | note => exact .keep rfl (world.noted_frame _ _).1
  | refuse => exact .keep rfl (world.noted_frame _ _).1

theorem Move.reshapes {scene next : Scene σ} {event : Event} (move : Move scene event next) :
    Reshapes scene.world event next.world := by
  cases move with
  | act _ act => exact act.reshapes
  | enter => exact .keep rfl rfl
  | leave => exact .keep rfl rfl
  | collect => exact .keep rfl rfl
  | resume => exact .keep rfl rfl
  | announce => exact .keep rfl rfl
  | announced => exact .keep rfl rfl
  | begin => exact .keep rfl rfl
  | finish => exact .keep rfl rfl

/-! ## Scenes of a tale -/

section Scenes

variable {tale past earlier : List (Moment σ)} {first last scene former : Scene σ}

/-- After some of its moments a tale comes by one scene only. -/
theorem Passes.unique (passes : Passes tale last past scene)
    (other : Passes tale last past former) : scene = former := by
  rcases passes with ⟨event, rest, rfl⟩ | ⟨rfl, rfl⟩
  · rcases other with ⟨_, _, same⟩ | ⟨none, _⟩
    · cases List.append_cancel_left same
      rfl
    · simp at none
  · rcases other with ⟨_, _, none⟩ | ⟨_, same⟩
    · simp at none
    · exact same

/-- A scene a tale came by before is the present one, or that of a moment in the past. -/
theorem Passes.before (before : Passes tale last earlier former)
    (passes : Passes tale last past scene) (part : earlier <+: past) :
    former = scene ∨ ∃ moment ∈ past, moment.scene = former := by
  rcases part with ⟨since, rfl⟩
  cases since with
  | nil =>
      rw [List.append_nil] at passes
      exact .inl (before.unique passes)
  | cons moment rest =>
      have passed : Passes tale last earlier moment.scene := by
        rcases passes with ⟨event, others, here⟩ | ⟨here, _⟩
        · exact .inl ⟨moment.event, rest ++ ⟨scene, event⟩ :: others, by simp [here]⟩
        · exact .inl ⟨moment.event, rest, here⟩
      exact .inr ⟨moment, by simp, passed.unique before⟩

theorem Moves.passes_nil (moves : Moves first tale last) (passes : Passes tale last [] scene) :
    scene = first := by
  rcases passes with ⟨event, rest, rfl⟩ | ⟨rfl, rfl⟩
  · cases moves
    rfl
  · cases moves
    rfl

/-- The part of a tale from one of its moments on begins with the move of that moment. -/
theorem Moves.since {moment : Moment σ} {rest : List (Moment σ)}
    (moves : Moves first (past ++ moment :: rest) last) :
    ∃ next, Move moment.scene moment.event next ∧ Moves next rest last := by
  induction past generalizing first with
  | nil =>
      cases moves with
      | step move others => exact ⟨_, move, others⟩
  | cons _ _ step =>
      cases moves with
      | step _ others => exact step others

/-- A tale comes by the scene that its latest moment leads to from the scene of the moment. -/
theorem Moves.latest {moment : Moment σ} (moves : Moves first tale last)
    (passes : Passes tale last (past ++ [moment]) scene) :
    Passes tale last past moment.scene ∧ Move moment.scene moment.event scene := by
  rcases passes with ⟨event, rest, rfl⟩ | ⟨rfl, rfl⟩
  · rw [List.append_assoc] at moves
    rcases moves.since with ⟨next, move, others⟩
    cases others
    exact ⟨.inl ⟨moment.event, ⟨scene, event⟩ :: rest, by simp⟩, move⟩
  · rcases moves.since with ⟨next, move, others⟩
    cases others
    exact ⟨.inl ⟨moment.event, [], rfl⟩, move⟩

end Scenes

/-! ## How often a slot was freed -/

namespace Event

/-- Whether an object in a slot is destroyed. -/
def frees (index : Nat) : Event → Bool
  | .destroys id => id.index == index
  | _ => false

theorem frees_of_quiet {event : Event} (quiet : event.destroysOne = false) (index : Nat) :
    event.frees index = false := by
  cases event with
  | destroys id => cases quiet
  | _ => rfl

end Event

/-- How often a slot was freed. -/
def freed (past : List (Moment σ)) (index : Nat) : Nat :=
  past.countP fun moment => moment.event.frees index

theorem freed_later (past : List (Moment σ)) (moment : Moment σ) (index : Nat) :
    freed (past ++ [moment]) index =
      freed past index + if moment.event.frees index then 1 else 0 := by
  rw [freed, List.countP_append, List.countP_singleton, freed]

theorem freed_mono {past later : List (Moment σ)} (part : past <+: later) (index : Nat) :
    freed past index ≤ freed later index :=
  part.sublist.countP_le

/-- Whether the graph has been there all the time. -/
def Intact (past : List (Moment σ)) : Prop :=
  ∀ moment ∈ past, moment.event ≠ .vanishes

theorem Intact.part {past later : List (Moment σ)} (intact : Intact later) (part : past <+: later) :
    Intact past :=
  fun moment member => intact moment (part.subset member)

/-- Whether the slot of a name was freed since the name was given. -/
def Worn (past : List (Moment σ)) (id : ObjectId) : Prop :=
  ∃ times < freed past id.index, id.generation = UInt32.ofNat times

theorem Worn.mono {past later : List (Moment σ)} {id : ObjectId} (worn : Worn past id)
    (part : past <+: later) : Worn later id := by
  rcases worn with ⟨times, before, named⟩
  exact ⟨times, Nat.lt_of_lt_of_le before (freed_mono part id.index), named⟩

/-- Before the generations have gone once around, a worn name is not the present one. -/
theorem Worn.not_present {past : List (Moment σ)} {id : ObjectId} (worn : Worn past id)
    (few : freed past id.index < UInt32.size) :
    id.generation ≠ UInt32.ofNat (freed past id.index) := by
  rcases worn with ⟨times, before, named⟩
  intro present
  have numbers := congrArg UInt32.toNat (named.symm.trans present)
  rw [UInt32.toNat_ofNat_of_lt' (Nat.lt_trans before few), UInt32.toNat_ofNat_of_lt' few] at numbers
  omega

/-! ## The account of the slots -/

/-- What the past of a tale says of the slots of a graph. -/
structure Account (past : List (Moment σ)) (graph : ObjectGraph) : Prop where
  counted : ∀ index, graph.generation? index = some (UInt32.ofNat (freed past index)) ∨
    graph.generation? index = none ∧ freed past index = 0
  destroyed : ∀ moment ∈ past, ∀ id, moment.event = .destroys id → Worn past id
  outlived : ∀ moment ∈ past, ∀ id, moment.scene.world.graph.isAlive id = true →
    graph.isAlive id = true ∨ Worn past id

namespace Account

variable {past : List (Moment σ)} {graph : ObjectGraph} {id : ObjectId}

/-- Whoever is alive has the present name of its slot. -/
theorem present (account : Account past graph) (alive : graph.isAlive id = true) :
    id.generation = UInt32.ofNat (freed past id.index) := by
  rcases Option.isSome_iff_exists.mp alive with ⟨object, living⟩
  have known := ObjectGraph.generation?_of_living living
  rcases account.counted id.index with counted | ⟨unknown, _⟩
  · exact Option.some.inj (known.symm.trans counted)
  · cases known.symm.trans unknown

/-- A new object gets the present name of its slot. -/
theorem fresh {made : ObjectGraph} {classId : ClassId} {name? : Option String}
    (account : Account past graph) (making : graph.create classId name? = (id, made)) :
    id.generation = UInt32.ofNat (freed past id.index) := by
  rw [ObjectGraph.generation_create making]
  rcases account.counted id.index with counted | ⟨unknown, never⟩
  · rw [counted]
    rfl
  · rw [unknown, never]
    rfl

theorem dead (account : Account past graph) (worn : Worn past id)
    (few : freed past id.index < UInt32.size) : graph.isAlive id = false := by
  cases alive : graph.isAlive id with
  | false => rfl
  | true => exact absurd (account.present alive) (worn.not_present few)

/-- The slots of the first graph were never freed. -/
theorem empty (schema : Schema) : Account ([] : List (Moment σ)) (.empty schema) where
  counted _ := .inr ⟨rfl, rfl⟩
  destroyed _ member := by cases member
  outlived _ member := by cases member

section Step

variable {scene : Scene σ} {later : ObjectGraph} (account : Account past scene.world.graph)
include account

/-- What was worn stays worn, so only what the latest move does has to be accounted for. -/
theorem extend {event : Event}
    (counted : ∀ index,
      later.generation? index = some (UInt32.ofNat (freed (past ++ [⟨scene, event⟩]) index)) ∨
        later.generation? index = none ∧ freed (past ++ [⟨scene, event⟩]) index = 0)
    (destroyed : ∀ id, event = .destroys id → Worn (past ++ [⟨scene, event⟩]) id)
    (lasting : ∀ id, scene.world.graph.isAlive id = true →
      later.isAlive id = true ∨ Worn (past ++ [⟨scene, event⟩]) id) :
    Account (past ++ [⟨scene, event⟩]) later := by
  have part : past <+: past ++ [⟨scene, event⟩] := List.prefix_append _ _
  constructor
  · exact counted
  · rw [List.forall_mem_append, List.forall_mem_singleton]
    constructor
    · intro moment before id told
      exact (account.destroyed moment before id told).mono part
    · exact destroyed
  · rw [List.forall_mem_append, List.forall_mem_singleton]
    constructor
    · intro moment before id alive
      rcases account.outlived moment before id alive with lives | worn
      · exact lasting id lives
      · exact .inr (worn.mono part)
    · exact lasting

/-- A move that frees no slot may begin new slots, and lets all live. -/
theorem still {event : Event} (quiet : event.destroysOne = false)
    (generations : ∀ index, later.generation? index = scene.world.graph.generation? index ∨
      scene.world.graph.generation? index = none ∧ later.generation? index = some 0)
    (lasting : ∀ id, scene.world.graph.isAlive id = true → later.isAlive id = true) :
    Account (past ++ [⟨scene, event⟩]) later := by
  apply account.extend
  · intro index
    rw [freed_later, Event.frees_of_quiet quiet]
    rcases generations index with kept | ⟨unknown, begun⟩
    · rw [kept]
      exact account.counted index
    · rcases account.counted index with counted | ⟨_, never⟩
      · cases unknown.symm.trans counted
      · apply Or.inl
        rw [begun, never]
        rfl
  · rintro id rfl
    cases quiet
  · exact fun id alive => .inl (lasting id alive)

/-- An object that is destroyed leaves a worn name, and the others live on. -/
theorem remove {object : Object} (gone : scene.world.graph.remove? id = some (object, later)) :
    Account (past ++ [⟨scene, .destroys id⟩]) later := by
  have living := ObjectGraph.object?_of_remove gone
  have named := account.present (Option.isSome_iff_exists.mpr ⟨object, living⟩)
  have more : freed (past ++ [⟨scene, .destroys id⟩]) id.index = freed past id.index + 1 := by
    simp [freed_later, Event.frees]
  have worn : Worn (past ++ [⟨scene, .destroys id⟩]) id :=
    ⟨freed past id.index, by omega, named⟩
  apply account.extend
  · intro index
    rw [ObjectGraph.generation?_remove gone]
    by_cases same : id.index = index
    · subst same
      rw [if_pos rfl, more, named, UInt32.ofNat_add]
      exact .inl rfl
    · have kept : freed (past ++ [⟨scene, .destroys id⟩]) index = freed past index := by
        simp [freed_later, Event.frees, same]
      rw [if_neg same, kept]
      exact account.counted index
  · rintro other ⟨⟩
    exact worn
  · intro other lives
    rcases ObjectGraph.isAlive_remove gone lives with rfl | stays
    · exact .inr worn
    · exact .inl stays

end Step

end Account

/-- Whether the slots of a scene are in order, and as the past accounts for them. -/
structure Accounted (past : List (Moment σ)) (scene : Scene σ) : Prop where
  tabled : scene.world.graph.Tabled
  account : Intact past → Account past scene.world.graph

namespace Accounted

variable {past : List (Moment σ)} {scene next : Scene σ} {event : Event}

theorem initial (schema : Schema) (state : σ) : Accounted [] ⟨[], .initial schema state⟩ where
  tabled := .empty schema
  account _ := .empty schema

/-- Each move keeps the account of the slots. -/
theorem move (accounted : Accounted past scene) (move : Move scene event next) :
    Accounted (past ++ [⟨scene, event⟩]) next := by
  have before : Intact (past ++ [⟨scene, event⟩]) → Account past scene.world.graph :=
    fun intact => accounted.account (intact.part (List.prefix_append _ _))
  have tabled := accounted.tabled
  cases scene with
  | mk stack world =>
  cases next with
  | mk stack' later =>
  cases move.reshapes with
  | keep quiet same =>
      constructor
      · exact same ▸ tabled
      · intro intact
        apply (before intact).still quiet
        · exact fun index => .inl (by rw [same])
        · exact fun id alive => by rwa [same]
  | update id change same =>
      constructor
      · exact same ▸ tabled.update id change
      · intro intact
        apply (before intact).still rfl
        · exact fun index => .inl (by rw [same]; exact ObjectGraph.generation?_update change)
        · exact fun other alive => by rwa [same, ObjectGraph.isAlive_update]
  | create making =>
      constructor
      · exact tabled.create making
      · intro intact
        apply (before intact).still rfl
        · exact fun index => ObjectGraph.generation?_after_create making
        · exact fun other alive =>
            (ObjectGraph.isAlive_after_create tabled.vacant making).mpr (.inr alive)
  | remove gone => exact ⟨tabled.remove gone, fun intact => (before intact).remove gone⟩
  | vanish same =>
      constructor
      · exact same ▸ .empty _
      · intro intact
        exact absurd rfl (intact _ (List.mem_append_right _ List.mem_cons_self))

end Accounted

namespace Engine

/-! ## Making and destroying -/

/--
Whether an object can be made, gets a name that nobody alive has, is alive then, and
leaves all other objects as they are.
-/
def MakesFresh (world : World σ) : Prop :=
  ∀ classId name? id graph, world.graph.create classId name? = (id, graph) →
    Steps (create classId name?) world id { world with graph := graph } ∧
      world.graph.isAlive id = false ∧ graph.isAlive id = true ∧
        ∀ other, other ≠ id → graph.object? other = world.graph.object? other

/--
Whether the destruction of an object fails without a trace if the object is not alive; and
otherwise, whether only that object is gone before its writers are retired, and the
destruction succeeds when they have been.
-/
structure DestroysOnly (world : World σ) (id : ObjectId) : Prop where
  dead : world.graph.isAlive id = false → Steps (destroy id) world false world
  alive : ∀ object, world.graph.object? id = some object → ∃ graph : ObjectGraph,
    (∀ other, graph.object? other = if other = id then none else world.graph.object? other) ∧
      ∀ outside, destroy id outside world =
        (retireAll object.writers.values outside
          { world with graph := graph, channels := world.channels.removeObject id }).map
            fun retired => (true, retired.2)

theorem makesFresh {world : World σ} (tabled : world.graph.Tabled) : MakesFresh world := by
  intro classId name? id graph making
  refine ⟨?_, ?_, ?_, ?_⟩
  · intro outside
    simp only [create, apply_bind, apply_graph, Option.bind_some, making, apply_modifyGraph,
      apply_pure]
  · rw [ObjectGraph.isAlive, ObjectGraph.object?_of_place tabled.vacant making rfl]
    rfl
  · exact (ObjectGraph.isAlive_after_create tabled.vacant making).mpr (.inl rfl)
  · intro other different
    rw [ObjectGraph.object?_after_create tabled.vacant making, if_neg different]

theorem destroysOnly (world : World σ) (id : ObjectId) : DestroysOnly world id where
  dead dead outside := by
    have missing : world.graph.remove? id = none := by
      rw [ObjectGraph.isAlive, Option.isSome_eq_false_iff, Option.isNone_iff_eq_none] at dead
      rw [ObjectGraph.remove?, dead, Option.map_none]
    simp only [destroy, apply_bind, apply_graph, Option.bind_some, missing, apply_pure]
  alive object living := by
    have gone : ∃ graph, world.graph.remove? id = some (object, graph) := by
      rw [ObjectGraph.remove?, living]
      exact ⟨_, rfl⟩
    rcases gone with ⟨graph, gone⟩
    refine ⟨graph, fun other => ObjectGraph.object?_after_remove gone, fun outside => ?_⟩
    simp only [destroy, apply_bind, apply_graph, Option.bind_some, gone, apply_modifyGraph,
      apply_modifyChannels]
    exact Option.map_eq_bind.symm

/-! ## Names in a run -/

/-- Whether the latest move of a part of a tale makes an object, and gives it its name. -/
def HandsOut (tale : List (Moment σ)) (last : Scene σ) (past : List (Moment σ)) (id : ObjectId) :
    Prop :=
  ∃ before moment next classId name?, past = before ++ [moment] ∧ Passes tale last past next ∧
    moment.scene.world.graph.create classId name? = (id, next.world.graph)

/-- What holds of a name at a scene of a tale, as long as the generations of its slot suffice. -/
structure GivenOnce (tale : List (Moment σ)) (last : Scene σ) (past : List (Moment σ))
    (scene : Scene σ) (id : ObjectId) : Prop where
  destroyed : ∀ moment ∈ past, moment.event = .destroys id →
    scene.world.graph.isAlive id = false
  once : ∀ first second, first <+: past → second <+: past →
    HandsOut tale last first id → HandsOut tale last second id → first = second
  deleted : ∀ first middle between, first <+: middle → middle <+: past →
    HandsOut tale last first id → Passes tale last middle between →
      LivenessWatcher.wasDeleted ⟨id⟩ between.world.graph = true →
        LivenessWatcher.wasDeleted ⟨id⟩ scene.world.graph = true
  given : scene.world.graph.isAlive id = true →
    ∃ first, first <+: past ∧ HandsOut tale last first id

section Tale

variable {tale past earlier : List (Moment σ)} {last scene former : Scene σ} {schema : Schema}
  {state : σ} {id : ObjectId}

/-- Whoever was alive at a scene before is alive still, or has a worn name. -/
theorem outlives (account : Account past scene.world.graph)
    (before : Passes tale last earlier former) (passes : Passes tale last past scene)
    (part : earlier <+: past) (alive : former.world.graph.isAlive id = true) :
    scene.world.graph.isAlive id = true ∨ Worn past id := by
  rcases before.before passes part with rfl | ⟨moment, member, rfl⟩
  · exact .inl alive
  · exact account.outlived moment member id alive

variable (moves : Moves ⟨[], .initial schema state⟩ tale last)
include moves

theorem accounted (passes : Passes tale last past scene) : Accounted past scene :=
  moves.keepAt Accounted.move passes (.initial schema state)

/-- Whoever gets a name is alive with it at the next scene. -/
theorem HandsOut.alive (handed : HandsOut tale last past id) :
    ∃ scene, Passes tale last past scene ∧ scene.world.graph.isAlive id = true := by
  rcases handed with ⟨before, moment, next, classId, name?, rfl, passes, making⟩
  have vacant := (accounted moves (moves.latest passes).1).tabled.vacant
  exact ⟨next, passes, (ObjectGraph.isAlive_after_create vacant making).mpr (.inl rfl)⟩

/-- A name is handed out only once, before the generations of its slot have gone around. -/
theorem HandsOut.once {second : List (Moment σ)} (intact : Intact past)
    (few : freed past id.index < UInt32.size) (part : second <+: past) (order : earlier <+: second)
    (handed : HandsOut tale last earlier id) (again : HandsOut tale last second id) :
    earlier = second := by
  rcases again with ⟨before, moment, next, classId, name?, rfl, passes, making⟩
  rcases List.prefix_concat_iff.mp order with same | prior
  · exact same
  · have passed := (moves.latest passes).1
    have kept := accounted moves passed
    have standing : before <+: past := (List.prefix_append _ _).trans part
    have account := kept.account (intact.part standing)
    rcases handed.alive moves with ⟨former, here, alive⟩
    rcases outlives account here passed prior alive with lives | worn
    · have unused := ObjectGraph.object?_of_place kept.tabled.vacant making rfl
      rw [ObjectGraph.isAlive, unused] at lives
      cases lives
    · have below := Nat.lt_of_le_of_lt (freed_mono standing id.index) few
      exact absurd (account.fresh making) (worn.not_present below)

/-- Whoever is alive was given its name by a move before. -/
theorem given (passes : Passes tale last past scene)
    (alive : scene.world.graph.isAlive id = true) :
    ∃ first, first <+: past ∧ HandsOut tale last first id := by
  induction past using List.reverseRecOn generalizing scene with
  | nil =>
      rw [moves.passes_nil passes] at alive
      cases alive
  | append_singleton before moment step =>
      rcases moves.latest passes with ⟨passed, move⟩
      have vacant := (accounted moves passed).tabled.vacant
      have part : before <+: before ++ [moment] := List.prefix_append _ _
      have earlier : moment.scene.world.graph.isAlive id = true →
          ∃ first, first <+: before ++ [moment] ∧ HandsOut tale last first id := by
        intro lived
        rcases step passed lived with ⟨first, prior, handed⟩
        exact ⟨first, prior.trans part, handed⟩
      cases scene with
      | mk stack world =>
      cases moment with
      | mk former event =>
      cases move.reshapes with
      | keep quiet same => exact earlier (same ▸ alive)
      | update other change same =>
          rw [same, ObjectGraph.isAlive_update] at alive
          exact earlier alive
      | create making =>
          rcases (ObjectGraph.isAlive_after_create vacant making).mp alive with rfl | lived
          · exact ⟨_, List.prefix_rfl, before, _, _, _, _, rfl, passes, making⟩
          · exact earlier lived
      | remove gone =>
          rcases Option.isSome_iff_exists.mp alive with ⟨object, living⟩
          have lived := ObjectGraph.living_before_remove gone living
          exact earlier (Option.isSome_iff_exists.mpr ⟨object, lived⟩)
      | vanish same =>
          rw [same] at alive
          cases alive

/-- A name is given once, before the generations of its slot have gone around. -/
theorem givenOnce (passes : Passes tale last past scene) (intact : Intact past)
    (few : freed past id.index < UInt32.size) : GivenOnce tale last past scene id := by
  have account := (accounted moves passes).account intact
  constructor
  · intro moment member told
    exact account.dead (account.destroyed moment member id told) few
  · intro first second partly part handed again
    rcases List.prefix_or_prefix_of_prefix partly part with order | order
    · exact handed.once moves intact few part order again
    · exact (again.once moves intact few partly order handed).symm
  · intro first middle between order part handed passed deleted
    rcases handed.alive moves with ⟨former, here, alive⟩
    have standing := (accounted moves passed).account (intact.part part)
    rcases outlives standing here passed order alive with lives | worn
    · rw [LivenessWatcher.wasDeleted, lives] at deleted
      cases deleted
    · rw [LivenessWatcher.wasDeleted, account.dead (worn.mono part) few]
      rfl
  · exact given moves passes

end Tale

variable {host : Host σ} {bound : Nat} {α : Type} {operation : Engine σ α} {state : σ}
  {schema : Schema} {result : α} {after : World σ}

/--
At every moment of a run with any foreign code, the slots to fill next are the vacant
ones, each listed once; a new object gets a name that nobody alive has, an object is
destroyed if and only if it is alive, and nobody else is concerned.  While there are fewer
slots than numbers of 32 bits, the names of the living can be told from their words.
As long as the graph is there, a slot has for its generation how often it was freed, up to
multiples of 2 ^ 32; and before it was freed so often, a destroyed object is not alive
again, no name is handed out twice, and who watches for the deletion of an object and was
told of it is told the same ever after.
-/
theorem names_given_once (obeys : host.Obeys Conduct) (conduct : Conduct operation)
    (run : runWithin bound host operation (.initial schema state) = some (result, after)) :
    (∃ tale, Told host bound [] operation (.initial schema state) tale result after) ∧
      ∀ tale, Told host bound [] operation (.initial schema state) tale result after →
        ∀ past scene, Passes tale ⟨[], after⟩ past scene →
          scene.world.graph.Tabled ∧ MakesFresh scene.world ∧
            (∀ id, DestroysOnly scene.world id) ∧
            (scene.world.graph.slots.length < UInt32.size →
              ∀ id, scene.world.graph.isAlive id = true → ObjectId.ofWord id.word = id) ∧
            (Intact past →
              (∀ index slot, scene.world.graph.slots[index]? = some slot →
                slot.generation.toNat = freed past index % UInt32.size) ∧
              ∀ id, freed past id.index < UInt32.size →
                GivenOnce tale ⟨[], after⟩ past scene id) := by
  refine ⟨conduct.told obeys (initial_unlooped schema state) run, ?_⟩
  intro tale told past scene passes
  have kept : Accounted past scene := accounted told.moves passes
  refine ⟨kept.tabled, makesFresh kept.tabled, destroysOnly scene.world, ?_, ?_⟩
  · intro short id alive
    rcases Option.isSome_iff_exists.mp alive with ⟨object, living⟩
    have inRange := (List.getElem?_eq_some_iff.mp (ObjectGraph.slot_of_living living)).1
    exact ObjectId.ofWord_word (Nat.lt_trans inRange short)
  · intro intact
    refine ⟨?_, fun id few => givenOnce told.moves passes intact few⟩
    intro index slot located
    have known : scene.world.graph.generation? index = some slot.generation := by
      rw [ObjectGraph.generation?, located]
      rfl
    rcases (kept.account intact).counted index with counted | ⟨unknown, _⟩
    · rw [Option.some.inj (known.symm.trans counted), UInt32.toNat_ofNat']
    · cases known.symm.trans unknown

/-! ## A panel that is replaced while it goes -/

/-- A host whose writers make another panel when they are retired. -/
def replacingHost : Host Unit :=
  { Host.silent with
    retire := fun _ => do
      let _ ← create 0 none }

/-- Gives the first panel a writer of the host. -/
def staffPanel (panel : Object) : Object :=
  { panel with writers := panel.writers.put ⟨1, none⟩ (.host 0) }

/-- Makes a panel with a writer and destroys it. -/
def replacePanel : Engine Unit Bool := do
  let id ← create 0 none
  modifyGraph fun graph => graph.update id staffPanel
  destroy id

theorem replacingHost_obeys : replacingHost.Obeys Conduct where
  call _ _ := .value _
  callTyped _ _ := .value _
  intercept _ _ _ := .value _
  announce _ := .value _
  handle _ _ := .value _
  retire _ := .sequence (.create 0 none) fun _ => .value _

theorem replacePanel_conduct : Conduct replacePanel :=
  .sequence (.create 0 none) fun id => .sequence (.object id staffPanel) fun _ => .destroy id

/-- The panel as it is made. -/
def madePanel : World Unit :=
  { World.initial panelSchema () with graph := ((ObjectGraph.empty panelSchema).create 0 none).2 }

/-- The panel with its writer. -/
def staffedPanel : World Unit :=
  { madePanel with graph := madePanel.graph.update ⟨0, 0⟩ staffPanel }

/-- The slot of the panel, before the writer of the panel is retired. -/
def removedPanel : World Unit :=
  { staffedPanel with
    graph := { schema := panelSchema, slots := [⟨1, none⟩], free := [0] } }

/-- The object that the writer made in the slot. -/
def replacedPanel : World Unit :=
  { removedPanel with graph := (removedPanel.graph.create 0 none).2 }

/-- The tale of the run: in the visit to the writer another object is made. -/
def replacement : List (Moment Unit) :=
  [⟨⟨[], .initial panelSchema ()⟩, .other⟩, ⟨⟨[], madePanel⟩, .other⟩,
    ⟨⟨[], staffedPanel⟩, .destroys ⟨0, 0⟩⟩, ⟨⟨[], removedPanel⟩, .other⟩,
    ⟨⟨[.visit (.retire 0)], removedPanel⟩, .other⟩, ⟨⟨[.visit (.retire 0)], replacedPanel⟩, .other⟩]

theorem replacement_told : Told replacingHost 1 [] replacePanel (.initial panelSchema ())
    replacement true replacedPanel := by
  have made : Told replacingHost 1 [] (create 0 none) (.initial panelSchema ())
      [⟨⟨[], .initial panelSchema ()⟩, .other⟩] ⟨0, 0⟩ madePanel :=
    .act (fun _ => rfl) (.create _ 0 none)
  have staffed : Told replacingHost 1 [] (modifyGraph fun graph => graph.update ⟨0, 0⟩ staffPanel)
      madePanel [⟨⟨[], madePanel⟩, .other⟩] () staffedPanel :=
    .act (fun _ => rfl) (.object _ ⟨0, 0⟩ staffPanel)
  have removed : Told replacingHost 1 [] (modify fun _ => removedPanel)
      staffedPanel [⟨⟨[], staffedPanel⟩, .destroys ⟨0, 0⟩⟩] () removedPanel :=
    .act (fun _ => rfl) (.destroy rfl)
  have replaced : Told replacingHost 0 [.visit (.retire 0)] (Query.answer replacingHost (.retire 0))
      removedPanel [⟨⟨[.visit (.retire 0)], removedPanel⟩, .other⟩] () replacedPanel :=
    .act (fun _ => rfl) (.create _ 0 none)
  have asked : Told replacingHost 1 [] (retire (.host 0)) removedPanel _ () replacedPanel :=
    .visit ⟨fun _ impossible => (by cases impossible), nofun⟩ replaced
  have retired : Told replacingHost 1 [] (retireAll [.host 0]) removedPanel _ () replacedPanel :=
    .sequence asked (.still fun _ => rfl)
  have parts : ∀ outside, destroy ⟨0, 0⟩ outside staffedPanel =
      (do
        modify fun _ => removedPanel
        retireAll [.host 0]
        return true : Engine Unit Bool) outside staffedPanel :=
    fun _ => rfl
  have destroyed : Told replacingHost 1 [] (destroy ⟨0, 0⟩) staffedPanel _ true replacedPanel :=
    .alike parts (.sequence removed (.sequence retired (.still fun _ => rfl)))
  exact .sequence made (.sequence staffed destroyed)

/--
The writer that is retired makes an object in the slot of the panel while that is
destroyed: the panel is dead for good, and the new object has another name.
-/
theorem replacedPanel_named_once :
    replacingHost.Obeys Conduct ∧ Conduct replacePanel ∧
      runWithin 1 replacingHost replacePanel (.initial panelSchema ()) =
        some (true, replacedPanel) ∧
      Told replacingHost 1 [] replacePanel (.initial panelSchema ()) replacement true
        replacedPanel ∧
      Intact replacement ∧ freed replacement 0 = 1 ∧
      replacedPanel.graph.isAlive ⟨0, 0⟩ = false ∧
      LivenessWatcher.wasDeleted ⟨⟨0, 0⟩⟩ replacedPanel.graph = true ∧
      ∃ first, first <+: replacement ∧ HandsOut replacement ⟨[], replacedPanel⟩ first ⟨0, 1⟩ := by
  have told := replacement_told
  have intact : Intact replacement := by
    simp [Intact, replacement]
  have few : freed replacement 0 < UInt32.size := by decide
  have handed : HandsOut replacement ⟨[], replacedPanel⟩ (replacement.take 1) ⟨0, 0⟩ :=
    ⟨[], _, ⟨[], madePanel⟩, 0, none, rfl, .inl ⟨_, _, rfl⟩, rfl⟩
  have passed : Passes replacement ⟨[], replacedPanel⟩ (replacement.take 3) ⟨[], removedPanel⟩ :=
    .inl ⟨_, _, rfl⟩
  rcases names_given_once replacingHost_obeys replacePanel_conduct told.run with ⟨_, named⟩
  rcases named replacement told replacement ⟨[], replacedPanel⟩ (.inr ⟨rfl, rfl⟩) with
    ⟨_, _, _, _, account⟩
  have once := (account intact).2
  have order : replacement.take 1 <+: replacement.take 3 := List.prefix_append _ _
  refine ⟨replacingHost_obeys, replacePanel_conduct, told.run, told, intact, rfl, ?_, ?_, ?_⟩
  · exact (once ⟨0, 0⟩ few).destroyed ⟨⟨[], staffedPanel⟩, .destroys ⟨0, 0⟩⟩
      (by simp [replacement]) rfl
  · exact (once ⟨0, 0⟩ few).deleted _ _ _ order (List.take_prefix 3 _) handed passed rfl
  · exact (once ⟨0, 1⟩ few).given rfl

end Engine

end PropertyBinding
