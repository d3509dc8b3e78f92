import PropertyBinding.Proofs.EvidenceText
import PropertyBinding.Proofs.Telling

namespace PropertyBinding

/-!
# The chronicle of failures

A chronicle of a run says what becomes of failures in it, and passes over the rest.  An
update fails or succeeds, the failure of a binding is passed on to its diagnostics,
diagnostics take reports and hand out what they have kept.  All of this happens in turns
that foreign code cannot interrupt; the handler of the diagnostics is told when a turn is
over, and what it does is part of the chronicle like everything else.

The chronicle follows the way operations are put together, so it is bound to what they
say and not only to what they leave behind.
-/

/-- What happens to a failure. -/
inductive Incident where
  /-- An update of a binding fails. -/
  | fails (id : BindingId) (failure : Failure)
  /-- An update of a binding has stored its result. -/
  | succeeds (id : BindingId)
  /-- The failure of a binding is passed on to the diagnostics of the binding. -/
  | forwards (id : BindingId) (failure : Failure)
  /-- Diagnostics take a report. -/
  | reports (id : DiagnosticsId) (failure : Failure)
  /-- Diagnostics hand out the failures that they have kept. -/
  | takes (id : DiagnosticsId) (failures : List Failure)

/--
Whether a later list has the members of a former one in their places, each related to what
it was, and only fresh members after them.
-/
structure Grows {α : Type} (related : α → α → Prop) (fresh : α → Prop) (former later : List α) :
    Prop where
  kept : ∀ {place : Nat} {old : α}, former[place]? = some old →
    ∃ new, later[place]? = some new ∧ related old new
  added : ∀ {place : Nat} {new : α}, later[place]? = some new → former[place]? = none → fresh new

namespace Grows

variable {α : Type} {related : α → α → Prop} {fresh : α → Prop} {former later : List α}

theorem refl (reflexive : ∀ old, related old old) (list : List α) :
    Grows related fresh list list where
  kept found := ⟨_, found, reflexive _⟩
  added found absent := by
    rw [absent] at found
    cases found

/-- A member may be changed into one that is related to it. -/
theorem modify (reflexive : ∀ old, related old old) (list : List α) (place : Nat)
    {change : α → α} (changed : ∀ old, list[place]? = some old → related old (change old)) :
    Grows related fresh list (list.modify place change) where
  kept {other old} found := by
    rw [List.getElem?_modify, found]
    by_cases same : place = other
    · subst same
      exact ⟨change old, by simp, changed old found⟩
    · exact ⟨old, by simp [same], reflexive old⟩
  added {other new} found absent := by
    rw [List.getElem?_modify, absent] at found
    cases found

/-- A fresh member may be added at the end. -/
theorem append (reflexive : ∀ old, related old old) (list : List α) {new : α} (novel : fresh new) :
    Grows related fresh list (list ++ [new]) where
  kept found :=
    ⟨_, (List.getElem?_append_left (List.getElem?_eq_some_iff.mp found).1).trans found, reflexive _⟩
  added {place other} found absent := by
    rw [List.getElem?_append_right (List.getElem?_eq_none_iff.mp absent)] at found
    exact List.mem_singleton.mp (List.mem_of_getElem? found) ▸ novel

/-- A member is related to what was in its place, or fresh where there was nothing. -/
theorem origin (grows : Grows related fresh former later) {place : Nat} {new : α}
    (found : later[place]? = some new) :
    (∃ old, former[place]? = some old ∧ related old new) ∨ former[place]? = none ∧ fresh new := by
  cases before : former[place]? with
  | none => exact .inr ⟨rfl, grows.added found before⟩
  | some old =>
      rcases grows.kept before with ⟨other, present, alike⟩
      rw [found] at present
      cases present
      exact .inl ⟨old, rfl, alike⟩

/-- Where there is nothing later there was nothing. -/
theorem absent (grows : Grows related fresh former later) {place : Nat}
    (gone : later[place]? = none) : former[place]? = none := by
  cases before : former[place]? with
  | none => rfl
  | some old =>
      rcases grows.kept before with ⟨new, found, _⟩
      rw [gone] at found
      cases found

end Grows

/--
Whether each member of a list agrees with the record that is kept of its place; of a place
that has no member yet the record is clear.
-/
structure Booked {α ρ : Type} (agrees : Nat → α → ρ → Prop) (clear : ρ) (members : List α)
    (records : Nat → ρ) : Prop where
  kept : ∀ {place : Nat} {member : α}, members[place]? = some member →
    agrees place member (records place)
  unopened : ∀ {place : Nat}, members[place]? = none → records place = clear

namespace Booked

variable {α ρ : Type} {agrees : Nat → α → ρ → Prop} {clear : ρ} {members later : List α}
  {records recorded : Nat → ρ}

theorem nil : Booked agrees clear [] fun _ => clear where
  kept found := by cases found
  unopened _ := rfl

/-- Members that are related to what they were agree with the same records. -/
theorem grow (booked : Booked agrees clear members records) {related : α → α → Prop}
    {fresh : α → Prop} (grows : Grows related fresh members later)
    (same : ∀ place old new, agrees place old (records place) → related old new →
      agrees place new (records place))
    (opened : ∀ place new, fresh new → agrees place new clear)
    (unchanged : ∀ place, recorded place = records place) :
    Booked agrees clear later recorded where
  kept {place new} found := by
    rw [unchanged]
    rcases grows.origin found with ⟨old, present, alike⟩ | ⟨absent, novel⟩
    · exact same place old new (booked.kept present) alike
    · rw [booked.unopened absent]
      exact opened place new novel
  unopened {place} absent := by
    rw [unchanged]
    exact booked.unopened (grows.absent absent)

/-- One member may change if its record does. -/
theorem change (booked : Booked agrees clear members records) (place : Nat) (change : α → α)
    (changed : ∀ other, later[other]? =
      (members[other]?).map fun former => if place = other then change former else former)
    (entered : ∀ former, members[place]? = some former → agrees place former (records place) →
      agrees place (change former) (recorded place))
    (elsewhere : ∀ other, (place = other → members[place]? = none) →
      recorded other = records other) :
    Booked agrees clear later recorded where
  kept {other next} found := by
    rw [changed] at found
    rcases Option.map_eq_some_iff.mp found with ⟨former, present, rfl⟩
    split
    · next same =>
      subst same
      exact entered former present (booked.kept present)
    · next apart =>
      rw [elsewhere other fun same => absurd same apart]
      exact booked.kept present
  unopened {other} absent := by
    rw [changed] at absent
    have absent := Option.map_eq_none_iff.mp absent
    rw [elsewhere other fun same => same ▸ absent]
    exact booked.unopened absent

end Booked

/-- Whether a binding has the failure it had, and the same context. -/
def Binding.SameFailure (former binding : Binding) : Prop :=
  binding.pending? = former.pending? ∧ binding.context = former.context

namespace Diagnostics

/-- Whether diagnostics keep the same failures, whoever handles them. -/
structure Alike (former diagnostics : Diagnostics) : Prop where
  records : diagnostics.records = former.records
  capacity : diagnostics.capacity = former.capacity
  evicted : diagnostics.evicted = former.evicted
  log : Option.Rel EvidenceLog.Alike former.log? diagnostics.log?

/-- Whether diagnostics have not taken a report yet. -/
structure Fresh (diagnostics : Diagnostics) : Prop where
  records : diagnostics.records = []
  capacity : 0 < diagnostics.capacity
  evicted : diagnostics.evicted = 0
  log : ∀ log ∈ diagnostics.log?, log.lines = 0 ∧ log.text = ""

theorem Alike.refl (diagnostics : Diagnostics) : diagnostics.Alike diagnostics where
  records := rfl
  capacity := rfl
  evicted := rfl
  log := by
    cases diagnostics.log? with
    | none => exact .none
    | some log => exact .some (.refl log)

end Diagnostics

namespace World

variable {σ : Type} (world : World σ)

/--
Whether a later world differs in nothing that the chronicle is about: bindings have the
failures they had, diagnostics what they have kept, and what is new has nothing.
-/
structure Aloof (world later : World σ) : Prop where
  bindings : Grows Binding.SameFailure (fun binding => binding.pending? = none)
    world.bindings later.bindings
  diagnostics : Grows Diagnostics.Alike Diagnostics.Fresh world.diagnostics later.diagnostics

/-- The handler of some diagnostics. -/
def handler? (id : DiagnosticsId) : Option HostId :=
  (world.diagnostics[id]?).bind (·.handler?)

/-- What there is to tell of a report; diagnostics that are not there take none. -/
def filed (id : DiagnosticsId) (failure : Failure) : List Incident :=
  if id < world.diagnostics.length then [.reports id failure] else []

/-- Makes a failure the latest of a binding. -/
def pended (id : BindingId) (failure : Failure) (reported : Bool) : World σ :=
  { world with
    bindings := world.bindings.modify id fun binding => binding.withPending failure reported }

/-- Takes the failure from a binding. -/
def relieved (id : BindingId) : World σ :=
  { world with
    bindings := world.bindings.modify id fun binding => { binding with pending? := none } }

/-- Replaces some diagnostics. -/
def replaced (id : DiagnosticsId) (diagnostics : Diagnostics) : World σ :=
  { world with diagnostics := world.diagnostics.modify id fun _ => diagnostics }

/-- Changes the capacity of some diagnostics. -/
def resized (id : DiagnosticsId) (capacity : Nat) : World σ :=
  { world with
    diagnostics := world.diagnostics.modify id fun diagnostics =>
      diagnostics.setCapacity capacity }

namespace Aloof

variable {world later : World σ}

theorem of_same (bindings : later.bindings = world.bindings)
    (diagnostics : later.diagnostics = world.diagnostics) : world.Aloof later where
  bindings := bindings ▸ .refl (fun _ => ⟨rfl, rfl⟩) _
  diagnostics := diagnostics ▸ .refl .refl _

/-- A binding may change in all but its failure and its context. -/
theorem of_modify (id : BindingId) {change : Binding → Binding}
    (bindings : later.bindings = world.bindings.modify id change)
    (diagnostics : later.diagnostics = world.diagnostics)
    (changed : ∀ binding : Binding, binding.SameFailure (change binding)) :
    world.Aloof later where
  bindings := bindings ▸ .modify (fun _ => ⟨rfl, rfl⟩) _ id fun binding _ => changed binding
  diagnostics := diagnostics ▸ .refl .refl _

end Aloof

end World

namespace Engine

variable {σ α β : Type}

/-- Work without foreign code that the chronicle has nothing to say about, wherever it is done. -/
def Uneventful (operation : Engine σ α) : Prop :=
  ∀ world : World σ, ∃ result after, Steps operation world result after ∧ world.Aloof after

/-- Wherever uneventful work leads, it leads aloof. -/
theorem Uneventful.aloof {operation : Engine σ α} {world after : World σ} {result : α}
    (uneventful : Uneventful operation) (steps : Steps operation world result after) :
    world.Aloof after := by
  rcases uneventful world with ⟨other, later, runs, aloof⟩
  -- what work leads to without foreign code it leads to under any
  let outside : Outside σ :=
    { call := fun _ _ _ => none
      intercept := fun _ _ _ _ => none
      announce := fun _ _ => none
      handle := fun _ _ _ => none
      retire := fun _ _ => none }
  have same := (runs outside).symm.trans (steps outside)
  cases same
  exact aloof

/-- Operations about failures that have nothing to do, since what they are about is not there. -/
inductive Idle : {α : Type} → Engine σ α → World σ → α → Prop
  | take {world : World σ} {id : DiagnosticsId} (absent : world.diagnostics[id]? = none) :
      Idle (takeFailures id) world []
  | fail {world : World σ} {id : BindingId} (failure : Failure)
      (absent : world.bindings[id]? = none) : Idle (recordFailure id failure) world ()
  | succeed {world : World σ} {id : BindingId} (absent : world.bindings[id]? = none) :
      Idle (modifyBinding id fun binding => { binding with pending? := none }) world ()
  | flush {world : World σ} {id : BindingId}
      (settled : (world.bindings[id]?).bind (·.unreported?) = none) :
      Idle (reportPending id) world false

theorem Idle.steps {operation : Engine σ α} {world : World σ} {result : α}
    (idle : Idle operation world result) : Steps operation world result world := by
  intro outside
  cases idle with
  | take absent => simp [takeFailures, absent]
  | fail failure absent => simp [recordFailure, absent]
  | succeed absent =>
      rw [apply_modifyBinding, List.modify_eq_self (List.getElem?_eq_none_iff.mp absent)]
  | @flush _ id settled =>
      cases found : world.bindings[id]? with
      | none => simp [reportPending, found]
      | some binding =>
          rw [found, Option.bind_some] at settled
          simp [reportPending, found, settled]

/--
What an operation does before foreign code can do anything, with the incidents there are to
tell and what is still to be done: a handler may have to be told.
-/
inductive Turn : {α : Type} → Engine σ α → World σ → List Incident → α → World σ →
    Engine σ Unit → Prop
  | still {α : Type} {operation : Engine σ α} {world : World σ} {result : α}
      (idle : Idle operation world result) : Turn operation world [] result world (pure ())
  | work {α : Type} {operation : Engine σ α} {world after : World σ} {result : α}
      (uneventful : Uneventful operation) (steps : Steps operation world result after) :
      Turn operation world [] result after (pure ())
  | report (world : World σ) (id : DiagnosticsId) (failure : Failure) :
      Turn (report id failure) world (world.filed id failure) () (world.noted id failure)
        (hand (world.handler? id) failure)
  | take {world : World σ} {id : DiagnosticsId} {diagnostics : Diagnostics}
      (found : world.diagnostics[id]? = some diagnostics) :
      Turn (takeFailures id) world [.takes id diagnostics.records] diagnostics.records
        (world.replaced id diagnostics.take.2) (pure ())
  | resize (world : World σ) (id : DiagnosticsId) (capacity : Nat) :
      Turn (modifyDiagnostics id fun diagnostics => diagnostics.setCapacity capacity) world [] ()
        (world.resized id capacity) (pure ())
  | succeed {world : World σ} {id : BindingId} {binding : Binding}
      (found : world.bindings[id]? = some binding) :
      Turn (modifyBinding id fun binding => { binding with pending? := none }) world
        [.succeeds id] () (world.relieved id) (pure ())
  /-- A failure is reported as soon as it is noted. -/
  | failAtOnce {world : World σ} {id : BindingId} {binding : Binding} (failure : Failure)
      (found : world.bindings[id]? = some binding)
      (atOnce : binding.context.config.deferErrors = false) :
      Turn (recordFailure id failure) world
        (.fails id failure :: .forwards id failure ::
          world.filed binding.context.diagnostics failure)
        () ((world.pended id failure true).noted binding.context.diagnostics failure)
        (hand (world.handler? binding.context.diagnostics) failure)
  /-- A failure is noted and waits. -/
  | failLater {world : World σ} {id : BindingId} {binding : Binding} (failure : Failure)
      (found : world.bindings[id]? = some binding)
      (deferred : binding.context.config.deferErrors = true)
      (free : binding.unreported? = none) :
      Turn (recordFailure id failure) world [.fails id failure] ()
        (world.pended id failure false) (pure ())
  /-- A failure takes the place of one that waits, which is settled by its report first. -/
  | failInstead {world : World σ} {id : BindingId} {binding : Binding} {earlier : Failure}
      (failure : Failure) (found : world.bindings[id]? = some binding)
      (deferred : binding.context.config.deferErrors = true)
      (waits : binding.unreported? = some earlier) :
      Turn (recordFailure id failure) world
        (.forwards id earlier :: world.filed binding.context.diagnostics earlier ++
          [.fails id failure])
        () ((world.pended id failure false).noted binding.context.diagnostics earlier)
        (hand (world.handler? binding.context.diagnostics) earlier)
  | flush {world : World σ} {id : BindingId} {binding : Binding} {failure : Failure}
      (found : world.bindings[id]? = some binding)
      (waits : binding.unreported? = some failure) :
      Turn (reportPending id) world
        (.forwards id failure :: world.filed binding.context.diagnostics failure)
        true ((world.pended id failure true).noted binding.context.diagnostics failure)
        (hand (world.handler? binding.context.diagnostics) failure)

/-- A report is a turn that leaves it to tell the handler. -/
theorem report_turn (world : World σ) (id : DiagnosticsId) (failure : Failure)
    (outside : Outside σ) :
    report id failure outside world =
      (hand (world.handler? id) failure outside (world.noted id failure)).map
        fun out => ((), out.2) := by
  rw [report_eq]
  exact Option.map_id'.symm

/-- An operation does its turn, and then what is still to be done. -/
theorem Turn.run {operation : Engine σ α} {world after : World σ} {incidents : List Incident}
    {result : α} {rest : Engine σ Unit}
    (turn : Turn operation world incidents result after rest) (outside : Outside σ) :
    operation outside world = (rest outside after).map fun out => (result, out.2) := by
  cases turn with
  | still idle => exact idle.steps outside
  | work _ steps => exact steps outside
  | report _ id failure => exact report_turn world id failure outside
  | take found =>
      simp only [takeFailures, apply_bind, apply_get, Option.bind_some, found]
      rfl
  | resize _ id capacity => rfl
  | succeed found => rfl
  | @failAtOnce _ id _ failure found atOnce =>
      simp only [recordFailure, apply_bind, apply_binding?, Option.bind_some, found, atOnce]
      exact report_turn (world.pended id failure true) _ _ outside
  | failLater failure found deferred free =>
      simp only [recordFailure, apply_bind, apply_binding?, Option.bind_some, found, deferred, free]
      rfl
  | @failInstead _ id _ _ failure found deferred waits =>
      simp only [recordFailure, apply_bind, apply_binding?, Option.bind_some, found, deferred,
        waits]
      exact report_turn (world.pended id failure false) _ _ outside
  | @flush _ id binding failure found waits =>
      simp only [reportPending, apply_bind, apply_binding?, Option.bind_some, found, waits]
      show (Engine.report binding.context.diagnostics failure outside
        (world.pended id failure true)).bind (fun out => some (true, out.2)) = _
      rw [report_turn, Option.bind_map, Option.map_eq_bind]
      rfl

/-- A moment of a chronicle: a world, and the incidents of the turn that is taken in it. -/
structure Instant (σ : Type) where
  world : World σ
  incidents : List Incident

/-- The incidents of a chronicle. -/
def incidentsOf (tale : List (Instant σ)) : List Incident :=
  tale.flatMap (·.incidents)

/--
Whether a run of an operation with the code of a host, from a world to another and with a
result, has a chronicle: the turns it is made of, those of foreign code among them.
-/
inductive Chronicled (host : Host σ) : {α : Type} → Nat → Engine σ α → World σ →
    List (Instant σ) → α → World σ → Prop
  | value {α : Type} (bound : Nat) (result : α) (world : World σ) :
      Chronicled host bound (pure result) world [] result world
  | turn {α : Type} {bound : Nat} {operation : Engine σ α} {world middle after : World σ}
      {incidents : List Incident} {result : α} {rest : Engine σ Unit} {tale : List (Instant σ)}
      (turn : Turn operation world incidents result middle rest)
      (told : Chronicled host bound rest middle tale () after) :
      Chronicled host bound operation world (⟨world, incidents⟩ :: tale) result after
  | sequence {α β : Type} {bound : Nat} {operation : Engine σ α} {next : α → Engine σ β}
      {world middle after : World σ} {tale rest : List (Instant σ)} {result : α} {final : β}
      (first : Chronicled host bound operation world tale result middle)
      (second : Chronicled host bound (next result) middle rest final after) :
      Chronicled host bound (operation >>= next) world (tale ++ rest) final after
  /-- Foreign code is told by the code of the host one level below. -/
  | visit {bound : Nat} {query : Query} {world after : World σ} {tale : List (Instant σ)}
      {result : query.Result}
      (told : Chronicled host bound (query.answer host) world tale result after) :
      Chronicled host (bound + 1) (foreign query.step) world tale result after

/-- Whether a condition on a world and the incidents before it holds all through a chronicle. -/
def Throughout (holds : List Incident → World σ → Prop) :
    List Incident → List (Instant σ) → World σ → Prop
  | past, [], last => holds past last
  | past, instant :: rest, last =>
      holds past instant.world ∧ Throughout holds (past ++ instant.incidents) rest last

namespace Throughout

variable {holds : List Incident → World σ → Prop} {past : List Incident}
  {tale rest : List (Instant σ)} {middle after : World σ}

theorem ended (throughout : Throughout holds past tale after) :
    holds (past ++ incidentsOf tale) after := by
  induction tale generalizing past with
  | nil =>
      rw [incidentsOf, List.flatMap_nil, List.append_nil]
      exact throughout
  | cons instant tale ih =>
      have later := ih throughout.2
      rwa [List.append_assoc] at later

theorem append (first : Throughout holds past tale middle)
    (second : Throughout holds (past ++ incidentsOf tale) rest after) :
    Throughout holds past (tale ++ rest) after := by
  induction tale generalizing past with
  | nil =>
      rw [incidentsOf, List.flatMap_nil, List.append_nil] at second
      exact second
  | cons instant tale ih =>
      refine ⟨first.1, ih first.2 ?_⟩
      rwa [List.append_assoc]

theorem weaken {weaker : List Incident → World σ → Prop}
    (throughout : Throughout holds past tale after)
    (weakens : ∀ past world, holds past world → weaker past world) :
    Throughout weaker past tale after := by
  induction tale generalizing past with
  | nil => exact weakens _ _ throughout
  | cons instant tale ih => exact ⟨weakens _ _ throughout.1, ih throughout.2⟩

end Throughout

namespace Chronicled

variable {host : Host σ} {bound : Nat} {operation : Engine σ α} {world after : World σ}
  {tale : List (Instant σ)} {result : α}

/-- A chronicle leads to where the run leads. -/
theorem run (told : Chronicled host bound operation world tale result after) :
    operation (.within host bound) world = some (result, after) := by
  induction told with
  | value => rfl
  | turn turn _ ih => rw [turn.run, ih, Option.map_some]
  | sequence _ _ first second =>
      rw [apply_bind, first]
      exact second
  | visit _ ih => exact (Query.step_within host _ _ _).trans ih

/-- What each turn keeps holds all through a chronicle that begins with it. -/
theorem throughout {holds : List Incident → World σ → Prop}
    (kept : ∀ {α : Type} {operation : Engine σ α} {past world incidents} {result : α}
      {after rest}, Turn operation world incidents result after rest → holds past world →
        holds (past ++ incidents) after)
    (told : Chronicled host bound operation world tale result after) {past : List Incident}
    (first : holds past world) : Throughout holds past tale after := by
  induction told generalizing past with
  | value => exact first
  | turn turn _ ih => exact ⟨first, ih (kept turn first)⟩
  | sequence _ _ ih later =>
      have early := ih first
      exact early.append (later early.ended)
  | visit _ ih => exact ih first

end Chronicled

end Engine

end PropertyBinding
