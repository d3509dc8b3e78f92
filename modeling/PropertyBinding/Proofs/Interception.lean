import PropertyBinding.Proofs.Depositing
import PropertyBinding.Proofs.Tracing

namespace PropertyBinding

/-!
# Interception

Whoever assigns a value to a property with an interceptor, and does not ask to skip it,
has the interceptor asked about the value, once, and what it answers is what is stored,
before anyone else is called.  This holds of all ways to assign a value, if the property
is no open slot.

An open slot can have an interceptor too, but the store of a script value never looks for
it: nobody is asked about what goes into a slot.
-/

variable {σ : Type}

/-- What an interceptor is asked about, and which. -/
def Query.interception? : Query → Option (HostId × ObjectId × Native)
  | .intercept id object value => some (id, object, value)
  | _ => none

namespace World

variable {world middle later : World (σ × Trace σ)}

/-- All that foreign code was asked in a run that has come to a world with its trace beside it. -/
def queries (world : World (σ × Trace σ)) : List Query :=
  (world.trace.stretches world.untraced).filterMap fun stretch => stretch.visit?.map Visit.query

/-- What interceptors were asked about in a run. -/
def interceptions (world : World (σ × Trace σ)) : List (HostId × ObjectId × Native) :=
  world.queries.filterMap Query.interception?

theorem queries_of_trace (same : later.trace = world.trace) : later.queries = world.queries := by
  simp only [queries, Trace.stretches, Trace.present, same, List.filterMap_append]
  rfl

/-- A visit to foreign code asks once. -/
theorem queries_visit (world : World (σ × Trace σ)) (query : Query) (after : World σ) :
    (after.traced ⟨world.trace.stretches world.untraced, some ⟨query, world.untraced⟩,
      after⟩).queries = world.queries ++ [query] := by
  show List.filterMap _ (world.trace.stretches world.untraced ++ [_]) = _
  rw [List.filterMap_append]
  rfl

/-- Whether all that is asked between two worlds is of a kind. -/
def Asks (kind : Query → Prop) (world later : World (σ × Trace σ)) : Prop :=
  ∃ asked, later.queries = world.queries ++ asked ∧ ∀ query ∈ asked, kind query

namespace Asks

variable {kind : Query → Prop}

theorem none (same : later.trace = world.trace) : world.Asks kind later :=
  ⟨[], by rw [queries_of_trace same, List.append_nil], by simp⟩

theorem one {query : Query} (right : kind query) (world : World (σ × Trace σ)) (after : World σ) :
    world.Asks kind (after.traced ⟨world.trace.stretches world.untraced,
      some ⟨query, world.untraced⟩, after⟩) :=
  ⟨[query], world.queries_visit query after, by simpa using right⟩

theorem trans (first : world.Asks kind middle) (second : middle.Asks kind later) :
    world.Asks kind later := by
  rcases first with ⟨earlier, asked, right⟩
  rcases second with ⟨more, askedMore, right'⟩
  refine ⟨earlier ++ more, by rw [askedMore, asked, List.append_assoc], fun query member => ?_⟩
  exact (List.mem_append.mp member).elim (right query) (right' query)

/-- Where no interceptor is asked, there are no more interceptions. -/
theorem interceptions (asks : world.Asks (fun query => query.interception? = .none) later) :
    later.interceptions = world.interceptions := by
  rcases asks with ⟨asked, same, kind⟩
  rw [World.interceptions, same, List.filterMap_append, List.filterMap_eq_nil_iff.mpr kind,
    List.append_nil]
  rfl

theorem unintercepted (asks : world.Asks (fun query => query.interception? = .none) later)
    (fresh : world.queries = []) : later.interceptions = [] := by
  rw [asks.interceptions, World.interceptions, fresh]
  rfl

end Asks

/-- Whether the stretches of a run are in its trace later, with what the graph was after them. -/
def Carries (world later : World (σ × Trace σ)) : Prop :=
  ∀ stretch ∈ world.trace.stretches world.untraced,
    ∃ carried ∈ later.trace.stretches later.untraced, carried.visit? = stretch.visit? ∧
      carried.start = stretch.start ∧ carried.stop.graph = stretch.stop.graph

end World

namespace Engine

open World

variable {outside : Outside σ} {kind : Query → Prop}

theorem asks_steady (kind : Query → Prop) : Steady (Asks (σ := σ) kind) :=
  ⟨fun _ => .none rfl, Asks.trans⟩

theorem carries_steady : Steady (Carries (σ := σ)) where
  refl _ stretch member := ⟨stretch, member, rfl, rfl, rfl⟩
  trans first second stretch member := by
    rcases first stretch member with ⟨middle, member', visit, start, graph⟩
    rcases second middle member' with ⟨carried, there, visit', start', graph'⟩
    exact ⟨carried, there, visit'.trans visit, start'.trans start, graph'.trans graph⟩

theorem carries_visit (world : World (σ × Trace σ)) (query : Query) (after : World σ) :
    world.Carries (after.traced ⟨world.trace.stretches world.untraced,
      some ⟨query, world.untraced⟩, after⟩) :=
  fun stretch member => ⟨stretch, List.mem_append_left _ member, rfl, rfl, rfl⟩

theorem carries_apart {world later : World (σ × Trace σ)}
    (host : later.host = world.host) (graph : later.graph = world.graph) : Carries world later := by
  have same : later.trace = world.trace := congrArg Prod.snd host
  intro stretch member
  rw [same]
  -- the present stretch is the only one that goes on
  rcases Trace.mem_stretches.mp member with earlier | rfl
  · exact ⟨stretch, List.mem_append_left _ earlier, rfl, rfl, rfl⟩
  · exact ⟨_, List.mem_append_right _ List.mem_cons_self, rfl, rfl, graph⟩

theorem carries_outspoken : Outspoken outside.traced (Carries (σ := σ)) where
  toSteady := carries_steady
  told callback world result after run := by
    rcases Step.run_of_traced (.announce callback) run with ⟨later, _, rfl⟩
    exact carries_visit world _ later
  handled handler failure world result after run := by
    rcases Step.run_of_traced (.handle handler failure) run with ⟨later, _, rfl⟩
    exact carries_visit world _ later
  apart host graph _ _ := carries_apart host graph

theorem asks_outspoken (announces : ∀ callback, kind (.announce callback))
    (handles : ∀ id failure, kind (.handle id failure)) :
    Outspoken outside.traced (Asks (σ := σ) kind) where
  toSteady := asks_steady kind
  told callback world result after run := by
    rcases Step.run_of_traced (.announce callback) run with ⟨later, _, rfl⟩
    exact .one (announces callback) world later
  handled handler failure world result after run := by
    rcases Step.run_of_traced (.handle handler failure) run with ⟨later, _, rfl⟩
    exact .one (handles handler failure) world later
  apart host _ _ _ := .none (congrArg Prod.snd host)

theorem removeWriters_asks (retires : ∀ id, kind (.retire id)) (target : PropertyRef) :
    Keeps outside.traced (Asks (σ := σ) kind) (removeWriters target) := by
  have steady := asks_steady (σ := σ) kind
  refine steady.bind steady.seen fun graph => ?_
  cases graph.object? target.object with
  | none => exact steady.value ()
  | some object =>
      refine steady.bind (Steady.change fun _ => .none rfl) fun _ => ?_
      refine steady.retireAll fun writer _ world => ?_
      cases writer with
      | binding id =>
          refine (retireBinding_frame id).weaken ?_
          rintro _ _ ⟨channels, rfl⟩
          exact .none rfl
      | host id =>
          intro result after run
          rcases Step.run_of_traced (.retire id) run with ⟨later, _, rfl⟩
          exact .one (retires id) world later

/-! ## The phases of a store -/

section Phases

variable {target : PropertyRef} {property : Property} {value final : Native} {flags : WriteFlags}
  {start freed ready recorded : World (σ × Trace σ)} {cell : Cell} {source : Source}

theorem Relieves.asks (relieves : Relieves outside.traced target flags start freed)
    (retires : ∀ id, kind (.retire id)) : start.Asks kind freed := by
  cases relieves with
  | kept _ => exact .none rfl
  | removed _ run => exact removeWriters_asks retires target start () freed run

/-- A cell that is put in place is in place before anyone is told. -/
theorem Deposits.carries (deposits : Deposits outside.traced target cell source ready recorded) :
    ∃ stretch ∈ recorded.trace.stretches recorded.untraced, stretch.visit? = ready.trace.visit? ∧
      stretch.start = ready.trace.start ∧
      stretch.stop.graph = ready.graph.setCell target cell := by
  have placed : ({ ready with graph := ready.graph.setCell target cell } :
      World (σ × Trace σ)).Carries recorded := by
    cases deposits with
    | quiet => exact carries_steady.refl _
    | announced run => exact carries_outspoken.announce source _ () recorded run
  rcases placed _ (List.mem_append_right _ List.mem_cons_self) with
    ⟨stretch, member, visit, begun, graph⟩
  exact ⟨stretch, member, visit, begun, graph⟩

theorem Deposits.asks (deposits : Deposits outside.traced target cell source ready recorded)
    (announces : ∀ callback, kind (.announce callback))
    (handles : ∀ id failure, kind (.handle id failure)) : ready.Asks kind recorded := by
  cases deposits with
  | quiet => exact .none rfl
  | announced run =>
      have placed : ready.Asks kind { ready with graph := ready.graph.setCell target cell } :=
        .none rfl
      exact placed.trans ((asks_outspoken announces handles).announce source _ () recorded run)

end Phases

/-! ## Assignments -/

theorem assign_mirrors (ref : PropertyRef) (value : Native) :
    Mirrors (σ := σ) (assign ref value).run (assign ref value).run :=
  .attempt .ask fun _ => .choose
    (.perform (place_mirrors _) fun placed => writeVar_mirrors ref placed .none)
    (write_mirrors ref value .none)

theorem assignMember_mirrors (object : ObjectId) (name : String) (value : Value) :
    Mirrors (σ := σ) (Script.Evaluation.assignMember object name value).run
      (Script.Evaluation.assignMember object name value).run := by
  refine .perform .seen fun graph => .attempt (.adapt _ .ask) fun index => ?_
  refine .attempt (.adapt _ .ask) fun property => ?_
  split
  · exact .adapt _ (assign_mirrors _ _)
  · exact .fail _

theorem perform_mirrors (assignment : Assignment) :
    Mirrors (σ := σ) assignment.perform.run assignment.perform.run := by
  cases assignment with
  | write ref value flags => exact .adapt _ (write_mirrors ref value flags)
  | writeVar ref value flags => exact .adapt _ (writeVar_mirrors ref value flags)
  | reset ref flags => exact .adapt _ (reset_mirrors ref flags)
  | literal ref value => exact .adapt _ (assign_mirrors ref value)
  | named object name value => exact .adapt _ (.attempt .ask fun index => assign_mirrors _ value)
  | member object name value => exact .adapt _ (assignMember_mirrors object name value)
  | writeBack id binding result flags =>
      exact .adapt _ (storeResult_mirrors id binding result flags)

/--
What interceptors had to do with a value that was stored in a property in a run.  The
interceptor of the property was asked about it, once and no other about anything, and its
answer was put in place directly afterwards.  Without one the value itself was put in place.
-/
inductive Intercepted (outside : Outside σ) (target : PropertyRef) (value : Native)
    (freed : World σ) (recorded : World (σ × Trace σ)) : Prop
  | unwatched {stretch : Stretch σ} (nobody : freed.graph.interceptor? target = none)
      (unasked : recorded.interceptions = [])
      (member : stretch ∈ recorded.trace.stretches recorded.untraced)
      (stored : stretch.stop.graph = freed.graph.setCell target (.native value)) :
      Intercepted outside target value freed recorded
  | asked {id : HostId} {final : Native} {stretch : Stretch σ}
      (watched : freed.graph.interceptor? target = some id)
      (once : recorded.interceptions = [(id, target.object, value)])
      (member : stretch ∈ recorded.trace.stretches recorded.untraced)
      (visit : stretch.visit? = some ⟨.intercept id target.object value, freed⟩)
      (answered : outside.intercept id target.object value freed = some (final, stretch.start))
      (stored : stretch.stop.graph = stretch.start.graph.setCell target (.native final)) :
      Intercepted outside target value freed recorded

/-- A native value that is stored has gone past the interceptor of the property. -/
theorem intercepted_of_course {start after : World (σ × Trace σ)} {target : PropertyRef}
    {property : Property} {value : Native} {flags : WriteFlags} (fresh : start.queries = [])
    (seen : flags.bypass = false)
    (course : NativeCourse outside.traced target property value flags start (.ok ()) after) :
    ∃ freed : World (σ × Trace σ), Relieves outside.traced target flags start freed ∧
      Intercepted outside target value freed.untraced after := by
  cases course with
  | @stored freed ready _ final fits relieves consults fit alive deposits =>
    have relieved : start.Asks (fun query => query.interception? = none) freed :=
      relieves.asks fun _ => rfl
    have announced : ready.Asks (fun query => query.interception? = none) after :=
      deposits.asks (fun _ => rfl) fun _ _ => rfl
    have before : freed.interceptions = [] := relieved.unintercepted fresh
    refine ⟨freed, relieves, ?_⟩
    -- the stretch in which the value is put in place begins where the interceptor has answered
    rcases deposits.carries with ⟨stretch, member, visit, begun, stored⟩
    cases consults with
    | skipped bypass =>
        rw [seen] at bypass
        cases bypass
    | unwatched nobody =>
        exact .unwatched nobody (announced.interceptions.trans before) member stored
    | @asked id _ _ _ watched answered =>
        rcases Step.run_of_traced (.intercept id target.object value) answered with
          ⟨later, answer, rfl⟩
        have answered' : outside.intercept id target.object value freed.untraced =
            some (final, stretch.start) := by rw [begun]; exact answer
        refine .asked watched ?_ member visit answered' (by rw [stored, begun]; rfl)
        rw [announced.interceptions, interceptions, queries_visit, List.filterMap_append]
        exact congrArg (· ++ [(id, target.object, value)]) before

theorem aim_traced (assignment : Assignment) (world : World σ) (trace : Trace σ) :
    assignment.aim (world.traced trace) = assignment.aim world := by
  cases assignment <;> rfl

/-- A run of an assignment has a trace, and lands in it as it does without. -/
theorem perform_traced {assignment : Assignment} {world after : World σ}
    {outcome : Except AssignmentError Unit}
    (run : assignment.perform.run outside world = some (outcome, after)) :
    ∃ recorded, assignment.perform.run outside.traced (world.traced (.empty world)) =
        some (outcome, recorded) ∧ recorded.untraced = after ∧
      Lands outside.traced (world.traced (.empty world)) (assignment.aim world) outcome.isOk
        recorded := by
  have mirrored := perform_mirrors assignment outside (world.traced (.empty world))
  rcases Option.map_eq_some_iff.mp (mirrored.trans run) with ⟨⟨_, recorded⟩, traced, same⟩
  cases same
  have landing := perform_lands assignment _ _ traced
  rw [aim_traced] at landing
  exact ⟨recorded, traced, rfl, landing⟩

/-- Whether no writer of a property is told outside of the engine when a value is assigned. -/
def TellsNobody (world : World σ) (target : PropertyRef) (flags : WriteFlags) : Prop :=
  flags.keep = true ∨ ∀ writer ∈ world.graph.writersAt target, ∃ id, writer = .binding id

/--
An assignment that succeeds, and does not ask to skip interceptors, has the interceptor of
the property that stores asked about the value, once, and puts its answer in place.  The
exception is an open slot: no interceptor is asked about what is stored there.  The
interceptor is the one of the beginning if no writer has to be told outside of the engine.
-/
theorem assignment_intercepted_but_slots {assignment : Assignment} {world after : World σ}
    {outside : Outside σ} (seen : (assignment.aim world).flags.bypass = false)
    (run : assignment.perform.run outside world = some (.ok (), after)) :
    ∃ recorded target property,
      assignment.perform.run outside.traced (world.traced (.empty world)) =
        some (.ok (), recorded) ∧ recorded.untraced = after ∧
      (assignment.aim world).target? = .ok target ∧
      world.graph.property target = .ok property ∧
      (property.isVar = true → recorded.interceptions = []) ∧
      (property.isVar = false → ∃ value freed,
        (assignment.aim world).Gives property value ∧
        Intercepted outside target value freed recorded ∧
        (TellsNobody world target (assignment.aim world).flags →
          freed.graph.interceptor? target = world.graph.interceptor? target)) := by
  rcases perform_traced run with ⟨recorded, traced, same, lands⟩
  rcases Lands.succeeded lands with ⟨start, target, property, aside, found, described, course⟩
  have fresh : start.queries = [] := queries_of_trace (congrArg Prod.snd aside.host)
  refine ⟨recorded, target, property, traced, same, found, described, ?_, ?_⟩
  · intro slotted
    cases course with
    | native closed _ _ =>
        rw [slotted] at closed
        cases closed
    | slot _ course =>
        cases course with
        | stored relieves deposits =>
            have relieved : start.Asks (fun query => query.interception? = none) _ :=
              relieves.asks fun _ => rfl
            have asks := relieved.trans (deposits.asks (fun _ => rfl) fun _ _ => rfl)
            exact asks.unintercepted fresh
  · intro closed
    cases course with
    | native _ given course =>
        rcases intercepted_of_course fresh seen course with ⟨freed, relieves, intercepted⟩
        refine ⟨_, freed.untraced, given, intercepted, fun told => ?_⟩
        have spared := relieves.writersOnly (aside.graph ▸ told)
        exact (spared.interceptor target).trans (congrArg (·.interceptor? target) aside.graph)
    | slot slotted _ =>
        rw [closed] at slotted
        cases slotted

section Watch

/-! ## A slot and a flag that are watched -/

/-- A class with an open slot and a flag. -/
def watchSchema : Schema :=
  Schema.empty.defineClass "Watch" none [.var "content", .native "flag" .bool]

def watchRef (index : Nat) : PropertyRef := ⟨⟨0, 0⟩, index⟩

/-- An interceptor that turns every value into true. -/
def insistent : Host Unit :=
  { Host.silent with intercept := fun _ _ _ => return .bool true }

/-- Makes a watch with the interceptor on the slot and on the flag. -/
def prepareWatch : Attempt PropertyError Unit Unit := do
  let _ ← Attempt.perform (create 0 none)
  installInterceptor (watchRef 0) 0
  installInterceptor (watchRef 1) 0

/-- The watch. -/
def watch : World Unit :=
  ((runWithin 1 insistent prepareWatch.run (.initial watchSchema ())).map Prod.snd).getD
    (.initial watchSchema ())

/-- The watch after an assignment. -/
def watchAfter (assignment : Assignment) : World Unit :=
  ((runWithin 1 insistent assignment.perform.run watch).map Prod.snd).getD watch

/-- The interceptor is asked about what is assigned to the flag, and not about the slot. -/
theorem watch_intercepts_flag_only :
    let flag : Assignment := .literal (watchRef 1) (.bool false)
    let slot : Assignment := .literal (watchRef 0) (.int 7)
    (flag.aim watch).flags.bypass = false ∧ (slot.aim watch).flags.bypass = false ∧
    flag.perform.run (.within insistent 1) watch = some (.ok (), watchAfter flag) ∧
    slot.perform.run (.within insistent 1) watch = some (.ok (), watchAfter slot) ∧
    watch.graph.interceptor? (watchRef 0) = some 0 ∧
    watch.graph.interceptor? (watchRef 1) = some 0 ∧
    (∃ recorded, flag.perform.run (.traced (.within insistent 1))
        (watch.traced (.empty watch)) = some (.ok (), recorded) ∧
      recorded.interceptions = [(0, ⟨0, 0⟩, .bool false)]) ∧
    ∃ recorded, slot.perform.run (.traced (.within insistent 1))
        (watch.traced (.empty watch)) = some (.ok (), recorded) ∧ recorded.interceptions = [] := by
  intro flag slot
  have flagSeen : (flag.aim watch).flags.bypass = false := rfl
  have slotSeen : (slot.aim watch).flags.bypass = false := rfl
  have flagRun : flag.perform.run (.within insistent 1) watch =
      some (.ok (), watchAfter flag) := by with_unfolding_all rfl
  have slotRun : slot.perform.run (.within insistent 1) watch =
      some (.ok (), watchAfter slot) := by with_unfolding_all rfl
  have watched : watch.graph.interceptor? (watchRef 1) = some 0 := rfl
  refine ⟨flagSeen, slotSeen, flagRun, slotRun, rfl, watched, ?_, ?_⟩
  · rcases assignment_intercepted_but_slots flagSeen flagRun with
      ⟨recorded, target, property, traced, _, found, described, _, closed⟩
    cases found
    cases described
    rcases closed rfl with ⟨value, freed, rfl, intercepted, spared⟩
    have kept := (spared (.inr fun _ listed => by cases listed)).trans watched
    refine ⟨recorded, traced, ?_⟩
    cases intercepted with
    | unwatched nobody =>
        rw [nobody] at kept
        cases kept
    | asked there once =>
        cases there.symm.trans kept
        exact once
  · rcases assignment_intercepted_but_slots slotSeen slotRun with
      ⟨recorded, target, property, traced, _, found, described, slotted, _⟩
    cases found
    cases described
    exact ⟨recorded, traced, slotted rfl⟩

end Watch

end Engine

end PropertyBinding
