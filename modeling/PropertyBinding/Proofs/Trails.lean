namespace PropertyBinding

/-!
# Trails of steps

A step leads from a state to the next one, and something happens in it.  A trail is a list
of stages, each a state with what happens next in it, that lead from a first state to a last
one.  What each step keeps of a state and of everything that has happened before is so
wherever a trail stands.
-/

/-- A state, and what happens next in it. -/
structure Stage (S N : Type) where
  state : S
  event : N

variable {S N : Type}

/-- What happens in some stages, in order. -/
def eventsOf (stages : List (Stage S N)) : List N :=
  stages.map (·.event)

@[simp]
theorem eventsOf_nil : eventsOf ([] : List (Stage S N)) = [] := rfl

@[simp]
theorem eventsOf_cons (stage : Stage S N) (stages : List (Stage S N)) :
    eventsOf (stage :: stages) = stage.event :: eventsOf stages := rfl

@[simp]
theorem eventsOf_append (stages rest : List (Stage S N)) :
    eventsOf (stages ++ rest) = eventsOf stages ++ eventsOf rest :=
  List.map_append

/-- Where something happens there is a stage in which it does. -/
theorem stages_of_events {stages : List (Stage S N)} {past rest : List N} {event : N}
    (split : eventsOf stages = past ++ event :: rest) :
    ∃ before state after, stages = before ++ ⟨state, event⟩ :: after ∧ eventsOf before = past := by
  rcases List.map_eq_append_iff.mp split with ⟨before, others, rfl, same, ends⟩
  rcases List.map_eq_cons_iff.mp ends with ⟨stage, after, rfl, rfl, _⟩
  exact ⟨before, stage.state, after, rfl, same⟩

/-- Whether stages lead from a state to another, each by a step to the next. -/
inductive Trail (step : S → N → S → Prop) : S → List (Stage S N) → S → Prop
  | stay (state : S) : Trail step state [] state
  | step {state next last : S} {event : N} {stages : List (Stage S N)}
      (stepped : step state event next) (rest : Trail step next stages last) :
      Trail step state (⟨state, event⟩ :: stages) last

/-- Whether a list of stages to a last state stands in a state after some of its stages. -/
def Stands (stages : List (Stage S N)) (last : S) (past : List (Stage S N)) (state : S) : Prop :=
  (∃ event rest, stages = past ++ ⟨state, event⟩ :: rest) ∨ stages = past ∧ last = state

namespace Trail

variable {step : S → N → S → Prop} {first middle last : S} {stages rest past : List (Stage S N)}
  {event : N}

theorem one (stepped : step first event last) : Trail step first [⟨first, event⟩] last :=
  .step stepped (.stay last)

theorem append (trail : Trail step first stages middle) (onward : Trail step middle rest last) :
    Trail step first (stages ++ rest) last := by
  induction trail with
  | stay => exact onward
  | step stepped _ later => exact .step stepped (later onward)

/-- A trail comes by a state between any two parts of it. -/
theorem split (trail : Trail step first (past ++ rest) last) :
    ∃ between, Trail step first past between ∧ Trail step between rest last := by
  induction past generalizing first with
  | nil => exact ⟨first, .stay first, trail⟩
  | cons stage past ih =>
      cases trail with
      | step stepped onward =>
          rcases ih onward with ⟨between, before, after⟩
          exact ⟨between, .step stepped before, after⟩

/-- What happens in a stage of a trail is a step. -/
theorem stepped (trail : Trail step first (past ++ ⟨middle, event⟩ :: rest) last) :
    ∃ next, step middle event next := by
  rcases trail.split with ⟨_, _, onward⟩
  cases onward with
  | step stepped => exact ⟨_, stepped⟩

theorem step_of_mem (trail : Trail step first stages last) {stage : Stage S N}
    (member : stage ∈ stages) : ∃ next, step stage.state stage.event next := by
  rcases List.append_of_mem member with ⟨past, rest, rfl⟩
  exact trail.stepped

/-- A trail leads to each state in which it stands. -/
theorem upTo (trail : Trail step first stages last) (stands : Stands stages last past middle) :
    Trail step first past middle := by
  rcases stands with ⟨event, rest, rfl⟩ | ⟨rfl, rfl⟩
  · rcases trail.split with ⟨between, before, after⟩
    cases after with
    | step => exact before
  · exact trail

/-- A list of stages stands where a trail along its rest begins. -/
theorem stands (trail : Trail step middle rest last) : Stands (past ++ rest) last past middle := by
  cases trail with
  | stay => exact .inr ⟨List.append_nil past, rfl⟩
  | step => exact .inl ⟨_, _, rfl⟩

/-- A trail leads on from each of its stages. -/
theorem onward (trail : Trail step first (past ++ ⟨middle, event⟩ :: rest) last) :
    Trail step middle (⟨middle, event⟩ :: rest) last := by
  rcases trail.split with ⟨_, _, onward⟩
  cases onward with
  | step stepped later => exact .step stepped later

/-- A trail leads from each state in which it stands to each later one. -/
theorem stretch {start finish : S} {part : List (Stage S N)}
    (trail : Trail step first stages last) (starts : Stands stages last past start)
    (ends : Stands stages last (past ++ part) finish) : Trail step start part finish := by
  have cut : ∃ rest, stages = past ++ rest ∧ Stands rest last [] start := by
    rcases starts with ⟨event, rest, rfl⟩ | ⟨rfl, rfl⟩
    · exact ⟨_, rfl, .inl ⟨event, rest, rfl⟩⟩
    · exact ⟨[], (List.append_nil _).symm, .inr ⟨rfl, rfl⟩⟩
  rcases cut with ⟨rest, rfl, here⟩
  rcases trail.split with ⟨between, _, onward⟩
  have begins : between = start := by
    rcases here with ⟨event, later, rfl⟩ | ⟨rfl, rfl⟩ <;> cases onward <;> rfl
  subst begins
  refine onward.upTo ?_
  rcases ends with ⟨event, later, same⟩ | ⟨same, rfl⟩
  · rw [List.append_assoc] at same
    exact .inl ⟨event, later, List.append_cancel_left same⟩
  · exact .inr ⟨List.append_cancel_left same, rfl⟩

/-- What is so in each stage of a trail is so of its steps. -/
theorem within (good : S → N → Prop) (trail : Trail step first stages last)
    (all : ∀ stage ∈ stages, good stage.state stage.event) :
    Trail (fun state event next => good state event ∧ step state event next) first stages last := by
  induction trail with
  | stay state => exact .stay state
  | step stepped _ later =>
      have parts := List.forall_mem_cons.mp all
      exact .step ⟨parts.1, stepped⟩ (later parts.2)

/-- What each step keeps is so at the end of a trail that begins with it. -/
theorem keep (holds : List N → S → Prop)
    (kept : ∀ {past state event next}, holds past state → step state event next →
      holds (past ++ [event]) next)
    {past : List N} (begun : holds past first) (trail : Trail step first stages last) :
    holds (past ++ eventsOf stages) last := by
  induction trail generalizing past with
  | stay =>
      rw [eventsOf_nil, List.append_nil]
      exact begun
  | step stepped _ later =>
      have next := later (kept begun stepped)
      rwa [List.append_assoc] at next

/-- What each step keeps of a state is so at the end of a trail that begins with it. -/
theorem preserve (holds : S → Prop)
    (kept : ∀ {state event next}, holds state → step state event next → holds next)
    (begun : holds first) (trail : Trail step first stages last) : holds last := by
  induction trail with
  | stay => exact begun
  | step stepped _ later => exact later (kept begun stepped)

end Trail

end PropertyBinding
