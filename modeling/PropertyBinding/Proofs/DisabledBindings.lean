import PropertyBinding.Proofs.Paces

namespace PropertyBinding

/-!
# Disabled bindings

A disabled binding keeps its edges, so it goes on being told of changes, perhaps late, by
an announcement that began while it was enabled.  Nothing comes of that.  Until somebody
asks to enable it, and unless it is retired, each pace of a run leaves it as it is, and none
is done for it.

What has been missed is made up for when it is enabled: a call that enables a disabled
binding with a write attempts an update at once, no other call does, and so the attempts in
a run are as many as these calls.
-/

/-! ## While a binding is disabled -/

namespace Occurrence

/-- Whether an occurrence is part of the update of a binding. -/
def serves (id : BindingId) (occurrence : Occurrence) : Prop :=
  occurrence = .begins id ∨ occurrence.worker? = some id

/-- Whether somebody asks to enable a binding, or ends it. -/
def stirs (id : BindingId) : Occurrence → Bool
  | .asks asked enabled _ => asked = id && enabled
  | .retires retired => retired = id
  | _ => false

end Occurrence

/-- Whether a binding is disabled, with no update going on, and otherwise as it was before. -/
structure Binding.Sleeps (former binding : Binding) : Prop where
  disabled : binding.enabled = false
  idle : binding.updating = false
  retired : binding.retired = former.retired
  evaluations : binding.evaluations = former.evaluations
  reads : binding.reads = former.reads
  error : binding.error? = former.error?

variable {σ : Type}

/-- A pace that does not stir a disabled binding leaves it as it is and does nothing for it. -/
theorem Pace.sleeps {world later : World σ} {occurrence : Occurrence} {id : BindingId}
    {former binding : Binding} (pace : Pace world occurrence later)
    (found : world.bindings[id]? = some binding) (sleeps : former.Sleeps binding)
    (undisturbed : occurrence.stirs id = false) (kept : world.keepsBinding id = true) :
    ¬occurrence.serves id ∧
      ∃ next, later.bindings[id]? = some next ∧ former.Sleeps next := by
  have unbegun : occurrence ≠ .begins id := by
    rintro rfl
    rcases World.found_of_opens pace.warranted with ⟨_, found', enabled, _⟩
    rw [found] at found'
    cases found'
    rw [sleeps.disabled] at enabled
    cases enabled
  have unretired : occurrence ≠ .retires id := by
    rintro rfl
    simp [Occurrence.stirs] at undisturbed
  refine ⟨?_, ?_⟩
  · rintro (begins | works)
    · exact unbegun begins
    · have marked := pace.warranted.updating works
      rw [World.isUpdating_of_found found, sleeps.idle] at marked
      cases marked
  · rcases pace.bindings id binding found with ⟨next, found', fares⟩
    refine ⟨next, found', ?disabled, fares.idle sleeps.idle unbegun,
      (fares.retired unretired).trans sleeps.retired,
      (fares.evaluations sleeps.idle).trans sleeps.evaluations, ?reads,
      (fares.error sleeps.idle).trans sleeps.error⟩
    case disabled =>
      cases switches : occurrence.switches id with
      | false => exact (fares.enabled switches).trans sleeps.disabled
      | true =>
          cases occurrence with
          | asks asked enabled write =>
              have same : asked = id := by simpa [Occurrence.switches] using switches
              subst same
              have off : enabled = false := by simpa [Occurrence.stirs] using undisturbed
              subst off
              exact fares.disabled write rfl
          | retires retired =>
              simp [Occurrence.switches] at switches
              exact absurd (congrArg _ switches) unretired
          | _ => cases switches
    case reads =>
      refine (fares.reads sleeps.idle ?_).trans sleeps.reads
      cases occurrence with
      | begins turned => simpa [Occurrence.turns] using unbegun
      | retires turned => simpa [Occurrence.turns] using unretired
      | drops dropped =>
          have unkept : world.keepsBinding dropped = false := pace.warranted
          refine Bool.eq_false_iff.mpr fun turned => ?_
          have same : dropped = id := by simpa [Occurrence.turns] using turned
          rw [same, kept] at unkept
          cases unkept
      | _ => rfl

/-- A disabled binding that nothing stirs stays as it is over a whole stretch of a run. -/
theorem Trail.sleeps {start finish : World σ} {stretch : List (Stage (World σ) Occurrence)}
    {id : BindingId} {binding : Binding} (trail : Trail Pace start stretch finish)
    (found : start.bindings[id]? = some binding) (disabled : binding.enabled = false)
    (idle : binding.updating = false)
    (undisturbed : ∀ stage ∈ stretch,
      stage.event.stirs id = false ∧ stage.state.keepsBinding id = true) :
    (∀ occurrence ∈ eventsOf stretch, ¬occurrence.serves id) ∧
      ∃ later, finish.bindings[id]? = some later ∧ binding.Sleeps later := by
  refine (trail.within (fun world occurrence =>
    occurrence.stirs id = false ∧ world.keepsBinding id = true) undisturbed).keep
      (fun past world => (∀ occurrence ∈ past, ¬occurrence.serves id) ∧
        ∃ later, world.bindings[id]? = some later ∧ binding.Sleeps later) ?_
      ⟨List.forall_mem_nil _, binding, found, disabled, idle, rfl, rfl, rfl, rfl⟩
  rintro past world occurrence next ⟨unserved, later, found, sleeps⟩ ⟨⟨quiet, kept⟩, pace⟩
  rcases pace.sleeps found sleeps quiet kept with ⟨idles, onward⟩
  refine ⟨fun each member => ?_, onward⟩
  rcases List.mem_append.mp member with earlier | last
  · exact unserved each earlier
  · exact List.mem_singleton.mp last ▸ idles

/-! ## When it is enabled -/

/-- Whether a binding is disabled and may be enabled. -/
def World.awaits (world : World σ) (id : BindingId) : Bool :=
  match world.bindings[id]? with
  | some binding => !binding.enabled && !binding.retired
  | none => false

/-- Whether a stage is a call that enables a disabled binding, with a write. -/
def wakes (id : BindingId) (stage : Stage (World σ) Occurrence) : Bool :=
  match stage.event with
  | .asks asked true true => asked = id && stage.state.awaits id
  | _ => false

/-- Whether the update of a binding is attempted because it has been enabled. -/
def Occurrence.attemptsOf (id : BindingId) : Occurrence → Bool
  | .attempts attempted => attempted = id
  | _ => false

/-- Whether a stage of a run stands in an attempt that it begins with, if it can. -/
def Attempted (world : World σ) (id : BindingId) (rest : List (Stage (World σ) Occurrence)) :
    Prop :=
  (∃ binding, world.bindings[id]? = some binding ∧ binding.enabled = true) ∧
    (world.opens id = true → ∃ later, rest = ⟨world, .begins id⟩ :: later)

/-- Whether each call that enables a binding is followed by an attempt, and nothing else is. -/
inductive Coupled : List (Stage (World σ) Occurrence) → Prop
  | nil : Coupled []
  | woken {world next : World σ} {id : BindingId} {rest : List (Stage (World σ) Occurrence)}
      (awaits : world.awaits id = true) (attempted : Attempted next id rest)
      (later : Coupled rest) :
      Coupled (⟨world, .asks id true true⟩ :: ⟨next, .attempts id⟩ :: rest)
  | plain {stage : Stage (World σ) Occurrence} {rest : List (Stage (World σ) Occurrence)}
      (asleep : ∀ id, wakes id stage = false) (unattempted : ∀ id, stage.event ≠ .attempts id)
      (later : Coupled rest) : Coupled (stage :: rest)

/-- A call wakes nobody that it does not enable with a write, or that does not wait for that. -/
theorem asleep {world : World σ} {asked : BindingId} {enabled write : Bool}
    (quiet : enabled = true → write = true → world.awaits asked = false) (id : BindingId) :
    wakes id ⟨world, .asks asked enabled write⟩ = false := by
  cases enabled with
  | false => rfl
  | true =>
      cases write with
      | false => rfl
      | true =>
          by_cases same : asked = id
          · subst same
            simp [wakes, quiet rfl rfl]
          · simp [wakes, same]

namespace Coupled

variable {tale rest past : List (Stage (World σ) Occurrence)} {world : World σ} {id : BindingId}

theorem append (first : Coupled tale) (later : Coupled rest) : Coupled (tale ++ rest) := by
  induction first with
  | nil => exact later
  | woken awaits attempted _ step =>
      refine .woken awaits ⟨attempted.1, fun opens => ?_⟩ step
      rcases attempted.2 opens with ⟨more, rfl⟩
      exact ⟨more ++ rest, rfl⟩
  | plain asleep unattempted _ step => exact .plain asleep unattempted step

theorem one {stage : Stage (World σ) Occurrence} (asleep : ∀ id, wakes id stage = false)
    (unattempted : ∀ id, stage.event ≠ .attempts id) : Coupled [stage] :=
  .plain asleep unattempted .nil

/-- There are as many attempts as calls that enable a disabled binding, with a write. -/
theorem count (coupled : Coupled tale) (id : BindingId) :
    (eventsOf tale).countP (Occurrence.attemptsOf id) = tale.countP (wakes id) := by
  induction coupled with
  | nil => rfl
  | @woken world next asked rest awaits _ _ step =>
      simp only [eventsOf_cons, List.countP_cons, step, Occurrence.attemptsOf, wakes]
      by_cases same : asked = id
      · subst same
        simp [awaits]
      · simp [same]
  | @plain stage _ asleep unattempted _ step =>
      have idle : stage.event.attemptsOf id = false := by
        cases told : stage.event with
        | attempts attempted => exact absurd told (unattempted attempted)
        | _ => rfl
      simp only [eventsOf_cons, List.countP_cons, step, asleep id, idle]

end Coupled

namespace Engine

variable {α : Type} {host : Host σ} {bound : Nat} {hand : Hand} {operation : Engine σ α}
  {world after : World σ} {tale : List (Stage (World σ) Occurrence)} {result : α}

/-- What prompts an update by enabling its binding attempts it at once. -/
theorem Prompts.coupled {id : BindingId} {flags : WriteFlags} {operation : Engine σ Unit}
    {world called : World σ} {prelude rest : List (Stage (World σ) Occurrence)}
    (prompts : Prompts id flags operation world prelude called)
    (begins : called.opens id = true → ∃ later, rest = ⟨called, .begins id⟩ :: later)
    (later : Coupled rest) : Coupled (prelude ++ rest) := by
  cases prompts with
  | update => exact later
  | @enable binding world found active disabled =>
      refine .woken ?_ ⟨?_, begins⟩ later
      · simp [World.awaits, found, active, disabled]
      · refine ⟨{ binding with enabled := true, fastPath := maySkip world binding }, ?_, rfl⟩
        rw [switched, List.getElem?_modify_eq, found]
        rfl

/-- In every run each call that enables a binding, with a write, attempts one update. -/
theorem Enacted.coupled (told : Enacted host bound hand operation world tale result after) :
    Coupled tale := by
  induction told with
  | value | get | declined => exact .nil
  | change | arrange | create | vanish | setAlias | retire | drop | capture | acknowledge
  | tend => exact .one (fun _ => rfl) nofun
  | sequence _ _ first second => exact first.append second
  | visit _ _ inner | whole _ _ inner => exact inner
  | destroy _ _ inner | intercepted _ _ _ inner | stores _ _ _ _ _ _ inner =>
      exact .plain (fun _ => rfl) nofun inner
  | store writes _ _ inner =>
      cases writes <;> exact .plain (fun _ => rfl) nofun inner
  | scope _ _ inner =>
      exact .plain (fun _ => rfl) nofun (inner.append (.one (fun _ => rfl) nofun))
  | opened prompts _ _ _ _ inner last =>
      rw [List.append_assoc]
      refine prompts.coupled (fun _ => ⟨_, rfl⟩) ?_
      exact .plain (fun _ => rfl) nofun (inner.append (.plain (fun _ => rfl) nofun last))
  | @closed _ _ _ _ _ _ prelude prompts closed =>
      rw [← List.append_nil prelude]
      refine prompts.coupled (fun opens => ?_) .nil
      rw [closed] at opens
      cases opens
  | refused prompts closed _ _ inner =>
      refine prompts.coupled (fun opens => ?_) inner
      rw [closed] at opens
      cases opens
  | denied found retired =>
      refine .one (asleep fun _ _ => ?_) nofun
      simp [World.awaits, found, retired]
  | switch found permitted unmoved =>
      refine .one (asleep fun enabled write => ?_) nofun
      simp [World.awaits, found, unmoved write enabled]

/-! ## Rest and catching up -/

section Dozing

/-! ### A panel whose binding misses a change -/

end Dozing

end Engine

end PropertyBinding
