import PropertyBinding.Proofs.ActiveWriter
import PropertyBinding.Proofs.Practice

namespace PropertyBinding

/-!
# Every failure of a binding is forwarded in its turn

A binding remembers one failure, and whether its diagnostics have it.  It marks the failure
as forwarded, or gives it up for another, before anybody is told, so a handler that asks for
what waits, or updates the binding once more, cannot have a failure a second time.  What has
happened to a binding then determines what it remembers: its docket is closed after each
step by one entry.
-/

namespace Incident

/-- Whether an incident is about the failure of a binding. -/
@[simp]
def concerns (id : BindingId) : Incident → Bool
  | .fails other _ | .succeeds other | .forwards other _ => other == id
  | .reports _ _ | .takes _ _ => false

/-- The failure that an update ended with. -/
def failed? : Incident → Option Failure
  | .fails _ failure => some failure
  | .succeeds _ | .forwards _ _ | .reports _ _ | .takes _ _ => none

/-- The failure that was forwarded. -/
def forwarded? : Incident → Option Failure
  | .forwards _ failure => some failure
  | .fails _ _ | .succeeds _ | .reports _ _ | .takes _ _ => none

end Incident

/-- What has become of the updates of a binding and of their failures. -/
def verdicts (id : BindingId) (past : List Incident) : List Incident :=
  past.filter (·.concerns id)

@[simp]
theorem verdicts_nil (id : BindingId) : verdicts id [] = [] := rfl

@[simp]
theorem verdicts_cons (id : BindingId) (incident : Incident) (past : List Incident) :
    verdicts id (incident :: past) =
      if incident.concerns id then incident :: verdicts id past else verdicts id past :=
  List.filter_cons ..

@[simp]
theorem verdicts_append (id : BindingId) (past incidents : List Incident) :
    verdicts id (past ++ incidents) = verdicts id past ++ verdicts id incidents :=
  List.filter_append ..

/-- Reports are the business of diagnostics. -/
@[simp]
theorem verdicts_filed {σ : Type} (world : World σ) (id : BindingId)
    (diagnostics : DiagnosticsId) (failure : Failure) :
    verdicts id (world.filed diagnostics failure) = [] := by
  unfold World.filed
  split <;> rfl

/--
Whether a failure is that of the latest update that failed, and no update has succeeded
since then.
-/
def Lasting (id : BindingId) (own : List Incident) (failure : Failure) : Prop :=
  ∃ before after, own = before ++ .fails id failure :: after ∧
    (∀ other, .fails id other ∉ after) ∧ .succeeds id ∉ after

section Splitting

variable {α : Type}

/-- A member of a list that grows by one is the new one or was there before. -/
theorem grown_split {list before after : List α} {last member : α}
    (split : list ++ [last] = before ++ member :: after) :
    (list = before ∧ last = member ∧ after = []) ∨
      ∃ rest, list = before ++ member :: rest ∧ after = rest ++ [last] := by
  rcases List.eq_nil_or_concat after with rfl | ⟨rest, final, rfl⟩
  · rcases List.append_inj' split rfl with ⟨same, ends⟩
    exact .inl ⟨same, List.singleton_inj.mp ends, rfl⟩
  · rw [List.concat_eq_append, ← List.cons_append, ← List.append_assoc] at split
    rcases List.append_inj' split rfl with ⟨same, ends⟩
    rw [List.concat_eq_append, List.singleton_inj.mp ends]
    exact .inr ⟨rest, same, rfl⟩

end Splitting

namespace Lasting

variable {id : BindingId} {own : List Incident} {failure other : Failure}

theorem nil : ¬ Lasting id [] failure := by
  rintro ⟨before, after, split, _⟩
  cases before <;> cases split

theorem fails : Lasting id (own ++ [.fails id other]) failure ↔ other = failure := by
  constructor
  · rintro ⟨before, after, split, unfailed, _⟩
    rcases grown_split split with ⟨_, same, _⟩ | ⟨rest, _, rfl⟩
    · cases same
      rfl
    · exact absurd (List.mem_append_right rest (List.mem_singleton_self _)) (unfailed other)
  · rintro rfl
    exact ⟨own, [], rfl, nofun, nofun⟩

theorem forwards : Lasting id (own ++ [.forwards id other]) failure ↔ Lasting id own failure := by
  constructor
  · rintro ⟨before, after, split, unfailed, unrelieved⟩
    rcases grown_split split with ⟨_, same, _⟩ | ⟨rest, same, rfl⟩
    · cases same
    · exact ⟨before, rest, same, fun failure member =>
        unfailed failure (List.mem_append_left _ member), fun member =>
        unrelieved (List.mem_append_left _ member)⟩
  · rintro ⟨before, after, rfl, unfailed, unrelieved⟩
    refine ⟨before, after ++ [.forwards id other], List.append_assoc .., fun failure member => ?_,
      fun member => ?_⟩
    · rcases List.mem_append.mp member with member | member
      · exact unfailed failure member
      · cases List.mem_singleton.mp member
    · rcases List.mem_append.mp member with member | member
      · exact unrelieved member
      · cases List.mem_singleton.mp member

theorem succeeds : ¬ Lasting id (own ++ [.succeeds id]) failure := by
  rintro ⟨before, after, split, _, unrelieved⟩
  rcases grown_split split with ⟨_, same, _⟩ | ⟨rest, _, rfl⟩
  · cases same
  · exact unrelieved (List.mem_append_right rest (List.mem_singleton_self _))

end Lasting

/--
What a binding remembers after what has happened to it: the latest failure, and the one
that waits to be forwarded.  A failure may be cleared while it waits only where failures
are deferred.
-/
inductive Docket (id : BindingId) (deferred : Bool) :
    List Incident → Option Failure → Option Failure → Prop
  | clear : Docket id deferred [] none none
  | fail {own : List Incident} {latest? : Option Failure} (failure : Failure)
      (docket : Docket id deferred own latest? none) :
      Docket id deferred (own ++ [.fails id failure]) (some failure) (some failure)
  | forward {own : List Incident} {latest? : Option Failure} {failure : Failure}
      (docket : Docket id deferred own latest? (some failure)) :
      Docket id deferred (own ++ [.forwards id failure]) latest? none
  | succeed {own : List Incident} {latest? waiting? : Option Failure}
      (docket : Docket id deferred own latest? waiting?)
      (settled : deferred = true ∨ waiting? = none) :
      Docket id deferred (own ++ [.succeeds id]) none none

namespace Docket

variable {id : BindingId} {deferred : Bool} {own before after : List Incident}
  {latest? waiting? : Option Failure} {failure : Failure}

/-- What is remembered is the failure of the latest update, unless one succeeded since. -/
theorem latest (docket : Docket id deferred own latest? waiting?) :
    latest? = some failure ↔ Lasting id own failure := by
  induction docket with
  | clear => exact ⟨nofun, fun lasting => absurd lasting Lasting.nil⟩
  | fail other => exact Option.some_inj.trans Lasting.fails.symm
  | forward _ ih => exact ih.trans Lasting.forwards.symm
  | succeed => exact ⟨nofun, fun lasting => absurd lasting Lasting.succeeds⟩

/-- Nothing has happened since the failure that waits. -/
theorem waiting (docket : Docket id deferred own latest? (some failure)) :
    ∃ earlier, own = earlier ++ [.fails id failure] := by
  cases docket with
  | fail => exact ⟨_, rfl⟩

/-- A failure is forwarded next, or waits, or was cleared while it waited. -/
theorem followed (docket : Docket id deferred own latest? waiting?)
    (split : own = before ++ .fails id failure :: after) :
    after.head? = some (.forwards id failure) ∨
      (deferred = true ∧ after.head? = some (.succeeds id)) ∨
      (after = [] ∧ waiting? = some failure) := by
  -- what follows a failure already keeps its place when more happens
  have kept : ∀ {rest : List Incident} {last next : Incident}, rest.head? = some next →
      (rest ++ [last]).head? = some next := by
    intro rest last next found
    rw [List.head?_append, found, Option.some_or]
  induction docket generalizing after with
  | clear => exact absurd split (by simp)
  | fail other _ ih =>
      rcases grown_split split with ⟨_, same, rfl⟩ | ⟨rest, earlier, rfl⟩
      · cases same
        exact .inr (.inr ⟨rfl, rfl⟩)
      · rcases ih earlier with found | ⟨deferred, found⟩ | ⟨_, waits⟩
        · exact .inl (kept found)
        · exact .inr (.inl ⟨deferred, kept found⟩)
        · cases waits
  | forward _ ih =>
      rcases grown_split split with ⟨_, same, _⟩ | ⟨rest, earlier, rfl⟩
      · cases same
      · rcases ih earlier with found | ⟨deferred, found⟩ | ⟨rfl, waits⟩
        · exact .inl (kept found)
        · exact .inr (.inl ⟨deferred, kept found⟩)
        · cases waits
          exact .inl rfl
  | succeed _ settled ih =>
      rcases grown_split split with ⟨_, same, _⟩ | ⟨rest, earlier, rfl⟩
      · cases same
      · rcases ih earlier with found | ⟨deferred, found⟩ | ⟨rfl, waits⟩
        · exact .inl (kept found)
        · exact .inr (.inl ⟨deferred, kept found⟩)
        · rcases settled with deferred | relieved
          · exact .inr (.inl ⟨deferred, rfl⟩)
          · rw [relieved] at waits
            cases waits

/-- What was forwarded is what failed without what waits, but for what was cleared. -/
theorem ordered (docket : Docket id deferred own latest? waiting?) :
    ∃ settled, own.filterMap (·.failed?) = settled ++ waiting?.toList ∧
      (own.filterMap (·.forwarded?)).Sublist settled ∧
      (deferred = false → own.filterMap (·.forwarded?) = settled) := by
  induction docket with
  | clear => exact ⟨[], rfl, .slnil, fun _ => rfl⟩
  | fail failure _ ih =>
      rcases ih with ⟨settled, failed, ordered, atOnce⟩
      refine ⟨settled, ?_, ?_, fun immediate => ?_⟩
      · rw [List.filterMap_append, failed, Option.toList_none, List.append_nil]
        rfl
      · rw [List.filterMap_append]
        exact (List.append_nil _).symm ▸ ordered
      · rw [List.filterMap_append, atOnce immediate]
        exact List.append_nil _
  | @forward _ _ failure _ ih =>
      rcases ih with ⟨settled, failed, ordered, atOnce⟩
      refine ⟨settled ++ [failure], ?_, ?_, fun immediate => ?_⟩
      · rw [List.filterMap_append, failed]
        rfl
      · rw [List.filterMap_append]
        exact ordered.append (.refl [failure])
      · rw [List.filterMap_append, atOnce immediate]
        rfl
  | @succeed _ _ waiting? _ free ih =>
      rcases ih with ⟨settled, failed, ordered, atOnce⟩
      refine ⟨settled ++ waiting?.toList, ?_, ?_, fun immediate => ?_⟩
      · rw [List.filterMap_append, failed]
        rfl
      · rw [List.filterMap_append]
        exact (List.append_nil _).symm ▸ ordered.trans (List.sublist_append_left ..)
      · rcases free with deferred | rfl
        · rw [immediate] at deferred
          cases deferred
        · rw [List.filterMap_append, atOnce immediate]
          rfl

end Docket

namespace Binding

/-- Whether the docket of a binding is in order. -/
structure Docketed (binding : Binding) (id : BindingId) (own : List Incident) : Prop where
  docket : Docket id binding.context.config.deferErrors own binding.error? binding.unreported?
  /-- Nothing waits where failures are not deferred. -/
  immediate : binding.context.config.deferErrors = false → binding.unreported? = none

variable {former binding : Binding} {id : BindingId} {own : List Incident} {failure : Failure}

/-- A binding with the same failure has the same docket. -/
theorem Docketed.same (docketed : former.Docketed id own) (same : former.SameFailure binding) :
    binding.Docketed id own := by
  have docket := docketed.docket
  have immediate := docketed.immediate
  refine ⟨?_, ?_⟩
  · rw [error?, unreported?, same.1, same.2]
    exact docket
  · rw [unreported?, same.1, same.2]
    exact immediate

theorem docketed_nil (clear : binding.pending? = none) : binding.Docketed id [] where
  docket := by
    rw [error?, unreported?, clear]
    exact .clear
  immediate _ := by
    rw [unreported?, clear]
    rfl

theorem Docketed.succeed (docketed : former.Docketed id own) :
    Docketed { former with pending? := none } id (own ++ [.succeeds id]) where
  docket := docketed.docket.succeed (by
    cases deferred : former.context.config.deferErrors with
    | true => exact .inl rfl
    | false => exact .inr (docketed.immediate deferred))
  immediate _ := rfl

theorem Docketed.failAtOnce (docketed : former.Docketed id own)
    (atOnce : former.context.config.deferErrors = false) (failure : Failure) :
    (former.withPending failure true).Docketed id
      (own ++ [.fails id failure, .forwards id failure]) where
  docket := by
    have free := docketed.docket
    rw [docketed.immediate atOnce] at free
    rw [List.append_cons]
    exact (free.fail failure).forward
  immediate _ := rfl

theorem Docketed.failLater (docketed : former.Docketed id own)
    (deferred : former.context.config.deferErrors = true) (free : former.unreported? = none)
    (failure : Failure) :
    (former.withPending failure false).Docketed id (own ++ [.fails id failure]) where
  docket := (free ▸ docketed.docket).fail failure
  immediate atOnce := by
    rw [show (former.withPending failure false).context = former.context from rfl, deferred]
      at atOnce
    cases atOnce

theorem Docketed.forward (docketed : former.Docketed id own)
    (waits : former.unreported? = some failure) :
    (former.withPending failure true).Docketed id (own ++ [.forwards id failure]) where
  docket := by
    have docket := docketed.docket
    rw [waits, error?_of_unreported waits] at docket
    exact docket.forward
  immediate _ := rfl

/-- A failure takes the place of one that waits as if that one had been asked for before. -/
theorem Docketed.failInstead (docketed : former.Docketed id own) {earlier : Failure}
    (deferred : former.context.config.deferErrors = true)
    (waits : former.unreported? = some earlier) (failure : Failure) :
    (former.withPending failure false).Docketed id
      (own ++ [.forwards id earlier, .fails id failure]) := by
  rw [List.append_cons]
  exact (docketed.forward waits).failLater deferred rfl failure

end Binding

namespace World

variable {σ : Type}

/-- Whether the dockets of all bindings are in order after incidents. -/
def Docketed (past : List Incident) (world : World σ) : Prop :=
  Booked (fun id binding own => binding.Docketed id own) [] world.bindings
    fun id => verdicts id past

namespace Docketed

variable {world later : World σ} {past incidents : List Incident}

/-- Work that leaves failures alone keeps dockets in order, and so do incidents elsewhere. -/
theorem aloof (docketed : world.Docketed past)
    (grows : Grows Binding.SameFailure (fun binding => binding.pending? = none)
      world.bindings later.bindings)
    (elsewhere : ∀ id, verdicts id incidents = []) : later.Docketed (past ++ incidents) := by
  refine docketed.grow grows (fun _ _ _ docketed same => docketed.same same)
    (fun _ _ clear => Binding.docketed_nil clear) fun id => ?_
  rw [verdicts_append, elsewhere, List.append_nil]

/-- Entries in the docket of one binding keep all in order. -/
theorem entered (docketed : world.Docketed past) {id : BindingId} {binding : Binding}
    {change : Binding → Binding} {entries : List Incident}
    (found : world.bindings[id]? = some binding)
    (bindings : later.bindings = world.bindings.modify id change)
    (entered : verdicts id incidents = entries)
    (elsewhere : ∀ other, id ≠ other → verdicts other incidents = [])
    (changed : ∀ own, binding.Docketed id own → (change binding).Docketed id (own ++ entries)) :
    later.Docketed (past ++ incidents) := by
  refine docketed.change id change (fun other => ?_) (fun former present docketed => ?_)
    fun other apart => ?_
  · rw [bindings]
    exact List.getElem?_modify ..
  · rw [found] at present
    cases present
    rw [verdicts_append, entered]
    exact changed _ docketed
  · have apart : id ≠ other := by
      intro same
      rw [apart same] at found
      cases found
    rw [verdicts_append, elsewhere other apart, List.append_nil]

end Docketed

end World

namespace Engine

variable {σ α : Type} {world after : World σ} {incidents past : List Incident} {result : α}
  {operation : Engine σ α} {rest : Engine σ Unit}

/-- Every turn keeps the dockets of all bindings in order. -/
theorem Turn.docketed (turn : Turn operation world incidents result after rest)
    (docketed : world.Docketed past) : after.Docketed (past ++ incidents) := by
  have same : Grows Binding.SameFailure (fun binding => binding.pending? = none)
      world.bindings world.bindings := .refl (fun _ => ⟨rfl, rfl⟩) _
  -- a report keeps bindings as they are
  have noted : ∀ (world : World σ) (id : DiagnosticsId) (failure : Failure),
      (world.noted id failure).bindings = world.bindings :=
    fun world id failure => (world.noted_frame id failure).2.2.1
  cases turn with
  | still => exact docketed.aloof same fun _ => rfl
  | work uneventful steps =>
      exact docketed.aloof (uneventful.aloof steps).bindings fun _ => rfl
  | report _ id failure =>
      exact docketed.aloof (noted world id failure ▸ same) fun _ => verdicts_filed ..
  | take => exact docketed.aloof same fun _ => rfl
  | resize _ id capacity =>
      exact docketed.aloof same fun _ => rfl
  | succeed found =>
      exact docketed.entered found rfl (by simp) (fun _ apart => by simp [apart])
        fun _ docketed => docketed.succeed
  | failAtOnce failure found atOnce =>
      exact docketed.entered found (noted _ _ _) (by simp) (fun _ apart => by simp [apart])
        fun _ docketed => docketed.failAtOnce atOnce failure
  | failLater failure found deferred free =>
      exact docketed.entered found rfl (by simp) (fun _ apart => by simp [apart])
        fun _ docketed => docketed.failLater deferred free failure
  | failInstead failure found deferred waits =>
      exact docketed.entered found (noted _ _ _) (by simp) (fun _ apart => by simp [apart])
        fun _ docketed => docketed.failInstead deferred waits failure
  | flush found waits =>
      exact docketed.entered found (noted _ _ _) (by simp) (fun _ apart => by simp [apart])
        fun _ docketed => docketed.forward waits

/--
Whether each failure that is forwarded at a moment is reported there and then to the
diagnostics of its binding.
-/
def Instant.Delivers (instant : Instant σ) : Prop :=
  ∀ id failure, .forwards id failure ∈ instant.incidents →
    ∃ binding, instant.world.bindings[id]? = some binding ∧
      .forwards id failure :: instant.world.filed binding.context.diagnostics failure <:+:
        instant.incidents

/-- Reports forward nothing more. -/
theorem forwards_not_mem_filed (world : World σ) (id : BindingId) (failure other : Failure)
    (diagnostics : DiagnosticsId) : .forwards id failure ∉ world.filed diagnostics other := by
  unfold World.filed
  split <;> simp

theorem Turn.delivers (turn : Turn operation world incidents result after rest) :
    Instant.Delivers ⟨world, incidents⟩ := by
  intro id failure member
  cases turn with
  | still | work | take | resize | succeed | failLater => simp at member
  | report => exact absurd member (forwards_not_mem_filed world _ _ _ _)
  | failAtOnce failure found =>
      simp only [List.mem_cons, forwards_not_mem_filed, reduceCtorEq, Incident.forwards.injEq,
        false_or, or_false] at member
      rcases member with ⟨rfl, rfl⟩
      exact ⟨_, found, List.infix_cons List.infix_rfl⟩
  | failInstead failure found =>
      simp only [List.mem_cons, List.mem_append, forwards_not_mem_filed, reduceCtorEq,
        Incident.forwards.injEq, List.not_mem_nil, or_false] at member
      rcases member with ⟨rfl, rfl⟩
      exact ⟨_, found, (List.prefix_append ..).isInfix⟩
  | flush found =>
      simp only [List.mem_cons, forwards_not_mem_filed, Incident.forwards.injEq,
        or_false] at member
      rcases member with ⟨rfl, rfl⟩
      exact ⟨_, found, List.infix_rfl⟩

section Insistent

/-! ## A handler that asks for what waits -/

end Insistent

end Engine

end PropertyBinding
