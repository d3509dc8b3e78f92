import PropertyBinding.Proofs.Returning

namespace PropertyBinding

/-!
# Propagation returns

An update marks its binding until it is over, and a marked binding refuses to
be updated again.  So each update inside of another has one binding less to
start on, and the number of bindings without a mark is what the nesting of
announcements, updates and writes uses up.  No rank of the bindings and no
progress of their values is needed: the dependencies may be cyclic and may
change with every evaluation.

The frames of a run are the bindings whose updates have passed all checks and
are not over.  `Outside.watched` is the code of a host under a watch that cuts
the run off as soon as a binding has two frames at once.
-/

/-- The world with one more holder of its graph. -/
def World.retained {σ : Type} (world : World σ) : World σ :=
  { world with graphHolders := world.graphHolders + 1 }

/-- The world in which an update of a binding is going on. -/
def World.marked {σ : Type} (world : World σ) (id : BindingId) : World σ :=
  { world with bindings := world.bindings.modify id fun binding => { binding with updating := true } }

/-- The number of bindings that no update is going on of. -/
def World.idle {σ : Type} (world : World σ) : Nat :=
  world.bindings.countP fun binding => !binding.updating

/-- Whether an update of a binding would pass all checks. -/
def World.opens {σ : Type} (world : World σ) (id : BindingId) : Bool :=
  match world.bindings[id]? with
  | some binding =>
      world.hasGraph && binding.enabled && !binding.retired
        && world.graph.isAlive binding.target.object && !binding.updating
  | none => false

/-- The frames of a run after a binding is called. -/
def World.framesAfter {σ : Type} (world : World σ) (id : BindingId) (frames : List BindingId) :
    List BindingId :=
  if world.opens id then id :: frames else frames

/-- The world in which a binding has been enabled or disabled. -/
def World.withEnabled {σ : Type} (world : World σ) (id : BindingId) (enabled : Bool) : World σ :=
  { world with bindings := world.bindings.modify id fun binding => { binding with enabled := enabled } }

/-- The frames after a binding is enabled or disabled: with flags, what becomes enabled is updated. -/
def World.framesEnabled {σ : Type} (world : World σ) (id : BindingId) (enabled : Bool)
    (flags? : Option WriteFlags) (frames : List BindingId) : List BindingId :=
  match world.bindings[id]?, flags? with
  | some binding, some _ =>
      if enabled && !binding.enabled then (world.withEnabled id enabled).framesAfter id frames
      else frames
  | _, _ => frames

/--
The code of a host under a watch, which knows the frames.  A run has no result
from where a binding gets a second frame, or more frames are open than there
are bindings.
-/
def Outside.watched {σ : Type} (host : Host σ) : Nat → List BindingId → Outside σ
  | 0, _ => within host 0
  | bound + 1, frames =>
      { within host (bound + 1) with
        announce := fun callback world =>
          match callback with
          | .host id => host.announce id (watched host bound frames) world
          | .binding id =>
              let opened := world.framesAfter id frames
              if opened.Nodup ∧ opened.length ≤ world.bindings.length then
                Engine.followChange id (watched host bound opened) world
              else
                none }

namespace Kin

variable {σ : Type} {start world : World σ}

theorem mark (kin : Kin start world) (id : BindingId) :
    Kin (start.marked id) (world.marked id) := by
  refine ⟨kin.holders, kin.shape, ⟨kin.closed.graph, kin.closed.channels, kin.closed.handlers⟩,
    by simpa [World.marked] using kin.count, ?_⟩
  intro other binding found
  simp only [World.marked, List.getElem?_modify] at found ⊢
  rcases Option.map_eq_some_iff.mp found with ⟨old, present, rfl⟩
  rcases kin.bindings other old present with ⟨former, known, continues⟩
  refine ⟨_, by rw [known]; rfl, ?_⟩
  by_cases same : id = other
  · simp only [same, if_true]
    exact ⟨rfl, continues.call, continues.mayCall⟩
  · simpa only [same, if_false] using continues

theorem unmark {id : BindingId} {binding : Binding} (kin : Kin (start.marked id) world)
    (found : start.bindings[id]? = some binding) (unmarked : binding.updating = false) :
    Kin start { world with
      bindings := world.bindings.modify id fun binding => { binding with updating := false } } := by
  refine ⟨kin.holders, kin.shape, ⟨kin.closed.graph, kin.closed.channels, kin.closed.handlers⟩,
    by simpa [World.marked] using kin.count, ?_⟩
  intro other changed present
  simp only [List.getElem?_modify] at present
  rcases Option.map_eq_some_iff.mp present with ⟨old, located, rfl⟩
  rcases kin.bindings other old located with ⟨former, known, continues⟩
  simp only [World.marked, List.getElem?_modify] at known
  rcases Option.map_eq_some_iff.mp known with ⟨first, origin, rfl⟩
  refine ⟨first, origin, ?_⟩
  by_cases same : id = other
  · subst same
    rw [found] at origin
    cases origin
    simp only [if_true] at continues ⊢
    exact ⟨unmarked.symm, continues.call, continues.mayCall⟩
  · simpa only [same, if_false] using continues

theorem retain (kin : Kin start world) : Kin start.retained world.retained :=
  ⟨congrArg (· + 1) kin.holders, kin.shape,
    ⟨kin.closed.graph, kin.closed.channels, kin.closed.handlers⟩, kin.count, kin.bindings⟩

theorem release (kin : Kin start.retained world) :
    Kin start { world with graphHolders := world.graphHolders - 1 } :=
  ⟨by simp [kin.holders, World.retained], kin.shape,
    ⟨kin.closed.graph, kin.closed.channels, kin.closed.handlers⟩, kin.count, kin.bindings⟩

/-- Compiling source text leaves one function of those that it may compile to. -/
theorem compile {id : BindingId} {compiled : Except Script.CompileError Function}
    (kin : Kin start world)
    (may : ∀ callee former, compiled = .ok callee → start.bindings[id]? = some former →
      former.MayCall callee) :
    Kin start { world with
      bindings := world.bindings.modify id fun binding =>
        { binding with compiled? := some compiled } } := by
  refine ⟨kin.holders, kin.shape, ⟨kin.closed.graph, kin.closed.channels, kin.closed.handlers⟩,
    by simpa using kin.count, ?_⟩
  intro other binding found
  simp only [List.getElem?_modify] at found
  rcases Option.map_eq_some_iff.mp found with ⟨old, present, rfl⟩
  rcases kin.bindings other old present with ⟨former, known, continues⟩
  refine ⟨former, known, ?_⟩
  by_cases same : id = other
  · subst same
    simp only [if_true]
    refine ⟨continues.updating, continues.call, fun callee called => ?_⟩
    cases written : old.expression with
    | function callee' =>
        exact continues.mayCall callee (by simpa [Binding.MayCall, written] using called)
    | source source =>
        cases compiled with
        | error error => simp [Binding.MayCall, written] at called
        | ok known' =>
            simp only [Binding.MayCall, written] at called
            subst called
            exact may _ former rfl known
  · simpa only [same, if_false] using continues

end Kin

namespace Engine

variable {σ α : Type} {foreign : Surroundings σ} {host : Host σ} {start world : World σ}

/-- A run as it is, or under a watch that knows its frames. -/
def nested (host : Host σ) (frames : List BindingId) : Surroundings σ :=
  fun bound outside => outside = Outside.within host bound ∨ outside = Outside.watched host bound frames

theorem call_nested {frames : List BindingId} {bound : Nat} {outside : Outside σ}
    (given : nested host frames bound outside) : outside.call = (Outside.within host bound).call := by
  rcases given with rfl | rfl
  · rfl
  · cases bound <;> rfl

/-- The frames of a run are of different bindings, and all of them are marked. -/
structure Underway (start : World σ) (frames : List BindingId) : Prop where
  nodup : frames.Nodup
  marked : ∀ id ∈ frames, ∃ binding, start.bindings[id]? = some binding ∧ binding.updating = true

/-- A binding that passes the checks has no mark. -/
theorem unmarked_of_opens {id : BindingId} (kin : Kin start world) (opens : world.opens id) :
    ∃ former, start.bindings[id]? = some former ∧ former.updating = false := by
  unfold World.opens at opens
  cases found : world.bindings[id]? with
  | none => simp [found] at opens
  | some binding =>
      rcases kin.bindings id binding found with ⟨former, known, continues⟩
      refine ⟨former, known, ?_⟩
      rw [← continues.updating]
      simp only [found, Bool.and_eq_true] at opens
      simpa using opens.2

/-- The watch lets every call of a binding pass. -/
theorem framesAfter_admitted {frames : List BindingId} (underway : Underway start frames)
    (kin : Kin start world) (id : BindingId) :
    (world.framesAfter id frames).Nodup ∧
      (world.framesAfter id frames).length ≤ world.bindings.length := by
  have places : ∀ (ids : List BindingId), ids.Nodup →
      (∀ id ∈ ids, ∃ binding, start.bindings[id]? = some binding) →
      ids.length ≤ world.bindings.length := by
    intro ids nodup known
    have within : ids ⊆ List.range world.bindings.length := by
      intro id member
      rcases known id member with ⟨binding, found⟩
      rw [kin.count]
      exact List.mem_range.mpr (List.getElem?_eq_some_iff.mp found).1
    simpa using nodup.length_le_of_subset within
  have former : ∀ id ∈ frames, ∃ binding, start.bindings[id]? = some binding := by
    intro id member
    rcases underway.marked id member with ⟨binding, found, _⟩
    exact ⟨binding, found⟩
  unfold World.framesAfter
  by_cases opens : world.opens id = true
  · rw [if_pos opens]
    rcases unmarked_of_opens kin opens with ⟨binding, found, unmarked⟩
    have fresh : id ∉ frames := by
      intro member
      rcases underway.marked id member with ⟨other, known, marked⟩
      rw [found] at known
      cases known
      rw [unmarked] at marked
      cases marked
    have nodup : (id :: frames).Nodup := List.nodup_cons.mpr ⟨fresh, underway.nodup⟩
    refine ⟨nodup, places _ nodup ?_⟩
    intro other member
    rcases List.mem_cons.mp member with rfl | member
    · exact ⟨binding, found⟩
    · exact former other member
  · rw [if_neg opens]
    exact ⟨underway.nodup, places _ underway.nodup former⟩

/-! ## Marks and holders -/

theorem countP_modify_lt {items : List α} {place : Nat} {item : α} {test : α → Bool}
    {change : α → α} (found : items[place]? = some item) (before : test item = true)
    (after : test (change item) = false) :
    (items.modify place change).countP test < items.countP test := by
  induction items generalizing place with
  | nil => simp at found
  | cons head rest step =>
      cases place with
      | zero =>
          simp only [List.getElem?_cons_zero, Option.some.injEq] at found
          subst found
          simp [before, after]
      | succ place =>
          have fewer := step (by simpa using found)
          simp only [List.modify_succ_cons, List.countP_cons]
          omega

/-- An update leaves fewer bindings to start on. -/
theorem idle_marked_lt {id : BindingId} {binding : Binding}
    (found : start.bindings[id]? = some binding) (unmarked : binding.updating = false) :
    (start.marked id).idle < start.idle :=
  countP_modify_lt found (by simp [unmarked]) rfl

theorem Underway.retained {frames : List BindingId} (underway : Underway start frames) :
    Underway start.retained frames :=
  ⟨underway.nodup, underway.marked⟩

theorem Underway.cons {frames : List BindingId} {id : BindingId} {binding : Binding}
    (underway : Underway start frames) (found : start.bindings[id]? = some binding)
    (unmarked : binding.updating = false) : Underway (start.marked id) (id :: frames) := by
  have here : (start.marked id).bindings[id]? = some { binding with updating := true } := by
    simp [World.marked, found]
  refine ⟨List.nodup_cons.mpr ⟨?_, underway.nodup⟩, ?_⟩
  · intro member
    rcases underway.marked id member with ⟨other, known, isMarked⟩
    rw [found] at known
    cases known
    rw [unmarked] at isMarked
    cases isMarked
  · intro other member
    rcases List.mem_cons.mp member with rfl | member
    · exact ⟨_, here, rfl⟩
    · by_cases same : id = other
      · subst same
        exact ⟨_, here, rfl⟩
      · rcases underway.marked other member with ⟨former, known, isMarked⟩
        exact ⟨former, by simpa [World.marked, List.getElem?_modify, same] using known, isMarked⟩

/-- An operation keeps the graph while it runs, and does not let it go if others hold it. -/
theorem keepingGraph_within {operation : Engine σ α} (positive : 0 < start.graphHolders)
    (inner : Within foreign start.retained operation) :
    Within foreign start (keepingGraph operation) := by
  intro world kin
  refine .bind (fun _ after => Kin start.retained after) (.change kin.retain) fun _ after held => ?_
  refine .bind _ (inner after held) fun result last reached => ?_
  have holders : last.graphHolders = start.graphHolders + 1 := reached.holders
  refine .bind (fun _ after => Kin start after) ?_ fun _ _ reached => .value reached
  refine .bind (fun _ after => Kin start after ∧ after.hasGraph)
    (.change ⟨reached.release, ?_⟩) ?_
  · simpa [World.hasGraph, holders] using positive
  · rintro _ after ⟨reached, stays⟩
    refine .look ?_
    rw [stays]
    exact .value reached

/-! ## Evaluation -/

/-- Every function that a binding may call does nothing but read, in all graphs of one shape. -/
def ExpressionsRead (host : Host σ) (start : World σ) : Prop :=
  ∀ (id : BindingId) (binding : Binding), start.bindings[id]? = some binding →
    ∀ callee, binding.MayCall callee →
      ∀ world : World σ, start.graph.SameShape world.graph →
        ∃ reads result, Evaluates host callee binding.call world reads result

theorem ExpressionsRead.retained (expressions : ExpressionsRead host start) :
    ExpressionsRead host start.retained :=
  expressions

theorem ExpressionsRead.marked (expressions : ExpressionsRead host start) (id : BindingId) :
    ExpressionsRead host (start.marked id) := by
  intro other binding found
  simp only [World.marked, List.getElem?_modify] at found
  rcases Option.map_eq_some_iff.mp found with ⟨former, known, rfl⟩
  by_cases same : id = other
  · simp only [same, if_true]
    exact expressions other former known
  · simp only [same, if_false]
    exact expressions other former known

theorem withCollector_within {operation : Engine σ α} (collector? : Option Collector)
    (inner : Within foreign start operation) :
    Within foreign start (withCollector collector? operation) := by
  intro world kin
  refine .look ?_
  refine .bind (fun _ after => Kin start after) (.change (kin.congr rfl rfl rfl rfl rfl)) ?_
  intro _ after reached
  refine .bind _ (inner after reached) fun result last reached => ?_
  refine .bind (fun _ after => Kin start after) (.change (reached.congr rfl rfl rfl rfl rfl)) ?_
  exact fun _ _ reached => .value reached

theorem invoke_within {frames : List BindingId} {callee : Function} {context : Script.CallContext}
    (reads : ∀ world : World σ, start.graph.SameShape world.graph →
      ∃ reads result, Evaluates host callee context world reads result) :
    Within (nested host frames) start (Script.Evaluation.invoke callee context).run := by
  intro world kin
  rcases reads world kin.shape with ⟨reads, result, identities, state, bound, run⟩
  have reached : Kin start
      { world.captureAll reads with identities := identities, host := state } :=
    (kin.captureAll reads).congr rfl rfl rfl rfl rfl
  refine ⟨result, _, ⟨bound, fun larger enough outside given => ?_⟩, reached⟩
  show outside.call callee context world = _
  rw [call_nested given]
  exact run larger enough _ rfl

theorem functionOf_leads {id : BindingId} {binding former : Binding} (kin : Kin start world)
    (known : start.bindings[id]? = some former)
    (mayCall : ∀ callee, binding.MayCall callee → former.MayCall callee) :
    Leads foreign (functionOf id binding) world fun result after =>
      Kin start after ∧ ∀ callee, result = .ok callee → former.MayCall callee := by
  unfold functionOf
  cases written : binding.expression with
  | function callee =>
      refine .value ⟨kin, fun _ same => ?_⟩
      cases same
      exact mayCall _ (by simp [Binding.MayCall, written])
  | source source =>
      cases found : binding.compiled? with
      | some compiled =>
          refine .value ⟨kin, fun callee same => ?_⟩
          subst same
          exact mayCall _ (by simp [Binding.MayCall, written, found])
      | none =>
          have compiles : Leads foreign (Script.Evaluation.compile source).run world
              fun result after => Kin start after ∧
                ∀ callee, result = .ok callee → former.MayCall callee := by
            unfold Script.Evaluation.compile
            cases answered : source.compile with
            | error error => exact .value ⟨kin, fun _ same => by cases same⟩
            | ok compiled =>
                refine .of_steps (fun _ => rfl) ⟨kin.congr rfl rfl rfl rfl rfl, fun _ same => ?_⟩
                cases same
                apply mayCall
                simp only [Binding.MayCall, written, found]
                exact ⟨compiled, world.identities, answered, rfl⟩
          refine .bind _ compiles ?_
          rintro result after ⟨reached, may⟩
          refine .bind (fun _ after => Kin start after) (.change (reached.compile ?_)) ?_
          · intro callee other same found
            rw [known] at found
            cases found
            exact may callee same
          · exact fun _ _ reached => .value ⟨reached, may⟩

theorem locationOf_within (id : BindingId) : Within foreign start (locationOf id) :=
  .bind (binding?_within id) fun _ => .value _

theorem evaluateBinding_within {frames : List BindingId} {id : BindingId}
    {binding former : Binding} (expressions : ExpressionsRead host start)
    (known : start.bindings[id]? = some former) (call : binding.call = former.call)
    (mayCall : ∀ callee, binding.MayCall callee → former.MayCall callee) :
    Within (nested host frames) start (evaluateBinding id binding) := by
  intro world kin
  refine .bind _ (functionOf_leads kin known mayCall) ?_
  rintro result after ⟨reached, may⟩
  cases result with
  | error error => exact .value reached
  | ok callee =>
      have reads := expressions id former known callee (may callee rfl)
      rw [← call] at reads
      have invoked : Within (nested host frames) start
          (Script.Evaluation.invoke callee binding.call).run := invoke_within reads
      refine .bind _ (withCollector_within _ invoked after reached) fun result last reached => ?_
      cases result with
      | ok value => exact .value reached
      | error error =>
          exact .bind _ (locationOf_within id last reached) fun _ _ reached => .value reached

/-! ## Updates -/

theorem settle_within (id : BindingId) : Within foreign start (settle id) :=
  .look fun world kin => by
    by_cases kept : (!world.keepsBinding id) = true
    · rw [if_pos kept]
      exact clearReads_within id world kin
    · rw [if_neg kept]
      exact .value kin

theorem finishUpdate_within (calls : CallsWithin foreign start) (id : BindingId)
    (binding : Binding) (result : Except Failure Boxed) (flags : WriteFlags) :
    Within foreign start (finishUpdate id binding result flags) := by
  cases result with
  | error failure => exact recordFailure_within id failure
  | ok value =>
      refine .bind (binding?_within id) fun found => .branch (fun _ => .value ()) fun _ => ?_
      refine .bind (storeResult_within calls id binding value flags) fun outcome => ?_
      have failed : ∀ error, Within foreign start (do
          if (← graph).isAlive binding.target.object then
            recordFailure id (← writeFailure id binding error)) := by
        intro error
        refine .bind .seen fun _ => .branch (fun _ => ?_) fun _ => .value ()
        refine .bind ?_ fun failure => recordFailure_within id failure
        exact .bind (locationOf_within id) fun _ => .bind .seen fun _ => .value _
      cases outcome with
      | ok _ => exact modifyBinding_within id fun _ => ⟨rfl, rfl, fun _ may => may⟩
      | error error =>
          cases error with
          | targetDestroyed => exact .value ()
          | _ => exact failed _

/-- An update whose checks have been made returns, if the calls inside of it do. -/
theorem runUpdate_within {frames : List BindingId} {id : BindingId} {binding former : Binding}
    (expressions : ExpressionsRead host start) (known : start.bindings[id]? = some former)
    (unmarked : former.updating = false) (continues : former.Continues binding)
    (calls : CallsWithin (nested host frames) (start.marked id)) (flags : WriteFlags) :
    Within (nested host frames) start (runUpdate id binding flags) := by
  have knownMarked : (start.marked id).bindings[id]? = some { former with updating := true } := by
    simp [World.marked, known]
  have evaluates : Within (nested host frames) (start.marked id) (evaluateBinding id binding) :=
    evaluateBinding_within (expressions.marked id) knownMarked continues.call continues.mayCall
  have counts : Within (nested host frames) (start.marked id)
      (modifyBinding id fun binding => { binding with evaluations := binding.evaluations + 1 }) :=
    modifyBinding_within id fun _ => ⟨rfl, rfl, fun _ may => may⟩
  have ends : ∀ last, Kin (start.marked id) last → Leads (nested host frames) (do
      modifyBinding id fun binding => { binding with updating := false }
      settle id) last fun _ after => Kin start after := by
    intro last marked
    refine .bind (fun _ after => Kin start after) (.change (marked.unmark known unmarked)) ?_
    exact fun _ after reached => settle_within id after reached
  intro world kin
  refine .bind (fun _ after => Kin (start.marked id) after) (.change (kin.mark id)) ?_
  intro _ after marked
  refine .bind _ (clearReads_within id after marked) fun _ after marked => ?_
  refine .bind _ (evaluates after marked) fun result after marked => ?_
  refine .bind _ (counts after marked) fun _ after marked => .lookGraph ?_
  by_cases alive : after.graph.isAlive binding.target.object = true
  · simp only [alive, if_true]
    refine .bind _ (finishUpdate_within calls id binding result flags after marked) ?_
    exact fun _ last marked => ends last marked
  · simp only [alive]
    exact ends after marked

/-- What is known of the calls inside of an update: they are inside of more frames. -/
def CallsBelow (host : Host σ) (start : World σ) : Prop :=
  ∀ (later : World σ) frames, later.idle < start.idle → ExpressionsRead host later →
    Underway later frames → CallsWithin (nested host frames) later

/-- An update returns, if the updates inside of it do. -/
theorem update_leads {frames : List BindingId} (expressions : ExpressionsRead host start)
    (underway : Underway start frames) (below : CallsBelow host start) (kin : Kin start world)
    (id : BindingId) (flags : WriteFlags) :
    Leads (nested host (world.framesAfter id frames)) (update id flags) world
      fun _ after => Kin start after := by
  refine .lookBinding ?_
  cases found : world.bindings[id]? with
  | none => exact .value kin
  | some binding =>
      refine .look ?_
      by_cases refused : (!world.hasGraph || !binding.enabled || binding.retired) = true
      · rw [if_pos refused]
        exact .value kin
      · rw [if_neg refused]
        refine .lookGraph ?_
        by_cases dead : (!world.graph.isAlive binding.target.object) = true
        · rw [if_pos dead]
          exact .value kin
        · rw [if_neg dead]
          have positive : 0 < start.graphHolders := by
            have held : world.graphHolders ≠ 0 := by
              simp_all [World.hasGraph]
            rw [← kin.holders]
            exact Nat.pos_of_ne_zero held
          refine keepingGraph_within positive ?_ world kin
          rcases kin.bindings id binding found with ⟨former, known, continues⟩
          cases updating : binding.updating with
          | true => exact reportLoop_within binding
          | false =>
              have opens : world.opens id = true := by
                simp_all [World.opens]
              have unmarked : former.updating = false := continues.updating ▸ updating
              have fewer : (start.retained.marked id).idle < start.idle :=
                idle_marked_lt known unmarked
              have calls : CallsWithin (nested host (id :: frames)) (start.retained.marked id) :=
                below _ _ fewer
                  (expressions.retained.marked id) (underway.retained.cons known unmarked)
              simp only [World.framesAfter, opens, if_true]
              exact runUpdate_within expressions.retained known unmarked continues calls flags

/-- All calls of bindings return, whatever frames they are inside of. -/
theorem calls_within (start : World σ) {frames : List BindingId}
    (expressions : ExpressionsRead host start) (underway : Underway start frames) :
    CallsWithin (nested host frames) start := by
  have below : CallsBelow host start :=
    fun later _ fewer expressions underway => calls_within later expressions underway
  intro id world kin
  have follows : Leads (nested host (world.framesAfter id frames)) (followChange id) world
      fun _ after => Kin start after := by
    refine .look ?_
    by_cases kept : world.keepsBinding id = true
    · rw [if_pos kept]
      exact update_leads expressions underway below kin id .none
    · rw [if_neg kept]
      exact .value kin
  rcases follows with ⟨result, after, ends, reached⟩
  refine ⟨result, after, ends.foreign_of ?_, reached⟩
  intro bound outside given
  rcases given with rfl | rfl
  · exact ⟨_, .inl rfl, rfl⟩
  · refine ⟨_, .inr rfl, ?_⟩
    simp only [Outside.watched, if_pos (framesAfter_admitted underway kin id)]
termination_by start.idle

/-! ## Requests -/

/-- What skips interceptors does not count for whether an update would pass. -/
theorem refreshFastPath_leads (kin : Kin start world) (id : BindingId) :
    Leads foreign (refreshFastPath id) world fun _ after =>
      Kin start after ∧ ∀ other, after.opens other = world.opens other := by
  refine .lookBinding ?_
  cases found : world.bindings[id]? with
  | none => exact .value ⟨kin, fun _ => rfl⟩
  | some binding =>
      have looked : Leads foreign (hasInterceptor binding.target.property) world
          fun _ after => world = after := by
        refine .lookGraph ?_
        cases world.graph.resolve binding.target.property defaultAliasDepth with
        | ok target => exact .value rfl
        | error error => exact .value rfl
      refine .bind _ looked ?_
      rintro intercepted _ rfl
      refine .look (.change ⟨?_, fun other => ?_⟩)
      · exact kin.modifyState id (fun _ => rfl) (fun _ => rfl) (fun _ => rfl) (fun _ => rfl)
          (fun _ => rfl) (fun _ => rfl)
      · simp only [World.opens, List.getElem?_modify]
        cases present : world.bindings[other]? with
        | none => rfl
        | some former => by_cases same : id = other <;> simp [same, World.hasGraph]

/-- Enabling a binding updates it at most once, in the frame that the update opens. -/
theorem setEnabled_leads {frames : List BindingId} (expressions : ExpressionsRead host start)
    (underway : Underway start frames) (below : CallsBelow host start) (kin : Kin start world)
    (id : BindingId) (enabled : Bool) (flags? : Option WriteFlags) :
    Leads (nested host (world.framesEnabled id enabled flags? frames))
      (setEnabled id enabled flags?) world fun _ after => Kin start after := by
  refine .lookBinding ?_
  cases found : world.bindings[id]? with
  | none => exact .value kin
  | some binding =>
      dsimp only
      by_cases refused : (enabled && binding.retired) = true
      · rw [if_pos refused]
        exact .value kin
      · rw [if_neg refused]
        refine .bind (fun _ after => Kin start after ∧ after = world.withEnabled id enabled)
          (.change ⟨?_, rfl⟩) ?_
        · exact kin.modifyState id (fun _ => rfl) (fun _ => rfl) (fun _ => rfl) (fun _ => rfl)
            (fun _ => rfl) (fun _ => rfl)
        rintro _ _ ⟨kin, rfl⟩
        refine .bind _ (refreshFastPath_leads kin id) ?_
        rintro _ after ⟨kin, opens⟩
        cases flags? with
        | none => exact .value kin
        | some flags =>
            dsimp only
            by_cases starts : (enabled && !binding.enabled) = true
            · rw [if_pos starts]
              have same : after.framesAfter id frames =
                  world.framesEnabled id enabled (some flags) frames := by
                simp only [World.framesEnabled, World.framesAfter, found, starts, opens, if_true]
              rw [← same]
              exact update_leads expressions underway below kin id flags
            · rw [if_neg starts]
              exact .value kin

end Engine

/-- What a program can ask of an engine that makes changes spread. -/
inductive Request where
  | write (ref : PropertyRef) (value : Native) (flags : WriteFlags)
  | writeVar (ref : PropertyRef) (value : Value) (flags : WriteFlags)
  | reset (ref : PropertyRef) (flags : WriteFlags)
  | assign (ref : PropertyRef) (value : Native)
  | assignNamed (id : ObjectId) (name : String) (value : Native)
  | assignNotifier (id : NotifierId) (value : Value)
  | update (id : BindingId) (flags : WriteFlags)
  | setEnabled (id : BindingId) (enabled : Bool) (flags? : Option WriteFlags)

namespace Request

variable {σ : Type}

/-- Does what is asked for. -/
def perform : Request → Engine σ (Except PropertyError Unit)
  | write ref value flags => (Engine.write ref value flags).run
  | writeVar ref value flags => (Engine.writeVar ref value flags).run
  | reset ref flags => (Engine.reset ref flags).run
  | assign ref value => (Engine.assign ref value).run
  | assignNamed id name value => (Engine.assignNamed id name value).run
  | assignNotifier id value => .ok <$> Engine.assignNotifier id value
  | update id flags => .ok <$> Engine.update id flags
  | setEnabled id enabled flags? => .ok <$> Engine.setEnabled id enabled flags?

/-- The frames that a request itself opens: that of the update it asks for, if it passes the checks. -/
def frames (world : World σ) : Request → List BindingId
  | update id _ => world.framesAfter id []
  | setEnabled id enabled flags? => world.framesEnabled id enabled flags? []
  | _ => []

end Request

open Engine in
/-- A request on a closed world leads to a world of its kin, in the frames that it opens. -/
theorem Request.leads {σ : Type} {host : Host σ} {world : World σ} (closed : world.Closed)
    (expressions : ExpressionsRead host world) (request : Request) :
    Leads (nested host (request.frames world)) request.perform world
      fun _ after => Kin world after := by
  have kin : Kin world world := .refl closed
  have underway : Underway world [] := ⟨List.nodup_nil, fun _ member => by cases member⟩
  have calls : CallsWithin (nested host []) world := calls_within world expressions underway
  have below : CallsBelow host world := fun later _ _ => calls_within later
  cases request with
  | write ref value flags => exact write_within calls ref value flags world kin
  | writeVar ref value flags => exact writeVar_within calls ref value flags world kin
  | reset ref flags => exact reset_within calls ref flags world kin
  | assign ref value => exact assign_within calls ref value world kin
  | assignNamed id name value => exact assignNamed_within calls id name value world kin
  | assignNotifier id value =>
      rcases assignNotifier_within calls id value world kin with ⟨_, after, ends, reached⟩
      exact ⟨_, after, ends.map _, reached⟩
  | update id flags =>
      rcases update_leads expressions underway below kin id flags with ⟨_, after, ends, reached⟩
      exact ⟨_, after, ends.map _, reached⟩
  | setEnabled id enabled flags? =>
      rcases setEnabled_leads expressions underway below kin id enabled flags? with
        ⟨_, after, ends, reached⟩
      exact ⟨_, after, ends.map _, reached⟩

open Engine in
/--
Propagation returns, cycles included.  On a world without code from outside,
whose bindings have expressions that end and do nothing but read, everything
that makes changes spread comes to an end under some bound on the nesting, and
every larger bound and the watch give the same result.  So no binding ever has
two frames at once, and no more frames are open than there are bindings.
-/
theorem propagation_returns {σ : Type} (host : Host σ) (world : World σ) (closed : world.Closed)
    (expressions : ExpressionsRead host world) (request : Request) :
    ∃ result after bound, ∀ larger, bound ≤ larger →
      runWithin larger host request.perform world = some (result, after) ∧
        request.perform.run (Outside.watched host larger (request.frames world)) world =
          some (result, after) := by
  rcases request.leads closed expressions with ⟨result, after, ⟨bound, run⟩, _⟩
  refine ⟨result, after, bound, fun larger enough => ⟨?_, ?_⟩⟩
  · exact run larger enough _ (.inl rfl)
  · exact run larger enough _ (.inr rfl)

/-! ## Two bindings on each other -/

section Mutual

open Engine

/-- One more than a property of `this`. -/
def oneMoreThan (name : String) : Function :=
  .mk 0 name .none (.script [] (.binary .add (.member .this name) (.literal (.int 1))) [])

/-- A binding on a property of the first object that is to be one more than another property. -/
def mutualBinding (index : Nat) (name : String) (reads : ReadSet) : Binding :=
  { context := ⟨0, {}, .empty⟩, expression := .function (oneMoreThan name)
    target := ⟨⟨⟨0, 0⟩, index⟩, none⟩, this? := some ⟨0, 0⟩, arguments := [], adapter := index
    enabled := true, notifyOnChange := true, reads := reads }

/-- A box whose width is to be one more than its height, and the other way round. -/
def mutualWorld : World Unit :=
  let box := Schema.empty.defineClass "Box" none [.native "width" .int, .native "height" .int]
  { graph := ((ObjectGraph.empty box).create 0 none).2
    channels :=
      { subscribers :=
          ⟨[(.property ⟨0, 0⟩ 1, [⟨0, .binding 0⟩]), (.property ⟨0, 0⟩ 0, [⟨1, .binding 1⟩])]⟩
        held := [0, 1]
        next := 2 }
    bindings :=
      [mutualBinding 0 "height" ⟨[⟨.property ⟨0, 0⟩ 1, 0⟩]⟩,
       mutualBinding 1 "width" ⟨[⟨.property ⟨0, 0⟩ 0, 1⟩]⟩]
    adapters := [some (.primitive .int), some (.primitive .int)]
    diagnostics := [{}]
    host := () }

theorem mutualWorld_closed : mutualWorld.Closed := by
  refine ⟨⟨?_, ?_⟩, ?_, ?_⟩
  · intro ref
    unfold ObjectGraph.interceptor?
    cases found : mutualWorld.graph.object? ref.object with
    | none => rfl
    | some object => simp [(ObjectGraph.bare_of_create_empty found).1]
  · intro id object found writer member
    rw [(ObjectGraph.bare_of_create_empty found).2] at member
    cases member
  · intro source subscriber member
    simp only [mutualWorld, Channels.subscribersOf, Entries.get?, Entries.find?] at member
    grind
  · intro diagnostics member
    cases List.mem_singleton.mp member
    rfl

theorem oneMoreThan_reads {world : World Unit} {index : Nat} {name : String}
    {property : Property} (shape : mutualWorld.graph.SameShape world.graph)
    (indexed : mutualWorld.graph.propertyIndex ⟨0, 0⟩ name = .ok index)
    (resolved : mutualWorld.graph.resolve ⟨⟨0, 0⟩, index⟩ defaultAliasDepth = .ok ⟨⟨0, 0⟩, index⟩)
    (described : mutualWorld.graph.property ⟨⟨0, 0⟩, index⟩ = .ok property) :
    ∃ reads result, Evaluates Host.silent (oneMoreThan name) ⟨.empty, some ⟨0, 0⟩, []⟩ world
      reads result := by
  rw [shape.propertyIndex] at indexed
  rw [shape.resolve] at resolved
  rw [shape.property] at described
  rcases ObjectGraph.found_of_property resolved described with ⟨native, _, found⟩
  have summed : Leads Host.silent.surroundings (Script.Evaluation.evaluate
      ⟨.empty, some ⟨0, 0⟩, []⟩ [] (.binary .add (.member .this name) (.literal (.int 1)))).run world
      fun _ after => ∃ identities, after =
        { world.captureAll [.property ⟨0, 0⟩ property.signal] with identities := identities } := by
    refine .attempt _ (memberOfThis_leads rfl indexed found) ?_ ?_
    · rintro value after ⟨_, reached⟩
      exact .of_steps (fun _ => rfl) ⟨_, reached⟩
    · rintro error after ⟨_, reached⟩
      exact ⟨_, reached⟩
  have whole : Leads Host.silent.surroundings
      (Host.silent.callFunction (oneMoreThan name) ⟨.empty, some ⟨0, 0⟩, []⟩).run world
      fun _ after => True ∧ ∃ identities, after =
        { world.captureAll [.property ⟨0, 0⟩ property.signal] with identities := identities } :=
    .attempt _ summed (fun _ _ reached => .of_steps (fun _ => rfl) ⟨trivial, reached⟩)
      fun _ _ reached => ⟨trivial, reached⟩
  rcases Evaluates.of_leads whole with ⟨result, _, evaluates⟩
  exact ⟨_, result, evaluates⟩

theorem mutualWorld_expressionsRead : ExpressionsRead Host.silent mutualWorld := by
  intro id binding found callee may world shape
  rcases id with _ | _ | id
  · cases found
    cases may
    exact oneMoreThan_reads shape rfl rfl rfl
  · cases found
    cases may
    exact oneMoreThan_reads shape rfl rfl rfl
  · simp [mutualWorld] at found

/-- An update in a cycle of two bindings returns. -/
theorem mutual_update_returns : mutualWorld.Closed ∧ ExpressionsRead Host.silent mutualWorld ∧
    ∃ result after bound, ∀ larger, bound ≤ larger →
      runWithin larger Host.silent (Request.update 0 .none).perform mutualWorld =
          some (result, after) ∧
        (Request.update 0 .none).perform.run (Outside.watched Host.silent larger [0]) mutualWorld =
          some (result, after) :=
  ⟨mutualWorld_closed, mutualWorld_expressionsRead,
    propagation_returns Host.silent mutualWorld mutualWorld_closed mutualWorld_expressionsRead
      (.update 0 .none)⟩

end Mutual

end PropertyBinding
