import PropertyBinding.Proofs.Shifting

namespace PropertyBinding

/-!
# Dependency capture is sound

Two worlds of one shape that agree on every source which an evaluation in the
first tells the collector of: in the second the expression tells the collector
of the same sources in the same order and gives the same result or the same
exception.  So nothing that is not captured can change what a binding computes.

The worlds may have given different numbers of identities.  What is new in the
first result then has other identities in the second, and nothing else differs.
-/

/-- The identity in a second run of what has an identity in a first run. -/
def shift (first second identity : Nat) : Nat :=
  if identity < min first second then identity else identity + second - first

/-- The world in which reads are recorded from now on. -/
def World.recorded {σ : Type} (world : World σ) : World σ :=
  { world with collector? := some (.recorder []) }

/-- The reads that were recorded so far. -/
def World.readsSoFar {σ : Type} (world : World σ) : List Source :=
  match world.collector? with
  | some (.recorder reads) => reads
  | _ => []

namespace Engine

variable {σ α β : Type}

theorem apply_recording (operation : Engine σ α) (outside : Outside σ) (world : World σ) :
    recording operation outside world =
      (operation outside world.recorded).map fun out =>
        ((out.1, out.2.readsSoFar), { out.2 with collector? := world.collector? }) := by
  have unfolded : recording operation outside world =
      ((operation outside world.recorded).bind fun out =>
        (match out.2.collector? with
          | some (.recorder reads) => pure (out.1, reads)
          | _ => pure (out.1, []) : Engine σ (α × List Source)) outside out.2).bind fun out =>
            some (out.1, { out.2 with collector? := world.collector? }) := rfl
  rw [unfolded]
  cases operation outside world.recorded with
  | none => rfl
  | some out =>
      simp only [Option.bind_some, Option.map_some, World.readsSoFar]
      rcases out.2.collector? with _ | id | reads <;> rfl

/-- A recorder gets all reads in their order. -/
theorem captureAll_recorder (world : World σ) (told reads : List Source)
    (collector : world.collector? = some (.recorder told)) :
    world.captureAll reads = { world with collector? := some (.recorder (told ++ reads)) } := by
  induction reads generalizing world told with
  | nil =>
      rw [List.append_nil, ← collector]
      rfl
  | cons source rest step =>
      have first : world.capture source =
          { world with collector? := some (.recorder (told ++ [source])) } := by
        rw [World.capture, collector]
      show (world.capture source).captureAll rest = _
      rw [first, step _ (told ++ [source]) rfl, List.append_assoc]
      rfl

/-- A recorded run of a tracked operation goes the same way in a world that agrees on the reads. -/
theorem recording_tracked {known outside : Outside σ} {operation : Engine σ α}
    (tracked : Tracked known outside operation) {world other after : World σ} {result : α}
    {reads : List Source} (shape : world.graph.SameShape other.graph)
    (same : other.identities = world.identities)
    (run : recording operation known world = some ((result, reads), after))
    (agrees : world.AgreesOn other reads) :
    recording operation outside other =
      some ((result, reads), { other with identities := after.identities }) := by
  rw [apply_recording] at run ⊢
  rcases Option.map_eq_some_iff.mp run with ⟨⟨result', middle⟩, start, reached⟩
  rcases tracked _ result' middle start with ⟨reads', identities, _, rfl, transfer⟩
  have recorded : ∀ start : World σ, start.recorded.captureAll reads' =
      { start with collector? := some (.recorder reads') } :=
    fun start => captureAll_recorder start.recorded [] reads' rfl
  rw [recorded] at reached
  cases reached
  rw [transfer other.recorded shape same (agrees.congr rfl rfl rfl rfl), recorded]
  rfl

theorem recording_shifts {first room : Nat} {outside : Outside σ} {change : α → β}
    {operation : Engine σ α} {shifted : Engine σ β}
    (shifts : Shifts first room outside change operation shifted) :
    Shifts first room outside (fun out => (change out.1, out.2)) (recording operation)
      (recording shifted) := by
  intro world issued new
  rcases shifts world.recorded (issued.congr rfl rfl) new with ⟨same, kept⟩
  rw [apply_recording, apply_recording]
  refine ⟨?_, ?_⟩
  · have started : (world.shifted room).recorded = world.recorded.shifted room := rfl
    rw [started, same]
    cases operation outside world.recorded <;> rfl
  · intro result after run
    rcases Option.map_eq_some_iff.mp run with ⟨⟨result', middle⟩, start, reached⟩
    cases reached
    rcases kept result' middle start with ⟨issued, new⟩
    exact ⟨issued.congr rfl rfl, new⟩

section Compiled

open Script.Evaluation

variable {compiled : Script.Compiled} {identity : Nat} {context : Script.CallContext}

/-- A compiled expression does the same under a later next identity. -/
theorem compiled_shifts {first : Nat} (room bound : Nat)
    (arguments : ∀ argument ∈ context.arguments, ∀ identity ∈ argument.identities,
      identity < first) :
    Shifts first room (Outside.within (Host.mute : Host σ) bound)
      (fun out => (Except.map (Boxed.rename (advance first room)) out.1, out.2))
      (recording (invoke (compiled.function identity) context).run)
      (recording (invoke (compiled.function identity) context).run) := by
  have kept : context.rename (advance first room) = context := by
    have same : context.arguments.map (Value.rename (advance first room)) = context.arguments := by
      conv => rhs; rw [← List.map_id context.arguments]
      apply List.map_congr_left
      intro argument member
      exact Value.rename_of_kept argument fun identity present =>
        advance_of_lt (arguments argument member identity present)
    rw [Script.CallContext.rename, same]
  -- a compiled expression has captured nothing, so only its own identity can be renamed
  have code : ∀ world, (invoke ((compiled.function identity).rename (advance first room)) context :
        Script.Evaluation σ Boxed).run (Outside.within Host.mute bound) world =
      (invoke (compiled.function identity) context).run (Outside.within Host.mute bound) world := by
    intro world
    cases bound <;> rfl
  apply recording_shifts
  intro world issued new
  have shifts := calls_shift first room bound (compiled.function identity) context world issued new
  rw [kept, code] at shifts
  exact shifts

end Compiled

/-! ## Identities of two runs -/

theorem shift_of_le {first second : Nat} (le : first ≤ second) :
    shift first second = advance first (second - first) := by
  funext identity
  unfold shift advance
  rw [Nat.min_eq_left le]
  split <;> omega

theorem shift_advance {first second : Nat} (le : second ≤ first) (identity : Nat) :
    shift first second (advance second (first - second) identity) = identity := by
  unfold shift
  rw [Nat.min_eq_right le]
  by_cases old : identity < second
  · rw [advance_of_lt old, if_pos old]
  · rw [advance_of_le (Nat.le_of_not_lt old)]
    split <;> omega

end Engine

open Engine Script.Evaluation in
/--
Dependency capture is sound.  When a recorded evaluation of a compiled
expression ends without calling the host, then in every world of the same shape
that agrees on the recorded sources it ends with the same sources in the same
order, and with the same result or exception up to the identities of what is
new.  Besides the next identity the evaluation leaves the world as it was.
-/
theorem capture_is_sound {σ : Type} (host : Host σ) (compiled : Script.Compiled) (identity : Nat)
    (context : Script.CallContext) (bound : Nat) (world other after : World σ)
    (result : Except Script.Exception Boxed) (reads : List Source)
    (shape : world.graph.SameShape other.graph)
    (issued : world.Issued world.identities) (otherIssued : other.Issued other.identities)
    (arguments : ∀ argument ∈ context.arguments, ∀ identity ∈ argument.identities,
      identity < min world.identities other.identities)
    (run : runWithin bound Host.mute
      (recording (invoke (compiled.function identity) context).run) world =
        some ((result, reads), after))
    (agrees : world.AgreesOn other reads) :
    runWithin bound host (recording (invoke (compiled.function identity) context).run) other =
      some ((result.map (Boxed.rename (shift world.identities other.identities)), reads),
        { other with
          identities := after.identities + other.identities - world.identities }) := by
  have tracked : ∀ code : Host σ, Tracked (Outside.within Host.mute bound)
      (Outside.within code bound) (invoke (compiled.function identity) context).run :=
    fun code => calls_tracked code bound (compiled.function identity) context
  rcases Nat.le_total world.identities other.identities with le | le
  · -- the first world can make room for as many identities as the second has more
    have below : ∀ argument ∈ context.arguments, ∀ identity ∈ argument.identities,
        identity < world.identities := by
      intro argument member identity present
      exact Nat.lt_of_lt_of_le (arguments argument member identity present) (Nat.min_le_left _ _)
    have room : other.identities = world.identities + (other.identities - world.identities) := by
      omega
    have reached : after.identities + (other.identities - world.identities) =
        after.identities + other.identities - world.identities := by
      omega
    rcases compiled_shifts _ bound below world issued (Nat.le_refl _) with ⟨shifted, _⟩
    have moved := shifted.trans (congrArg (Option.map _) run)
    have sameShape : (world.shifted (other.identities - world.identities)).graph.SameShape
        other.graph := shape
    have transferred := recording_tracked (tracked host) sameShape room moved
      (agrees.congr rfl rfl rfl rfl)
    rw [shift_of_le le, ← reached]
    exact transferred
  · -- the second world can make room, and its own run goes the same way without it
    have below : ∀ argument ∈ context.arguments, ∀ identity ∈ argument.identities,
        identity < other.identities := by
      intro argument member identity present
      exact Nat.lt_of_lt_of_le (arguments argument member identity present) (Nat.min_le_right _ _)
    have room : (other.shifted (world.identities - other.identities)).identities =
        world.identities := by
      show other.identities + (world.identities - other.identities) = world.identities
      omega
    have sameShape : world.graph.SameShape
        (other.shifted (world.identities - other.identities)).graph := shape
    have moved := recording_tracked (tracked Host.mute) sameShape room run
      (agrees.congr rfl rfl rfl rfl)
    rcases compiled_shifts _ bound below other otherIssued (Nat.le_refl _) with ⟨shifted, _⟩
    rcases Option.map_eq_some_iff.mp (shifted.symm.trans moved) with
      ⟨⟨⟨result', reads'⟩, last⟩, start, same⟩
    simp only [Prod.mk.injEq] at same
    rcases same with ⟨⟨sameResult, rfl⟩, sameWorld⟩
    have reached : last.identities =
        after.identities + other.identities - world.identities := by
      have later : last.identities + (world.identities - other.identities) = after.identities :=
        congrArg World.identities sameWorld
      omega
    have results : result.map (Boxed.rename (shift world.identities other.identities)) = result' := by
      rw [← sameResult]
      cases result' with
      | error error => rfl
      | ok value =>
          simp only [Except.map, Boxed.rename_rename, shift_advance le, Boxed.rename_id]
    rw [results, ← reached]
    exact recording_tracked (tracked host) (.refl _) rfl start (.refl other _)

/-! ## Two boxes -/

section Boxes

open Engine Script.Evaluation

/-- A graph of one box, of width and height zero. -/
def boxGraph : ObjectGraph :=
  let box := Schema.empty.defineClass "Box" none [.native "width" .int, .native "height" .int]
  ((ObjectGraph.empty box).create 0 none).2

/-- A world with one box, of width zero. -/
def boxWorld (height : Int32) (identities : Nat) : World Unit :=
  { graph := boxGraph.setCell ⟨⟨0, 0⟩, 1⟩ (.native (.int height))
    identities := identities
    host := () }

/-- A list of the width of `this`. -/
def widthList : Script.Compiled :=
  ⟨"widths", .none, .array [.member .this "width"]⟩

theorem boxWorld_shape (height other : Int32) (identities others : Nat) :
    (boxWorld height identities).graph.SameShape (boxWorld other others).graph := by
  have property : ∃ property, boxGraph.property ⟨⟨0, 0⟩, 1⟩ = .ok property ∧
      property.isAlias = false := ⟨_, rfl, rfl⟩
  rcases property with ⟨property, described, direct⟩
  have first : ∀ height identities, boxGraph.SameShape (boxWorld height identities).graph :=
    fun height _ => .setCell described direct (.native (.int height))
  exact (first height identities).symm.trans (first other others)

theorem boxWorld_issued (height : Int32) (identities : Nat) :
    (boxWorld height identities).Issued identities := by
  constructor
  · intro ref value stored identity member
    rcases ref with ⟨⟨slot, generation⟩, index⟩
    cases slot with
    | zero =>
        by_cases same : (0 : UInt32) = generation
        · subst same
          match index with
          | 0 =>
              cases stored
              cases member
          | 1 =>
              cases stored
              cases member
          | index + 2 =>
              cases stored
              cases member
        · have missing : (boxWorld height identities).graph.object? ⟨0, generation⟩ = none :=
            if_neg same
          rw [ObjectGraph.stored, missing] at stored
          cases stored
    | succ slot => cases stored
  · intro notifier listed
    cases listed

/-- A box of another height, seen after five other things were made, has the same width list. -/
theorem width_capture_is_sound :
    runWithin 2 Host.silent
        (recording (invoke (widthList.function 0) ⟨.empty, some ⟨0, 0⟩, []⟩).run) (boxWorld 7 8) =
      some ((.ok (.dynamic (.array (some 8) [.int 0])), [.property ⟨0, 0⟩ 0]), boxWorld 7 9) :=
  capture_is_sound Host.silent widthList 0 ⟨.empty, some ⟨0, 0⟩, []⟩ 2 (boxWorld 1 3)
    (boxWorld 7 8) (boxWorld 1 4) (.ok (.dynamic (.array (some 3) [.int 0])))
    [.property ⟨0, 0⟩ 0] (boxWorld_shape 1 7 3 8) (boxWorld_issued 1 3) (boxWorld_issued 7 8)
    (fun _ none => nomatch none) rfl (by
      intro source member
      cases List.mem_singleton.mp member
      intro index property described signal
      match index with
      | 0 => rfl
      | 1 =>
          cases described
          cases signal
      | index + 2 => cases described)

end Boxes

end PropertyBinding
