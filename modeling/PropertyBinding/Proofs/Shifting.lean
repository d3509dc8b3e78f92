import PropertyBinding.Proofs.Reflecting

namespace PropertyBinding

/-!
# Runs from another next identity

A run that starts with a later next identity gives every function and array
that it makes a later name, and does nothing else differently: what the world
held before has identities below all new ones, and no operation can tell the
new names apart otherwise than by being different.
-/

/-- The world with room for more identities before the next one. -/
def World.shifted {σ : Type} (world : World σ) (room : Nat) : World σ :=
  { world with identities := world.identities + room }

/-- Whether all identities in what the sources of a world hold are below a bound. -/
structure World.Issued {σ : Type} (world : World σ) (bound : Nat) : Prop where
  stored : ∀ ref value, world.graph.stored ref = .ok value →
    ∀ identity ∈ value.identities, identity < bound
  notifiers : ∀ notifier ∈ world.notifiers, ∀ identity ∈ notifier.value.identities,
    identity < bound

namespace World

variable {σ : Type} {world : World σ} {bound : Nat}

theorem Issued.congr {other : World σ} (issued : world.Issued bound)
    (graph : other.graph = world.graph) (notifiers : other.notifiers = world.notifiers) :
    other.Issued bound := by
  constructor
  · rw [graph]
    exact issued.stored
  · rw [notifiers]
    exact issued.notifiers

/-- What a notifier holds has no identity that is still to be given. -/
theorem Issued.notified (issued : world.Issued bound) (id : NotifierId) :
    ∀ identity ∈ (((world.notifiers[id]?).map Notifier.value).getD .undefined).identities,
      identity < bound := by
  cases found : world.notifiers[id]? with
  | none =>
      intro identity member
      cases member
  | some notifier => exact issued.notifiers notifier (List.mem_of_getElem? found)

end World

namespace Engine

variable {σ α β : Type} {first room : Nat} {outside : Outside σ}

/-- With room for more identities the second operation does what the first does, under a change. -/
def Shifts (first room : Nat) (outside : Outside σ) (change : α → β) (operation : Engine σ α)
    (shifted : Engine σ β) : Prop :=
  ∀ world : World σ, world.Issued first → first ≤ world.identities →
    shifted outside (world.shifted room) =
      (operation outside world).map (fun out => (change out.1, out.2.shifted room)) ∧
    ∀ result after, operation outside world = some (result, after) →
      after.Issued first ∧ first ≤ after.identities

/-- Whether a world is another with room for some identities behind those it holds. -/
def ShiftedTo (first room : Nat) (world other : World σ) : Prop :=
  other = world.shifted room ∧ world.Issued first ∧ first ≤ world.identities

theorem shifted_reflection (first room : Nat) :
    Reflection (advance first room) room (ShiftedTo (σ := σ) first room) where
  distinguishes := advance_distinguishes first room
  shape := by
    rintro world _ ⟨rfl, -, -⟩
    exact .refl _
  stored := by
    rintro world _ ⟨rfl, issued, -⟩ ref value stored
    rw [Native.rename_of_kept value fun identity member =>
      advance_of_lt (issued.stored ref value stored identity member)]
    exact stored
  notified := by
    rintro world _ ⟨rfl, issued, -⟩ id
    exact (Value.rename_of_kept _ fun identity member =>
      advance_of_lt (issued.notified id identity member)).symm
  identities := by
    rintro world _ ⟨rfl, -, new⟩
    exact ⟨rfl, advance_advances new⟩
  issues := by
    rintro world _ ⟨rfl, issued, new⟩ next le
    exact ⟨rfl, issued.congr rfl rfl, Nat.le_trans new le⟩
  capture := by
    rintro world _ ⟨rfl, issued, new⟩ source
    have frame := world.capture_frame source
    refine ⟨?_, issued.congr frame.1 frame.2.2.1, ?_⟩
    · rw [World.shifted, World.capture_identities, World.shifted, frame.2.2.2.2.2.1]
    · rw [frame.2.2.2.2.2.1]
      exact new

theorem Reflects.shifts {change : α → β} {operation : Engine σ α} {shifted : Engine σ β}
    (reflects : Reflects (ShiftedTo first room) outside change operation shifted) :
    Shifts first room outside change operation shifted := by
  intro world issued new
  have ends := reflects world (world.shifted room) ⟨rfl, issued, new⟩
  generalize operation outside world = out, shifted outside (world.shifted room) = out' at ends ⊢
  cases ends with
  | endless => exact ⟨rfl, fun _ _ impossible => nomatch impossible⟩
  | ends relates =>
      rcases relates with ⟨rfl, issued, new⟩
      refine ⟨rfl, ?_⟩
      rintro _ _ ⟨⟩
      exact ⟨issued, new⟩

/-- The functions that scripts call do the same under a later next identity. -/
theorem calls_shift (first room bound : Nat) (callee : Function) (context : Script.CallContext) :
    Shifts first room (Outside.within (Host.mute : Host σ) bound)
      (Except.map (Boxed.rename (advance first room)))
      (Script.Evaluation.invoke callee context : Script.Evaluation σ Boxed).run
      (Script.Evaluation.invoke (callee.rename (advance first room))
        (context.rename (advance first room))).run :=
  (calls_reflect (shifted_reflection first room) bound callee context).shifts

end Engine

end PropertyBinding
