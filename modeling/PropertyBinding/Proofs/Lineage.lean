import Mathlib.Data.Fintype.Pigeonhole
import Mathlib.Data.Fintype.Card
import PropertyBinding.Proofs.Converting
import PropertyBinding.Proofs.WellFormed

namespace PropertyBinding

/-!
# Lineages of classes

The walk up from a class ends at the class it looks for or at one without a parent.
A schema takes any id for a parent, also one that no class has yet, so a class can close a
circle: it may name itself, or a later class that derives from it.  From a class below such
a circle the walk for a class that is not above it never ends.  Nothing else keeps a walk
from ending, and a walk that ends does so within one class more than the schema has.

As long as each parent is there before its children, parents have lower ids.  Then there
are no circles, two different classes derive from each other in at most one direction, and
the properties of a class begin with those of every class that it derives from.
-/

namespace Schema

variable {schema : Schema} {id parent ancestor : ClassId}

/-! ## Walking up -/

/-- The class so many steps above another. -/
def above? (schema : Schema) : Nat → ClassId → Option ClassId
  | 0, id => some id
  | steps + 1, id => (schema.parent? id).bind (schema.above? steps)

/-- Whether the classes above a class come to an end. -/
def Ends (schema : Schema) (id : ClassId) : Prop :=
  ∃ steps, schema.above? steps id = none

/-- Whether a class is above itself. -/
def Circular (schema : Schema) (id : ClassId) : Prop :=
  ∃ steps, schema.above? (steps + 1) id = some id

/-- Whether the walk from a class to an ancestor comes to an answer. -/
def Answers (schema : Schema) (id ancestor : ClassId) : Prop :=
  ∃ bound answer, schema.inheritsWithin bound id ancestor = some answer

/-- Whether the walks that tell the relation of two classes come to their answers. -/
def Relates (schema : Schema) (actual declared : ClassId) : Prop :=
  schema.Answers actual declared ∧
    (schema.inherits actual declared = false → schema.Answers declared actual)

theorem above?_add (steps more : Nat) (id : ClassId) :
    schema.above? (steps + more) id = (schema.above? steps id).bind (schema.above? more) := by
  induction steps generalizing id with
  | zero => rw [Nat.zero_add, above?, Option.bind_some]
  | succ steps ih =>
      rw [Nat.succ_add, above?, above?, Option.bind_assoc]
      exact Option.bind_congr fun parent _ => ih parent

/-- Before a class that is reached there is no end. -/
theorem above?_isSome_of_le {steps later : Nat} (goes : (schema.above? later id).isSome)
    (before : steps ≤ later) : (schema.above? steps id).isSome := by
  rw [← Nat.add_sub_cancel' before, above?_add] at goes
  exact Option.isSome_of_isSome_bind goes

/-- What lies above a class are the classes that it derives from. -/
theorem derives_iff_above :
    schema.Derives id ancestor ↔ ∃ steps, schema.above? steps id = some ancestor := by
  constructor
  · intro derives
    induction derives with
    | refl id => exact ⟨0, rfl⟩
    | step up _ ih =>
        rcases ih with ⟨steps, reached⟩
        exact ⟨steps + 1, by rw [above?, up, Option.bind_some, reached]⟩
  · rintro ⟨steps, reached⟩
    induction steps generalizing id with
    | zero => exact Option.some.inj reached ▸ .refl id
    | succ steps ih =>
        rcases Option.bind_eq_some_iff.mp reached with ⟨parent, up, further⟩
        exact .step up (ih further)

theorem Derives.trans {middle : ClassId} (derives : schema.Derives id middle)
    (further : schema.Derives middle ancestor) : schema.Derives id ancestor := by
  induction derives with
  | refl => exact further
  | step up _ ih => exact .step up (ih further)

/-- A search is cut short if the classes go on and the one it looks for is not among them. -/
theorem inheritsWithin_eq_none_iff {bound : Nat} :
    schema.inheritsWithin bound id ancestor = none ↔
      (schema.above? bound id).isSome ∧
        ∀ steps < bound, schema.above? steps id ≠ some ancestor := by
  induction bound generalizing id with
  | zero => simp [inheritsWithin, above?]
  | succ bound ih =>
      rw [inheritsWithin, Nat.forall_lt_succ_left]
      by_cases same : id = ancestor
      · simp [same, above?]
      · cases up : schema.parent? id with
        | none => simp [same, above?, up]
        | some parent => simp [same, above?, up, ih]

/-- A search that finds nothing has come to the end, and nothing was to be found. -/
theorem ends_of_inheritsWithin {bound : Nat}
    (found : schema.inheritsWithin bound id ancestor = some false) :
    schema.above? bound id = none ∧ ¬ schema.Derives id ancestor := by
  induction bound generalizing id with
  | zero => cases found
  | succ bound ih =>
      rw [inheritsWithin] at found
      split at found
      · cases found
      · next apart =>
        rw [above?]
        cases up : schema.parent? id with
        | none =>
            refine ⟨rfl, fun derives => ?_⟩
            cases derives with
            | refl => exact apart rfl
            | step other => rw [up] at other; cases other
        | some parent =>
            rw [up] at found
            refine ⟨(ih found).1, fun derives => ?_⟩
            cases derives with
            | refl => exact apart rfl
            | step other further =>
                rw [up] at other
                cases other
                exact (ih found).2 further

/-! ## Circles -/

/-- A class with a parent is a class of the schema. -/
theorem registered_of_parent (up : schema.parent? id = some parent) :
    id < schema.classes.length := by
  rcases Option.bind_eq_some_iff.mp up with ⟨info, known, _⟩
  exact (List.getElem?_eq_some_iff.mp known).1

/-- An id that the next class will have has no parent yet. -/
theorem parent?_free : schema.parent? schema.classes.length = none := by
  rw [parent?, List.getElem?_eq_none (Nat.le_refl _), Option.bind_none]

/-- More steps up than there are classes lead to a class that was passed before. -/
theorem repeats_of_long (long : (schema.above? (schema.classes.length + 1) id).isSome) :
    ∃ first later, first < later ∧ later ≤ schema.classes.length ∧
      schema.above? first id = schema.above? later id := by
  -- each of the places below the last is taken by a class of the schema
  have taken : ∀ place : Fin (schema.classes.length + 1), ∃ known : Fin schema.classes.length,
      schema.above? place id = some known.val := by
    intro place
    have further : (schema.above? (place + 1) id).isSome := above?_isSome_of_le long (by omega)
    rw [above?_add place] at further
    cases reached : schema.above? place id with
    | none => simp [reached] at further
    | some known =>
        cases up : schema.parent? known with
        | none => simp [reached, above?, up] at further
        | some _ => exact ⟨⟨known, registered_of_parent up⟩, rfl⟩
  choose known reached using taken
  rcases Fintype.exists_ne_map_eq_of_card_lt known (by simp) with ⟨one, other, apart, same⟩
  rcases lt_or_gt_of_ne apart with before | before
  · exact ⟨one, other, before, by omega, by rw [reached, reached, same]⟩
  · exact ⟨other, one, before, by omega, by rw [reached, reached, same]⟩

/-- Once a class is passed again, only classes that were passed before follow. -/
theorem above?_of_repeats {first later : Nat} (before : first < later)
    (same : schema.above? first id = schema.above? later id) (steps : Nat) :
    ∃ earlier < later, schema.above? steps id = schema.above? earlier id := by
  induction steps using Nat.strong_induction_on with
  | _ steps ih =>
      by_cases within : steps < later
      · exact ⟨steps, within, rfl⟩
      · -- one round of the circle less leads to the same class
        have round : schema.above? steps id = schema.above? (first + (steps - later)) id := by
          rw [above?_add first, same, ← above?_add, Nat.add_sub_cancel' (Nat.le_of_not_lt within)]
        rcases ih (first + (steps - later)) (by omega) with ⟨earlier, within, back⟩
        exact ⟨earlier, within, round.trans back⟩

/-- Where the classes go on beyond the size of the schema, they are the ones passed before. -/
theorem above?_of_long (long : (schema.above? (schema.classes.length + 1) id).isSome)
    (steps : Nat) : ∃ earlier ≤ schema.classes.length,
      schema.above? steps id = schema.above? earlier id ∧ (schema.above? steps id).isSome := by
  rcases repeats_of_long long with ⟨first, later, before, within, same⟩
  rcases above?_of_repeats before same steps with ⟨earlier, sooner, back⟩
  refine ⟨earlier, by omega, back, ?_⟩
  rw [back]
  exact above?_isSome_of_le long (by omega)

/-- The classes above a class end exactly if no more of them follow than the schema has. -/
theorem ends_iff_short :
    schema.Ends id ↔ schema.above? (schema.classes.length + 1) id = none := by
  refine ⟨fun ⟨steps, ended⟩ => ?_, fun ended => ⟨_, ended⟩⟩
  rw [← Option.not_isSome_iff_eq_none]
  intro long
  rcases above?_of_long long steps with ⟨_, _, _, goes⟩
  rw [ended] at goes
  cases goes

/-- Around a circle one comes back as often as one likes. -/
theorem above?_rounds {steps : Nat} (same : schema.above? (steps + 1) id = some id)
    (rounds : Nat) : schema.above? (rounds * (steps + 1)) id = some id := by
  induction rounds with
  | zero => rw [Nat.zero_mul, above?]
  | succ rounds ih => rw [Nat.succ_mul, above?_add, ih, Option.bind_some, same]

theorem Circular.endless (circular : schema.Circular id) : ¬ schema.Ends id := by
  rintro ⟨steps, ended⟩
  rcases circular with ⟨round, same⟩
  have goes : (schema.above? steps id).isSome :=
    above?_isSome_of_le (Option.isSome_of_eq_some (above?_rounds same steps))
      (Nat.le_mul_of_pos_right _ (by omega))
  rw [ended] at goes
  cases goes

/-- The classes above a class end if they end above one of them, and only then. -/
theorem Derives.ends_iff (derives : schema.Derives id ancestor) :
    schema.Ends id ↔ schema.Ends ancestor := by
  rcases derives_iff_above.mp derives with ⟨start, reached⟩
  constructor
  · rintro ⟨steps, ended⟩
    refine ⟨steps, ?_⟩
    rw [← Option.bind_some ancestor (schema.above? steps), ← reached, ← above?_add,
      ← Option.not_isSome_iff_eq_none]
    intro goes
    have sooner := above?_isSome_of_le goes (Nat.le_add_left steps start)
    rw [ended] at sooner
    cases sooner
  · rintro ⟨steps, ended⟩
    exact ⟨start + steps, by rw [above?_add, reached, Option.bind_some, ended]⟩

/-- The classes above a class end exactly if no circle is among them. -/
theorem ends_iff_no_circle :
    schema.Ends id ↔ ∀ above, schema.Derives id above → ¬ schema.Circular above := by
  constructor
  · exact fun ends above derives circular => circular.endless (derives.ends_iff.mp ends)
  · intro free
    rw [ends_iff_short, ← Option.not_isSome_iff_eq_none]
    intro long
    rcases repeats_of_long long with ⟨first, later, before, within, same⟩
    have goes : (schema.above? first id).isSome := above?_isSome_of_le long (by omega)
    rcases Option.isSome_iff_exists.mp goes with ⟨above, reached⟩
    refine free above (derives_iff_above.mpr ⟨first, reached⟩) ⟨later - first - 1, ?_⟩
    have back : schema.above? (later - first) above = some above := by
      rw [← Nat.add_sub_cancel' (Nat.le_of_lt before), above?_add, reached, Option.bind_some]
        at same
      exact same.symm
    rw [Nat.sub_add_cancel (by omega), back]

/-- A walk comes to an answer if the ancestor is above the class, or the classes above it end. -/
theorem answers_iff :
    schema.Answers id ancestor ↔ schema.Derives id ancestor ∨ schema.Ends id := by
  constructor
  · rintro ⟨bound, answer, found⟩
    cases answer with
    | true => exact .inl (derives_of_inheritsWithin found)
    | false => exact .inr ⟨bound, (ends_of_inheritsWithin found).1⟩
  · intro either
    by_contra none
    have cut : ∀ bound, schema.inheritsWithin bound id ancestor = .none := by
      intro bound
      cases found : schema.inheritsWithin bound id ancestor with
      | none => rfl
      | some answer => exact absurd ⟨bound, answer, found⟩ none
    rcases either with derives | ⟨steps, ended⟩
    · rcases derives_iff_above.mp derives with ⟨steps, reached⟩
      exact (inheritsWithin_eq_none_iff.mp (cut (steps + 1))).2 steps (by omega) reached
    · have goes := (inheritsWithin_eq_none_iff.mp (cut steps)).1
      rw [ended] at goes
      cases goes

/-- A walk that comes to an answer does so within one class more than the schema has. -/
theorem inheritsWithin_of_answers (answers : schema.Answers id ancestor) :
    ∃ answer, schema.inheritsWithin (schema.classes.length + 1) id ancestor = some answer := by
  cases known : schema.inheritsWithin (schema.classes.length + 1) id ancestor with
  | some answer => exact ⟨answer, rfl⟩
  | none =>
      rcases inheritsWithin_eq_none_iff.mp known with ⟨long, missed⟩
      rcases answers_iff.mp answers with derives | ends
      · rcases derives_iff_above.mp derives with ⟨steps, reached⟩
        rcases above?_of_long long steps with ⟨earlier, within, back, _⟩
        exact absurd (back.symm.trans reached) (missed earlier (by omega))
      · rw [ends_iff_short.mp ends] at long
        cases long

/-- Where the walk comes to an answer, a class inherits from those that it derives from. -/
theorem inherits_iff (answers : schema.Answers id ancestor) :
    schema.inherits id ancestor = true ↔ schema.Derives id ancestor := by
  rcases inheritsWithin_of_answers answers with ⟨answer, found⟩
  rw [inherits, found, Option.getD_some]
  constructor
  · rintro rfl
    exact derives_of_inheritsWithin found
  · intro derives
    cases answer with
    | true => rfl
    | false => exact absurd derives (ends_of_inheritsWithin found).2

/-- Any search that comes to an answer comes to that of the walk. -/
theorem inherits_of_inheritsWithin {bound : Nat} {answer : Bool}
    (found : schema.inheritsWithin bound id ancestor = some answer) :
    schema.inherits id ancestor = answer := by
  have walk : schema.inherits id ancestor = true ↔ schema.Derives id ancestor :=
    inherits_iff ⟨bound, answer, found⟩
  cases answer with
  | true => exact walk.mpr (derives_of_inheritsWithin found)
  | false =>
      exact Bool.eq_false_iff.mpr fun below => (ends_of_inheritsWithin found).2 (walk.mp below)

/-- All walks come to their answers exactly if the classes above each class end. -/
theorem answers_all_iff :
    (∀ id ancestor, schema.Answers id ancestor) ↔ ∀ id, schema.Ends id := by
  refine ⟨fun answers id => ?_, fun ends id ancestor => answers_iff.mpr (.inr (ends id))⟩
  -- the walk for an id that is free ends at the latest at that id
  rcases answers_iff.mp (answers id schema.classes.length) with derives | ends
  · exact derives.ends_iff.mpr ⟨1, by rw [above?, parent?_free, Option.bind_none]⟩
  · exact ends

/-! ## Declarations -/

/-- One addition to a schema, as its author gives it. -/
inductive Declaration where
  | enumeration (name : String) (keys : List (String × Int32))
  | fields (name : String) (fields : List String)
  | objects (name : String) (parent? : Option ClassId) (specs : List PropertySpec)

/-- Adds what a declaration says. -/
def declare (schema : Schema) : Declaration → Schema
  | .enumeration name keys => schema.defineEnum name keys
  | .fields name fields => schema.defineRecord name fields
  | .objects name parent? specs => schema.defineClass name parent? specs

/-- Adds what several declarations say, one after the other. -/
def declareAll (schema : Schema) (declarations : List Declaration) : Schema :=
  declarations.foldl declare schema

/-- What holds of the parent that a declaration names, if it names one. -/
def Declaration.Parent (condition : ClassId → Prop) : Declaration → Prop
  | .objects _ (some parent) _ => condition parent
  | _ => True

/-- What holds of each parent that is named, and of the schema that it is named to. -/
def Named (condition : Schema → ClassId → Prop) : Schema → List Declaration → Prop
  | _, [] => True
  | schema, declaration :: rest =>
      declaration.Parent (condition schema) ∧ Named condition (schema.declare declaration) rest

instance Declaration.Parent.decidable {condition : ClassId → Prop} [DecidablePred condition] :
    (declaration : Declaration) → Decidable (declaration.Parent condition)
  | .objects _ (some parent) _ => inferInstanceAs (Decidable (condition parent))
  | .objects _ none _ | .enumeration _ _ | .fields _ _ => .isTrue trivial

instance Named.decidable {condition : Schema → ClassId → Prop}
    [∀ schema, DecidablePred (condition schema)] :
    (schema : Schema) → (declarations : List Declaration) →
      Decidable (Named condition schema declarations)
  | _, [] => .isTrue trivial
  | schema, declaration :: rest =>
      have : Decidable (Named condition (schema.declare declaration) rest) := Named.decidable _ rest
      inferInstanceAs (Decidable (_ ∧ _))

/-- Whether each parent is there before its children. -/
def ParentsFirst : Schema → List Declaration → Prop :=
  Named fun schema parent => parent < schema.classes.length

instance ParentsFirst.decidable (schema : Schema) (declarations : List Declaration) :
    Decidable (schema.ParentsFirst declarations) :=
  inferInstanceAs (Decidable (Named _ schema declarations))

/-- Whether no class is given a parent that derives from the class itself. -/
def ClosesNoCircle : Schema → List Declaration → Prop :=
  Named fun schema parent => ¬ schema.Derives parent schema.classes.length

/-- A new class has the parent that it was given, and no other class gets another. -/
theorem parent?_defineClass (name : String) (parent? : Option ClassId) (specs : List PropertySpec) :
    (schema.defineClass name parent? specs).parent? id =
      if id = schema.classes.length then parent? else schema.parent? id := by
  simp only [Schema.parent?, defineClass]
  split
  · next same => simp [same]
  · next apart =>
    rcases Nat.lt_or_gt_of_ne apart with old | beyond
    · rw [List.getElem?_append_left old]
    · rw [List.getElem?_eq_none (by simp; omega), List.getElem?_eq_none (by omega)]

/-- Only parents matter to what is above a class. -/
theorem ends_congr {other : Schema} (same : ∀ id, other.parent? id = schema.parent? id) :
    other.Ends id ↔ schema.Ends id := by
  have alike : ∀ steps id, other.above? steps id = schema.above? steps id := by
    intro steps
    induction steps with
    | zero => exact fun _ => rfl
    | succ steps ih =>
        intro id
        rw [above?, above?, same]
        exact Option.bind_congr fun parent _ => ih parent
  simp only [Ends, alike]

section Growing

variable (name : String) (parent? : Option ClassId) (specs : List PropertySpec)

/-- What was above a class stays above it when a class is added. -/
theorem above?_defineClass_of_some {steps : Nat}
    (reached : schema.above? steps id = some ancestor) :
    (schema.defineClass name parent? specs).above? steps id = some ancestor := by
  induction steps generalizing id with
  | zero => exact reached
  | succ steps ih =>
      rcases Option.bind_eq_some_iff.mp reached with ⟨next, up, further⟩
      rw [above?, parent?_defineClass, if_neg (Nat.ne_of_lt (registered_of_parent up)), up,
        Option.bind_some, ih further]

/-- Nothing comes above a class, unless the one that is added was awaited above it. -/
theorem above?_defineClass_of_free (free : ¬ schema.Derives id schema.classes.length)
    (steps : Nat) :
    (schema.defineClass name parent? specs).above? steps id = schema.above? steps id := by
  induction steps generalizing id with
  | zero => rfl
  | succ steps ih =>
      have apart : id ≠ schema.classes.length := by
        rintro rfl
        exact free (.refl _)
      rw [above?, above?, parent?_defineClass, if_neg apart]
      exact Option.bind_congr fun next up => ih fun derives => free (.step up derives)

/-- What derives from another class still does so when a class is added. -/
theorem Derives.defineClass (derives : schema.Derives id ancestor) :
    (schema.defineClass name parent? specs).Derives id ancestor := by
  rcases derives_iff_above.mp derives with ⟨steps, reached⟩
  exact derives_iff_above.mpr ⟨steps, above?_defineClass_of_some name parent? specs reached⟩

/-- Where the classes above each class end, they end unless the new class closes a circle. -/
theorem ends_defineClass (ends : ∀ id, schema.Ends id)
    (free : ∀ parent ∈ parent?, ¬ schema.Derives parent schema.classes.length) (id : ClassId) :
    (schema.defineClass name parent? specs).Ends id := by
  have beside : ∀ other, ¬ schema.Derives other schema.classes.length →
      (schema.defineClass name parent? specs).Ends other := by
    intro other apart
    rcases ends other with ⟨steps, ended⟩
    exact ⟨steps, by rw [above?_defineClass_of_free name parent? specs apart, ended]⟩
  have up : (schema.defineClass name parent? specs).parent? schema.classes.length = parent? := by
    rw [parent?_defineClass, if_pos rfl]
  have added : (schema.defineClass name parent? specs).Ends schema.classes.length := by
    cases parent? with
    | none => exact ⟨1, by rw [above?, up, Option.bind_none]⟩
    | some parent =>
        exact (Derives.step up (.refl parent)).ends_iff.mpr (beside parent (free parent rfl))
  by_cases below : schema.Derives id schema.classes.length
  · exact (below.defineClass name parent? specs).ends_iff.mpr added
  · exact beside id below

/-- A class below which its own parent is known closes a circle. -/
theorem circular_defineClass {parent : ClassId}
    (derives : schema.Derives parent schema.classes.length) :
    (schema.defineClass name (some parent) specs).Circular schema.classes.length := by
  rcases derives_iff_above.mp derives with ⟨steps, reached⟩
  refine ⟨steps, ?_⟩
  rw [above?, parent?_defineClass, if_pos rfl, Option.bind_some,
    above?_defineClass_of_some name (some parent) specs reached]

end Growing

/-- A declaration leaves it so that the classes above each class end, unless it closes a circle. -/
theorem ends_declare_iff (declaration : Declaration) :
    (∀ id, (schema.declare declaration).Ends id) ↔ (∀ id, schema.Ends id) ∧
      declaration.Parent fun parent => ¬ schema.Derives parent schema.classes.length := by
  cases declaration with
  | enumeration | fields =>
      refine (forall_congr' fun id => ?_).trans (and_iff_left trivial).symm
      exact ends_congr fun _ => rfl
  | objects name parent? specs =>
      have kept : (∀ id, (schema.defineClass name parent? specs).Ends id) →
          ∀ id, schema.Ends id := by
        intro ends id
        rcases ends id with ⟨steps, ended⟩
        refine ⟨steps, ?_⟩
        cases reached : schema.above? steps id with
        | none => rfl
        | some above =>
            rw [above?_defineClass_of_some name parent? specs reached] at ended
            cases ended
      cases parent? with
      | none =>
          exact ⟨fun ends => ⟨kept ends, trivial⟩,
            fun ends => ends_defineClass name none specs ends.1 fun _ named => by cases named⟩
      | some parent =>
          refine ⟨fun ends => ⟨kept ends, fun derives => ?_⟩, fun ends => ?_⟩
          · exact (circular_defineClass name specs derives).endless (ends _)
          · refine ends_defineClass name (some parent) specs ends.1 fun named same => ?_
            exact Option.some.inj same ▸ ends.2

/-- The classes above each class end exactly if no declaration closed a circle. -/
theorem ends_declareAll_iff (declarations : List Declaration) :
    (∀ id, (schema.declareAll declarations).Ends id) ↔
      (∀ id, schema.Ends id) ∧ schema.ClosesNoCircle declarations := by
  induction declarations generalizing schema with
  | nil => exact (and_iff_left trivial).symm
  | cons declaration rest ih =>
      rw [declareAll, List.foldl_cons, ← declareAll, ih, ends_declare_iff, and_assoc]
      exact Iff.rfl

theorem ends_empty (id : ClassId) : empty.Ends id :=
  ⟨1, rfl⟩

/-! ## Parents before children -/

/-- Whether each parent has a lower id than its children. -/
def Descending (schema : Schema) : Prop :=
  ∀ id parent, schema.parent? id = some parent → parent < id

namespace Descending

theorem le_of_derives (descending : schema.Descending) (derives : schema.Derives id ancestor) :
    ancestor ≤ id := by
  induction derives with
  | refl => exact Nat.le_refl _
  | step up _ ih => exact Nat.le_trans ih (Nat.le_of_lt (descending _ _ up))

theorem declare (descending : schema.Descending) {declaration : Declaration}
    (known : declaration.Parent fun parent => parent < schema.classes.length) :
    (schema.declare declaration).Descending := by
  cases declaration with
  | enumeration | fields => exact descending
  | objects name parent? specs =>
      intro id parent up
      rw [Schema.declare, parent?_defineClass] at up
      split at up
      · next same =>
        subst up
        exact same ▸ known
      · exact descending id parent up

end Descending

/-- A parent that is there before its child does not derive from it. -/
theorem ParentsFirst.closesNoCircle {declarations : List Declaration}
    (first : schema.ParentsFirst declarations) (descending : schema.Descending) :
    schema.ClosesNoCircle declarations := by
  induction declarations generalizing schema with
  | nil => trivial
  | cons declaration rest ih =>
      refine ⟨?_, ih first.2 (descending.declare first.1)⟩
      have known := first.1
      unfold Declaration.Parent at known ⊢
      split at known
      · exact fun derives => Nat.not_le_of_lt known (descending.le_of_derives derives)
      · trivial

/-- Walks end where all parents come first, and so do they wherever no circle is closed. -/
theorem answers_all_declareAll_iff (declarations : List Declaration) :
    (∀ id ancestor, (empty.declareAll declarations).Answers id ancestor) ↔
      empty.ClosesNoCircle declarations := by
  rw [answers_all_iff, ends_declareAll_iff]
  exact and_iff_right ends_empty

/--
In a schema with any parents, known or not, the walk from a class to an ancestor comes to an
answer exactly if the ancestor is above the class or no class above it is above itself.  The
answer does not depend on how far the search may go.  All walks come to their answers, all
pairs of classes are related, all lineages end and no class is above itself if and only if
no class was given a parent that derives from the class itself; and none was if each parent
was there before its children.
-/
theorem walks_answer_unless_circular (declarations : List Declaration) :
    let schema := empty.declareAll declarations
    (∀ id ancestor, schema.Answers id ancestor ↔ schema.Derives id ancestor ∨
      ∀ above, schema.Derives id above → ¬ schema.Circular above) ∧
    (∀ id ancestor bound answer, schema.inheritsWithin bound id ancestor = some answer →
      schema.inherits id ancestor = answer) ∧
    ((∀ id ancestor, schema.Answers id ancestor) ↔ empty.ClosesNoCircle declarations) ∧
    ((∀ actual declared, schema.Relates actual declared) ↔ empty.ClosesNoCircle declarations) ∧
    ((∀ id, schema.Ends id) ↔ empty.ClosesNoCircle declarations) ∧
    ((∀ id, ¬ schema.Circular id) ↔ empty.ClosesNoCircle declarations) ∧
    (empty.ParentsFirst declarations → empty.ClosesNoCircle declarations) := by
  intro schema
  have answers := answers_all_declareAll_iff declarations
  have ends : (∀ id, schema.Ends id) ↔ empty.ClosesNoCircle declarations :=
    answers_all_iff.symm.trans answers
  refine ⟨fun id ancestor => answers_iff.trans (or_congr_right ends_iff_no_circle),
    fun id ancestor bound answer => inherits_of_inheritsWithin, answers, ?_, ends, ?_,
    fun first => first.closesNoCircle fun id parent up => by cases up⟩
  · rw [← answers]
    exact ⟨fun relates id ancestor => (relates id ancestor).1,
      fun known actual declared => ⟨known actual declared, fun _ => known declared actual⟩⟩
  · rw [← ends]
    exact ⟨fun free id => ends_iff_no_circle.mpr fun above _ => free above,
      fun all id circular => circular.endless (all id)⟩

/-- From a class that is its own parent no walk for another class comes to an answer. -/
theorem not_answers_of_own_parent (own : schema.parent? id = some id) (apart : id ≠ ancestor) :
    ¬ schema.Answers id ancestor := by
  have above : ∀ other, schema.Derives id other → other = id := by
    intro other derives
    induction derives with
    | refl => rfl
    | step up _ ih =>
        rw [own] at up
        cases up
        exact ih own apart
  rw [answers_iff]
  rintro (derives | ends)
  · exact apart (above _ derives).symm
  · refine Circular.endless ⟨0, ?_⟩ ends
    rw [above?, own, Option.bind_some, above?]

end Schema

end PropertyBinding
