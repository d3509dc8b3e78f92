import PropertyBinding.Proofs.Generations

namespace PropertyBinding

/-!
# The slots of a graph

A graph keeps its objects in slots, and lists the slots to fill next.  A slot belongs on the
list if and only if it is vacant, and stands there once.  Each step on a graph changes one
slot: where it is, and what is in it afterwards, says all about the names of the objects.
-/

/-- As long as the number of its slot has 32 bits, an id is the one its word stands for. -/
theorem ObjectId.ofWord_word {id : ObjectId} (fits : id.index < UInt32.size) :
    ofWord id.word = id := by
  have lower : id.word.toUInt32 = UInt32.ofNat id.index := by
    apply UInt32.eq_of_toBitVec_eq
    ext place
    simp [word]
  have upper : (id.word >>> 32).toUInt32 = id.generation := by
    apply UInt32.eq_of_toBitVec_eq
    ext place inRange
    have near : place < 64 := Nat.lt_trans inRange (by decide)
    have shifted : 32 + place < 64 := by omega
    simp [word, near, shifted, BitVec.getLsbD_eq_getElem inRange]
  rw [ofWord, lower, upper, UInt32.toNat_ofNat', Nat.mod_eq_of_lt fits]

namespace ObjectGraph

variable {graph removed : ObjectGraph} {id other : ObjectId} {object : Object} {index : Nat}

/-! ## Making an object -/

section Made

variable {classId : ClassId} {name? : Option String} {made : ObjectGraph}

/-- A new object is named by the generation of its slot, and by zero in a new slot. -/
theorem generation_create (making : graph.create classId name? = (id, made)) :
    id.generation = (graph.generation? id.index).getD 0 := by
  unfold create at making
  cases free : graph.free with
  | nil =>
      rw [free] at making
      cases making
      simp [generation?]
  | cons place rest =>
      rw [free] at making
      cases making
      rfl

variable (vacant : graph.Vacant)
include vacant

theorem isAlive_after_create (making : graph.create classId name? = (id, made)) :
    made.isAlive other = true ↔ other = id ∨ graph.isAlive other = true := by
  rw [isAlive, object?_after_create vacant making, isAlive]
  by_cases same : other = id <;> simp [same]

end Made

/-! ## The list of vacant slots -/

/-- Whether a slot is there and holds no object. -/
def IsVacant (graph : ObjectGraph) (index : Nat) : Prop :=
  ∃ generation, graph.slots[index]? = some ⟨generation, none⟩

/-- Whether the slots to fill next are the vacant ones, each listed once. -/
structure Tabled (graph : ObjectGraph) : Prop where
  distinct : graph.free.Nodup
  listed : ∀ index, index ∈ graph.free ↔ graph.IsVacant index

namespace Tabled

theorem vacant (tabled : graph.Tabled) : graph.Vacant where
  distinct := tabled.distinct
  vacant index := (tabled.listed index).mp

theorem empty (schema : Schema) : (ObjectGraph.empty schema).Tabled where
  distinct := .nil
  listed index := by simp [IsVacant, ObjectGraph.empty]

theorem update (tabled : graph.Tabled) (id : ObjectId) (change : Object → Object) :
    (graph.update id change).Tabled := by
  cases living : graph.object? id with
  | none =>
      rw [ObjectGraph.update, living]
      exact tabled
  | some object =>
      constructor
      · rw [free_update]
        exact tabled.distinct
      · intro index
        rw [free_update, tabled.listed, IsVacant, IsVacant]
        simp only [slot_update living]
        by_cases same : index = id.index
        · simp [same, slot_of_living living]
        · simp [same]

theorem create {classId : ClassId} {name? : Option String} {made : ObjectGraph}
    (tabled : graph.Tabled) (making : graph.create classId name? = (id, made)) : made.Tabled := by
  have filled : ∀ index, made.IsVacant index ↔ index ≠ id.index ∧ graph.IsVacant index := by
    intro index
    rw [IsVacant, IsVacant]
    simp only [slot_create tabled.vacant making]
    by_cases same : index = id.index <;> simp [same]
  rcases place_create making with listed | ⟨full, none, _⟩
  · have distinct := tabled.distinct
    rw [listed] at distinct
    rcases List.nodup_cons.mp distinct with ⟨fresh, rest⟩
    refine ⟨rest, fun index => ?_⟩
    rw [filled, ← tabled.listed, listed, List.mem_cons]
    constructor
    · intro member
      exact ⟨fun same => fresh (same ▸ member), .inr member⟩
    · rintro ⟨different, same | member⟩
      · exact absurd same different
      · exact member
  · refine ⟨none ▸ .nil, fun index => ?_⟩
    rw [filled, ← tabled.listed, none, full]
    simp

theorem remove (tabled : graph.Tabled) (gone : graph.remove? id = some (object, removed)) :
    removed.Tabled := by
  constructor
  · exact (tabled.vacant.remove gone).distinct
  · intro index
    rw [free_remove gone, List.mem_cons, tabled.listed, IsVacant, IsVacant]
    simp only [slot_remove gone]
    by_cases same : index = id.index <;> simp [same]

end Tabled

end ObjectGraph

end PropertyBinding
