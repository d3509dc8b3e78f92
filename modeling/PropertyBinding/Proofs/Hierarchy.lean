import PropertyBinding.Proofs.Lineage

namespace PropertyBinding

/-!
# Hierarchies of classes

A class copies the properties of its parent when it is declared, and adds its own after
them.  A schema only grows, so the copies agree with what the parents have ever after.
Hence the properties of a class begin with those of all classes that it derives from, and
an index or a signal that is known to a class means the same on all that derive from it.

This needs each parent to be there before its children: a class whose parent comes later
starts empty, and does not share a place with that parent.
-/

namespace Schema

/--
What class after class keeps if parents come first: properties are numbered in their order,
parents have lower ids, and a class begins with the properties of its parent.
-/
structure Hierarchical (schema : Schema) : Prop where
  numbered : schema.Numbered
  descending : schema.Descending
  begins : ∀ {id parent : ClassId} {info former : ClassInfo}, schema.classes[id]? = some info →
    info.parent? = some parent → schema.classes[parent]? = some former →
      former.properties <+: info.properties

namespace Hierarchical

variable {schema : Schema} {id ancestor : ClassId} {info former : ClassInfo}

theorem empty : Schema.empty.Hierarchical :=
  ⟨.empty, fun _ _ up => (by cases up), fun found => (by cases found)⟩

/-- A new class begins with the properties of its parent, and the others stay as they are. -/
theorem defineClass (formed : schema.Hierarchical) {name : String} {parent? : Option ClassId}
    {specs : List PropertySpec} (known : ∀ parent ∈ parent?, parent < schema.classes.length) :
    (schema.defineClass name parent? specs).Hierarchical := by
  refine ⟨formed.numbered.defineClass name parent? specs, ?_, ?_⟩
  · have named : (Declaration.objects name parent? specs).Parent
        fun parent => parent < schema.classes.length := by
      cases parent? with
      | none => trivial
      | some parent => exact known parent rfl
    exact formed.descending.declare named
  · intro id parent info former found up above
    simp only [Schema.defineClass] at found above
    rcases Nat.lt_or_ge id schema.classes.length with old | new
    · rw [List.getElem?_append_left old] at found
      have lower := formed.descending id parent (Option.bind_eq_some_iff.mpr ⟨info, found, up⟩)
      rw [List.getElem?_append_left (Nat.lt_trans lower old)] at above
      exact formed.begins found up above
    · rw [List.getElem?_append_right new, List.getElem?_singleton] at found
      split at found
      · cases found
        subst up
        rw [List.getElem?_append_left (known parent rfl)] at above
        simp only [Option.bind_some, above, Option.map_some, Option.getD_some]
        exact List.prefix_append _ _
      · cases found

theorem declare (formed : schema.Hierarchical) {declaration : Declaration}
    (known : declaration.Parent fun parent => parent < schema.classes.length) :
    (schema.declare declaration).Hierarchical := by
  cases declaration with
  | enumeration | fields => exact ⟨formed.numbered, formed.descending, formed.begins⟩
  | objects name parent? specs =>
      refine formed.defineClass fun parent named => ?_
      cases named
      exact known

/-- What is declared with parents first is a hierarchy. -/
theorem declareAll (formed : schema.Hierarchical) {declarations : List Declaration}
    (first : schema.ParentsFirst declarations) :
    (schema.declareAll declarations).Hierarchical := by
  induction declarations generalizing schema with
  | nil => exact formed
  | cons declaration rest ih => exact ih (formed.declare first.1) first.2

/-- A class begins with the properties of every class that it derives from. -/
theorem begins_of_derives (formed : schema.Hierarchical) (derives : schema.Derives id ancestor)
    (found : schema.classes[id]? = some info) (above : schema.classes[ancestor]? = some former) :
    former.properties <+: info.properties := by
  induction derives generalizing info with
  | refl =>
      rw [found] at above
      cases above
      exact List.prefix_rfl
  | step up _ ih =>
      have lower := formed.descending _ _ up
      have registered := Nat.lt_trans lower (registered_of_parent up)
      have parent := List.getElem?_eq_getElem registered
      rcases Option.bind_eq_some_iff.mp up with ⟨_, same, named⟩
      rw [found] at same
      cases same
      exact (ih parent above).trans (formed.begins found named parent)

/-- In a hierarchy every walk comes to an answer. -/
theorem answers (formed : schema.Hierarchical) (id ancestor : ClassId) :
    schema.Answers id ancestor := by
  refine answers_iff.mpr (.inr (ends_iff_no_circle.mpr fun above _ ⟨steps, same⟩ => ?_))
  rcases Option.bind_eq_some_iff.mp same with ⟨parent, up, further⟩
  have back := formed.descending.le_of_derives (derives_iff_above.mpr ⟨steps, further⟩)
  exact Nat.not_le_of_lt (formed.descending _ _ up) back

theorem inherits_iff (formed : schema.Hierarchical) :
    schema.inherits id ancestor = true ↔ schema.Derives id ancestor :=
  Schema.inherits_iff (formed.answers id ancestor)

theorem antisymm (formed : schema.Hierarchical) (below : schema.Derives id ancestor)
    (above : schema.Derives ancestor id) : id = ancestor :=
  Nat.le_antisymm (formed.descending.le_of_derives above) (formed.descending.le_of_derives below)

end Hierarchical

/-- What the comparison of two classes says, by the walks between them. -/
theorem compatibility_iff (schema : Schema) (actual declared : ClassId) :
    (schema.compatibility actual declared = .compatible ↔
      schema.inherits actual declared = true) ∧
    (schema.compatibility actual declared = .requiresCoercion ↔
      schema.inherits declared actual = true ∧ schema.inherits actual declared = false) ∧
    (schema.compatibility actual declared = .incompatible ↔
      schema.inherits declared actual = false ∧ schema.inherits actual declared = false) := by
  unfold compatibility
  cases schema.inherits actual declared <;> cases schema.inherits declared actual <;> simp

/--
If each parent is declared before its children, then the properties of all classes are
numbered by their places, and so are their signals.  Every walk comes to an answer, and it
finds what the class derives from; that is a partial order of the ids.  The properties of a
class begin with those of each registered class it inherits from, so that a place or a signal
of the latter means the same property on the former.  A class is compatible with those it
inherits from, requires a coercion to those that are strictly below it, and is incompatible
with all others.
-/
theorem hierarchies_share_places (declarations : List Declaration)
    (first : empty.ParentsFirst declarations) :
    let schema := empty.declareAll declarations
    schema.Numbered ∧
    (∀ id ancestor, schema.Answers id ancestor ∧
      (schema.inherits id ancestor = true ↔ schema.Derives id ancestor)) ∧
    (∀ id, schema.inherits id id = true) ∧
    (∀ id other, schema.inherits id other = true → schema.inherits other id = true →
      id = other) ∧
    (∀ id middle ancestor, schema.inherits id middle = true →
      schema.inherits middle ancestor = true → schema.inherits id ancestor = true) ∧
    (∀ derived base info former, schema.classes[derived]? = some info →
      schema.classes[base]? = some former → schema.inherits derived base = true →
      former.properties <+: info.properties ∧
      (∀ (place : Nat) (property : Property), former.properties[place]? = some property →
        info.properties[place]? = some property) ∧
      (∀ (signal : Nat) (property : Property),
        former.properties.find? (·.signal = signal) = some property →
        info.properties.find? (·.signal = signal) = some property)) ∧
    (∀ actual declared,
      (schema.compatibility actual declared = .compatible ↔
        schema.inherits actual declared = true) ∧
      (schema.compatibility actual declared = .requiresCoercion ↔
        schema.inherits declared actual = true ∧ declared ≠ actual) ∧
      (schema.compatibility actual declared = .incompatible ↔
        ¬ schema.inherits actual declared = true ∧ ¬ schema.inherits declared actual = true)) := by
  intro schema
  have formed : schema.Hierarchical := Hierarchical.empty.declareAll first
  refine ⟨formed.numbered, fun id ancestor => ⟨formed.answers id ancestor, formed.inherits_iff⟩,
    fun id => formed.inherits_iff.mpr (.refl id), fun id other below above => ?_,
    fun id middle ancestor below above => ?_, fun derived base info former found above below => ?_,
    fun actual declared => ?_⟩
  · exact formed.antisymm (formed.inherits_iff.mp below) (formed.inherits_iff.mp above)
  · rw [formed.inherits_iff] at below above ⊢
    exact below.trans above
  · have begins := formed.begins_of_derives (formed.inherits_iff.mp below) found above
    refine ⟨begins, fun place property known => ?_, fun signal property known => ?_⟩
    · rcases begins with ⟨own, same⟩
      rw [← same, List.getElem?_append_left (List.getElem?_eq_some_iff.mp known).1, known]
    · exact begins.find?_eq_some known
  · rcases compatibility_iff schema actual declared with ⟨compatible, coerces, neither⟩
    refine ⟨compatible, coerces.trans (and_congr_right fun below => ?_), neither.trans ?_⟩
    · rw [Bool.eq_false_iff, not_iff_not]
      constructor
      · exact fun above => formed.antisymm (formed.inherits_iff.mp below)
          (formed.inherits_iff.mp above)
      · rintro rfl
        exact below
    · rw [Bool.eq_false_iff, Bool.eq_false_iff]
      exact and_comm

section Shapes

/-! ## Shapes -/

/-- Shapes, squares below them, tiles below these, and a class of its own. -/
def shapes : List Declaration :=
  [.objects "Shape" none [.native "width" .double, .var "data"], .enumeration "Align" [],
    .objects "Square" (some 0) [.aliased "side" .double], .objects "Note" none [],
    .objects "Tile" (some 1) [.resettableTo (.int 1) "count" .int]]

/-- Tiles have the properties of shapes in their places, and shapes are coerced to tiles. -/
theorem tiles_share_places :
    empty.ParentsFirst shapes ∧
    ∃ tile shape, (empty.declareAll shapes).classes[3]? = some tile ∧
      (empty.declareAll shapes).classes[0]? = some shape ∧
      shape.properties.length = 2 ∧ tile.properties.length = 4 ∧
      shape.properties <+: tile.properties ∧
      (empty.declareAll shapes).compatibility 3 0 = .compatible ∧
      (empty.declareAll shapes).compatibility 0 3 = .requiresCoercion ∧
      (empty.declareAll shapes).compatibility 2 0 = .incompatible := by
  have first : empty.ParentsFirst shapes := by decide
  rcases hierarchies_share_places shapes first with ⟨-, -, -, -, -, shared, compares⟩
  have below : (empty.declareAll shapes).inherits 3 0 = true := rfl
  have apart : (empty.declareAll shapes).inherits 2 0 = false ∧
      (empty.declareAll shapes).inherits 0 2 = false := ⟨rfl, rfl⟩
  exact ⟨first, _, _, rfl, rfl, rfl, rfl, (shared 3 0 _ _ rfl rfl below).1,
    (compares 3 0).1.mpr below, (compares 0 3).2.1.mpr ⟨below, by decide⟩,
    (compares 2 0).2.2.mpr ⟨by simp [apart], by simp [apart]⟩⟩

end Shapes

end Schema

end PropertyBinding
