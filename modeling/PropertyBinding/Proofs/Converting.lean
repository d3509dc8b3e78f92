import PropertyBinding.Proofs.Pointing

namespace PropertyBinding

/-!
# What conversions give

A script value converts to a type only as the type says.  What it converts to has the
shape of the type, and points to living objects of the class that the type declares or of
classes derived from it.  Pointers to dead objects are not kept: a single one becomes the
null pointer, and from a list they go as the nulls in it do.

A wrapped container converts as its content, however often that is wrapped again.  Only the
failure is its own: it names the type of the value as it was given.
-/

/-- Whether a class is another or derives from it. -/
inductive Schema.Derives (schema : Schema) : ClassId → ClassId → Prop
  | refl (id : ClassId) : Derives schema id id
  | step {id parent ancestor : ClassId} (up : schema.parent? id = some parent)
      (derives : Derives schema parent ancestor) : Derives schema id ancestor

/-- Only ancestors are found, however far the search goes up. -/
theorem Schema.derives_of_inheritsWithin {schema : Schema} {bound : Nat} {id ancestor : ClassId}
    (found : schema.inheritsWithin bound id ancestor = some true) : schema.Derives id ancestor := by
  induction bound generalizing id with
  | zero => cases found
  | succ bound step =>
      unfold inheritsWithin at found
      split at found
      · next same => exact same ▸ .refl id
      · split at found
        · cases found
        · next parent up => exact .step up (step found)

theorem Schema.derives_of_inherits {schema : Schema} {id ancestor : ClassId}
    (below : schema.inherits id ancestor = true) : schema.Derives id ancestor := by
  unfold inherits at below
  cases found : schema.inheritsWithin (schema.classes.length + 1) id ancestor with
  | none =>
      rw [found] at below
      cases below
  | some answer =>
      rw [found, Option.getD_some] at below
      exact derives_of_inheritsWithin (below ▸ found)

/-- Whether an id names a living object. -/
def TypeContext.lives (context : TypeContext) (id : ObjectId) : Bool :=
  (context.classOf id).isSome

/-- Whether a type takes script values as they are, with their wrapping. -/
def PropertyType.isOpen : PropertyType → Bool
  | .variant | .script | .var => true
  | _ => false

namespace Value

/-- A pointer as a script value. -/
def ofPointer : Option ObjectId → Value
  | none => .null
  | some id => .object id

/-- The pointers that a value consists of: it is one pointer, or an array of pointers. -/
inductive Lists : Value → List (Option ObjectId) → Prop
  | one (pointer : Option ObjectId) : Lists (.ofPointer pointer) [pointer]
  | many (identity : Option Nat) (pointers : List (Option ObjectId)) :
      Lists (.array identity (pointers.map .ofPointer)) pointers

/-- What is left of a value when the wrappers around it are removed one by one. -/
inductive Wraps : Value → Value → Prop
  | bare {value : Value} (bare : ∀ content, value ≠ .variant content) : Wraps value value
  | wrapped {content : Variant} {inner : Value} (wraps : Wraps content.toValue inner) :
      Wraps (.variant content) inner

variable {context : TypeContext} {declared : ClassId} {type : PropertyType} {value inner : Value}
  {native : Native}

/-! ## Wrappers -/

/-- A container is unwrapped as its content is. -/
theorem core_variant (content : Variant) : (Value.variant content).core = content.toValue.core := by
  rw [core]
  cases content <;> rfl

theorem core_of_bare (bare : ∀ content, value ≠ .variant content) : value.core = value := by
  cases value with
  | variant content => exact absurd rfl (bare content)
  | _ => rfl

theorem core_of_wraps (wraps : value.Wraps inner) : value.core = inner := by
  induction wraps with
  | bare bare => exact core_of_bare bare
  | wrapped _ step => exact (core_variant _).trans step

mutual

theorem wraps_core (value : Value) : value.Wraps value.core := by
  cases value with
  | variant content => exact .wrapped (content_wraps_core content)
  | _ => exact .bare fun _ same => by cases same

theorem content_wraps_core (content : Variant) : content.toValue.Wraps content.core := by
  cases content with
  | script value => exact wraps_core value
  | _ => exact .bare fun _ same => by cases same

end

/-- What is under the wrappers of a value is what remains when all are removed. -/
theorem wraps_iff : value.Wraps inner ↔ value.core = inner :=
  ⟨core_of_wraps, fun same => same ▸ wraps_core value⟩

/-! ## Pointers -/

/-- A pointer is kept if its object lives, and becomes the null pointer otherwise. -/
theorem pointer?_eq {id : ObjectId} {found : Option ObjectId}
    (pointer : pointer? context declared id = some found) :
    found = (some id).filter context.lives := by
  unfold pointer? at pointer
  cases known : context.classOf id with
  | none =>
      rw [known] at pointer
      simp [Option.filter, TypeContext.lives, known] at pointer ⊢
      exact pointer.symm
  | some actual =>
      simp only [known] at pointer
      split at pointer
      · cases pointer
        simp [Option.filter, TypeContext.lives, known]
      · cases pointer

/-- The pointers in an array are kept in their order, without nulls and dead objects. -/
theorem pointers?_eq {items : List Value} {ids : List ObjectId}
    (found : pointers? context declared items = some ids) :
    ∃ pointers : List (Option ObjectId), items = pointers.map ofPointer ∧
      ids = pointers.filterMap (·.filter context.lives) := by
  induction items generalizing ids with
  | nil =>
      cases found
      exact ⟨[], rfl, rfl⟩
  | cons item rest step =>
      cases item with
      | null =>
          rcases step found with ⟨pointers, rfl, rfl⟩
          exact ⟨none :: pointers, rfl, rfl⟩
      | object id =>
          simp only [pointers?, Option.bind_eq_bind, Option.bind_eq_some_iff] at found
          rcases found with ⟨head, first, tail, others, same⟩
          rcases step others with ⟨pointers, rfl, rfl⟩
          cases same
          refine ⟨some id :: pointers, rfl, ?_⟩
          rw [pointer?_eq first]
          cases kept : (some id).filter context.lives <;> simp [kept]
      | _ => cases found

/-! ## Conversions -/

/-- What is no wrapped container converts to a value of the shape that the type asks for. -/
theorem bareNative?_fits (converts : value.bareNative? context type = some native) :
    native.fits type = true := by
  have mapped : ∀ {α : Type} {form : α → Native} {found : Option α},
      (∀ given, (form given).fits type = true) → found.map form = some native →
        native.fits type = true := by
    intro α form found shaped converts
    rcases Option.map_eq_some_iff.mp converts with ⟨given, _, rfl⟩
    exact shaped given
  cases type with
  | bool => cases value <;> cases converts <;> rfl
  | int =>
      cases value with
      | int number => cases converts; rfl
      | _ =>
          simp only [bareNative?] at converts
          exact mapped (fun _ => rfl) converts
  | float => exact mapped (fun _ => rfl) converts
  | double => exact mapped (fun _ => rfl) converts
  | string => cases value <;> cases converts <;> rfl
  | enum id =>
      cases value with
      | int number => cases converts; rfl
      | double number =>
          simp only [bareNative?] at converts
          split at converts <;> cases converts
          rfl
      | string key => exact mapped (fun _ => rfl) converts
      | _ => cases converts
  | object known =>
      cases value with
      | null => cases converts; rfl
      | object id => exact mapped (fun _ => rfl) converts
      | _ => cases converts
  | list known =>
      cases value with
      | null => cases converts; rfl
      | object id => exact mapped (fun _ => rfl) converts
      | array identity items => exact mapped (fun _ => rfl) converts
      | _ => cases converts
  | record id =>
      cases value with
      | record fields =>
          simp only [bareNative?] at converts
          split at converts
          · next same =>
            cases converts
            exact decide_eq_true same
          · cases converts
      | _ => cases converts
  | variant | script | var => cases value <;> cases converts

/-- A pointer points to the object that the value is, if that lives. -/
theorem bareNative?_object (converts : value.bareNative? context (.object declared) = some native) :
    ∃ pointer, value = .ofPointer pointer ∧ native = .object (pointer.filter context.lives) := by
  cases value with
  | null =>
      cases converts
      exact ⟨none, rfl, rfl⟩
  | object id =>
      rcases Option.map_eq_some_iff.mp converts with ⟨found, pointer, rfl⟩
      exact ⟨some id, rfl, congrArg Native.object (pointer?_eq pointer)⟩
  | _ => cases converts

/-- A list holds the living objects among the pointers that the value consists of. -/
theorem bareNative?_list (converts : value.bareNative? context (.list declared) = some native) :
    ∃ pointers, value.Lists pointers ∧
      native = .list (pointers.filterMap (·.filter context.lives)) := by
  cases value with
  | null =>
      cases converts
      exact ⟨[none], .one none, rfl⟩
  | object id =>
      rcases Option.map_eq_some_iff.mp converts with ⟨found, pointer, rfl⟩
      refine ⟨[some id], .one (some id), ?_⟩
      rw [pointer?_eq pointer]
      cases kept : (some id).filter context.lives <;> simp [kept]
  | array identity items =>
      rcases Option.map_eq_some_iff.mp converts with ⟨ids, found, rfl⟩
      rcases pointers?_eq found with ⟨pointers, rfl, rfl⟩
      exact ⟨pointers, .many identity pointers, rfl⟩
  | _ => cases converts

/-- A type that is not open takes a value without its wrapping. -/
theorem toNative?_closed (closed : type.isOpen = false) :
    value.toNative? context type = value.core.bareNative? context type := by
  cases type <;> first | rfl | cases closed

/-- What a value converts to has the shape that the type asks for. -/
theorem toNative?_fits (converts : value.toNative? context type = some native) :
    native.fits type = true := by
  cases closed : type.isOpen with
  | true => cases type <;> first | (cases closed; done) | (cases converts; rfl)
  | false => exact bareNative?_fits ((toNative?_closed closed).symm.trans converts)

/-- A conversion succeeds with what the value has a form of. -/
theorem toNative_eq_ok_iff :
    value.toNative context type = .ok native ↔ value.toNative? context type = some native := by
  unfold toNative
  cases value.toNative? context type <;> simp

/-- A conversion fails where the value has no form of the type, and names the two types. -/
theorem toNative_eq_error_iff {error : ConversionError} :
    value.toNative context type = .error error ↔ value.toNative? context type = none ∧
      error = ⟨value.typeName context, context.schema.typeName type⟩ := by
  unfold toNative
  cases value.toNative? context type <;> simp [eq_comm]

/-- A wrapped container has the form of a type that its content has, unless the type is open. -/
theorem toNative?_variant (closed : type.isOpen = false) (content : Variant) :
    (Value.variant content).toNative? context type = content.toValue.toNative? context type := by
  rw [toNative?_closed closed, toNative?_closed closed, core_variant]

/-- Under no wrapping has `undefined` a form of a type that is not open. -/
theorem toNative?_undefined (closed : type.isOpen = false) (wraps : value.Wraps .undefined) :
    value.toNative? context type = none := by
  rw [toNative?_closed closed, core_of_wraps wraps]
  cases type <;> rfl

/-- A pointer points to the object under the wrappers of the value, if that lives. -/
theorem toNative?_object (converts : value.toNative? context (.object declared) = some native) :
    ∃ pointer, value.Wraps (.ofPointer pointer) ∧
      native = .object (pointer.filter context.lives) := by
  rcases bareNative?_object converts with ⟨pointer, same, rfl⟩
  exact ⟨pointer, wraps_iff.mpr same, rfl⟩

/-- A list holds the living objects among the pointers under the wrappers of the value. -/
theorem toNative?_list (converts : value.toNative? context (.list declared) = some native) :
    ∃ inner pointers, value.Wraps inner ∧ inner.Lists pointers ∧
      native = .list (pointers.filterMap (·.filter context.lives)) := by
  rcases bareNative?_list converts with ⟨pointers, lists, rfl⟩
  exact ⟨value.core, pointers, wraps_core value, lists, rfl⟩

/--
A conversion gives a value of the shape of the type.  If that is a type for objects, then
the value points to living objects of the class that the type declares or of classes
derived from it.  A pointer is null if its object is dead, and a list holds those that live
of the pointers in the value, in their order.  A conversion that fails names the type of the
value as it was given and the type it was given for.  It fails for `undefined` under any
wrappers, unless the type is open.
-/
theorem conversion_gives_what_the_type_says (context : TypeContext) (type : PropertyType)
    (value : Value) :
    (∀ native, value.toNative context type = .ok native →
      native.fits type = true ∧
      (∀ declared, type.pointee? = some declared → ∀ id ∈ native.pointers,
        ∃ actual, context.classOf id = some actual ∧ context.schema.Derives actual declared) ∧
      (∀ declared, type = .object declared → ∃ pointer, value.Wraps (.ofPointer pointer) ∧
        native = .object (pointer.filter context.lives)) ∧
      (∀ declared, type = .list declared → ∃ inner pointers, value.Wraps inner ∧
        inner.Lists pointers ∧ native = .list (pointers.filterMap (·.filter context.lives)))) ∧
    (∀ error, value.toNative context type = .error error →
      error = ⟨value.typeName context, context.schema.typeName type⟩) ∧
    (value.Wraps .undefined → type.isOpen = false → value.toNative context type =
      .error ⟨value.typeName context, context.schema.typeName type⟩) := by
  refine ⟨fun native converts => ⟨?_, fun declared points id member => ?_, ?_, ?_⟩,
    fun error fails => (toNative_eq_error_iff.mp fails).2,
    fun wraps closed => toNative_eq_error_iff.mpr ⟨toNative?_undefined closed wraps, rfl⟩⟩
  · exact toNative?_fits (toNative_eq_ok_iff.mp converts)
  · rcases toNative_pointsTo points converts id member with ⟨actual, living, below⟩
    exact ⟨actual, living, Schema.derives_of_inherits below⟩
  · rintro declared rfl
    exact toNative?_object (toNative_eq_ok_iff.mp converts)
  · rintro declared rfl
    exact toNative?_list (toNative_eq_ok_iff.mp converts)

section Crate

/-! ## Pointers out of a crate -/

/-- A crate with one base and one item, as conversions see it. -/
def crateContext : TypeContext :=
  ⟨Engine.crateSchema, fun id =>
    if id = ⟨0, 0⟩ then some 0 else if id = ⟨1, 0⟩ then some 1 else none⟩

/-- A list of pointers to the base, to the item and to an object that is gone. -/
def crateList : Variant :=
  .list [.object ⟨0, 0⟩, .null, .object ⟨7, 0⟩, .object ⟨1, 0⟩]

/-- Twice wrapped, the list converts to a list of bases, and to a list of items it does not. -/
theorem crate_list_converts :
    Value.toNative crateContext (.list 0) (.variant (.script (.variant crateList))) =
      .ok (.list [⟨0, 0⟩, ⟨1, 0⟩]) ∧
    (∀ id ∈ (Native.list [⟨0, 0⟩, ⟨1, 0⟩]).pointers, ∃ actual,
      crateContext.classOf id = some actual ∧ crateContext.schema.Derives actual 0) ∧
    Value.toNative crateContext (.list 1) (.variant (.script (.variant crateList))) =
      .error ⟨"variant", "list<Item>"⟩ ∧
    (⟨"variant", "list<Item>"⟩ : ConversionError) =
      ⟨Value.typeName crateContext (.variant (.script (.variant crateList))),
        crateContext.schema.typeName (.list 1)⟩ ∧
    Value.toNative crateContext (.list 1) (.variant (.script (.variant .empty))) =
      .error ⟨"variant", "list<Item>"⟩ := by
  have converts : Value.toNative crateContext (.list 0) (.variant (.script (.variant crateList))) =
      .ok (.list [⟨0, 0⟩, ⟨1, 0⟩]) := rfl
  have fails : Value.toNative crateContext (.list 1) (.variant (.script (.variant crateList))) =
      .error ⟨"variant", "list<Item>"⟩ := rfl
  have wraps : (Value.variant (.script (.variant .empty))).Wraps .undefined :=
    .wrapped (.wrapped (.bare fun _ same => by cases same))
  have sound := conversion_gives_what_the_type_says crateContext (.list 0)
    (.variant (.script (.variant crateList)))
  have items := conversion_gives_what_the_type_says crateContext (.list 1)
  exact ⟨converts, (sound.1 _ converts).2.1 0 rfl, fails, (items _).2.1 _ fails,
    (items _).2.2 wraps rfl⟩

end Crate

end Value

end PropertyBinding
