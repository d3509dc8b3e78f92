import PropertyBinding.Script.Operator
import PropertyBinding.Script.Scope
import PropertyBinding.Value.Identity

namespace PropertyBinding

/-!
# Values under other identities

The identities of functions and arrays are names that the engine gives, and
which names it gives depends on how many it gave before.  A renaming replaces
them and nothing else: not the code of a function, not the locals it captured
and not the items of an array.  No operation on values can tell a value from a
renamed one, except that comparisons need different names for different
identities.
-/

mutual

/-- A script value under other identities. -/
def Value.rename (names : Nat → Nat) : Value → Value
  | .variant content => .variant (Variant.rename names content)
  | .array identity items => .array (identity.map names) (Value.renameAll names items)
  | .function callee marked => .function (Function.rename names callee) marked
  | other => other

/-- Several script values under other identities. -/
def Value.renameAll (names : Nat → Nat) : List Value → List Value
  | [] => []
  | value :: rest => Value.rename names value :: Value.renameAll names rest

/-- Locals with their values under other identities. -/
def Value.renameLocals (names : Nat → Nat) : List (String × Value) → List (String × Value)
  | [] => []
  | (name, value) :: rest => (name, Value.rename names value) :: Value.renameLocals names rest

/-- A container under other identities. -/
def Variant.rename (names : Nat → Nat) : Variant → Variant
  | .list items => .list (Variant.renameAll names items)
  | .script value => .script (Value.rename names value)
  | other => other

/-- Several containers under other identities. -/
def Variant.renameAll (names : Nat → Nat) : List Variant → List Variant
  | [] => []
  | variant :: rest => Variant.rename names variant :: Variant.renameAll names rest

/-- A function under another identity, with the locals it captured under other identities. -/
def Function.rename (names : Nat → Nat) : Function → Function
  | .mk identity name location body =>
      .mk (names identity) name location (FunctionBody.rename names body)

/-- The code of a function with the locals under other identities. -/
def FunctionBody.rename (names : Nat → Nat) : FunctionBody → FunctionBody
  | .script parameters expr locals => .script parameters expr (Value.renameLocals names locals)
  | other => other

end

mutual

/-- The identities in a script value. -/
def Value.identities : Value → List Nat
  | .variant content => Variant.identities content
  | .array identity items => identity.toList ++ Value.identitiesAll items
  | .function callee _ => Function.identities callee
  | _ => []

/-- The identities in several script values. -/
def Value.identitiesAll : List Value → List Nat
  | [] => []
  | value :: rest => Value.identities value ++ Value.identitiesAll rest

/-- The identities in the values of some locals. -/
def Value.identitiesOfLocals : List (String × Value) → List Nat
  | [] => []
  | (_, value) :: rest => Value.identities value ++ Value.identitiesOfLocals rest

/-- The identities in a container. -/
def Variant.identities : Variant → List Nat
  | .list items => Variant.identitiesAll items
  | .script value => Value.identities value
  | _ => []

/-- The identities in several containers. -/
def Variant.identitiesAll : List Variant → List Nat
  | [] => []
  | variant :: rest => Variant.identities variant ++ Variant.identitiesAll rest

/-- The identity of a function and those in the locals it captured. -/
def Function.identities : Function → List Nat
  | .mk identity _ _ body => identity :: FunctionBody.identities body

/-- The identities in the locals of a function. -/
def FunctionBody.identities : FunctionBody → List Nat
  | .script _ _ locals => Value.identitiesOfLocals locals
  | _ => []

end

namespace Native

/-- A stored value under other identities. -/
def rename (names : Nat → Nat) : Native → Native
  | .variant value => .variant (value.rename names)
  | .script value => .script (value.rename names)
  | other => other

/-- The identities in a stored value. -/
def identities : Native → List Nat
  | .variant value => value.identities
  | .script value => value.identities
  | _ => []

end Native

/-- A result under other identities. -/
def Boxed.rename (names : Nat → Nat) : Boxed → Boxed
  | .dynamic value => .dynamic (value.rename names)
  | .native type value shared => .native type (value.rename names) shared

/-- A call with its arguments under other identities. -/
def Script.CallContext.rename (names : Nat → Nat) (call : CallContext) : CallContext :=
  { call with arguments := call.arguments.map (Value.rename names) }

/-! ## Renaming item by item -/

section Items

variable (names : Nat → Nat)

@[simp] theorem Value.renameAll_eq_map (items : List Value) :
    Value.renameAll names items = items.map (Value.rename names) := by
  induction items with
  | nil => rfl
  | cons item rest step => rw [Value.renameAll, step, List.map_cons]

@[simp] theorem Variant.renameAll_eq_map (items : List Variant) :
    Variant.renameAll names items = items.map (Variant.rename names) := by
  induction items with
  | nil => rfl
  | cons item rest step => rw [Variant.renameAll, step, List.map_cons]

@[simp] theorem Value.renameLocals_eq_map (locals : List (String × Value)) :
    Value.renameLocals names locals = locals.map fun entry => (entry.1, entry.2.rename names) := by
  induction locals with
  | nil => rfl
  | cons entry rest step =>
      rcases entry with ⟨name, value⟩
      rw [Value.renameLocals, step, List.map_cons]

end Items

/-! ## Renamings one after the other -/

mutual

theorem Value.rename_of_kept {names : Nat → Nat} (value : Value)
    (kept : ∀ identity ∈ value.identities, names identity = identity) :
    value.rename names = value := by
  cases value with
  | variant content =>
      rw [Value.rename, Variant.rename_of_kept content kept]
  | array identity items =>
      simp only [Value.identities, List.mem_append] at kept
      have same : identity.map names = identity := by
        cases identity with
        | none => rfl
        | some given => simpa using kept given (.inl (by simp))
      rw [Value.rename, same, Value.renameAll_of_kept items fun given member =>
        kept given (.inr member)]
  | function callee marked =>
      rw [Value.rename, Function.rename_of_kept callee kept]
  | _ => rfl

theorem Value.renameAll_of_kept {names : Nat → Nat} (items : List Value)
    (kept : ∀ identity ∈ Value.identitiesAll items, names identity = identity) :
    Value.renameAll names items = items := by
  cases items with
  | nil => rfl
  | cons item rest =>
      simp only [Value.identitiesAll, List.mem_append] at kept
      rw [Value.renameAll, Value.rename_of_kept item fun given member => kept given (.inl member),
        Value.renameAll_of_kept rest fun given member => kept given (.inr member)]

theorem Value.renameLocals_of_kept {names : Nat → Nat} (locals : List (String × Value))
    (kept : ∀ identity ∈ Value.identitiesOfLocals locals, names identity = identity) :
    Value.renameLocals names locals = locals := by
  match locals with
  | [] => rfl
  | (name, value) :: rest =>
      simp only [Value.identitiesOfLocals, List.mem_append] at kept
      rw [Value.renameLocals,
        Value.rename_of_kept value fun given member => kept given (.inl member),
        Value.renameLocals_of_kept rest fun given member => kept given (.inr member)]

theorem Variant.rename_of_kept {names : Nat → Nat} (variant : Variant)
    (kept : ∀ identity ∈ variant.identities, names identity = identity) :
    variant.rename names = variant := by
  cases variant with
  | list items => rw [Variant.rename, Variant.renameAll_of_kept items kept]
  | script value => rw [Variant.rename, Value.rename_of_kept value kept]
  | _ => rfl

theorem Variant.renameAll_of_kept {names : Nat → Nat} (items : List Variant)
    (kept : ∀ identity ∈ Variant.identitiesAll items, names identity = identity) :
    Variant.renameAll names items = items := by
  cases items with
  | nil => rfl
  | cons item rest =>
      simp only [Variant.identitiesAll, List.mem_append] at kept
      rw [Variant.renameAll,
        Variant.rename_of_kept item fun given member => kept given (.inl member),
        Variant.renameAll_of_kept rest fun given member => kept given (.inr member)]

theorem Function.rename_of_kept {names : Nat → Nat} (callee : Function)
    (kept : ∀ identity ∈ callee.identities, names identity = identity) :
    callee.rename names = callee := by
  cases callee with
  | mk identity name location body =>
      simp only [Function.identities, List.mem_cons] at kept
      rw [Function.rename, kept identity (.inl rfl),
        FunctionBody.rename_of_kept body fun given member => kept given (.inr member)]

theorem FunctionBody.rename_of_kept {names : Nat → Nat} (body : FunctionBody)
    (kept : ∀ identity ∈ body.identities, names identity = identity) :
    body.rename names = body := by
  cases body with
  | script parameters expr locals =>
      rw [FunctionBody.rename, Value.renameLocals_of_kept locals kept]
  | _ => rfl

end

mutual

theorem Value.rename_rename (first second : Nat → Nat) (value : Value) :
    (value.rename first).rename second = value.rename fun identity => second (first identity) := by
  cases value with
  | variant content => simp only [Value.rename, Variant.rename_rename first second content]
  | array identity items =>
      cases identity <;> simp only [Value.rename, Option.map, Value.renameAll_renameAll first second items]
  | function callee marked => simp only [Value.rename, Function.rename_rename first second callee]
  | _ => rfl

theorem Value.renameAll_renameAll (first second : Nat → Nat) (items : List Value) :
    Value.renameAll second (Value.renameAll first items) =
      Value.renameAll (fun identity => second (first identity)) items := by
  cases items with
  | nil => rfl
  | cons item rest =>
      simp only [Value.renameAll, Value.rename_rename first second item,
        Value.renameAll_renameAll first second rest]

theorem Value.renameLocals_renameLocals (first second : Nat → Nat)
    (locals : List (String × Value)) :
    Value.renameLocals second (Value.renameLocals first locals) =
      Value.renameLocals (fun identity => second (first identity)) locals := by
  match locals with
  | [] => rfl
  | (name, value) :: rest =>
      simp only [Value.renameLocals, Value.rename_rename first second value,
        Value.renameLocals_renameLocals first second rest]

theorem Variant.rename_rename (first second : Nat → Nat) (variant : Variant) :
    (variant.rename first).rename second =
      variant.rename fun identity => second (first identity) := by
  cases variant with
  | list items => simp only [Variant.rename, Variant.renameAll_renameAll first second items]
  | script value => simp only [Variant.rename, Value.rename_rename first second value]
  | _ => rfl

theorem Variant.renameAll_renameAll (first second : Nat → Nat) (items : List Variant) :
    Variant.renameAll second (Variant.renameAll first items) =
      Variant.renameAll (fun identity => second (first identity)) items := by
  cases items with
  | nil => rfl
  | cons item rest =>
      simp only [Variant.renameAll, Variant.rename_rename first second item,
        Variant.renameAll_renameAll first second rest]

theorem Function.rename_rename (first second : Nat → Nat) (callee : Function) :
    (callee.rename first).rename second =
      callee.rename fun identity => second (first identity) := by
  cases callee with
  | mk identity name location body =>
      simp only [Function.rename, FunctionBody.rename_rename first second body]

theorem FunctionBody.rename_rename (first second : Nat → Nat) (body : FunctionBody) :
    (body.rename first).rename second = body.rename fun identity => second (first identity) := by
  cases body with
  | script parameters expr locals =>
      simp only [FunctionBody.rename, Value.renameLocals_renameLocals first second locals]
  | _ => rfl

end

theorem Boxed.rename_rename (first second : Nat → Nat) (result : Boxed) :
    (result.rename first).rename second =
      result.rename fun identity => second (first identity) := by
  cases result with
  | dynamic value => rw [rename, rename, rename, Value.rename_rename]
  | native type value shared =>
      cases value <;>
        simp only [rename, Native.rename, Value.rename_rename, Variant.rename_rename]

theorem Boxed.rename_id (result : Boxed) : (result.rename fun identity => identity) = result := by
  cases result with
  | dynamic value => rw [rename, Value.rename_of_kept value fun _ _ => rfl]
  | native type value shared =>
      cases value with
      | variant content =>
          rw [rename, Native.rename, Variant.rename_of_kept content fun _ _ => rfl]
      | script value => rw [rename, Native.rename, Value.rename_of_kept value fun _ _ => rfl]
      | _ => rfl

theorem Native.rename_of_kept {names : Nat → Nat} (value : Native)
    (kept : ∀ identity ∈ value.identities, names identity = identity) :
    value.rename names = value := by
  cases value with
  | variant content => rw [rename, Variant.rename_of_kept content kept]
  | script value => rw [rename, Value.rename_of_kept value kept]
  | _ => rfl

/-! ## Conversions -/

mutual

theorem Variant.toValue_rename (names : Nat → Nat) (variant : Variant) :
    (variant.rename names).toValue = variant.toValue.rename names := by
  cases variant with
  | list items =>
      rw [Variant.rename, Variant.toValue, Variant.toValue, Value.rename,
        Variant.toValues_renameAll names items]
      rfl
  | _ => rfl

theorem Variant.toValues_renameAll (names : Nat → Nat) (items : List Variant) :
    Variant.toValues (Variant.renameAll names items) =
      Value.renameAll names (Variant.toValues items) := by
  cases items with
  | nil => rfl
  | cons item rest =>
      simp only [Variant.renameAll, Variant.toValues, Value.renameAll,
        Variant.toValue_rename names item, Variant.toValues_renameAll names rest]

end

theorem Native.toValue_rename (names : Nat → Nat) (value : Native) :
    (value.rename names).toValue = value.toValue.rename names := by
  cases value with
  | object id => cases id <;> rfl
  | list ids => simp [rename, toValue, Value.rename]
  | variant content => exact Variant.toValue_rename names content
  | _ => rfl

theorem Boxed.toValue_rename (names : Nat → Nat) (result : Boxed) :
    (result.rename names).toValue = result.toValue.rename names := by
  cases result with
  | dynamic value => rfl
  | native type value shared => exact Native.toValue_rename names value

theorem Value.unwrapped_rename (names : Nat → Nat) (value : Value) :
    (value.rename names).unwrapped = value.unwrapped.rename names := by
  cases value with
  | variant content => exact Variant.toValue_rename names content
  | _ => rfl

mutual

theorem Value.core_rename (names : Nat → Nat) (value : Value) :
    (value.rename names).core = value.core.rename names := by
  cases value with
  | variant content => exact Variant.core_rename names content
  | _ => rfl

theorem Variant.core_rename (names : Nat → Nat) (variant : Variant) :
    (variant.rename names).core = variant.core.rename names := by
  cases variant with
  | script value => exact Value.core_rename names value
  | list items => exact Variant.toValue_rename names (.list items)
  | _ => rfl

end

/-! ## Operations that look at no identity -/

section Looking

variable (names : Nat → Nat)

theorem Value.isNullish_rename (value : Value) :
    (value.rename names).isNullish = value.isNullish := by
  cases value <;> rfl

theorem Value.truthy_rename (value : Value) : (value.rename names).truthy = value.truthy := by
  cases value with
  | variant content => cases content <;> rfl
  | _ => rfl

theorem Value.function?_rename (value : Value) :
    (value.rename names).function? = value.function?.map (Function.rename names) := by
  cases value <;> rfl

theorem Function.name_rename (callee : Function) : (callee.rename names).name = callee.name := by
  cases callee
  rfl

namespace Script

theorem toNumber_rename (value : Value) : toNumber (value.rename names) = toNumber value := by
  unfold toNumber
  rw [Value.core_rename]
  cases value.core <;> rfl

theorem isText_rename (value : Value) : isText (value.rename names) = isText value := by
  cases value <;> rfl

theorem isNumber_rename (value : Value) : isNumber (value.rename names) = isNumber value := by
  cases value <;> rfl

theorem comparesAsNumbers_rename (left right : Value) :
    comparesAsNumbers (left.rename names) (right.rename names) = comparesAsNumbers left right := by
  cases left <;> cases right <;> rfl

theorem compare_rename (operator : BinaryOp) (left right : Value) :
    compare operator (left.rename names) (right.rename names) = compare operator left right := by
  unfold compare
  rw [toNumber_rename, toNumber_rename]
  cases left with
  | string text => cases right <;> rfl
  | _ => rfl

theorem arithmetic_rename (operator : BinaryOp) (left right : Value) :
    arithmetic operator (left.rename names) (right.rename names) = arithmetic operator left right := by
  unfold arithmetic
  rw [toNumber_rename, toNumber_rename]
  cases left with
  | int word => cases right <;> rfl
  | _ => rfl

@[simp] theorem numberValue_rename (number : Float) :
    (numberValue number).rename names = numberValue number := by
  unfold numberValue
  split <;> rfl

theorem rename_arithmetic (operator : BinaryOp) (left right : Value) :
    (arithmetic operator left right).rename names = arithmetic operator left right := by
  unfold arithmetic
  cases left with
  | int x =>
      cases right with
      | int y =>
          dsimp only
          cases wordArithmetic? operator x y with
          | none => simp
          | some word => rfl
      | _ => simp
  | _ => simp

theorem unary_rename (operator : UnaryOp) (value : Value) :
    unary operator (value.rename names) = (unary operator value).rename names := by
  cases operator with
  | not =>
      simp only [unary, Value.truthy_rename]
      rfl
  | plus =>
      have number := toNumber_rename names value
      cases value <;> first
        | rfl
        | exact (congrArg numberValue number).trans (numberValue_rename names _).symm
  | negate =>
      have number := toNumber_rename names value
      cases value with
      | int word =>
          simp only [Value.rename, unary]
          cases negatedWord? word <;> simp [Value.rename]
      | _ =>
          exact (congrArg (fun number => numberValue (-number)) number).trans
            (numberValue_rename names _).symm

theorem item_rename (items : List Value) (key : Value) :
    item (items.map (Value.rename names)) (key.rename names) = (item items key).rename names := by
  unfold item
  rw [toNumber_rename]
  dsimp only
  split
  · rw [List.getElem?_map]
    cases items[(Number.truncated (toNumber key)).toNat]? <;> rfl
  · rfl

mutual

theorem displayValue_rename (context : TypeContext) (value : Value) :
    displayValue context (value.rename names) = displayValue context value := by
  cases value with
  | variant content => exact displayVariant_rename context content
  | array identity items =>
      rw [Value.rename, displayValue, displayValue, displayValues_rename context items]
  | function callee marked => rw [Value.rename, displayValue, displayValue, Function.name_rename]
  | _ => rfl

theorem displayValues_rename (context : TypeContext) (items : List Value) :
    displayValues context (Value.renameAll names items) = displayValues context items := by
  cases items with
  | nil => rfl
  | cons item rest =>
      rw [Value.renameAll, displayValues, displayValues, displayValue_rename context item,
        displayValues_rename context rest]

theorem displayVariant_rename (context : TypeContext) (variant : Variant) :
    displayVariant context (variant.rename names) = displayVariant context variant := by
  cases variant with
  | list items =>
      rw [Variant.rename, displayVariant, displayVariant, displayVariants_rename context items]
  | script value =>
      rw [Variant.rename, displayVariant, displayVariant, displayValue_rename context value]
  | _ => rfl

theorem displayVariants_rename (context : TypeContext) (items : List Variant) :
    displayVariants context (Variant.renameAll names items) = displayVariants context items := by
  cases items with
  | nil => rfl
  | cons item rest =>
      rw [Variant.renameAll, displayVariants, displayVariants, displayVariant_rename context item,
        displayVariants_rename context rest]

end

end Script

end Looking

/-! ## Comparisons -/

/-- Whether a renaming has different names for different identities. -/
def Distinguishes (names : Nat → Nat) : Prop :=
  ∀ first second, names first = names second → first = second

section Comparing

variable {names : Nat → Nat}

theorem names_eq_iff (injective : Distinguishes names) (first second : Nat) : names first = names second ↔ first = second := by
  constructor
  · exact injective first second
  · intro same
    rw [same]

theorem Function.same_rename (injective : Distinguishes names) (left right : Function) :
    (left.rename names).same (right.rename names) = left.same right := by
  cases left with
  | mk first =>
      cases right with
      | mk second => exact decide_eq_decide.mpr (names_eq_iff injective first second)

mutual

theorem Value.same_rename (injective : Distinguishes names) (left right : Value) :
    (left.rename names).same (right.rename names) = left.same right := by
  cases left with
  | variant content =>
      cases right with
      | variant other =>
          simp only [Value.rename, Value.same, Variant.same_rename injective content other]
      | _ => simp only [Value.rename, Value.same]
  | array identity items =>
      cases right with
      | array other others =>
          simp only [Value.rename, Value.same, Value.sameAll_rename injective items others]
      | _ => simp only [Value.rename, Value.same]
  | function callee marked =>
      cases right with
      | function other otherMarked =>
          simp only [Value.rename, Value.same, Function.same_rename injective callee other]
      | _ => simp only [Value.rename, Value.same]
  | _ => cases right <;> simp only [Value.rename, Value.same]

theorem Value.sameAll_rename (injective : Distinguishes names) (left right : List Value) :
    Value.sameAll (Value.renameAll names left) (Value.renameAll names right) =
      Value.sameAll left right := by
  cases left with
  | nil => cases right <;> simp only [Value.renameAll, Value.sameAll]
  | cons item rest =>
      cases right with
      | nil => simp only [Value.renameAll, Value.sameAll]
      | cons other others =>
          simp only [Value.renameAll, Value.sameAll, Value.same_rename injective item other,
            Value.sameAll_rename injective rest others]

theorem Variant.same_rename (injective : Distinguishes names) (left right : Variant) :
    (left.rename names).same (right.rename names) = left.same right := by
  cases left with
  | list items =>
      cases right with
      | list others =>
          simp only [Variant.rename, Variant.same, Variant.sameAll_rename injective items others]
      | _ => simp only [Variant.rename, Variant.same]
  | script value =>
      cases right with
      | script other =>
          simp only [Variant.rename, Variant.same, Value.same_rename injective value other]
      | _ => simp only [Variant.rename, Variant.same]
  | _ => cases right <;> simp only [Variant.rename, Variant.same]

theorem Variant.sameAll_rename (injective : Distinguishes names) (left right : List Variant) :
    Variant.sameAll (Variant.renameAll names left) (Variant.renameAll names right) =
      Variant.sameAll left right := by
  cases left with
  | nil => cases right <;> simp only [Variant.renameAll, Variant.sameAll]
  | cons item rest =>
      cases right with
      | nil => simp only [Variant.renameAll, Variant.sameAll]
      | cons other others =>
          simp only [Variant.renameAll, Variant.sameAll, Variant.same_rename injective item other,
            Variant.sameAll_rename injective rest others]

end

namespace Script

theorem strictEquals_rename (injective : Distinguishes names) (left right : Value) :
    strictEquals (left.rename names) (right.rename names) = strictEquals left right := by
  have same := Value.same_rename injective left right
  have numbers : (isNumber (left.rename names) && isNumber (right.rename names)) =
      (isNumber left && isNumber right) := by
    rw [isNumber_rename, isNumber_rename]
  have compared : (toNumber (left.rename names) == toNumber (right.rename names)) =
      (toNumber left == toNumber right) := by
    rw [toNumber_rename, toNumber_rename]
  -- only two arrays are compared by what they are and not by what they hold
  unfold strictEquals
  rw [numbers, compared, same]
  cases left with
  | array first items =>
      cases right with
      | array second others =>
          cases first with
          | none => rfl
          | some first =>
              cases second with
              | none => rfl
              | some second => exact decide_eq_decide.mpr (names_eq_iff injective first second)
      | _ => cases first <;> rfl
  | _ => rfl

theorem looseEquals_rename (injective : Distinguishes names) (left right : Value) :
    looseEquals (left.rename names) (right.rename names) = looseEquals left right := by
  unfold looseEquals
  rw [Value.isNullish_rename, Value.isNullish_rename, comparesAsNumbers_rename, toNumber_rename,
    toNumber_rename, strictEquals_rename injective]

theorem binary_rename (injective : Distinguishes names) (context : TypeContext) (operator : BinaryOp) (left right : Value) :
    binary context operator (left.rename names) (right.rename names) =
      (binary context operator left right).rename names := by
  have computed : arithmetic operator (left.rename names) (right.rename names) =
      (arithmetic operator left right).rename names := by
    rw [arithmetic_rename, rename_arithmetic]
  cases operator with
  | add =>
      simp only [binary, isText_rename, displayValue_rename, computed]
      split <;> rfl
  | less | lessEqual | greater | greaterEqual =>
      simp only [binary, compare_rename, Value.rename]
  | equal | unequal => simp only [binary, looseEquals_rename injective, Value.rename]
  | strictEqual | strictUnequal => simp only [binary, strictEquals_rename injective, Value.rename]
  | _ => exact computed

end Script

end Comparing

/-! ## New identities -/

/-- The renaming that makes room for some names from a first new identity on. -/
def advance (first room identity : Nat) : Nat :=
  if identity < first then identity else identity + room

theorem advance_of_lt {first room identity : Nat} (old : identity < first) :
    advance first room identity = identity :=
  if_pos old

theorem advance_of_le {first room identity : Nat} (new : first ≤ identity) :
    advance first room identity = identity + room :=
  if_neg (Nat.not_lt.mpr new)

theorem advance_distinguishes (first room : Nat) : Distinguishes (advance first room) := by
  intro left right same
  unfold advance at same
  split at same <;> split at same <;> omega

mutual

/-- Placing gives only identities that are new. -/
theorem Value.le_place (next : Nat) (value : Value) : next ≤ (value.place next).2 := by
  cases value with
  | variant content => exact Variant.le_place next content
  | array identity items =>
      cases identity with
      | none => exact Nat.le_trans (Nat.le_succ next) (Value.le_placeAll (next + 1) items)
      | some identity => exact Nat.le_refl next
  | _ => exact Nat.le_refl next

theorem Value.le_placeAll (next : Nat) (items : List Value) :
    next ≤ (Value.placeAll next items).2 := by
  cases items with
  | nil => exact Nat.le_refl next
  | cons item rest =>
      exact Nat.le_trans (Value.le_place next item) (Value.le_placeAll (item.place next).2 rest)

theorem Variant.le_place (next : Nat) (variant : Variant) : next ≤ (variant.place next).2 := by
  cases variant with
  | list items => exact Variant.le_placeAll next items
  | script value => exact Value.le_place next value
  | _ => exact Nat.le_refl next

theorem Variant.le_placeAll (next : Nat) (items : List Variant) :
    next ≤ (Variant.placeAll next items).2 := by
  cases items with
  | nil => exact Nat.le_refl next
  | cons item rest =>
      exact Nat.le_trans (Variant.le_place next item)
        (Variant.le_placeAll (item.place next).2 rest)

end

section Placing

/-- Whether a renaming leaves the same room before all identities from one on. -/
def Advances (names : Nat → Nat) (room next : Nat) : Prop :=
  ∀ identity, next ≤ identity → names identity = identity + room

variable {names : Nat → Nat} {room next later : Nat}

theorem Advances.mono (advances : Advances names room next) (le : next ≤ later) :
    Advances names room later :=
  fun identity new => advances identity (Nat.le_trans le new)

theorem advance_advances {first : Nat} (new : first ≤ next) :
    Advances (advance first room) room next :=
  fun _ later => advance_of_le (Nat.le_trans new later)

mutual

/-- A renamed value gets renamed identities, if the new ones are. -/
theorem Value.place_rename {next : Nat} (advances : Advances names room next) (value : Value) :
    (value.rename names).place (next + room) =
      ((value.place next).1.rename names, (value.place next).2 + room) := by
  cases value with
  | variant content =>
      simp only [Value.rename, Value.place, Variant.place_rename advances content]
  | array identity items =>
      cases identity with
      | none =>
          have later : next + room + 1 = next + 1 + room := by omega
          simp only [Value.rename, Option.map_none, Value.place, later,
            Value.placeAll_rename (advances.mono (Nat.le_succ next)) items, Option.map_some,
            advances next (Nat.le_refl next)]
      | some identity => simp only [Value.rename, Option.map_some, Value.place]
  | _ => simp only [Value.rename, Value.place]

theorem Value.placeAll_rename {next : Nat} (advances : Advances names room next)
    (items : List Value) :
    Value.placeAll (next + room) (Value.renameAll names items) =
      (Value.renameAll names (Value.placeAll next items).1,
        (Value.placeAll next items).2 + room) := by
  cases items with
  | nil => rfl
  | cons item rest =>
      have later := advances.mono (item.le_place next)
      simp only [Value.renameAll, Value.placeAll, Value.place_rename advances item,
        Value.placeAll_rename later rest]

theorem Variant.place_rename {next : Nat} (advances : Advances names room next)
    (variant : Variant) :
    (variant.rename names).place (next + room) =
      ((variant.place next).1.rename names, (variant.place next).2 + room) := by
  cases variant with
  | list items => simp only [Variant.rename, Variant.place, Variant.placeAll_rename advances items]
  | script value => simp only [Variant.rename, Variant.place, Value.place_rename advances value]
  | _ => simp only [Variant.rename, Variant.place]

theorem Variant.placeAll_rename {next : Nat} (advances : Advances names room next)
    (items : List Variant) :
    Variant.placeAll (next + room) (Variant.renameAll names items) =
      (Variant.renameAll names (Variant.placeAll next items).1,
        (Variant.placeAll next items).2 + room) := by
  cases items with
  | nil => rfl
  | cons item rest =>
      have later := advances.mono (item.le_place next)
      simp only [Variant.renameAll, Variant.placeAll, Variant.place_rename advances item,
        Variant.placeAll_rename later rest]

end

end Placing

end PropertyBinding
