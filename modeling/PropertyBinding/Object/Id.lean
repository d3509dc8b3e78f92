namespace PropertyBinding

/-!
# Object ids

An object lives in a numbered slot.  Each time a slot is freed its generation
goes up by one, so an id names one object and not its successors in the slot.
-/

/-- The slot of an object and the generation of the slot when the object was made. -/
structure ObjectId where
  index : Nat
  generation : UInt32
deriving Repr, DecidableEq

namespace ObjectId

/-- The id in one word: its slot in the lower half, the generation in the upper half. -/
def word (id : ObjectId) : UInt64 :=
  (UInt32.ofNat id.index).toUInt64 ||| (id.generation.toUInt64 <<< 32)

/-- The id that a word stands for. -/
def ofWord (word : UInt64) : ObjectId :=
  ⟨word.toUInt32.toNat, (word >>> 32).toUInt32⟩

/-- The id as messages show it. -/
def text (id : ObjectId) : String :=
  s!"#{id.index}.{id.generation}"

/-- The id with its parts named. -/
def describe (id : ObjectId) : String :=
  "ObjectId \x7b index: " ++ toString id.index ++ ", generation: " ++ toString id.generation
    ++ " \x7d"

end ObjectId

end PropertyBinding
