namespace PropertyBinding

/-!
# Entries

A finite map as a list of keys with their values, in the order in which the
keys first came.  Putting a value under a key that is there replaces the value
in its place.  `get?` is the one view of a map, and each operation says what it
does to it.
-/

/-- A finite map in the order in which its keys came. -/
structure Entries (κ : Type) (α : Type) where
  toList : List (κ × α) := []

namespace Entries

variable {κ α : Type} [DecidableEq κ]

/-- The map without entries. -/
def empty : Entries κ α := ⟨[]⟩

instance : Inhabited (Entries κ α) := ⟨empty⟩

/-- The value under a key in a list of pairs. -/
def find? : List (κ × α) → κ → Option α
  | [], _ => none
  | (name, value) :: rest, key => if name = key then some value else find? rest key

/-- The value under a key. -/
def get? (entries : Entries κ α) (key : κ) : Option α :=
  find? entries.toList key

/-- Whether there is a value under a key. -/
def contains (entries : Entries κ α) (key : κ) : Bool :=
  (entries.get? key).isSome

/-- A list of pairs with a value put under a key. -/
def insertIn (key : κ) (value : α) : List (κ × α) → List (κ × α)
  | [] => [(key, value)]
  | (name, old) :: rest =>
      if name = key then (name, value) :: rest else (name, old) :: insertIn key value rest

/-- Puts a value under a key, in the place of the one that was there. -/
def put (entries : Entries κ α) (key : κ) (value : α) : Entries κ α :=
  ⟨insertIn key value entries.toList⟩

/-- Drops all entries whose key fails a test. -/
def keep (entries : Entries κ α) (test : κ → Bool) : Entries κ α :=
  ⟨entries.toList.filter fun entry => test entry.1⟩

/-- Drops the entry under a key. -/
def drop (entries : Entries κ α) (key : κ) : Entries κ α :=
  entries.keep fun name => name ≠ key

/-- Changes the value under a key, if there is one. -/
def update (entries : Entries κ α) (key : κ) (change : α → α) : Entries κ α :=
  match entries.get? key with
  | some value => entries.put key (change value)
  | none => entries

/-- The keys in order. -/
def keys (entries : Entries κ α) : List κ :=
  entries.toList.map Prod.fst

/-- The values in order. -/
def values (entries : Entries κ α) : List α :=
  entries.toList.map Prod.snd

omit [DecidableEq κ] in
@[simp] theorem toList_empty : (empty : Entries κ α).toList = [] := rfl

@[simp] theorem get?_empty (key : κ) : (empty : Entries κ α).get? key = none := rfl

/-- Looking up a key after an insertion gives the new value under its key and the old ones elsewhere. -/
theorem find?_insertIn (key other : κ) (value : α) (pairs : List (κ × α)) :
    find? (insertIn key value pairs) other =
      if key = other then some value else find? pairs other := by
  induction pairs with
  | nil => simp [insertIn, find?]
  | cons pair rest step =>
      obtain ⟨name, old⟩ := pair
      by_cases same : name = key
      · subst same
        by_cases hit : name = other <;> simp [insertIn, find?, hit]
      · by_cases hit : name = other
        · subst hit
          simp [insertIn, find?, same, Ne.symm same]
        · simp [insertIn, find?, same, hit, step]

/-- Putting a value changes the value under its key only. -/
theorem get?_put (entries : Entries κ α) (key other : κ) (value : α) :
    (entries.put key value).get? other =
      if key = other then some value else entries.get? other :=
  find?_insertIn key other value entries.toList

@[simp] theorem get?_put_self (entries : Entries κ α) (key : κ) (value : α) :
    (entries.put key value).get? key = some value := by
  simp [get?_put]

/-- Keeping some keys hides the others. -/
theorem find?_filter (test : κ → Bool) (pairs : List (κ × α)) (key : κ) :
    find? (pairs.filter fun pair => test pair.1) key =
      if test key then find? pairs key else none := by
  induction pairs with
  | nil => simp [find?]
  | cons pair rest step =>
      obtain ⟨name, value⟩ := pair
      by_cases kept : test name
      · by_cases hit : name = key
        · subst hit
          simp [find?, kept]
        · simp [find?, kept, hit, step]
      · by_cases hit : name = key
        · subst hit
          simp [kept, step]
        · simp [find?, kept, hit, step]

theorem get?_keep (entries : Entries κ α) (test : κ → Bool) (key : κ) :
    (entries.keep test).get? key = if test key then entries.get? key else none :=
  find?_filter test entries.toList key

/-- Dropping a key hides that key only. -/
theorem get?_drop (entries : Entries κ α) (key other : κ) :
    (entries.drop key).get? other = if other = key then none else entries.get? other := by
  by_cases same : other = key <;> simp [drop, get?_keep, same]

/-- A change shows under its key only, and only where there was a value. -/
theorem get?_update (entries : Entries κ α) (key other : κ) (change : α → α) :
    (entries.update key change).get? other =
      if key = other then (entries.get? other).map change else entries.get? other := by
  unfold update
  cases found : entries.get? key with
  | none =>
      by_cases same : key = other
      · subst same
        simp [found]
      · simp [same]
  | some value =>
      by_cases same : key = other
      · subst same
        simp [found]
      · simp [get?_put, same]

/-- What is found under a key is listed with it. -/
theorem mem_of_find? {pairs : List (κ × α)} {key : κ} {value : α}
    (found : find? pairs key = some value) : (key, value) ∈ pairs := by
  induction pairs with
  | nil => cases found
  | cons pair rest step =>
      obtain ⟨name, old⟩ := pair
      by_cases hit : name = key
      · simp only [find?, hit, if_true, Option.some.injEq] at found
        simp [hit, found]
      · simp only [find?, hit, if_false] at found
        exact List.mem_cons_of_mem _ (step found)

theorem mem_toList_of_get? {entries : Entries κ α} {key : κ} {value : α}
    (found : entries.get? key = some value) : (key, value) ∈ entries.toList :=
  mem_of_find? found

/-- An insertion lists nothing new but its own entry. -/
theorem mem_insertIn {pairs : List (κ × α)} {key : κ} {value : α} {entry : κ × α}
    (member : entry ∈ insertIn key value pairs) : entry ∈ pairs ∨ entry = (key, value) := by
  induction pairs with
  | nil => exact .inr (List.mem_singleton.mp member)
  | cons pair rest step =>
      obtain ⟨name, old⟩ := pair
      by_cases hit : name = key
      · subst hit
        simp only [insertIn, if_true, List.mem_cons] at member ⊢
        rcases member with new | kept
        · exact .inr new
        · exact .inl (.inr kept)
      · simp only [insertIn, hit, if_false, List.mem_cons] at member ⊢
        rcases member with first | later
        · exact .inl (.inl first)
        · rcases step later with kept | new
          · exact .inl (.inr kept)
          · exact .inr new

theorem mem_toList_of_put {entries : Entries κ α} {key : κ} {value : α} {entry : κ × α}
    (member : entry ∈ (entries.put key value).toList) :
    entry ∈ entries.toList ∨ entry = (key, value) :=
  mem_insertIn member

end Entries

end PropertyBinding
