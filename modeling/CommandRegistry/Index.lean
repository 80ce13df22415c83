/-
An index says at which position of a list the entry for a key stands.
-/

namespace CommandRegistry

/-- Positions by key, one for each key. -/
structure Index (κ : Type) where
  entries : List (κ × Nat)
deriving Repr

variable {κ : Type} [DecidableEq κ]

def Index.empty : Index κ :=
  ⟨[]⟩

def Index.find? (index : Index κ) (key : κ) : Option Nat :=
  index.entries.lookup key

def Index.contains (index : Index κ) (key : κ) : Bool :=
  (index.find? key).isSome

def Index.size (index : Index κ) : Nat :=
  index.entries.length

/-- An entry for the same key is replaced. -/
def Index.insert (index : Index κ) (key : κ) (position : Nat) : Index κ :=
  ⟨(key, position) :: index.entries.filter fun entry => entry.1 ≠ key⟩

theorem Index.find?_empty (key : κ) : (Index.empty : Index κ).find? key = none :=
  rfl

theorem lookup_cons {β : Type u} (entry : κ × β) (rest : List (κ × β)) (asked : κ) :
    (entry :: rest).lookup asked =
      if asked = entry.1 then some entry.2 else rest.lookup asked := by
  obtain ⟨key, value⟩ := entry
  by_cases hasked : asked = key
  · simp [hasked]
  · have hdiffer : (asked == key) = false := by simpa using hasked
    simp [List.lookup_cons, hasked, hdiffer]

/-- What is kept or left out of other keys has no part in a look-up. -/
theorem lookup_filter {β : Type u} (keeps : κ → Bool) {asked : κ} (hkeeps : keeps asked = true)
    (entries : List (κ × β)) :
    (entries.filter fun entry => keeps entry.1).lookup asked = entries.lookup asked := by
  induction entries with
  | nil => rfl
  | cons entry rest ih =>
      rw [List.filter_cons, lookup_cons]
      by_cases hasked : asked = entry.1
      · rw [if_pos (hasked ▸ hkeeps), lookup_cons, if_pos hasked, if_pos hasked]
      · rw [if_neg hasked, ← ih]
        split
        · rw [lookup_cons, if_neg hasked]
        · rfl

/-- An entry that takes the place of those with its key is found first. -/
theorem lookup_replace {β : Type u} (entries : List (κ × β)) (key asked : κ) (value : β) :
    ((key, value) :: entries.filter fun entry => entry.1 ≠ key).lookup asked =
      if asked = key then some value else entries.lookup asked := by
  rw [lookup_cons]
  by_cases hasked : asked = key
  · rw [if_pos hasked, if_pos hasked]
  · rw [if_neg hasked, if_neg hasked]
    exact lookup_filter (fun other => other ≠ key) (by simpa using hasked) entries

theorem Index.find?_insert (index : Index κ) (key other : κ) (position : Nat) :
    (index.insert key position).find? other =
      if other = key then some position else index.find? other :=
  lookup_replace index.entries key other position

end CommandRegistry
