import Mathlib.Data.List.AList
set_option autoImplicit false

/-!
# Foundation: maps of bounded size

A finite map that holds at most `capacity` keys.  Replacing the value of a key that is
present always succeeds; a new key is refused when every place is taken.
-/

namespace DaemonChoir.Foundation

universe u v

/-- A map of at most `capacity` entries. -/
structure BoundedMap (capacity : Nat) (κ : Type u) (ν : Type v) where
  /-- The entries. -/
  entries : AList fun _ : κ => ν
  /-- A new key is refused when every place is taken. -/
  size_le : entries.keys.length ≤ capacity

namespace BoundedMap

variable {capacity : Nat} {κ : Type u} {ν : Type v}

/-- The map without entries. -/
def empty (capacity : Nat) (κ : Type u) (ν : Type v) : BoundedMap capacity κ ν :=
  { entries := ∅, size_le := Nat.zero_le _ }

variable [DecidableEq κ]

/-- The value of a key. -/
def lookup (map : BoundedMap capacity κ ν) (key : κ) : Option ν :=
  map.entries.lookup key

/-- Set the value of a key, unless the key is new and the map full. -/
def update (map : BoundedMap capacity κ ν) (key : κ) (value : ν) :
    Option (BoundedMap capacity κ ν) :=
  if hroom : key ∈ map.entries ∨ map.entries.keys.length < capacity then
    some { entries := map.entries.insert key value
           size_le := by
             rw [AList.keys_insert, List.length_cons]
             rcases hroom with hmem | hlt
             · have hkeys : key ∈ map.entries.keys := AList.mem_keys.mp hmem
               have hpos := List.length_pos_of_mem hkeys
               have hle := map.size_le
               rw [List.length_erase_of_mem hkeys]
               omega
             · exact Nat.lt_of_le_of_lt List.length_erase_le hlt }
  else none

/-- Remove a key. -/
def erase (map : BoundedMap capacity κ ν) (key : κ) : BoundedMap capacity κ ν :=
  { entries := map.entries.erase key
    size_le := by
      rw [AList.keys_erase]
      exact Nat.le_trans List.length_erase_le map.size_le }

@[simp] theorem lookup_empty (key : κ) : (empty capacity κ ν).lookup key = none :=
  AList.lookup_empty key

/-- What an update leaves behind. -/
theorem lookup_of_update {map after : BoundedMap capacity κ ν} {key : κ} {value : ν}
    (h : map.update key value = some after) (other : κ) :
    after.lookup other = if other = key then some value else map.lookup other := by
  unfold update at h
  split at h
  · obtain rfl := Option.some.inj h
    by_cases heq : other = key
    · rw [if_pos heq, heq]
      exact AList.lookup_insert _
    · rw [if_neg heq]
      exact AList.lookup_insert_ne heq
  · cases h

/-- What an erasure leaves behind. -/
theorem lookup_erase (map : BoundedMap capacity κ ν) (key other : κ) :
    (map.erase key).lookup other = if other = key then none else map.lookup other := by
  by_cases heq : other = key
  · rw [if_pos heq, heq]
    exact AList.lookup_erase _ _
  · rw [if_neg heq]
    exact AList.lookup_erase_ne heq

end BoundedMap

end DaemonChoir.Foundation
