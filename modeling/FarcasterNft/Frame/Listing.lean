import Mathlib.Data.List.Nodup
import FarcasterNft.Frame.Storage

/-!
# Listing a storage map

Iterating over a storage map yields its entries, each key once, in an order that the keys'
hashes decide. A `Listing` is such a list of entries. Only finite maps have one; inserting and
removing a key keep a map finite.
-/

namespace Frame

variable {K V : Type*}

/-- The entries of a storage map, in some order. -/
structure Listing (m : StorageMap K V) where
  entries : List (K × V)
  nodup : (entries.map Prod.fst).Nodup
  mem_iff : ∀ k v, (k, v) ∈ entries ↔ m k = some v

namespace Listing

variable {m : StorageMap K V}

def empty : Listing (StorageMap.empty : StorageMap K V) where
  entries := []
  nodup := List.nodup_nil
  mem_iff k v := by simp

variable [DecidableEq K]

def remove (L : Listing m) (k : K) : Listing (m.remove k) where
  entries := L.entries.filter fun e => e.1 ≠ k
  nodup := L.nodup.sublist (List.filter_sublist.map _)
  mem_iff k' v := by
    rw [List.mem_filter, L.mem_iff, StorageMap.remove_eq_some_iff]
    simp [and_comm]

def insert (L : Listing m) (k : K) (v : V) : Listing (m.insert k v) where
  entries := (k, v) :: (L.remove k).entries
  nodup := by
    rw [List.map_cons, List.nodup_cons]
    refine ⟨fun hk => ?_, (L.remove k).nodup⟩
    obtain ⟨⟨k', w⟩, hmem, rfl⟩ := List.mem_map.mp hk
    simpa using ((L.remove k').mem_iff k' w).mp hmem
  mem_iff k' w := by
    rw [List.mem_cons, (L.remove k).mem_iff, StorageMap.remove_eq_some_iff,
      StorageMap.insert_eq_some_iff, Prod.mk.injEq]
    simp [eq_comm]

end Listing

end Frame
