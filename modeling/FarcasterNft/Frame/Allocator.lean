import Mathlib.Algebra.Group.Nat.Defs
import Mathlib.Data.List.Nodup
import Mathlib.Data.List.Range
import Mathlib.Order.Defs.LinearOrder
import Mathlib.Tactic.Common

/-!
# Saturating counters as id allocators

A pallet that numbers its objects keeps the next free id in a 32-bit counter: it hands out the
counter's value and advances it by a saturating addition. `Allocated ids next` says that the
counter has handed out `ids`, in this order, and now stands at `next`.

The ids are pairwise distinct exactly as long as at most `2 ^ 32` of them were handed out.
From then on the counter rests on its last value and hands it out again and again.
-/

namespace Frame

/-- `u32::saturating_add`. -/
def saturatingAdd (a b : UInt32) : UInt32 :=
  if a.toNat + b.toNat < 2 ^ 32 then a + b else UInt32.ofNat (2 ^ 32 - 1)

lemma toNat_saturatingAdd (a b : UInt32) :
    (saturatingAdd a b).toNat = min (a.toNat + b.toNat) (2 ^ 32 - 1) := by
  rw [saturatingAdd]
  split_ifs with h
  · rw [UInt32.toNat_add]
    omega
  · rw [UInt32.toNat_ofNat_of_lt' (by decide)]
    omega

/-- The counter has handed out `ids` one after the other and stands at `next`. -/
structure Allocated (ids : List UInt32) (next : UInt32) : Prop where
  ids_eq : ids.map UInt32.toNat = (List.range ids.length).map (min · (2 ^ 32 - 1))
  next_eq : next.toNat = min ids.length (2 ^ 32 - 1)

namespace Allocated

variable {ids : List UInt32} {next : UInt32}

lemma nil : Allocated [] 0 := ⟨rfl, rfl⟩

/-- Handing out the counter's value and advancing it keeps the two in step. -/
lemma push (h : Allocated ids next) : Allocated (ids ++ [next]) (saturatingAdd next 1) where
  ids_eq := by simp [List.range_succ, h.ids_eq, h.next_eq]
  next_eq := by
    rw [toNat_saturatingAdd, h.next_eq]
    simp only [List.length_append, List.length_singleton, UInt32.reduceToNat]
    omega

lemma exists_eq_of_mem (h : Allocated ids next) {i : UInt32} (hi : i ∈ ids) :
    ∃ k < ids.length, i.toNat = min k (2 ^ 32 - 1) := by
  have hmem : i.toNat ∈ ids.map UInt32.toNat := List.mem_map_of_mem hi
  rw [h.ids_eq] at hmem
  obtain ⟨k, hk, hki⟩ := List.mem_map.mp hmem
  exact ⟨k, List.mem_range.mp hk, hki.symm⟩

/-- The counter never stands below an id it has handed out. -/
lemma le_next (h : Allocated ids next) {i : UInt32} (hi : i ∈ ids) : i ≤ next := by
  obtain ⟨k, hk, hki⟩ := h.exists_eq_of_mem hi
  rw [UInt32.le_iff_toNat_le, h.next_eq, hki]
  omega

/-- Below the limit, the counter stands above every id it has handed out. -/
lemma lt_next (h : Allocated ids next) (hlen : ids.length < 2 ^ 32) {i : UInt32}
    (hi : i ∈ ids) : i < next := by
  obtain ⟨k, hk, hki⟩ := h.exists_eq_of_mem hi
  rw [UInt32.lt_iff_toNat_lt, h.next_eq, hki]
  omega

lemma next_notMem (h : Allocated ids next) (hlen : ids.length < 2 ^ 32) : next ∉ ids :=
  fun hmem => absurd (h.lt_next hlen hmem) (UInt32.lt_irrefl next)

/-- The ids are distinct exactly if there are at most `2 ^ 32` of them. -/
theorem nodup_iff (h : Allocated ids next) : ids.Nodup ↔ ids.length ≤ 2 ^ 32 := by
  have hmap : ids.Nodup ↔ (ids.map UInt32.toNat).Nodup :=
    (List.nodup_map_iff fun _ _ => UInt32.toNat_inj.mp).symm
  rw [hmap, h.ids_eq]
  constructor
  · intro hnd
    by_contra hlt
    -- the two ids handed out at the limit coincide
    have heq := List.inj_on_of_nodup_map hnd
      (List.mem_range.mpr (show 2 ^ 32 - 1 < ids.length by omega))
      (List.mem_range.mpr (show 2 ^ 32 < ids.length by omega))
      (by simp)
    simp at heq
  · intro hle
    refine List.Nodup.map_on (fun a ha b hb hab => ?_) List.nodup_range
    rw [List.mem_range] at ha hb
    omega

end Allocated

end Frame
