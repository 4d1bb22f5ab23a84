import Mathlib.Data.Set.Card
import Mathlib.Data.List.Nodup

/-!
# Increasing enumerations of a set

A list of ids kept beside a map of the objects themselves is an index of that map: it lists
the ids in use in strictly increasing order. `Enumerates l S` says so of a list and a set.
Appending an id above all others and filtering one out keep an index an index.
-/

namespace Frame

variable {α : Type*} [LT α]

/-- `l` lists exactly the elements of `S`, in strictly increasing order. -/
structure Enumerates (l : List α) (S : Set α) : Prop where
  increasing : l.Pairwise (· < ·)
  mem_iff : ∀ a, a ∈ l ↔ a ∈ S

namespace Enumerates

variable {l : List α} {S : Set α}

lemma nil : Enumerates ([] : List α) ∅ := ⟨.nil, by simp⟩

/-- A new greatest element goes to the end. -/
lemma concat (h : Enumerates l S) {a : α} (ha : ∀ b ∈ S, b < a) :
    Enumerates (l ++ [a]) (insert a S) where
  increasing := by
    refine List.pairwise_append.mpr ⟨h.increasing, List.pairwise_singleton _ _, ?_⟩
    intro b hb a' ha'
    rw [List.mem_singleton.mp ha']
    exact ha b ((h.mem_iff b).mp hb)
  mem_iff b := by
    rw [List.mem_append, List.mem_singleton, h.mem_iff, Set.mem_insert_iff, or_comm]

lemma filter_bne [DecidableEq α] (h : Enumerates l S) (a : α) :
    Enumerates (l.filter (· != a)) (S \ {a}) where
  increasing := h.increasing.filter _
  mem_iff b := by simp [List.mem_filter, h.mem_iff]

variable [Std.Irrefl fun a b : α => a < b]

lemma nodup (h : Enumerates l S) : l.Nodup := h.increasing.nodup

/-- The index is as long as the set is large. -/
theorem encard_eq (h : Enumerates l S) : S.encard = l.length := by
  classical
  have hS : S = ↑l.toFinset := by
    ext a
    rw [List.coe_toFinset, Set.mem_ofPred_eq, h.mem_iff]
  rw [hS, Set.encard_coe_eq_coe_finsetCard, List.toFinset_card_of_nodup h.nodup]

end Enumerates

end Frame
