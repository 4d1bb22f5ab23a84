import Mathlib.Data.List.Nodup
import Mathlib.Data.List.Sigma
import Mathlib.Tactic.Common

/-!
# The first element for each key

`xs.filter((a, index, self) => index === self.findIndex((b) => key(b) === key(a)))` is a common
way to remove duplicates from an array. What is left has distinct keys, no key is lost, and the
element for a key is the one that `find` finds for it.
-/

namespace Js

variable {α κ : Type} [DecidableEq κ]

/-- The elements that are the first with their key. -/
def distinctBy (key : α → κ) (xs : List α) : List α :=
  (xs.zipIdx.filter fun p => p.2 = xs.findIdx fun b => key b = key p.1).map Prod.fst

variable {key : α → κ} {xs : List α} {a : α}

/-- An element is left exactly if it is the one that is found for its key. -/
lemma mem_distinctBy :
    a ∈ distinctBy key xs ↔ xs.find? (fun b => key b = key a) = some a := by
  rw [List.find?_eq_getElem?_findIdx]
  simp only [distinctBy, List.mem_map, List.mem_filter, List.mem_zipIdx_iff_getElem?,
    decide_eq_true_eq]
  constructor
  · rintro ⟨⟨b, i⟩, ⟨hget, hi⟩, rfl⟩
    rw [← hi]
    exact hget
  · intro hget
    exact ⟨⟨a, _⟩, ⟨hget, rfl⟩, rfl⟩

/-- The keys of the elements that are left are distinct: their positions are, and the key decides
the position. -/
lemma nodup_distinctBy (key : α → κ) (xs : List α) : ((distinctBy key xs).map key).Nodup := by
  have hpos : ((xs.zipIdx.filter fun p => p.2 = xs.findIdx fun b => key b = key p.1).map
      Prod.snd).Nodup :=
    (List.nodup_zipIdx_map_snd xs).sublist (List.filter_sublist.map _)
  refine List.Nodup.of_map (fun k => xs.findIdx fun b => key b = k) ?_
  convert hpos using 1
  rw [distinctBy, List.map_map, List.map_map]
  refine List.map_congr_left fun p hp => ?_
  have hkey := (List.mem_filter.mp hp).2
  simpa using (of_decide_eq_true hkey).symm

/-- What is found for a key is the only element with this key that is left. -/
lemma filter_distinctBy {k : κ} (h : xs.find? (fun b => key b = k) = some a) :
    (distinctBy key xs).filter (fun b => key b = k) = [a] := by
  have hkey : key a = k := by simpa using List.find?_some h
  subst hkey
  have hmem : a ∈ distinctBy key xs := mem_distinctBy.mpr h
  have hnodup := nodup_distinctBy key xs
  revert hmem hnodup
  induction distinctBy key xs with
  | nil => simp
  | cons b bs ih =>
    intro hmem hnodup
    rw [List.map_cons, List.nodup_cons] at hnodup
    rcases List.mem_cons.mp hmem with rfl | hmem
    · have hrest : ∀ b ∈ bs, ¬key b = key a := by
        intro b hb heq
        exact hnodup.1 (heq ▸ List.mem_map_of_mem hb)
      simpa using hrest
    · have hne : ¬key b = key a := by
        intro heq
        exact hnodup.1 (heq ▸ List.mem_map_of_mem hmem)
      simpa [hne] using ih hmem hnodup.2

/-- No key is lost: there is one element left with it. -/
lemma exists_filter_distinctBy (ha : a ∈ xs) :
    ∃ b, (distinctBy key xs).filter (fun c => key c = key a) = [b] := by
  have hsome : (xs.find? fun b => key b = key a).isSome := by
    rw [List.find?_isSome]
    exact ⟨a, ha, by simp⟩
  obtain ⟨b, hb⟩ := Option.isSome_iff_exists.mp hsome
  exact ⟨b, filter_distinctBy hb⟩

end Js
