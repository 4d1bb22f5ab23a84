import Mathlib.Data.Set.Lattice
import Mathlib.Order.CompletePartialOrder
import Mathlib.Tactic.Common

/-!
# Footprints

A state is read cell by cell, each cell with a type of its own. An operation has a footprint:
a set of cells such that it writes to no other cell, and that the cells in the set determine
what it returns and what it writes. Operations with disjoint footprints commute.

The cells need not determine the state. Parts of it that are in no cell, such as a log that
every operation appends to, may come out different in the two orders.
-/

namespace Frame

/-- A way to read a state cell by cell. -/
structure CellView (S Cell : Type*) where
  Val : Cell → Type*
  read : S → (k : Cell) → Val k

variable {S Cell R Q : Type*} (V : CellView S Cell)

/-- Two states look the same on a set of cells. -/
def CellView.AgreeOn (F : Set Cell) (s t : S) : Prop := ∀ k ∈ F, V.read s k = V.read t k

/-- The operation writes to cells in `F` only, and depends on cells in `F` only. -/
structure HasFootprint (F : Set Cell) (f : S → R × S) : Prop where
  frame : ∀ s, ∀ k ∉ F, V.read (f s).2 k = V.read s k
  result : ∀ s t, V.AgreeOn F s t → (f s).1 = (f t).1
  agree : ∀ s t, V.AgreeOn F s t → V.AgreeOn F (f s).2 (f t).2

namespace HasFootprint

variable {V} {F G : Set Cell} {f : S → R × S} {g : S → Q × S}

/-- What an operation elsewhere has left is as good as the original. -/
lemma agreeOn_of_disjoint (hg : HasFootprint V G g) (h : Disjoint F G) (s : S) :
    V.AgreeOn F s (g s).2 :=
  fun k hk => (hg.frame s k (Set.disjoint_left.mp h hk)).symm

/-- An operation does not notice another one elsewhere. -/
lemma result_eq (hf : HasFootprint V F f) (hg : HasFootprint V G g) (h : Disjoint F G) (s : S) :
    (f (g s).2).1 = (f s).1 :=
  (hf.result s (g s).2 (hg.agreeOn_of_disjoint h s)).symm

/-- Operations with disjoint footprints leave the same cells in either order. -/
theorem read_comm (hf : HasFootprint V F f) (hg : HasFootprint V G g) (h : Disjoint F G) (s : S)
    (k : Cell) : V.read (g (f s).2).2 k = V.read (f (g s).2).2 k := by
  by_cases hF : k ∈ F
  · have hG : k ∉ G := Set.disjoint_left.mp h hF
    rw [hg.frame _ k hG]
    exact hf.agree s (g s).2 (hg.agreeOn_of_disjoint h s) k hF
  · rw [hf.frame _ k hF]
    by_cases hG : k ∈ G
    · exact (hg.agree s (f s).2 (hf.agreeOn_of_disjoint h.symm s) k hG).symm
    · rw [hg.frame _ k hG, hf.frame _ k hF, hg.frame _ k hG]

end HasFootprint

end Frame
