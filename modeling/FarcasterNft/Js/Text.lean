import Mathlib.Data.List.Basic
import Mathlib.Tactic.Common

/-!
# Strings of JavaScript

A JavaScript string is a list of UTF-16 code units, which need not be well formed: a surrogate
may stand alone. A missing string is `none`; as a condition, a string counts as true exactly if
it is present and not empty.
-/

namespace Js

/-- A string, as the list of its UTF-16 code units. -/
abbrev JsString := List UInt16

/-- The UTF-16 code units of a character. -/
def codeUnits (c : Char) : JsString :=
  if c.val < 0x10000 then [c.val.toUInt16]
  else
    [(0xD800 : UInt16) + ((c.val - 0x10000) >>> 10).toUInt16,
      (0xDC00 : UInt16) + ((c.val - 0x10000) &&& 0x3FF).toUInt16]

/-- The string of a literal. -/
def js (s : String) : JsString := s.toList.flatMap codeUnits

/-- Whether an optional string counts as true in a condition. -/
def truthy (s : Option JsString) : Bool := s.any fun s => !s.isEmpty

/-- `s || fallback`. -/
def orElse (s : Option JsString) (fallback : JsString) : JsString :=
  match s with
  | some (u :: us) => u :: us
  | _ => fallback

/-! ### Code points -/

def isHighSurrogate (u : UInt16) : Bool := 0xD800 ≤ u && u < 0xDC00

def isLowSurrogate (u : UInt16) : Bool := 0xDC00 ≤ u && u < 0xE000

/-- `Array.from(s)`: the code points of a string, each as a string of its own. A surrogate
without a partner is a code point by itself. -/
def codePoints : JsString → List JsString
  | [] => []
  | [u] => [[u]]
  | u :: v :: us =>
    if isHighSurrogate u && isLowSurrogate v then [u, v] :: codePoints us
    else [u] :: codePoints (v :: us)

/-- A code point is a single unit or a pair of surrogates. -/
lemma eq_of_mem_codePoints {s c : JsString} (h : c ∈ codePoints s) :
    (∃ u ∈ s, c = [u]) ∨
      ∃ u v, c = [u, v] ∧ isHighSurrogate u = true ∧ isLowSurrogate v = true := by
  induction s using codePoints.induct with
  | case1 => cases h
  | case2 u =>
    rw [codePoints, List.mem_singleton] at h
    exact Or.inl ⟨u, List.mem_singleton_self u, h⟩
  | case3 u v us hpair ih =>
    rw [codePoints, if_pos hpair, List.mem_cons] at h
    rcases h with rfl | h
    · exact Or.inr ⟨u, v, rfl, by simpa using hpair⟩
    · obtain ⟨w, hw, rfl⟩ | hpair' := ih h
      · exact Or.inl ⟨w, by simp [hw], rfl⟩
      · exact Or.inr hpair'
  | case4 u v us hpair ih =>
    rw [codePoints, if_neg hpair, List.mem_cons] at h
    rcases h with rfl | h
    · exact Or.inl ⟨u, by simp, rfl⟩
    · obtain ⟨w, hw, rfl⟩ | hpair' := ih h
      · exact Or.inl ⟨w, List.mem_cons_of_mem _ hw, rfl⟩
      · exact Or.inr hpair'

/-- Without surrogates, the code points are the code units. -/
lemma codePoints_eq_map {s : JsString} (h : ∀ u ∈ s, u < 0xD800) :
    codePoints s = s.map fun u => [u] := by
  induction s using codePoints.induct with
  | case1 => rfl
  | case2 u => rfl
  | case3 u v us hpair ih =>
    have hu := h u (by simp)
    simp only [isHighSurrogate, isLowSurrogate, Bool.and_eq_true, decide_eq_true_eq] at hpair
    exact absurd hpair.1.1 (UInt16.not_le.mpr hu)
  | case4 u v us hpair ih =>
    rw [codePoints, if_neg hpair, ih fun w hw => h w (List.mem_cons_of_mem _ hw)]
    rfl

/-! ### Strings as conditions -/

@[simp] lemma truthy_none : truthy none = false := rfl

@[simp] lemma truthy_some (s : JsString) : truthy (some s) = true ↔ s ≠ [] := by
  simp [truthy]

end Js
