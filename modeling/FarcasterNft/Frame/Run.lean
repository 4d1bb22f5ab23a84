import Mathlib.Data.List.Basic
import Mathlib.Data.List.Induction
import Mathlib.Tactic.Common

/-!
# Runs of a deterministic machine

A machine is a step function `S → I → S`. A run is the list of its inputs, oldest first. What
happened at one point of a run is an `Occurrence`: the input processed there, together with the
inputs before it, which determine the state the input met. Histories (what was allocated, who
paid what) are folds over the occurrences of a run.
-/

namespace Frame

variable {S I : Type*}

/-- The state a run leads to. -/
def run (step : S → I → S) (s : S) (is : List I) : S := is.foldl step s

/-- A point of a run: an input, and the inputs processed before it. -/
structure Occurrence (I : Type*) where
  past : List I
  input : I

/-- Every point of a run, in order. -/
def occurrences : List I → List (Occurrence I) :=
  go []
where
  go (past : List I) : List I → List (Occurrence I)
    | [] => []
    | i :: is => ⟨past, i⟩ :: go (past ++ [i]) is

section

variable (step : S → I → S) (s : S)

@[simp] lemma run_concat (is : List I) (i : I) :
    run step s (is ++ [i]) = step (run step s is) i := by
  simp [run]

end

/-! ### Occurrences -/

@[simp] lemma occurrences_nil : occurrences ([] : List I) = [] := rfl

lemma occurrences_go_concat (past is : List I) (i : I) :
    occurrences.go past (is ++ [i]) = occurrences.go past is ++ [⟨past ++ is, i⟩] := by
  induction is generalizing past with
  | nil => simp [occurrences.go]
  | cons j is ih => simp [occurrences.go, ih]

/-- One more input adds one more point, whose past is the run so far. -/
@[simp] lemma occurrences_concat (is : List I) (i : I) :
    occurrences (is ++ [i]) = occurrences is ++ [⟨is, i⟩] := by
  simpa [occurrences] using occurrences_go_concat [] is i

/-- A history collected from the points of a run grows by what happens at the last one. -/
lemma filterMap_occurrences_concat {A : Type*} (f : Occurrence I → Option A) (is : List I)
    (i : I) : (occurrences (is ++ [i])).filterMap f =
      (occurrences is).filterMap f ++ (f ⟨is, i⟩).toList := by
  rw [occurrences_concat, List.filterMap_append]
  cases h : f ⟨is, i⟩ <;> simp [h]

@[simp] lemma length_occurrences (is : List I) : (occurrences is).length = is.length := by
  induction is using List.reverseRecOn with
  | nil => rfl
  | append_singleton is i ih => simp [ih]

/-- The points of a run are the ways to cut it at an input. -/
lemma mem_occurrences {is : List I} {o : Occurrence I} :
    o ∈ occurrences is ↔ ∃ later, is = o.past ++ o.input :: later := by
  induction is using List.reverseRecOn with
  | nil => simp
  | append_singleton is i ih =>
    rw [occurrences_concat, List.mem_append, List.mem_singleton, ih]
    constructor
    · rintro (⟨later, rfl⟩ | rfl)
      · exact ⟨later ++ [i], by simp⟩
      · exact ⟨[], rfl⟩
    · rintro ⟨later, h⟩
      induction later using List.reverseRecOn with
      | nil =>
        obtain ⟨rfl, h⟩ := List.append_inj' h rfl
        exact Or.inr (by cases o; simp_all)
      | append_singleton later j _ =>
        rw [← List.cons_append, ← List.append_assoc] at h
        exact Or.inl ⟨later, (List.append_inj' h rfl).1⟩

/-- The points of an initial segment come first among the points of the run. -/
lemma occurrences_isPrefix {is js : List I} (h : is <+: js) :
    occurrences is <+: occurrences js := by
  obtain ⟨later, rfl⟩ := h
  induction later using List.reverseRecOn with
  | nil => simp
  | append_singleton later j ih =>
    rw [← List.append_assoc, occurrences_concat]
    exact ih.trans (List.prefix_append _ _)

lemma past_isPrefix {is : List I} {o : Occurrence I} (h : o ∈ occurrences is) :
    o.past ++ [o.input] <+: is := by
  obtain ⟨later, rfl⟩ := mem_occurrences.mp h
  exact ⟨later, by simp⟩

/-! ### Invariants -/

/-- What holds at the start and survives every step of the run holds where the run ends.
The step may use that its input is a point of the run. -/
theorem run_invariant {step : S → I → S} {s : S} (P : List I → S → Prop) {is : List I}
    (init : P [] s)
    (next : ∀ o ∈ occurrences is, P o.past (run step s o.past) →
      P (o.past ++ [o.input]) (step (run step s o.past) o.input)) :
    P is (run step s is) := by
  induction is using List.reverseRecOn with
  | nil => exact init
  | append_singleton is i ih =>
    rw [run_concat]
    refine next ⟨is, i⟩ (by simp) (ih fun o ho => next o ?_)
    rw [occurrences_concat]
    exact List.mem_append_left _ ho

/-- If every step from a state with `P` keeps `P` exactly under the condition `C`, then `P`
holds all along a run exactly if every step of the run meets `C`. -/
theorem run_invariant_iff {step : S → I → S} {s : S} {P : S → Prop} {C : S → I → Prop}
    (init : P s) (next : ∀ t i, P t → (P (step t i) ↔ C t i)) (is : List I) :
    (∀ js, js <+: is → P (run step s js)) ↔
      ∀ o ∈ occurrences is, C (run step s o.past) o.input := by
  constructor
  · intro h o ho
    have hpast : o.past ++ [o.input] <+: is := past_isPrefix ho
    rw [← next _ _ (h _ ((List.prefix_append _ _).trans hpast)), ← run_concat step]
    exact h _ hpast
  · intro h js hjs
    refine run_invariant (fun _ t => P t) init fun o ho hP => (next _ _ hP).mpr (h o ?_)
    exact (occurrences_isPrefix hjs).subset ho

end Frame
