import Mathlib.Algebra.Group.Nat.Defs
import Mathlib.Data.List.Nodup
import FarcasterNft.Js.Async

/-!
# Loops that collect results

A `for` loop whose body pushes results onto one list. The loop is the same in every monad that its
body may run in: one that can only throw, one that keeps a log, one that asks questions. The results
come in the order of the iterations; a throw ends the loop, and no result is left.
-/

namespace Js

variable {α β κ ι : Type*}

/-- Run the body for each element of a list and join what the iterations push. -/
def collect {m : Type → Type} [Monad m] {β : Type} (body : α → m (List β)) : List α → m (List β)
  | [] => return []
  | a :: as => do
    let new ← body a
    let rest ← collect body as
    return new ++ rest

section

variable {β : Type}

/-- A loop whose body never throws. -/
lemma collect_eq_ok {body : α → Except Thrown (List β)} {g : α → List β} {as : List α}
    (h : ∀ a ∈ as, body a = .ok (g a)) : collect body as = .ok (as.flatMap g) := by
  induction as with
  | nil => rfl
  | cons a as ih =>
    have ha := h a List.mem_cons_self
    have has := ih fun b hb => h b (List.mem_cons_of_mem a hb)
    rw [collect, ha, has]
    rfl

/-- The loop ends normally exactly if all iterations do. -/
lemma exists_collect_eq_ok_iff {body : α → Except Thrown (List β)} {as : List α} :
    (∃ bs, collect body as = .ok bs) ↔ ∀ a ∈ as, ∃ bs, body a = .ok bs := by
  constructor
  · rintro ⟨bs, hbs⟩
    induction as generalizing bs with
    | nil => simp
    | cons a as ih =>
      rw [collect] at hbs
      cases ha : body a with
      | error e =>
        rw [ha] at hbs
        cases hbs
      | ok new =>
        cases has : collect body as with
        | error e =>
          rw [ha, has] at hbs
          cases hbs
        | ok rest =>
          intro b hb
          rcases List.mem_cons.mp hb with rfl | hb
          · exact ⟨new, ha⟩
          · exact ih rest has b hb
  · intro h
    choose! g hg using h
    exact ⟨_, collect_eq_ok hg⟩

end

/-- `list.filter(keep)`, where the callback may throw. -/
def filter {α : Type} (keep : α → Except Thrown Bool) : List α → Except Thrown (List α) :=
  collect fun a => do if ← keep a then return [a] else return []

lemma filter_eq_ok {α : Type} {keep : α → Except Thrown Bool} {p : α → Bool} {as : List α}
    (h : ∀ a ∈ as, keep a = .ok (p a)) : filter keep as = .ok (as.filter p) := by
  induction as with
  | nil => rfl
  | cons a as ih =>
    have ha := h a List.mem_cons_self
    have has := ih fun b hb => h b (List.mem_cons_of_mem a hb)
    rw [filter] at has ⊢
    rw [collect, ha, has, List.filter_cons]
    cases p a <;> rfl

/-- A callback that throws for one element leaves no list. -/
lemma exists_filter_eq_error {α : Type} {keep : α → Except Thrown Bool} {as : List α} {a : α}
    {e : Thrown} (ha : a ∈ as) (h : keep a = .error e) : ∃ e', filter keep as = .error e' := by
  cases hall : filter keep as with
  | error e' => exact ⟨e', rfl⟩
  | ok bs =>
    rw [filter] at hall
    obtain ⟨new, hnew⟩ := exists_collect_eq_ok_iff.mp ⟨bs, hall⟩ a ha
    rw [h] at hnew
    cases hnew

/-- Running all of a list of callbacks that never throw. -/
lemma mapM_eq_ok {f : α → Except Thrown β} {g : α → β} {as : List α}
    (h : ∀ a ∈ as, f a = .ok (g a)) : as.mapM f = .ok (as.map g) := by
  induction as with
  | nil => rfl
  | cons a as ih =>
    have ha := h a List.mem_cons_self
    have has := ih fun b hb => h b (List.mem_cons_of_mem a hb)
    rw [List.mapM_cons, ha, has]
    rfl

/-- `Array.from({ length }, f)`. No array has `2 ^ 32` elements. -/
def arrayFrom {m : Type → Type} [Monad m] [MonadExcept Thrown m] {γ : Type} (length : ℕ)
    (f : ℕ → m γ) : m (List γ) :=
  if length < 2 ^ 32 then (List.range length).mapM f
  else throw (.error (js "Invalid array length"))

section

variable {γ : Type} {f : ℕ → Except Thrown γ} {g : ℕ → γ} {n : ℕ}

lemma arrayFrom_eq_ok (hn : n < 2 ^ 32) (h : ∀ i < n, f i = .ok (g i)) :
    arrayFrom n f = .ok ((List.range n).map g) := by
  rw [arrayFrom, if_pos hn]
  exact mapM_eq_ok fun i hi => h i (List.mem_range.mp hi)

lemma arrayFrom_eq_error (hn : ¬ n < 2 ^ 32) :
    arrayFrom n f = .error (.error (js "Invalid array length")) := by
  rw [arrayFrom, if_neg hn]
  rfl

end

/-- Results with distinct keys in each iteration have distinct keys altogether, if a result's
key tells which iteration it came from. -/
lemma nodup_map_flatMap {l : List α} {f : α → List β} {key : β → κ} (index : α → ι) (part : κ → ι)
    (hl : (l.map index).Nodup) (hf : ∀ a ∈ l, ((f a).map key).Nodup)
    (hpart : ∀ a ∈ l, ∀ b ∈ f a, part (key b) = index a) : ((l.flatMap f).map key).Nodup := by
  rw [List.map_flatMap, List.nodup_flatMap]
  refine ⟨hf, ?_⟩
  have hindex : l.Pairwise fun a a' => index a ≠ index a' := List.pairwise_map.mp hl
  refine hindex.imp_of_mem fun {a a'} ha ha' hne k hk hk' => hne ?_
  obtain ⟨b, hb, rfl⟩ := List.mem_map.mp hk
  obtain ⟨b', hb', heq⟩ := List.mem_map.mp hk'
  rw [← hpart a ha b hb, ← heq]
  exact hpart a' ha' b' hb'

end Js
