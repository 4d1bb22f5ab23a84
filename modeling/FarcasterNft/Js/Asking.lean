import FarcasterNft.Js.Loop

/-!
# Programs that ask

A program that asks the world one question after the other, while the world goes on. The state
of the program is the number of questions it has asked, and each question has an answer of its
own, or fails. What such a program returns is told by pure functions of the answers, with the
numbers of the questions in the places of the calls.
-/

namespace Js

variable {S W α β : Type}

/-- Ask a question: the next answer there is, seen through a query. -/
def ask (answers : ℕ → Except Thrown W) (query : W → Except Thrown α) : Async ℕ α := do
  let k ← get
  set (k + 1)
  lift (answers k >>= query)

@[simp] lemma perform_ask (answers : ℕ → Except Thrown W) (query : W → Except Thrown α) (k : ℕ) :
    perform (ask answers query) k = (answers k >>= query, k + 1) := rfl

/-- What follows a question. -/
lemma perform_ask_bind (answers : ℕ → Except Thrown W) (query : W → Except Thrown α)
    (f : α → Async ℕ β) (k : ℕ) :
    perform (ask answers query >>= f) k = match answers k >>= query with
      | .ok a => perform (f a) (k + 1)
      | .error e => (.error e, k + 1) := by
  rw [perform_bind, perform_ask]
  cases answers k >>= query <;> rfl

/-! ### Loops -/

/-- The elements of a list, each with the state in which its iteration begins. -/
def starts (next : α → S → S) : List α → S → List (α × S)
  | [], _ => []
  | a :: as, s => (a, s) :: starts next as (next a s)

@[simp] lemma map_fst_starts (next : α → S → S) (as : List α) (s : S) :
    (starts next as s).map Prod.fst = as := by
  induction as generalizing s with
  | nil => rfl
  | cons a as ih => rw [starts, List.map_cons, ih]

/-- Iterations that ask one question each begin with consecutive questions. -/
lemma starts_succ_range' (n i k : ℕ) :
    starts (fun _ k => k + 1) (List.range' i n) k =
      (List.range n).map fun j => (i + j, k + j) := by
  induction n generalizing i k with
  | zero => rfl
  | succ n ih =>
    rw [List.range'_succ, starts, ih, List.range_succ_eq_map, List.map_cons, List.map_map]
    simp [Function.comp_def, Nat.add_comm, Nat.add_left_comm]

lemma starts_succ_range (n k : ℕ) :
    starts (fun _ k => k + 1) (List.range n) k = (List.range n).map fun i => (i, k + i) := by
  rw [List.range_eq_range', starts_succ_range', ← List.range_eq_range']
  simp

/-- What a loop returns is what a loop without a state returns, over the elements and the states
in which their iterations begin. -/
lemma perform_collect_fst (body : α → Async S (List β)) (as : List α) (s : S) :
    (perform (collect body as) s).1 =
      collect (fun p => (perform (body p.1) p.2).1)
        (starts (fun a s => (perform (body a) s).2) as s) := by
  induction as generalizing s with
  | nil => rfl
  | cons a as ih =>
    rw [collect, starts, collect, perform_bind]
    rcases ha : perform (body a) s with ⟨e | new, t⟩
    · rfl
    · show (perform (collect body as >>= fun rest => pure (new ++ rest)) t).1 =
        (do
          let rest ← collect (fun p => (perform (body p.1) p.2).1)
            (starts (fun a s => (perform (body a) s).2) as t)
          return new ++ rest)
      rw [← ih t, perform_bind]
      rcases perform (collect body as) t with ⟨e | rest, t'⟩ <;> rfl

/-- A loop that ends normally joins what its iterations return. -/
lemma eq_flatMap_of_collect_eq_ok {body : α → Except Thrown (List β)} {g : α → List β}
    {as : List α} {bs : List β} (h : collect body as = .ok bs)
    (hg : ∀ a ∈ as, ∀ new, body a = .ok new → new = g a) : bs = as.flatMap g := by
  have hbody : ∀ a ∈ as, body a = .ok (g a) := by
    intro a ha
    obtain ⟨new, hnew⟩ := exists_collect_eq_ok_iff.mp ⟨bs, h⟩ a ha
    rw [hnew, hg a ha new hnew]
  rw [collect_eq_ok hbody, Except.ok.injEq] at h
  exact h.symm

/-- A loop over the first numbers whose iterations ask one question each: it ends normally
exactly if all iterations do. -/
lemma exists_perform_collect_range_iff {body : ℕ → Async ℕ (List β)}
    (hsnd : ∀ i k, (perform (body i) k).2 = k + 1) (n k : ℕ) :
    (∃ bs, (perform (collect body (List.range n)) k).1 = .ok bs) ↔
      ∀ i < n, ∃ new, (perform (body i) (k + i)).1 = .ok new := by
  have hnext : (fun i k => (perform (body i) k).2) = fun _ k => k + 1 :=
    funext₂ fun i k => hsnd i k
  rw [perform_collect_fst, hnext, starts_succ_range, exists_collect_eq_ok_iff]
  simp

/-- What such a loop returns, if the iterations can return nothing else than `g`. -/
lemma perform_collect_range {body : ℕ → Async ℕ (List β)} {g : ℕ → ℕ → List β}
    (hsnd : ∀ i k, (perform (body i) k).2 = k + 1)
    (hg : ∀ i k new, (perform (body i) k).1 = .ok new → new = g i k) {n k : ℕ} {bs : List β}
    (h : (perform (collect body (List.range n)) k).1 = .ok bs) :
    bs = (List.range n).flatMap fun i => g i (k + i) := by
  have hnext : (fun i k => (perform (body i) k).2) = fun _ k => k + 1 :=
    funext₂ fun i k => hsnd i k
  rw [perform_collect_fst, hnext, starts_succ_range] at h
  have hbs := eq_flatMap_of_collect_eq_ok (g := fun p => g p.1 p.2) h
    fun p _ new hnew => hg p.1 p.2 new hnew
  rw [hbs, List.flatMap_map]

/-- Running all of a list of callbacks that ask one question each and never throw. -/
lemma perform_mapM {f : α → Async ℕ β} {g : α → ℕ → β} (as : List α) (k : ℕ)
    (h : ∀ a ∈ as, ∀ k, perform (f a) k = (.ok (g a k), k + 1)) :
    perform (as.mapM f) k =
      (.ok ((starts (fun _ k => k + 1) as k).map fun p => g p.1 p.2), k + as.length) := by
  induction as generalizing k with
  | nil => rfl
  | cons a as ih =>
    have ha := h a List.mem_cons_self k
    have has := ih (k + 1) fun b hb => h b (List.mem_cons_of_mem a hb)
    rw [List.mapM_cons, perform_bind, ha]
    show perform (as.mapM f >>= fun rest => pure (g a k :: rest)) (k + 1) = _
    rw [perform_bind, has, List.length_cons]
    show (Except.ok _, _) = (Except.ok _, _)
    rw [Nat.add_assoc, Nat.add_comm 1]
    rfl

end Js
