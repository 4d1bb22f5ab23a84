import FarcasterNft.Js.Loop

/-!
# Programs that keep a log

A program over a list of events that only appends to it. `Logs` says how it ends and what it
appends, from any log; there is one rule for each way in which such programs are put together.
-/

namespace Js

variable {E α β : Type}

/-- Append an event to the log. -/
def note (e : E) : Async (List E) Unit := modify fun log => log ++ [e]

/-- The program ends with `r` and appends `q`, whatever the log is. -/
def Logs (x : Async (List E) α) (r : Except Thrown α) (q : List E) : Prop :=
  ∀ log, perform x log = (r, log ++ q)

/-- The events of a run from the empty log. -/
def noted (x : Async (List E) α) : List E := (perform x []).2

lemma Logs.noted_eq {x : Async (List E) α} {r : Except Thrown α} {q : List E} (h : Logs x r q) :
    noted x = q := by
  rw [noted, h]
  rfl

/-! ### Single steps -/

lemma logs_pure (a : α) : Logs (pure a : Async (List E) α) (.ok a) [] := by
  intro log
  rw [perform_pure, List.append_nil]

lemma logs_lift (x : Except Thrown α) : Logs (lift x : Async (List E) α) x [] := by
  intro log
  rw [perform_lift, List.append_nil]

lemma logs_note (e : E) : Logs (note e) (.ok ()) [e] := fun _ => rfl

lemma logs_throw (e : Thrown) : Logs (throw e : Async (List E) α) (.error e) [] := by
  intro log
  rw [perform_throw, List.append_nil]

lemma logs_external_none : Logs (external none : Async (List E) Unit) (.ok ()) [] := by
  intro log
  rw [perform_external_none, List.append_nil]

lemma logs_external_some (e : Thrown) :
    Logs (external (some e) : Async (List E) Unit) (.error e) [] := by
  intro log
  rw [perform_external_some, List.append_nil]

/-! ### Sequences and handlers -/

namespace Logs

variable {x : Async (List E) α} {f : α → Async (List E) β} {handler : Thrown → Async (List E) α}
variable {a : α} {e : Thrown} {r : Except Thrown α} {r' : Except Thrown β} {p q : List E}

lemma bind (hx : Logs x (.ok a) p) (hf : Logs (f a) r' q) : Logs (x >>= f) r' (p ++ q) := by
  intro log
  rw [perform_bind, hx log]
  show perform (f a) (log ++ p) = (r', log ++ (p ++ q))
  rw [hf, List.append_assoc]

lemma bind_error (hx : Logs x (.error e) p) : Logs (x >>= f) (.error e) p := by
  intro log
  rw [perform_bind, hx log]

lemma tryCatch_ok (hx : Logs x (.ok a) p) : Logs (tryCatch x handler) (.ok a) p := by
  intro log
  rw [perform_tryCatch, hx log]

lemma tryCatch_error (hx : Logs x (.error e) p) (hh : Logs (handler e) r q) :
    Logs (tryCatch x handler) r (p ++ q) := by
  intro log
  rw [perform_tryCatch, hx log]
  show perform (handler e) (log ++ p) = (r, log ++ (p ++ q))
  rw [hh, List.append_assoc]

/-- What follows notes nothing: the outcome is that of the same steps without a log. -/
lemma bind_quiet {y : Except Thrown α} {g : α → Except Thrown β} (hx : Logs x y p)
    (hf : ∀ a, Logs (f a) (g a) []) : Logs (x >>= f) (y >>= g) p := by
  cases y with
  | ok a =>
    have hboth : Logs (x >>= f) (g a) (p ++ []) := hx.bind (hf a)
    rw [List.append_nil] at hboth
    exact hboth
  | error e => exact hx.bind_error

/-- A handler that notes nothing. -/
lemma tryCatch_quiet (hx : Logs x r p) (a : α) :
    Logs (tryCatch x fun _ => pure a) (tryCatch r fun _ => pure a) p := by
  cases r with
  | ok b => exact hx.tryCatch_ok
  | error e =>
    have hhandled : Logs (tryCatch x fun _ => pure a) (.ok a) (p ++ []) :=
      hx.tryCatch_error (logs_pure a)
    rw [List.append_nil] at hhandled
    exact hhandled

lemma tryCatch_unit {x : Async (List E) Unit} {r : Except Thrown Unit} (hx : Logs x r p) :
    Logs (tryCatch x fun _ => pure ()) (.ok ()) p := by
  cases r with
  | ok => exact hx.tryCatch_quiet ()
  | error e => exact hx.tryCatch_quiet ()

end Logs

/-! ### Loops -/

/-- A loop whose body never throws. -/
lemma logs_collect {body : α → Async (List E) (List β)} {g : α → List β} {q : α → List E}
    {as : List α} (h : ∀ a ∈ as, Logs (body a) (.ok (g a)) (q a)) :
    Logs (collect body as) (.ok (as.flatMap g)) (as.flatMap q) := by
  induction as with
  | nil => exact logs_pure []
  | cons a as ih =>
    have ha := h a List.mem_cons_self
    have has := ih fun b hb => h b (List.mem_cons_of_mem a hb)
    have hrest : Logs (do
        let rest ← collect body as
        return g a ++ rest) (.ok (g a ++ as.flatMap g)) (as.flatMap q ++ []) :=
      has.bind (logs_pure _)
    rw [List.append_nil] at hrest
    exact ha.bind hrest

/-- Running all of a list of callbacks that never throw. -/
lemma logs_mapM {f : α → Async (List E) β} {g : α → β} {q : α → List E} {as : List α}
    (h : ∀ a ∈ as, Logs (f a) (.ok (g a)) (q a)) :
    Logs (as.mapM f) (.ok (as.map g)) (as.flatMap q) := by
  induction as with
  | nil => exact logs_pure []
  | cons a as ih =>
    have ha := h a List.mem_cons_self
    have has := ih fun b hb => h b (List.mem_cons_of_mem a hb)
    have hrest : Logs (do
        let rest ← as.mapM f
        return g a :: rest) (.ok (g a :: as.map g)) (as.flatMap q ++ []) :=
      has.bind (logs_pure _)
    rw [List.append_nil] at hrest
    rw [List.mapM_cons]
    exact ha.bind hrest

section

variable {f : ℕ → Async (List E) β} {g : ℕ → β} {q : ℕ → List E} {n : ℕ}

lemma logs_arrayFrom (hn : n < 2 ^ 32) (h : ∀ i < n, Logs (f i) (.ok (g i)) (q i)) :
    Logs (arrayFrom n f) (.ok ((List.range n).map g)) ((List.range n).flatMap q) := by
  rw [arrayFrom, if_pos hn]
  exact logs_mapM fun i hi => h i (List.mem_range.mp hi)

/-- Nothing is run for an array that would be too long. -/
lemma logs_arrayFrom_error (hn : ¬ n < 2 ^ 32) :
    Logs (arrayFrom n f) (.error (.error (js "Invalid array length"))) [] := by
  rw [arrayFrom, if_neg hn]
  exact logs_throw _

end

end Js
