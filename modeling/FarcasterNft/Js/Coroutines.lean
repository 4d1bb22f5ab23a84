import FarcasterNft.Frame.Run
import FarcasterNft.Js.Async

/-!
# Asynchronous functions that overlap

An asynchronous function gives up control wherever it awaits something, and other functions run
before it goes on. A `Coroutine` is such a function as the segments that run without
interruption, each with the update it makes to the state. Those that are waiting form a `Pool`, in
which whatever is awaited ends at any time and in any order. Three rules: what every segment keeps
holds all along; a coroutine that runs alone does what the `Async` program does that it implements;
and where no two overlap, what each of them ends in holds whenever none is waiting.
-/

namespace Js

open Frame

/-- A coroutine over the state `S`, with the updates of its segments. It awaits foreign calls, named
by `K`, or functions that have already returned, which have no name. -/
inductive Coroutine (K S α : Type) where
  | finish (f : S → S) (r : Except Thrown α)
  | await (f : S → S) (k : Option K) (resume : Option Thrown → Coroutine K S α)

namespace Coroutine

variable {K S T α β : Type}

/-- Make an update at the beginning of the first segment. -/
def before (f : S → S) : Coroutine K S α → Coroutine K S α
  | finish g r => finish (g ∘ f) r
  | await g k resume => await (g ∘ f) k resume

/-- Go on, in the same segment, with what the result asks for. -/
def andThen (h : Except Thrown α → Coroutine K S β) : Coroutine K S α → Coroutine K S β
  | finish f r => (h r).before f
  | await f k resume => await f k fun o => (resume o).andThen h

/-- Stop with a result. -/
def stop (r : Except Thrown α) : Coroutine K S α := finish id r

/-- Go on if there is a value. -/
def onValue (f : α → Coroutine K S β) : Except Thrown α → Coroutine K S β
  | .ok a => f a
  | .error e => stop (.error e)

/-- Go on if something was thrown. -/
def onThrow (handler : Thrown → Coroutine K S α) : Except Thrown α → Coroutine K S α
  | .ok a => stop (.ok a)
  | .error e => handler e

/-- What a foreign call returns. -/
def returned : Option Thrown → Except Thrown Unit
  | none => .ok ()
  | some e => .error e

@[simp] lemma onValue_ok (f : α → Coroutine K S β) (a : α) : onValue f (.ok a) = f a := rfl

@[simp] lemma onValue_error (f : α → Coroutine K S β) (e : Thrown) :
    onValue f (.error e) = stop (.error e) := rfl

@[simp] lemma onThrow_ok (handler : Thrown → Coroutine K S α) (a : α) :
    onThrow handler (.ok a) = stop (.ok a) := rfl

@[simp] lemma onThrow_error (handler : Thrown → Coroutine K S α) (e : Thrown) :
    onThrow handler (.error e) = handler e := rfl

@[simp] lemma returned_none : returned none = .ok () := rfl

@[simp] lemma returned_some (e : Thrown) : returned (some e) = .error e := rfl

instance : Monad (Coroutine K S) where
  pure a := stop (.ok a)
  bind x f := x.andThen (onValue f)

instance : MonadExceptOf Thrown (Coroutine K S) where
  throw e := stop (.error e)
  tryCatch x handler := x.andThen (onThrow handler)

/-- Update the state. -/
def write (f : S → S) : Coroutine K S Unit := finish f (.ok ())

/-- Await a foreign call. -/
def call (k : K) : Coroutine K S Unit := await id (some k) fun o => stop (returned o)

/-- Await another function of the program: it has to return first, and others may run then. -/
def awaited (x : Coroutine K S α) : Coroutine K S α :=
  x.andThen fun r => await id none fun _ => stop r

/-- A coroutine over a part of the state. -/
def zoom (part : (S → S) → T → T) : Coroutine K S α → Coroutine K T α
  | finish f r => finish (part f) r
  | await f k resume => await (part f) k fun o => (resume o).zoom part

section

variable (x : Coroutine K S α) (f : α → Coroutine K S β) (handler : Thrown → Coroutine K S α)

lemma bind_eq : x >>= f = x.andThen (onValue f) := rfl

lemma tryCatch_eq : tryCatch x handler = x.andThen (onThrow handler) := rfl

end

/-! ### What every segment keeps -/

/-- Every segment keeps `P`, and the result is one of `R`. -/
def Keeps (P : S → Prop) (R : Except Thrown α → Prop) : Coroutine K S α → Prop
  | finish f r => (∀ s, P s → P (f s)) ∧ R r
  | await f _ resume => (∀ s, P s → P (f s)) ∧ ∀ o, (resume o).Keeps P R

section

variable {P : S → Prop} {R R' : Except Thrown α → Prop} {Q : Except Thrown β → Prop}
variable {x : Coroutine K S α} {f : S → S}

lemma Keeps.before (hf : ∀ s, P s → P (f s)) (hx : x.Keeps P R) : (x.before f).Keeps P R := by
  cases x with
  | finish g r => exact ⟨fun s hs => hx.1 _ (hf s hs), hx.2⟩
  | await g k resume => exact ⟨fun s hs => hx.1 _ (hf s hs), hx.2⟩

lemma Keeps.mono (hx : x.Keeps P R) (h : ∀ r, R r → R' r) : x.Keeps P R' := by
  induction x with
  | finish f r => exact ⟨hx.1, h r hx.2⟩
  | await f k resume ih => exact ⟨hx.1, fun o => ih o (hx.2 o)⟩

lemma Keeps.andThen {h : Except Thrown α → Coroutine K S β} (hx : x.Keeps P R)
    (hh : ∀ r, R r → (h r).Keeps P Q) : (x.andThen h).Keeps P Q := by
  induction x with
  | finish f r => exact (hh r hx.2).before hx.1
  | await f k resume ih => exact ⟨hx.1, fun o => ih o (hx.2 o)⟩

lemma keeps_stop {r : Except Thrown α} (hr : R r) : (stop r : Coroutine K S α).Keeps P R :=
  ⟨fun _ hs => hs, hr⟩

lemma keeps_write {R : Except Thrown Unit → Prop} (hf : ∀ s, P s → P (f s)) (hr : R (.ok ())) :
    (write f : Coroutine K S Unit).Keeps P R := ⟨hf, hr⟩

lemma keeps_call (k : K) : (call k : Coroutine K S Unit).Keeps P fun _ => True :=
  ⟨fun _ hs => hs, fun _ => keeps_stop trivial⟩

lemma Keeps.awaited (hx : x.Keeps P R) : x.awaited.Keeps P R :=
  hx.andThen fun _ hr => ⟨fun _ hs => hs, fun _ => keeps_stop hr⟩

lemma Keeps.bind {g : α → Coroutine K S β} (hx : x.Keeps P R)
    (hg : ∀ a, R (.ok a) → (g a).Keeps P Q) (herr : ∀ e, R (.error e) → Q (.error e)) :
    (x >>= g).Keeps P Q := by
  refine hx.andThen fun r hr => ?_
  cases r with
  | ok a => exact hg a hr
  | error e => exact keeps_stop (herr e hr)

lemma Keeps.tryCatch {handler : Thrown → Coroutine K S α} (hx : x.Keeps P R)
    (hok : ∀ a, R (.ok a) → R' (.ok a)) (hh : ∀ e, R (.error e) → (handler e).Keeps P R') :
    (tryCatch x handler : Coroutine K S α).Keeps P R' := by
  refine hx.andThen fun r hr => ?_
  cases r with
  | ok a => exact keeps_stop (hok a hr)
  | error e => exact hh e hr

lemma Keeps.zoom {P' : T → Prop} {part : (S → S) → T → T}
    (hpart : ∀ f, (∀ s, P s → P (f s)) → ∀ t, P' t → P' (part f t)) (hx : x.Keeps P R) :
    (x.zoom part).Keeps P' R := by
  induction x with
  | finish f r => exact ⟨hpart f hx.1, hx.2⟩
  | await f k resume ih => exact ⟨hpart f hx.1, fun o => ih o (hx.2 o)⟩

end

/-! ### What a coroutine does that runs alone -/

/-- Run a coroutine to its end while nothing else runs, if foreign calls end as `answer` says. -/
def alone (answer : K → Option Thrown) : Coroutine K S α → S → Except Thrown α × S
  | finish f r, s => (r, f s)
  | await f k resume, s => (resume (k.bind answer)).alone answer (f s)

/-- Alone, the coroutine does what the program does. -/
def Implements (answer : K → Option Thrown) (x : Coroutine K S α) (p : Async S α) : Prop :=
  ∀ s, x.alone answer s = perform p s

section

variable {answer : K → Option Thrown} {x : Coroutine K S α} {p : Async S α}

@[simp] lemma alone_before (f : S → S) (s : S) :
    (x.before f).alone answer s = x.alone answer (f s) := by
  cases x <;> rfl

lemma alone_andThen (h : Except Thrown α → Coroutine K S β) (s : S) :
    (x.andThen h).alone answer s =
      (h (x.alone answer s).1).alone answer (x.alone answer s).2 := by
  induction x generalizing s with
  | finish f r => exact alone_before f s
  | await f k resume ih => exact ih _ _

@[simp] lemma alone_awaited (s : S) : x.awaited.alone answer s = x.alone answer s :=
  alone_andThen _ s

lemma implements_pure (a : α) :
    Implements answer (pure a : Coroutine K S α) (pure a) := fun _ => rfl

lemma implements_throw (e : Thrown) :
    Implements answer (throw e : Coroutine K S α) (throw e) := fun _ => rfl

lemma implements_write (f : S → S) :
    Implements answer (write f : Coroutine K S Unit) (modify f) := fun _ => rfl

lemma implements_call (k : K) :
    Implements answer (call k : Coroutine K S Unit) (external (answer k)) := by
  intro s
  show (returned (answer k), s) = _
  cases answer k <;> rfl

lemma Implements.awaited (hx : Implements answer x p) : Implements answer x.awaited p := by
  intro s
  rw [alone_awaited, hx s]

lemma Implements.bind {f : α → Coroutine K S β} {g : α → Async S β} (hx : Implements answer x p)
    (hf : ∀ a, Implements answer (f a) (g a)) : Implements answer (x >>= f) (p >>= g) := by
  intro s
  rw [bind_eq, alone_andThen, hx s, perform_bind]
  rcases perform p s with ⟨e | a, t⟩
  · rfl
  · exact hf a t

lemma Implements.tryCatch {handler : Thrown → Coroutine K S α} {handler' : Thrown → Async S α}
    (hx : Implements answer x p) (hh : ∀ e, Implements answer (handler e) (handler' e)) :
    Implements answer (tryCatch x handler) (tryCatch p handler') := by
  intro s
  rw [tryCatch_eq, alone_andThen, hx s, perform_tryCatch]
  rcases perform p s with ⟨e | a, t⟩
  · exact hh e t
  · rfl

end

/-! ### What a coroutine ends in -/

/-- Whatever the calls return that it awaits, the coroutine ends in `Q` if nothing else runs. -/
def Ends (Q : Except Thrown α → S → Prop) : Coroutine K S α → S → Prop
  | finish f r, s => Q r (f s)
  | await f _ resume, s => ∀ o, (resume o).Ends Q (f s)

section

variable {Q : Except Thrown α → S → Prop} {Q' : Except Thrown β → S → Prop}
variable {x : Coroutine K S α} {s : S}

@[simp] lemma ends_before (f : S → S) : (x.before f).Ends Q s ↔ x.Ends Q (f s) := by
  cases x <;> rfl

lemma ends_andThen (h : Except Thrown α → Coroutine K S β) :
    (x.andThen h).Ends Q' s ↔ x.Ends (fun r => (h r).Ends Q') s := by
  induction x generalizing s with
  | finish f r => exact ends_before f
  | await f k resume ih => exact forall_congr' fun o => ih o

@[simp] lemma ends_stop (r : Except Thrown α) :
    (stop r : Coroutine K S α).Ends Q s ↔ Q r s := Iff.rfl

@[simp] lemma ends_pure (a : α) : (pure a : Coroutine K S α).Ends Q s ↔ Q (.ok a) s := Iff.rfl

@[simp] lemma ends_throw (e : Thrown) :
    (throw e : Coroutine K S α).Ends Q s ↔ Q (.error e) s := Iff.rfl

@[simp] lemma ends_write (f : S → S) {Q : Except Thrown Unit → S → Prop} :
    (write f : Coroutine K S Unit).Ends Q s ↔ Q (.ok ()) (f s) := Iff.rfl

@[simp] lemma ends_call (k : K) {Q : Except Thrown Unit → S → Prop} :
    (call k : Coroutine K S Unit).Ends Q s ↔ ∀ o, Q (returned o) s := Iff.rfl

@[simp] lemma ends_awaited : x.awaited.Ends Q s ↔ x.Ends Q s := by
  rw [awaited, ends_andThen]
  simp only [Ends, id, ends_stop, forall_const]

@[simp] lemma ends_bind (f : α → Coroutine K S β) :
    (x >>= f).Ends Q' s ↔ x.Ends (fun r => (onValue f r).Ends Q') s := ends_andThen _

@[simp] lemma ends_tryCatch (handler : Thrown → Coroutine K S α) :
    (tryCatch x handler : Coroutine K S α).Ends Q s ↔
      x.Ends (fun r => (onThrow handler r).Ends Q) s :=
  ends_andThen _

lemma Ends.mono {Q₁ Q₂ : Except Thrown α → S → Prop} (h : ∀ r s, Q₁ r s → Q₂ r s)
    (hx : x.Ends Q₁ s) : x.Ends Q₂ s := by
  induction x generalizing s with
  | finish f r => exact h r _ hx
  | await f k resume ih => exact fun o => ih o (hx o)

lemma Ends.and {Q₁ Q₂ : Except Thrown α → S → Prop} (h₁ : x.Ends Q₁ s) (h₂ : x.Ends Q₂ s) :
    x.Ends (fun r t => Q₁ r t ∧ Q₂ r t) s := by
  induction x generalizing s with
  | finish f r => exact ⟨h₁, h₂⟩
  | await f k resume ih => exact fun o => ih o (h₁ o) (h₂ o)

/-- A coroutine ends in what all its segments keep. -/
lemma Keeps.ends {P : S → Prop} {R : Except Thrown α → Prop} (hx : x.Keeps P R) (hs : P s) :
    x.Ends (fun r t => R r ∧ P t) s := by
  induction x generalizing s with
  | finish f r => exact ⟨hx.2, hx.1 s hs⟩
  | await f k resume ih => exact fun o => ih o (hx.2 o) (hx.1 s hs)

lemma Ends.zoom {get : T → S} {part : (S → S) → T → T} {Q : Except Thrown α → S → Prop} {t : T}
    (hpart : ∀ f t, get (part f t) = f (get t)) (hx : x.Ends Q (get t)) :
    (x.zoom part).Ends (fun r t => Q r (get t)) t := by
  induction x generalizing t with
  | finish f r =>
    show Q r (get (part f t))
    rw [hpart]
    exact hx
  | await f k resume ih =>
    intro o
    refine ih o ?_
    rw [hpart]
    exact hx o

end

end Coroutine

/-! ### Pools -/

/-- The state, and the coroutines that are waiting. -/
structure Pool (K S : Type) where
  state : S
  pending : List (Option Thrown → Coroutine K S Unit)

namespace Pool

/-- A function is called, or something that is awaited ends. -/
inductive Input (C : Type) where
  | call (c : C)
  | settle (i : ℕ) (o : Option Thrown)

def Input.isCall {C : Type} : Input C → Bool
  | .call _ => true
  | .settle _ _ => false

/-- The functions that are called in a run, in order. -/
def calls {C : Type} : List (Input C) → List C
  | [] => []
  | .call c :: is => c :: calls is
  | .settle _ _ :: is => calls is

@[simp] lemma calls_append {C : Type} (is js : List (Input C)) :
    calls (is ++ js) = calls is ++ calls js := by
  induction is with
  | nil => rfl
  | cons i is ih => cases i <;> simp [calls, ih]

lemma calls_eq_nil {C : Type} {js : List (Input C)} (h : ∀ j ∈ js, ∃ i o, j = .settle i o) :
    calls js = [] := by
  induction js with
  | nil => rfl
  | cons j js ih =>
    obtain ⟨i, o, rfl⟩ := h j List.mem_cons_self
    exact ih fun j hj => h j (List.mem_cons_of_mem _ hj)

variable {K S C : Type}

/-- Run the first segment of a coroutine. -/
def start (p : Pool K S) : Coroutine K S Unit → Pool K S
  | .finish f _ => { p with state := f p.state }
  | .await f _ resume => ⟨f p.state, p.pending ++ [resume]⟩

/-- One step. A function reads the state when it is called. -/
def step (handler : C → S → Coroutine K S Unit) (p : Pool K S) : Input C → Pool K S
  | .call c => p.start (handler c p.state)
  | .settle i o =>
    match p.pending[i]? with
    | none => p
    | some resume => { p with pending := p.pending.eraseIdx i }.start (resume o)

/-- The pool in which nothing waits. -/
def idle (s : S) : Pool K S := ⟨s, []⟩

section

variable {handler : C → S → Coroutine K S Unit} {P Q : S → Prop} {p : Pool K S} {s : S}
  {is : List (Input C)}

/-- `P` holds, and whatever is waiting keeps it. -/
def Safe (P : S → Prop) (p : Pool K S) : Prop :=
  P p.state ∧ ∀ resume ∈ p.pending, ∀ o, (resume o).Keeps P fun _ => True

lemma Safe.start {x : Coroutine K S Unit} (hp : Safe P p) (hx : x.Keeps P fun _ => True) :
    Safe P (p.start x) := by
  cases x with
  | finish f r => exact ⟨hx.1 _ hp.1, hp.2⟩
  | await f k resume =>
    refine ⟨hx.1 _ hp.1, fun resume' hmem => ?_⟩
    rcases List.mem_append.mp hmem with hmem | hmem
    · exact hp.2 resume' hmem
    · rw [List.mem_singleton.mp hmem]
      exact hx.2

lemma Safe.settle (hp : Safe P p) (i : ℕ) (o : Option Thrown) :
    Safe P (step handler p (.settle i o)) := by
  rw [step]
  cases hi : p.pending[i]? with
  | none => exact hp
  | some resume =>
    have hrest : Safe P { p with pending := p.pending.eraseIdx i } :=
      ⟨hp.1, fun resume' hmem => hp.2 resume' (List.mem_of_mem_eraseIdx hmem)⟩
    exact hrest.start (hp.2 resume (List.mem_of_getElem? hi) o)

/-- What every segment keeps of every function that is called holds all along, in whatever order
the segments run. -/
theorem safe_run (init : P s)
    (hcall : ∀ o ∈ occurrences is, ∀ c, o.input = .call c →
      P (run (step handler) (idle s) o.past).state →
      (handler c (run (step handler) (idle s) o.past).state).Keeps P fun _ => True) :
    Safe P (run (step handler) (idle s) is) := by
  refine run_invariant (fun _ p => Safe P p) ⟨init, by simp [idle]⟩ fun o ho hp => ?_
  cases hinput : o.input with
  | call c => exact hp.start (hcall o ho c hinput hp.1)
  | settle i r => exact hp.settle i r

/-! ### Runs without overlaps -/

/-- Nothing waits when a function is called. -/
def Orderly (handler : C → S → Coroutine K S Unit) (s : S) (is : List (Input C)) : Prop :=
  ∀ o ∈ occurrences is, ∀ c, o.input = .call c →
    (run (step handler) (idle s) o.past).pending = []

/-- Whether a run is orderly can be computed. -/
lemma orderly_iff_all : Orderly handler s is ↔ (occurrences is).all (fun o =>
    !o.input.isCall || (run (step handler) (idle s) o.past).pending.isEmpty) = true := by
  rw [List.all_eq_true]
  refine forall₂_congr fun o _ => ?_
  cases o.input <;> simp [Input.isCall]

lemma orderly_nil : Orderly handler s [] := by
  intro o ho
  cases ho

/-- One more input keeps a run orderly if it is no call, or if nothing waits. -/
lemma orderly_concat {i : Input C} :
    Orderly handler s (is ++ [i]) ↔
      Orderly handler s is ∧
        ∀ c, i = .call c → (run (step handler) (idle s) is).pending = [] := by
  simp [Orderly, occurrences_concat, or_imp, forall_and]

lemma Orderly.append_settles {js : List (Input C)} (h : Orderly handler s is)
    (hjs : ∀ j ∈ js, ∃ i o, j = .settle i o) : Orderly handler s (is ++ js) := by
  induction js using List.reverseRecOn with
  | nil => rwa [List.append_nil]
  | append_singleton js j ih =>
    obtain ⟨i, o, rfl⟩ := hjs j (by simp)
    rw [← List.append_assoc, orderly_concat]
    refine ⟨ih fun j hj => hjs j (List.mem_append_left _ hj), fun c hc => ?_⟩
    cases hc

/-- At most one coroutine waits, and it ends in `Q`. -/
def Heading (Q : S → Prop) (p : Pool K S) : Prop :=
  (p.pending = [] ∧ Q p.state) ∨
    ∃ resume, p.pending = [resume] ∧ ∀ o, (resume o).Ends (fun _ => Q) p.state

lemma heading_start {x : Coroutine K S Unit} (hp : p.pending = [])
    (hx : x.Ends (fun _ => Q) p.state) : Heading Q (p.start x) := by
  cases x with
  | finish f r => exact Or.inl ⟨hp, hx⟩
  | await f k resume =>
    refine Or.inr ⟨resume, ?_, hx⟩
    show p.pending ++ [resume] = [resume]
    rw [hp, List.nil_append]

/-- Where no two coroutines overlap, what each of them ends in holds whenever none is waiting. -/
theorem heading_run (init : Q s) (hcall : ∀ c t, Q t → (handler c t).Ends (fun _ => Q) t)
    (h : Orderly handler s is) : Heading Q (run (step handler) (idle s) is) := by
  refine run_invariant (fun _ p => Heading Q p) (Or.inl ⟨rfl, init⟩) fun o ho hp => ?_
  cases hinput : o.input with
  | call c =>
    have hnone := h o ho c hinput
    rcases hp with ⟨-, hQ⟩ | ⟨resume, hone, -⟩
    · exact heading_start hnone (hcall c _ hQ)
    · rw [hone] at hnone
      cases hnone
  | settle i r =>
    rcases hp with ⟨hnone, hQ⟩ | ⟨resume, hone, hends⟩
    · rw [step, hnone]
      exact Or.inl ⟨hnone, hQ⟩
    · cases i with
      | zero =>
        rw [step, hone]
        exact heading_start rfl (hends r)
      | succ i =>
        rw [step, hone]
        exact Or.inr ⟨resume, hone, hends⟩

/-- A function that is called while nothing waits, and whose calls are answered one by one, leaves
the state in which the coroutine ends that runs alone. -/
theorem run_alone (handler : C → S → Coroutine K S Unit) (answer : K → Option Thrown)
    (x : Coroutine K S Unit) (s : S) :
    ∃ js : List (Input C), (∀ j ∈ js, ∃ k : Option K, j = .settle 0 (k.bind answer)) ∧
      run (step handler) ((idle s).start x) js = idle (x.alone answer s).2 := by
  induction x generalizing s with
  | finish f r => exact ⟨[], by simp, rfl⟩
  | await f k resume ih =>
    obtain ⟨js, hjs, hrun⟩ := ih (k.bind answer) (f s)
    refine ⟨.settle 0 (k.bind answer) :: js, fun j hj => ?_, hrun⟩
    rcases List.mem_cons.mp hj with rfl | hj
    · exact ⟨k, rfl⟩
    · exact hjs j hj

end

end Pool

end Js
