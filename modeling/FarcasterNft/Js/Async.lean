import FarcasterNft.Js.Text

/-!
# Asynchronous functions

An `async` function that nobody else runs in between is a program that reads and writes a state
and returns or throws. Writes made before a throw stay, also when it is caught.
-/

namespace Js

/-- What a program throws: an `Error` with its message, or something else. -/
inductive Thrown where
  | error (message : JsString)
  | other
  deriving DecidableEq

/-- The message of `err instanceof Error ? err : new Error(fallback)`. -/
def Thrown.message (fallback : JsString) : Thrown → JsString
  | .error message => message
  | .other => fallback

/-- A program over the state `S`. The state survives a throw. -/
abbrev Async (S α : Type) := ExceptT Thrown (StateM S) α

variable {S α β : Type}

/-- Run a program: how it ends, and the state it leaves behind. -/
def perform (x : Async S α) (s : S) : Except Thrown α × S := x.run.run s

/-- A call into foreign code that returns nothing: it completes or throws. -/
def external (outcome : Option Thrown) : Async S Unit :=
  match outcome with
  | none => pure ()
  | some e => throw e

/-- A computation that needs no state. -/
def lift (x : Except Thrown α) : Async S α := ExceptT.mk (pure x)

@[simp] lemma perform_lift (x : Except Thrown α) (s : S) :
    perform (lift x : Async S α) s = (x, s) := rfl

@[simp] lemma perform_pure (a : α) (s : S) : perform (pure a : Async S α) s = (.ok a, s) := rfl

@[simp] lemma perform_throw (e : Thrown) (s : S) :
    perform (throw e : Async S α) s = (.error e, s) := rfl

@[simp] lemma perform_modify (f : S → S) (s : S) :
    perform (modify f : Async S Unit) s = (.ok (), f s) := rfl

@[simp] lemma perform_external_none (s : S) :
    perform (external none : Async S Unit) s = (.ok (), s) := rfl

@[simp] lemma perform_external_some (e : Thrown) (s : S) :
    perform (external (some e) : Async S Unit) s = (.error e, s) := rfl

lemma perform_bind (x : Async S α) (f : α → Async S β) (s : S) :
    perform (x >>= f) s = match perform x s with
      | (.ok a, t) => perform (f a) t
      | (.error e, t) => (.error e, t) := by
  simp only [perform, ExceptT.run_bind, StateT.run_bind]
  rcases x.run.run s with ⟨_ | _, t⟩ <;> rfl

/-- The handler runs on the state that the throw left. -/
lemma perform_tryCatch (x : Async S α) (handler : Thrown → Async S α) (s : S) :
    perform (tryCatch x handler) s = match perform x s with
      | (.ok a, t) => (.ok a, t)
      | (.error e, t) => perform (handler e) t := by
  simp only [perform, ExceptT.run_tryCatch, StateT.run_bind]
  rcases x.run.run s with ⟨_ | _, t⟩ <;> rfl

/-- Load a value into the state. A throw is caught, and leaves the state as it was. -/
def loadState (x : Except Thrown S) : Async S Unit :=
  tryCatch
    (do
      let a ← lift x
      modify fun _ => a)
    fun _ => pure ()

lemma perform_loadState (x : Except Thrown S) (s : S) :
    perform (loadState x) s =
      (.ok (), match x with
        | .ok a => a
        | .error _ => s) := by
  rw [loadState, perform_tryCatch, perform_bind, perform_lift]
  cases x <;> rfl

end Js
