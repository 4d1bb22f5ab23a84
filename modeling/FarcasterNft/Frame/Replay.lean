import FarcasterNft.Frame.Run

/-!
# Replaying an event log

A machine that appends events to a log is followed by an observer who sees the log only. The
observer keeps a view of the state and updates it by each event, or rejects an event that does
not fit the view. If every step logs what the observer needs, replaying the log rebuilds the
view of the state the machine is in.
-/

namespace Frame

variable {S I E V : Type*}

/-- Apply the events of a log in order, or reject the log. -/
def replay (applyEvent : V → E → Option V) (v : V) (log : List E) : Option V :=
  log.foldlM applyEvent v

section

variable (applyEvent : V → E → Option V) (v : V)

@[simp] lemma replay_nil : replay applyEvent v [] = some v := rfl

@[simp] lemma replay_singleton (e : E) : replay applyEvent v [e] = applyEvent v e := by
  simp [replay]

lemma replay_append (log log' : List E) :
    replay applyEvent v (log ++ log') =
      (replay applyEvent v log).bind fun w => replay applyEvent w log' :=
  List.foldlM_append

end

/-- If each step appends events that take the view before the step to the view after it, then
the whole log takes the view of the initial state to the view of the state a run leads to. -/
theorem replay_run {step : S → I → S} {applyEvent : V → E → Option V} {s : S}
    (log : S → List E) (view : S → V) (init : log s = [])
    (next : ∀ t i, ∃ es, log (step t i) = log t ++ es ∧
      replay applyEvent (view t) es = some (view (step t i))) (is : List I) :
    replay applyEvent (view s) (log (run step s is)) = some (view (run step s is)) := by
  refine run_invariant (fun _ t => replay applyEvent (view s) (log t) = some (view t))
    (by rw [init, replay_nil]) fun o _ ih => ?_
  obtain ⟨es, hlog, hreplay⟩ := next (run step s o.past) o.input
  rw [hlog, replay_append, ih, Option.bind_some, hreplay]

end Frame
