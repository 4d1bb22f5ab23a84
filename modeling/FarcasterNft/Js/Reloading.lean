import FarcasterNft.Frame.Run

/-!
# Components that reload

A component shows what it has loaded for a key, in a world that goes on. A load is begun when the
key is selected or when a callback asks for it, and what it returns replaces what is shown at
whatever time it ends. So loads for different keys can overtake each other, and what is shown need
not be for the selected key. Two rules: what is right for a key stays right for some key, and a
component whose loads are all for its key remains right for it as long as no load for another key
is begun.
-/

namespace Js

open Frame

variable {K W R V : Type*}

/-- A component: its key, the state of the world, what is shown, and the loads that are going on,
each with its key and the state of the world it was begun in. -/
structure Reloading (K W V : Type*) where
  key : K
  world : W
  shown : V
  loads : List (K × W)

/-- What happens to a component. A load ends with `r`, whatever this is for the program. -/
inductive Reloading.Input (K W R : Type*) where
  | world (w : W)
  | select (k : K)
  | reload (k : K)
  | finish (j : ℕ) (r : R)

namespace Reloading

/-- The key for which a load is begun, if one is begun. -/
def Input.begins : Input K W R → Option K
  | .select k | .reload k => some k
  | _ => none

/-- One step, where `load k r v` is what a load for `k` that ends with `r` makes of `v`. -/
def step (load : K → R → V → V) (c : Reloading K W V) : Input K W R → Reloading K W V
  | .world w => { c with world := w }
  | .select k => { c with key := k, loads := c.loads ++ [(k, c.world)] }
  | .reload k => { c with loads := c.loads ++ [(k, c.world)] }
  | .finish j r =>
    match c.loads[j]? with
    | some (k, _) => { c with shown := load k r c.shown, loads := c.loads.eraseIdx j }
    | none => c

/-- The world goes on, and a load ends with what it can end with, given its key and the states of
the world in which it was begun and in which it ends. -/
def Allowed (later : W → W → Prop) (ends : K → W → W → R → Prop) (c : Reloading K W V) :
    Input K W R → Prop
  | .world w => later c.world w
  | .finish j r => ∀ k w, c.loads[j]? = some (k, w) → ends k w c.world r
  | _ => True

/-- What is right for a key stays right while the world goes on, and a load leaves what was shown
or what is right for its key. -/
structure Rules (later : W → W → Prop) (ends : K → W → W → R → Prop) (load : K → R → V → V)
    (right : K → W → V → Prop) : Prop where
  mono : ∀ {k w w' v}, later w w' → right k w v → right k w' v
  load : ∀ {k w w' r v}, ends k w w' r → load k r v = v ∨ right k w' (load k r v)

/-- All loads are for the key, and what is shown is right for it. -/
structure Settled (right : K → W → V → Prop) (c : Reloading K W V) : Prop where
  loads : ∀ p ∈ c.loads, p.1 = c.key
  right : right c.key c.world c.shown

section

variable {later : W → W → Prop} {ends : K → W → W → R → Prop} {load : K → R → V → V}
  {right : K → W → V → Prop} {c : Reloading K W V} {i : Input K W R}

/-- What is shown is right for some key, after any step. -/
lemma Rules.step_right (h : Rules later ends load right) (hi : Allowed later ends c i)
    (hc : ∃ k, right k c.world c.shown) :
    ∃ k, right k (step load c i).world (step load c i).shown := by
  obtain ⟨k, hk⟩ := hc
  cases i with
  | world w => exact ⟨k, h.mono hi hk⟩
  | select | reload => exact ⟨k, hk⟩
  | finish j r =>
    rw [step]
    cases hj : c.loads[j]? with
    | none => exact ⟨k, hk⟩
    | some p =>
      obtain heq | hright := h.load (k := p.1) (v := c.shown) (hi p.1 p.2 hj)
      · refine ⟨k, ?_⟩
        show right k c.world (load p.1 r c.shown)
        rw [heq]
        exact hk
      · exact ⟨p.1, hright⟩

/-- A step leaves the world or lets it go on. -/
lemma world_step (hrefl : ∀ w, later w w) (hi : Allowed later ends c i) :
    later c.world (step load c i).world := by
  cases i with
  | world w => exact hi
  | select | reload => exact hrefl c.world
  | finish j r =>
    rw [step]
    cases c.loads[j]? with
    | none | some => exact hrefl c.world

variable (load) in
/-- Unless a load for another key is begun, a step leaves the key, and all loads are for it. -/
lemma step_loads (hkey : ∀ k, i.begins = some k → k = c.key) (hc : ∀ p ∈ c.loads, p.1 = c.key) :
    (∀ p ∈ (step load c i).loads, p.1 = c.key) ∧ (step load c i).key = c.key := by
  cases i with
  | world w => exact ⟨hc, rfl⟩
  | select k | reload k =>
    obtain rfl := hkey k rfl
    refine ⟨fun p hp => ?_, rfl⟩
    rcases List.mem_append.mp hp with hp | hp
    · exact hc p hp
    · rw [List.mem_singleton.mp hp]
  | finish j r =>
    rw [step]
    cases c.loads[j]? with
    | none => exact ⟨hc, rfl⟩
    | some p => exact ⟨fun q hq => hc q (List.mem_of_mem_eraseIdx hq), rfl⟩

/-- Unless a load for another key is begun, a step keeps a component settled, on the same key. -/
lemma Rules.step_settled (h : Rules later ends load right) (hi : Allowed later ends c i)
    (hkey : ∀ k, i.begins = some k → k = c.key) (hc : Settled right c) :
    Settled right (step load c i) ∧ (step load c i).key = c.key := by
  obtain ⟨hloads, hsame⟩ := step_loads load hkey hc.loads
  refine ⟨⟨fun p hp => (hloads p hp).trans hsame.symm, ?_⟩, hsame⟩
  rw [hsame]
  cases i with
  | world w => exact h.mono hi hc.right
  | select | reload => exact hc.right
  | finish j r =>
    rw [step]
    cases hj : c.loads[j]? with
    | none => exact hc.right
    | some p =>
      have hp := hc.loads p (List.mem_of_getElem? hj)
      show right c.key c.world (load p.1 r c.shown)
      obtain heq | hright := h.load (k := p.1) (v := c.shown) (hi p.1 p.2 hj)
      · rw [heq]
        exact hc.right
      · exact hp ▸ hright

/-! ### Runs -/

/-- Every input of a run is allowed where it comes. -/
def AllAllowed (later : W → W → Prop) (ends : K → W → W → R → Prop) (load : K → R → V → V)
    (c : Reloading K W V) (is : List (Input K W R)) : Prop :=
  ∀ o ∈ occurrences is, Allowed later ends (run (step load) c o.past) o.input

lemma allAllowed_nil : AllAllowed later ends load c [] := fun _ ho => absurd ho List.not_mem_nil

lemma allAllowed_cons {is : List (Input K W R)} :
    AllAllowed later ends load c (i :: is) ↔
      Allowed later ends c i ∧ AllAllowed later ends load (step load c i) is := by
  constructor
  · intro h
    refine ⟨h ⟨[], i⟩ (mem_occurrences.mpr ⟨is, rfl⟩), fun o ho => ?_⟩
    obtain ⟨rest, rfl⟩ := mem_occurrences.mp ho
    exact h ⟨i :: o.past, o.input⟩ (mem_occurrences.mpr ⟨rest, rfl⟩)
  · rintro ⟨hi, his⟩ ⟨past, j⟩ ho
    obtain ⟨rest, heq⟩ := mem_occurrences.mp ho
    cases past with
    | nil =>
      obtain ⟨rfl, -⟩ := List.cons.inj heq
      exact hi
    | cons k past =>
      obtain ⟨rfl, rfl⟩ := List.cons.inj heq
      exact his ⟨past, j⟩ (mem_occurrences.mpr ⟨rest, rfl⟩)

variable (load) in
/-- As long as no load for another key is begun, the key stays, and all loads are for it. -/
lemma run_loads {is : List (Input K W R)} (hkey : ∀ i ∈ is, ∀ k, i.begins = some k → k = c.key)
    (hc : ∀ p ∈ c.loads, p.1 = c.key) :
    (∀ p ∈ (run (step load) c is).loads, p.1 = c.key) ∧ (run (step load) c is).key = c.key := by
  refine run_invariant (fun _ (c' : Reloading K W V) => (∀ p ∈ c'.loads, p.1 = c.key) ∧
    c'.key = c.key) ⟨hc, rfl⟩ fun o ho ⟨hloads, hsame⟩ => ?_
  have hmem : o.input ∈ is := (past_isPrefix ho).subset (by simp)
  obtain ⟨hnext, hstays⟩ := step_loads load
    (fun k hk => (hkey o.input hmem k hk).trans hsame.symm)
    fun p hp => (hloads p hp).trans hsame.symm
  exact ⟨fun p hp => (hnext p hp).trans hsame, hstays.trans hsame⟩

/-- Whatever is shown at the end of a run is right for some key. -/
theorem Rules.run_right (h : Rules later ends load right) {is : List (Input K W R)}
    (his : AllAllowed later ends load c is) (hc : ∃ k, right k c.world c.shown) :
    ∃ k, right k (run (step load) c is).world (run (step load) c is).shown :=
  run_invariant (fun _ (c : Reloading K W V) => ∃ k, right k c.world c.shown) hc fun o ho ih =>
    h.step_right (his o ho) ih

/-- A settled component stays settled, as long as no load for another key is begun. -/
theorem Rules.run_settled (h : Rules later ends load right) {is : List (Input K W R)}
    (his : AllAllowed later ends load c is)
    (hkey : ∀ i ∈ is, ∀ k, i.begins = some k → k = c.key) (hc : Settled right c) :
    Settled right (run (step load) c is) ∧ (run (step load) c is).key = c.key := by
  refine run_invariant (fun _ c' => Settled right c' ∧ c'.key = c.key) ⟨hc, rfl⟩
    fun o ho ⟨hsettled, hsame⟩ => ?_
  have hmem : o.input ∈ is := by
    obtain ⟨later, rfl⟩ := mem_occurrences.mp ho
    simp
  obtain ⟨hnext, hstays⟩ := h.step_settled (his o ho)
    (fun k hk => (hkey o.input hmem k hk).trans hsame.symm) hsettled
  exact ⟨hnext, hstays.trans hsame⟩

/-! ### Where what is shown comes from -/

variable {is : List (Input K W R)} {k : K} {w w' : W} {r : R}

/-- In the course of a run a load for `k` ends with `r`. It was begun when the world was `w`, and
ends when it is `w'`. -/
def Ended (load : K → R → V → V) (c : Reloading K W V) (is : List (Input K W R)) (k : K)
    (w w' : W) (r : R) : Prop :=
  ∃ o ∈ occurrences is, ∃ j, o.input = .finish j r ∧
    (run (step load) c o.past).loads[j]? = some (k, w) ∧ (run (step load) c o.past).world = w'

lemma not_ended_nil : ¬ Ended load c [] k w w' r := by
  simp [Ended]

lemma ended_concat : Ended load c (is ++ [i]) k w w' r ↔ Ended load c is k w w' r ∨
    ∃ j, i = .finish j r ∧ (run (step load) c is).loads[j]? = some (k, w) ∧
      (run (step load) c is).world = w' := by
  simp [Ended, or_and_right, exists_or]

/-- A load that ends in a run in which all is allowed ends with what it can end with. -/
lemma Ended.can_end (h : Ended load c is k w w' r) (his : AllAllowed later ends load c is) :
    ends k w w' r := by
  obtain ⟨o, ho, j, hinput, hload, rfl⟩ := h
  have hallowed := his o ho
  rw [hinput] at hallowed
  exact hallowed k w hload

/-- From the end of a load on, the world goes on. -/
lemma Ended.world_later (hrefl : ∀ w, later w w)
    (htrans : ∀ {u v w}, later u v → later v w → later u w)
    (his : AllAllowed later ends load c is) (h : Ended load c is k w w' r) :
    later w' (run (step load) c is).world := by
  induction is using List.reverseRecOn with
  | nil => exact absurd h not_ended_nil
  | append_singleton is i ih =>
    have hlast : Allowed later ends (run (step load) c is) i := his ⟨is, i⟩ (by simp)
    have hstep : later (run (step load) c is).world (run (step load) c (is ++ [i])).world := by
      rw [run_concat]
      exact world_step hrefl hlast
    obtain hold | ⟨j, -, -, rfl⟩ := ended_concat.mp h
    · exact htrans (ih (fun o ho => his o (by simp [ho])) hold) hstep
    · exact hstep

/-- As long as no load for another key is begun, all loads that end are for the key. -/
lemma Ended.key_eq (h : Ended load c is k w w' r)
    (hkey : ∀ i ∈ is, ∀ k, i.begins = some k → k = c.key) (hc : ∀ p ∈ c.loads, p.1 = c.key) :
    k = c.key := by
  obtain ⟨o, ho, j, -, hload, -⟩ := h
  have hpast : o.past <+: is := (List.prefix_append _ _).trans (past_isPrefix ho)
  have hloads := (run_loads load (fun i hi => hkey i (hpast.subset hi)) hc).1
  exact hloads (k, w) (List.mem_of_getElem? hload)

variable {result : K → R → Option V}

/-- A step shows the result of a load that it ends, or leaves what is shown. -/
lemma shown_step (hload : ∀ k r v, load k r v = (result k r).getD v) :
    (∃ j k w r, i = .finish j r ∧ c.loads[j]? = some (k, w) ∧
        result k r = some (step load c i).shown) ∨
      (step load c i).shown = c.shown ∧
        ∀ j k w r, i = .finish j r → c.loads[j]? = some (k, w) → result k r = none := by
  cases i with
  | world | select | reload => exact Or.inr ⟨rfl, fun _ _ _ _ h => by cases h⟩
  | finish j r =>
    rw [step]
    cases hj : c.loads[j]? with
    | none =>
      refine Or.inr ⟨rfl, fun j' k w r' heq hk => ?_⟩
      obtain ⟨rfl, rfl⟩ := Input.finish.inj heq
      rw [hj] at hk
      cases hk
    | some p =>
      cases hresult : result p.1 r with
      | some v =>
        refine Or.inl ⟨j, p.1, p.2, r, rfl, hj, ?_⟩
        simp [hload, hresult]
      | none =>
        refine Or.inr ⟨by simp [hload, hresult], fun j' k w r' heq hk => ?_⟩
        obtain ⟨rfl, rfl⟩ := Input.finish.inj heq
        rw [hj] at hk
        cases hk
        exact hresult

/-- What is shown at the end of a run is the result of a load that has ended in it, or what was
shown before, and then no load with a result has ended. -/
theorem run_shown (hload : ∀ k r v, load k r v = (result k r).getD v)
    (c : Reloading K W V) (is : List (Input K W R)) :
    (∃ k w w' r, Ended load c is k w w' r ∧ result k r = some (run (step load) c is).shown) ∨
      (run (step load) c is).shown = c.shown ∧
        ∀ k w w' r, Ended load c is k w w' r → result k r = none := by
  induction is using List.reverseRecOn with
  | nil => exact Or.inr ⟨rfl, fun _ _ _ _ h => absurd h not_ended_nil⟩
  | append_singleton is i ih =>
    rw [run_concat]
    obtain ⟨j, k, w, r, rfl, hk, hresult⟩ | ⟨hstays, hnone⟩ :=
      shown_step (c := run (step load) c is) (i := i) hload
    · exact Or.inl ⟨k, w, _, r, ended_concat.mpr (Or.inr ⟨j, rfl, hk, rfl⟩), hresult⟩
    · rw [hstays]
      obtain ⟨k, w, w', r, hended, hresult⟩ | ⟨hsame, hbefore⟩ := ih
      · exact Or.inl ⟨k, w, w', r, ended_concat.mpr (Or.inl hended), hresult⟩
      · refine Or.inr ⟨hsame, fun k w w' r h => ?_⟩
        obtain hold | ⟨j, hi, hk, -⟩ := ended_concat.mp h
        · exact hbefore k w w' r hold
        · exact hnone j k w r hi hk

end

end Reloading

end Js
