import Mathlib.Data.List.Nodup
import FarcasterNft.Frame.Run
import FarcasterNft.Js.Async

/-!
# The connection to the chain

The provider `frontend/src/contexts/ChainContext.tsx`, whose effect connects to the chain if there
is no connection, and whose cleanup cuts the connection that was rendered before. The effect runs
again whenever the connection has changed, so two attempts that both succeed cut each other's
connections. In development mode React runs the first effect twice.
-/

namespace FarcasterNft

open Frame Js

/-- The state variables of `ChainProvider`, and its connections, numbered in the order in which
they were begun. -/
structure ChainProvider where
  api : Option ℕ
  isConnecting : Bool
  error : Option JsString
  /-- The connection that has been rendered. -/
  rendered : Option ℕ
  /-- The connection that was rendered when the effect ran, to which its cleanup refers. -/
  effect : Option ℕ
  begun : ℕ
  connecting : List ℕ
  disconnected : List ℕ
  deriving DecidableEq

namespace ChainProvider

def initial : ChainProvider where
  api := none
  isConnecting := false
  error := none
  rendered := none
  effect := none
  begun := 0
  connecting := []
  disconnected := []

/-- Begin to connect, up to the call of `connectToChain`. -/
def initChain (api : Option ℕ) (p : ChainProvider) : ChainProvider :=
  match api with
  | some _ => p
  | none =>
    { p with
      isConnecting := true
      error := none
      begun := p.begun + 1
      connecting := p.connecting ++ [p.begun] }

def cleanup (api : Option ℕ) (p : ChainProvider) : ChainProvider :=
  match api with
  | some n => { p with disconnected := p.disconnected ++ [n], api := none }
  | none => p

/-- Render the page, if the effects of the last rendering have been run. -/
def render (p : ChainProvider) : ChainProvider :=
  if p.effect = p.rendered then { p with rendered := p.api } else p

/-- Clean up after the last effect and run the new one, if another connection has been rendered. -/
def runEffect (p : ChainProvider) : ChainProvider :=
  if p.effect = p.rendered then p
  else { initChain p.rendered (cleanup p.effect p) with effect := p.rendered }

/-- An attempt to connect ends. -/
def finish (n : ℕ) (outcome : Option Thrown) (p : ChainProvider) : ChainProvider :=
  if n ∈ p.connecting then
    match outcome with
    | none =>
      { p with api := some n, isConnecting := false, connecting := p.connecting.erase n }
    | some err =>
      { p with
        error := some (err.message (js "Failed to connect to chain"))
        isConnecting := false
        connecting := p.connecting.erase n }
  else p

/-- The provider is mounted, and its first effect is run the given number of times. -/
def mounted : ℕ → ChainProvider
  | 0 => initial
  | k + 1 => initChain none (mounted k)

inductive Input where
  | render
  | runEffect
  | finish (n : ℕ) (outcome : Option Thrown)

def step (p : ChainProvider) : Input → ChainProvider
  | .render => p.render
  | .runEffect => p.runEffect
  | .finish n outcome => p.finish n outcome

/-- What `ChainStatus` shows. -/
def chainStatus (p : ChainProvider) : JsString :=
  if p.error.isSome then js "Chain Error"
  else if p.isConnecting then js "Connecting..."
  else if p.api.isNone then js "Disconnected"
  else js "Connected"

/-- No attempt to connect is going on, and there is nothing to render and no effect to run. -/
def Settled (p : ChainProvider) : Prop :=
  p.connecting = [] ∧ p.effect = p.rendered ∧ p.api = p.rendered

/-! ### The invariant -/

/-- What can still be begun because of connections that have been made: nothing, if there are
none. A first connection may be replaced later. One that replaces another one is cut, and so is
the other. -/
def replaced (p : ChainProvider) : ℕ :=
  if p.effect = none ∧ p.rendered = none then if p.api = none then 0 else 1
  else if p.api = p.rendered ∧ (p.effect = none ∨ p.effect = p.rendered) then 1 else 2

/-- A connection that has been made, and has not been cut. -/
def Alive (p : ChainProvider) (n : ℕ) : Prop :=
  n < p.begun ∧ n ∉ p.connecting ∧ n ∉ p.disconnected

/-- What holds after the first effect has been run `k` times. -/
structure Invariant (k : ℕ) (p : ChainProvider) : Prop where
  nodup : p.connecting.Nodup
  connecting_lt : ∀ n ∈ p.connecting, n < p.begun
  disconnected : ∀ n ∈ p.disconnected, n < p.begun ∧ n ∉ p.connecting
  api : ∀ n, p.api = some n → p.Alive n
  rendered : ∀ n, p.rendered = some n → p.Alive n
  effect : ∀ n, p.effect = some n → p.Alive n
  budget : p.begun + p.connecting.length + p.replaced ≤ 2 * k
  begun_lt : p.begun < 2 * k
  status : p.connecting = [] → p.isConnecting = false ∧
    (p.api = none → p.rendered = none → p.effect = none → p.error ≠ none)

section

variable {k : ℕ} {p : ChainProvider}

lemma mounted_eq (k : ℕ) : mounted k =
    { initial with
      isConnecting := decide (k ≠ 0), begun := k, connecting := List.range k } := by
  induction k with
  | zero => rfl
  | succ k ih =>
    rw [mounted, ih, initChain]
    simp [initial, List.range_succ]

lemma invariant_mounted (k : ℕ) : Invariant (k + 1) (mounted (k + 1)) := by
  rw [mounted_eq]
  refine ⟨List.nodup_range, ?_, ?_, ?_, ?_, ?_, ?_, ?_, ?_⟩
  all_goals simp [initial, replaced]
  all_goals omega

/-- A connection that is made replaces at most one other. -/
lemma replaced_some_le (p : ChainProvider) (n : ℕ) :
    replaced { p with api := some n } ≤ p.replaced + 1 := by
  simp only [replaced]
  split_ifs <;> simp_all

/-! ### The steps -/

lemma Invariant.finish (h : Invariant k p) (n : ℕ) (outcome : Option Thrown) :
    Invariant k (p.finish n outcome) := by
  rw [ChainProvider.finish.eq_def]
  split_ifs with hn
  · have hlen : (p.connecting.erase n).length + 1 = p.connecting.length :=
      List.length_erase_add_one hn
    have hbudget := h.budget
    have hnot : ∀ {m}, m ∉ p.connecting → m ∉ p.connecting.erase n :=
      fun hm hm' => hm (List.mem_of_mem_erase hm')
    have halive : ∀ {m}, p.Alive m → m < p.begun ∧ m ∉ p.connecting.erase n ∧ m ∉ p.disconnected :=
      fun hm => ⟨hm.1, hnot hm.2.1, hm.2.2⟩
    have hlt : ∀ m ∈ p.connecting.erase n, m < p.begun :=
      fun m hm => h.connecting_lt m (List.mem_of_mem_erase hm)
    have hdisconnected : ∀ m ∈ p.disconnected, m < p.begun ∧ m ∉ p.connecting.erase n :=
      fun m hm => ⟨(h.disconnected m hm).1, hnot (h.disconnected m hm).2⟩
    cases outcome with
    | none =>
      refine ⟨h.nodup.erase n, hlt, hdisconnected, ?_, fun m hm => halive (h.rendered m hm),
        fun m hm => halive (h.effect m hm), ?_, h.begun_lt, fun _ => ⟨rfl, ?_⟩⟩
      · rintro m ⟨⟩
        have hcut : n ∉ p.disconnected := fun hdis => (h.disconnected n hdis).2 hn
        exact ⟨h.connecting_lt n hn, h.nodup.not_mem_erase, hcut⟩
      · have hle := replaced_some_le p n
        show p.begun + (p.connecting.erase n).length + replaced { p with api := some n } ≤ 2 * k
        omega
      · rintro ⟨⟩
    | some err =>
      refine ⟨h.nodup.erase n, hlt, hdisconnected, fun m hm => halive (h.api m hm),
        fun m hm => halive (h.rendered m hm), fun m hm => halive (h.effect m hm), ?_, h.begun_lt,
        fun _ => ⟨rfl, fun _ _ _ => Option.some_ne_none _⟩⟩
      show p.begun + (p.connecting.erase n).length + p.replaced ≤ 2 * k
      omega
  · exact h

lemma Invariant.render (h : Invariant k p) : Invariant k p.render := by
  rw [ChainProvider.render]
  split_ifs with hsame
  · refine ⟨h.nodup, h.connecting_lt, h.disconnected, h.api, h.api, h.effect, ?_, h.begun_lt, ?_⟩
    · have hle : replaced { p with rendered := p.api } ≤ p.replaced := by
        simp only [replaced, hsame]
        split_ifs <;> simp_all
      exact Nat.le_trans (Nat.add_le_add_left hle _) h.budget
    · refine fun hnil => ⟨(h.status hnil).1, fun hapi _ heffect => ?_⟩
      exact (h.status hnil).2 hapi (hsame.symm.trans heffect) heffect
  · exact h

/-- What running an effect can do: nothing new has been rendered, the first connection has, a
connection has replaced another one, which is cut, or nothing has replaced a connection, and an
attempt begins. -/
lemma runEffect_cases (p : ChainProvider) :
    (p.effect = p.rendered ∧ p.runEffect = p) ∨
    (∃ n, p.rendered = some n ∧ p.effect = none ∧ p.runEffect = { p with effect := some n }) ∨
    (∃ n a, p.rendered = some n ∧ p.effect = some a ∧ n ≠ a ∧
      p.runEffect = { p with
        effect := some n, disconnected := p.disconnected ++ [a], api := none }) ∨
    ∃ a, p.rendered = none ∧ p.effect = some a ∧
      p.runEffect = { p with
        effect := none, disconnected := p.disconnected ++ [a], api := none, isConnecting := true
        error := none, begun := p.begun + 1, connecting := p.connecting ++ [p.begun] } := by
  obtain ⟨api, isConnecting, error, rendered, effect, begun, connecting, disconnected⟩ := p
  cases effect with
  | none =>
    cases rendered with
    | none => exact Or.inl ⟨rfl, rfl⟩
    | some n => exact Or.inr (Or.inl ⟨n, rfl, rfl, rfl⟩)
  | some a =>
    cases rendered with
    | none => exact Or.inr (Or.inr (Or.inr ⟨a, rfl, rfl, rfl⟩))
    | some n =>
      by_cases hna : n = a
      · obtain rfl := hna
        exact Or.inl ⟨rfl, if_pos rfl⟩
      · refine Or.inr (Or.inr (Or.inl ⟨n, a, rfl, rfl, hna, if_neg ?_⟩))
        simpa using Ne.symm hna

lemma Invariant.disconnected_concat (h : Invariant k p) {a : ℕ} (ha : p.effect = some a) :
    ∀ n ∈ p.disconnected ++ [a], n < p.begun ∧ n ∉ p.connecting := by
  intro n hn
  rcases List.mem_append.mp hn with hn | hn
  · exact h.disconnected n hn
  · rw [List.mem_singleton.mp hn]
    exact ⟨(h.effect a ha).1, (h.effect a ha).2.1⟩

/-- The connection that is cut is not the one that has been rendered. -/
lemma Invariant.runEffect (h : Invariant k p) : Invariant k p.runEffect := by
  have hbudget := h.budget
  rcases runEffect_cases p with ⟨-, heq⟩ | ⟨n, hrendered, heffect, heq⟩ |
    ⟨n, a, hrendered, heffect, hna, heq⟩ | ⟨a, hrendered, heffect, heq⟩
  · rw [heq]
    exact h
  · have hn := h.rendered n hrendered
    rw [heq]
    refine ⟨h.nodup, h.connecting_lt, h.disconnected, h.api, h.rendered, ?_, ?_, h.begun_lt, ?_⟩
    · rintro m ⟨⟩
      exact hn
    · simpa [replaced, hrendered, heffect] using hbudget
    · exact fun hnil => ⟨(h.status hnil).1, by simp⟩
  · have hn := h.rendered n hrendered
    have hncut : n ∉ p.disconnected ++ [a] := by simpa [hna] using hn.2.2
    rw [heq]
    refine ⟨h.nodup, h.connecting_lt, h.disconnected_concat heffect, ?_, ?_, ?_, ?_, h.begun_lt, ?_⟩
    · rintro m ⟨⟩
    · intro m hm
      obtain rfl := Option.some.inj (hrendered.symm.trans hm)
      exact ⟨hn.1, hn.2.1, hncut⟩
    · rintro m ⟨⟩
      exact ⟨hn.1, hn.2.1, hncut⟩
    · simpa [replaced, hrendered, heffect, hna.symm] using hbudget
    · exact fun hnil => ⟨(h.status hnil).1, by simp⟩
  · have hlt : p.begun + 1 + (p.connecting.length + 1) ≤ 2 * k := by
      have htwo : p.replaced = 2 := by simp [replaced, hrendered, heffect]
      omega
    rw [heq]
    refine ⟨?_, ?_, fun m hm => ?_, ?_, ?_, ?_, ?_, ?_, ?_⟩
    · refine h.nodup.append (List.nodup_singleton _) ?_
      simpa using fun hmem => Nat.lt_irrefl _ (h.connecting_lt _ hmem)
    · simpa [or_imp, forall_and] using fun m hm => Nat.lt_succ_of_lt (h.connecting_lt m hm)
    · have hold := h.disconnected_concat heffect m hm
      refine ⟨Nat.lt_succ_of_lt hold.1, ?_⟩
      simpa [hold.2] using Nat.ne_of_lt hold.1
    · rintro m ⟨⟩
    · intro m hm
      exact absurd (hrendered.symm.trans hm) (by simp)
    · rintro m ⟨⟩
    · simpa [replaced, hrendered] using hlt
    · show p.begun + 1 < 2 * k
      omega
    · simp

/-! ### Runs -/

/-- However the attempts end, and whenever the page is rendered and its effects are run, the
invariant holds. -/
theorem invariant_run (k : ℕ) (is : List Input) :
    Invariant (k + 1) (run step (mounted (k + 1)) is) := by
  refine run_invariant (fun _ p => Invariant (k + 1) p) (invariant_mounted k) fun o _ h => ?_
  cases o.input with
  | render => exact h.render
  | runEffect => exact h.runEffect
  | finish n outcome => exact h.finish n outcome

/-- Once settled, the provider never changes again: a connection that could not be made is not
tried again. -/
lemma Settled.run_eq (h : Settled p) (is : List Input) : run step p is = p := by
  obtain ⟨hnil, heffect, hapi⟩ := h
  induction is using List.reverseRecOn with
  | nil => rfl
  | append_singleton is i ih =>
    rw [run_concat, ih]
    cases i with
    | render =>
      rw [step, render, if_pos heffect]
      exact congrArg (fun r => { p with rendered := r }) hapi
    | runEffect => exact if_pos heffect
    | finish n outcome =>
      refine if_neg ?_
      rw [hnil]
      exact List.not_mem_nil

end

end ChainProvider

open ChainProvider in
/-- However the attempts end, and whenever the page is rendered and its effects are run, after a
first effect that is run `k + 1` times: the page never shows a connection that has been cut, at
most `2 * k + 1` attempts are made, and once none is going on the page shows a connection or an
error, and does so for good. -/
theorem chain_connection (k : ℕ) (is : List Input) :
    let p := run step (mounted (k + 1)) is
    (∀ n, p.rendered = some n → n ∉ p.disconnected) ∧ p.begun ≤ 2 * k + 1 ∧
      (p.Settled →
        (p.rendered ≠ none ∧ p.chainStatus = js "Connected" ∨ p.chainStatus = js "Chain Error") ∧
          ∀ later, run step (mounted (k + 1)) (is ++ later) = p) := by
  intro p
  have h : Invariant (k + 1) p := invariant_run k is
  refine ⟨fun n hn => (h.rendered n hn).2.2, ?_, fun hsettled => ⟨?_, fun later => ?_⟩⟩
  · have hlt := h.begun_lt
    omega
  · obtain ⟨hnil, heffect, hapi⟩ := hsettled
    obtain ⟨hidle, herror⟩ := h.status hnil
    cases herr : p.error with
    | some e => exact Or.inr (by simp [chainStatus, herr])
    | none =>
      have hrendered : p.rendered ≠ none := by
        intro hnone
        exact herror (hapi.trans hnone) hnone (heffect.trans hnone) herr
      refine Or.inl ⟨hrendered, ?_⟩
      have hsome : p.api ≠ none := hapi.trans_ne hrendered
      simp [chainStatus, herr, hidle, hsome]
  · rw [run, List.foldl_append]
    exact hsettled.run_eq later

/-- In development mode, two attempts that both succeed cut each other off, and the third one
stays. -/
example :
    let p := run ChainProvider.step (.mounted 2)
      [.finish 0 none, .render, .runEffect, .finish 1 none, .render, .runEffect, .render,
        .runEffect, .finish 2 none, .render, .runEffect]
    p.rendered = some 2 ∧ p.disconnected = [0, 1] := by
  decide

end FarcasterNft
