import Mathlib.Algebra.BigOperators.Finprod
import FarcasterNft.Frame.Transaction

/-!
# Currencies

The part of the `Currency` trait a pallet relies on: a minimum balance, the free balance of
each account in a ledger, and transfers. A currency is `Exact` if a transfer that keeps the
sender alive moves the amount from one account to the other and touches nothing else; a failed
transfer returns no ledger at all, so it changes nothing.
-/

namespace Frame

inductive ExistenceRequirement where
  | keepAlive
  | allowDeath
  deriving DecidableEq

structure Currency (AccountId Ledger : Type) where
  minimumBalance : ℕ
  freeBalance : Ledger → AccountId → ℕ
  transfer : Ledger → AccountId → AccountId → ℕ → ExistenceRequirement →
    Except CurrencyError Ledger

namespace Currency

variable {AccountId Ledger : Type}

/-- The sum of all free balances. -/
noncomputable def totalBalance (C : Currency AccountId Ledger) (l : Ledger) : ℕ :=
  ∑ᶠ a, C.freeBalance l a

variable [DecidableEq AccountId]

/-- Between `l` and `l'`, exactly `v` moved from `src` to `dst`; nothing if they coincide. -/
def Moved (C : Currency AccountId Ledger) (l l' : Ledger) (src dst : AccountId) (v : ℕ) :
    Prop :=
  ∀ a, C.freeBalance l' a + (if a = src then v else 0) =
    C.freeBalance l a + (if a = dst then v else 0)

/-- A successful transfer moves exactly the amount. -/
def Exact (C : Currency AccountId Ledger) : Prop :=
  ∀ l l' src dst v, C.transfer l src dst v .keepAlive = .ok l' → C.Moved l l' src dst v

variable {C : Currency AccountId Ledger} {l l' : Ledger} {src dst : AccountId} {v : ℕ}

/-- Only finitely many accounts tell two ledgers apart, so both have funds on finitely many
accounts or both do not. -/
lemma Moved.support_finite_iff (h : C.Moved l l' src dst v) :
    (Function.support (C.freeBalance l')).Finite ↔
      (Function.support (C.freeBalance l)).Finite := by
  constructor
  · intro hfin
    apply (hfin.union (Set.finite_singleton src)).subset
    intro a ha
    rw [Function.mem_support] at ha
    simp only [Set.mem_union, Function.mem_support, Set.mem_singleton_iff]
    by_contra! hcon
    have := h a
    rw [hcon.1, if_neg hcon.2] at this
    omega
  · intro hfin
    apply (hfin.union (Set.finite_singleton dst)).subset
    intro a ha
    rw [Function.mem_support] at ha
    simp only [Set.mem_union, Function.mem_support, Set.mem_singleton_iff]
    by_contra! hcon
    have := h a
    rw [hcon.1, if_neg hcon.2] at this
    omega

/-- A transfer keeps the total. -/
theorem Moved.totalBalance_eq (h : C.Moved l l' src dst v) :
    C.totalBalance l' = C.totalBalance l := by
  have hind : ∀ b : AccountId, (∑ᶠ a, if a = b then v else 0) = v := fun b => by
    simpa using finsum_eq_single (fun a => if a = b then v else 0) b (by simp +contextual)
  have hsupp : ∀ b : AccountId, (Function.support fun a => if a = b then v else 0).Finite :=
    fun b => (Set.finite_singleton b).subset (by intro a; simp +contextual)
  by_cases hfin : (Function.support (C.freeBalance l)).Finite
  · have heq := finsum_congr h
    rw [finsum_add_distrib (h.support_finite_iff.mpr hfin) (hsupp src),
      finsum_add_distrib hfin (hsupp dst), hind, hind] at heq
    exact Nat.add_right_cancel heq
  · rw [totalBalance, totalBalance, finsum_of_infinite_support hfin,
      finsum_of_infinite_support (mt h.support_finite_iff.mp hfin)]

/-! ### A ledger of plain balances -/

/-- The currency whose ledger is the map of free balances: a transfer needs the funds, may not
leave the receiver below the minimum balance and, if it has to keep the sender alive, not the
sender either. -/
def balances (minimumBalance : ℕ) : Currency AccountId (AccountId → ℕ) where
  minimumBalance := minimumBalance
  freeBalance l a := l a
  transfer l src dst v req :=
    if v = 0 ∨ src = dst then .ok l
    else if l src < v then .error .fundsUnavailable
    else if l dst + v < minimumBalance then .error .belowMinimum
    else if minimumBalance ≤ l src - v then
      .ok (Function.update (Function.update l src (l src - v)) dst (l dst + v))
    else match req with
      | .keepAlive => .error .notExpendable
      | .allowDeath => .ok (Function.update (Function.update l src 0) dst (l dst + v))

theorem balances_exact (minimumBalance : ℕ) :
    (balances minimumBalance : Currency AccountId _).Exact := by
  intro l l' src dst v h a
  simp only [balances] at h ⊢
  split_ifs at h with h₀ h₁ h₂ h₃
  · cases h
    rcases h₀ with rfl | rfl <;> simp
  · cases h
    push Not at h₀
    by_cases hd : a = dst
    · subst hd
      simp [Ne.symm h₀.2]
    · by_cases hs : a = src
      · subst hs
        simp [hd]
        omega
      · simp [hd, hs]

end Currency

end Frame
