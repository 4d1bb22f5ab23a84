import FarcasterNft.Frame.Currency

/-!
# Payments

A list of payments settles a ledger into another if exact transfers of these payments, one
after the other, lead from the one to the other. What an account ends with is then what it
started with, plus what it was paid, minus what it paid.
-/

namespace Frame

structure Payment (AccountId : Type) where
  payer : AccountId
  payee : AccountId
  amount : ℕ
  deriving DecidableEq

variable {AccountId Ledger : Type} [DecidableEq AccountId]

/-- What an account paid in a list of payments. -/
def paidBy (a : AccountId) (ps : List (Payment AccountId)) : ℕ :=
  (ps.map fun p => if a = p.payer then p.amount else 0).sum

/-- What an account was paid in a list of payments. -/
def paidTo (a : AccountId) (ps : List (Payment AccountId)) : ℕ :=
  (ps.map fun p => if a = p.payee then p.amount else 0).sum

section

variable (a : AccountId) (p : Payment AccountId) (ps qs : List (Payment AccountId))

lemma paidBy_cons :
    paidBy a (p :: ps) = (if a = p.payer then p.amount else 0) + paidBy a ps := rfl

lemma paidTo_cons :
    paidTo a (p :: ps) = (if a = p.payee then p.amount else 0) + paidTo a ps := rfl

lemma paidBy_append : paidBy a (ps ++ qs) = paidBy a ps + paidBy a qs := by simp [paidBy]

lemma paidTo_append : paidTo a (ps ++ qs) = paidTo a ps + paidTo a qs := by simp [paidTo]

/-- The order of the payments does not matter for the sums. -/
lemma paidBy_perm {ps qs : List (Payment AccountId)} (h : ps.Perm qs) :
    paidBy a ps = paidBy a qs := (h.map _).sum_eq

lemma paidTo_perm {ps qs : List (Payment AccountId)} (h : ps.Perm qs) :
    paidTo a ps = paidTo a qs := (h.map _).sum_eq

end

/-- The payments, made one after the other, lead from one ledger to another. -/
inductive Currency.Settles (C : Currency AccountId Ledger) (l : Ledger) :
    List (Payment AccountId) → Ledger → Prop where
  | nil : Settles C l [] l
  | concat {ps : List (Payment AccountId)} {l₁ l₂ : Ledger} (p : Payment AccountId)
      (hps : Settles C l ps l₁) (hp : C.Moved l₁ l₂ p.payer p.payee p.amount) :
      Settles C l (ps ++ [p]) l₂

namespace Currency.Settles

variable {C : Currency AccountId Ledger} {l l' : Ledger} {ps : List (Payment AccountId)}

/-- Every account ends with what it had, plus what it got, minus what it gave. -/
theorem freeBalance_eq (h : C.Settles l ps l') (a : AccountId) :
    C.freeBalance l' a + paidBy a ps = C.freeBalance l a + paidTo a ps := by
  induction h with
  | nil => rfl
  | @concat ps l₁ l₂ p _ hp ih =>
    rw [paidBy_append, paidTo_append]
    calc C.freeBalance l₂ a + (paidBy a ps + paidBy a [p])
        = C.freeBalance l₂ a + (if a = p.payer then p.amount else 0) + paidBy a ps := by
          rw [add_comm (paidBy a ps), add_assoc]; rfl
      _ = C.freeBalance l₁ a + (if a = p.payee then p.amount else 0) + paidBy a ps := by
          rw [hp a]
      _ = C.freeBalance l₁ a + paidBy a ps + (if a = p.payee then p.amount else 0) :=
          Nat.add_right_comm _ _ _
      _ = C.freeBalance l a + (paidTo a ps + paidTo a [p]) := by
          rw [ih, add_assoc]; rfl

/-- Payments keep the total. -/
theorem totalBalance_eq (h : C.Settles l ps l') : C.totalBalance l' = C.totalBalance l := by
  induction h with
  | nil => rfl
  | concat p _ hp ih => exact hp.totalBalance_eq.trans ih

end Currency.Settles

end Frame
