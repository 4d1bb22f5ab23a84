import FarcasterNft.Frame.Payments
import FarcasterNft.Pallet.History

/-!
# Where the money goes

The pallet moves money in two calls: a registration pays the fee to the pallet's account, and
a purchase pays the price of the NFT to its owner. The price is the one the NFT was created
with, whatever has happened to it since. So the balances after a run are settled by the fees of
the registered artists and by the sales of the run.
-/

namespace FarcasterNft

open Frame

variable {AccountId Ledger : Type} [DecidableEq AccountId]

/-! ### Fees, prices and sales -/

section

variable (T : Config AccountId Ledger) (l : Ledger)

/-- The account that registered at a point of a run, if one did. -/
def registrant (o : Occurrence (Extrinsic AccountId)) : Option AccountId :=
  match o.input.call with
  | .registerArtist => if returnedOk T l o then some o.input.signer else none
  | _ => none

/-- The accounts that registered in a run, in order. -/
def registrants (xs : List (Extrinsic AccountId)) : List AccountId :=
  (occurrences xs).filterMap (registrant T l)

/-- The price an NFT was created with at a point of a run, if it was assigned this id. -/
def listing (c : CollectionId) (i : ItemId) (o : Occurrence (Extrinsic AccountId)) : Option ℕ :=
  match o.input.call with
  | .createNft _ _ price => if assignedItem T l c o = some i then some price else none
  | _ => none

/-- The price given by the latest `createNft` of a run that assigned this id. -/
def listedPrice (c : CollectionId) (i : ItemId) (xs : List (Extrinsic AccountId)) : Option ℕ :=
  ((occurrences xs).filterMap (listing T l c i)).getLast?

/-- The sale at a point of a run: the buyer owes the listed price to the owner. -/
def sale (o : Occurrence (Extrinsic AccountId)) : Option (Payment AccountId) :=
  match o.input.call with
  | .mintNft c i =>
    if returnedOk T l o then do
      let n ← (after T l o.past).nfts (c, i)
      let price ← listedPrice T l c i o.past
      return ⟨o.input.signer, n.owner, price⟩
    else none
  | _ => none

/-- The sales of a run, in order. -/
def sales (xs : List (Extrinsic AccountId)) : List (Payment AccountId) :=
  (occurrences xs).filterMap (sale T l)

/-- What a registration costs, and whom. -/
def fee (who : AccountId) : Payment AccountId := ⟨who, T.palletAccount, registrationFee T⟩

/-- The payment at a point of a run, a fee or a sale. -/
def payment (o : Occurrence (Extrinsic AccountId)) : Option (Payment AccountId) :=
  match o.input.call with
  | .registerArtist => (registrant T l o).map (fee T)
  | _ => sale T l o

def payments (xs : List (Extrinsic AccountId)) : List (Payment AccountId) :=
  (occurrences xs).filterMap (payment T l)

variable (xs : List (Extrinsic AccountId)) (x : Extrinsic AccountId)

lemma registrants_concat :
    registrants T l (xs ++ [x]) = registrants T l xs ++ (registrant T l ⟨xs, x⟩).toList :=
  filterMap_occurrences_concat _ xs x

lemma sales_concat : sales T l (xs ++ [x]) = sales T l xs ++ (sale T l ⟨xs, x⟩).toList :=
  filterMap_occurrences_concat _ xs x

lemma payments_concat :
    payments T l (xs ++ [x]) = payments T l xs ++ (payment T l ⟨xs, x⟩).toList :=
  filterMap_occurrences_concat _ xs x

/-- The last listing counts. -/
lemma listedPrice_concat (c : CollectionId) (i : ItemId) :
    listedPrice T l c i (xs ++ [x]) =
      (listing T l c i ⟨xs, x⟩).or (listedPrice T l c i xs) := by
  rw [listedPrice, filterMap_occurrences_concat, List.getLast?_append]
  cases listing T l c i ⟨xs, x⟩ <;> rfl

end

variable {T : Config AccountId Ledger} {l : Ledger}
variable {xs : List (Extrinsic AccountId)} {x : Extrinsic AccountId}

lemma registrant_of_not_ok (h : succeeds T (after T l xs) x = false) :
    registrant T l ⟨xs, x⟩ = none := by
  rw [registrant]
  split <;> simp [returnedOk, h]

lemma listing_of_not_ok {c : CollectionId} {i : ItemId}
    (h : succeeds T (after T l xs) x = false) : listing T l c i ⟨xs, x⟩ = none := by
  rw [listing]
  split <;> simp [assignedItem_of_not_ok T l (o := ⟨xs, x⟩) h]

lemma payment_of_not_ok (h : succeeds T (after T l xs) x = false) :
    payment T l ⟨xs, x⟩ = none := by
  rw [payment]
  split
  · rw [registrant_of_not_ok h, Option.map_none]
  · rw [sale]
    split <;> simp [returnedOk, h]

/-! ### Artists -/

/-- The registered artists are the accounts that have paid the fee. -/
theorem artists_eq (xs : List (Extrinsic AccountId)) (a : AccountId) :
    (after T l xs).artists a = if a ∈ registrants T l xs then some true else none := by
  refine after_induction
    (P := fun xs σ => σ.artists a = if a ∈ registrants T l xs then some true else none)
    rfl (fun xs x hfail ih => ?_) (fun xs s call τ hok hrule ih => ?_) xs
  · rw [registrants_concat, registrant_of_not_ok hfail, ih]
    simp
  · rw [registrants_concat]
    cases hrule with
    | registerArtist =>
      by_cases ha : a = s
      · simp [registrant, returnedOk, hok, ha]
      · simp [registrant, returnedOk, hok, ha, StorageMap.insert_of_ne, ih]
    | _ => simpa [registrant] using ih

/-- No account registers twice. -/
theorem registrants_nodup (xs : List (Extrinsic AccountId)) : (registrants T l xs).Nodup := by
  refine after_induction (T := T) (l := l) (P := fun xs _ => (registrants T l xs).Nodup) .nil
    (fun xs x hfail ih => ?_) (fun xs s call τ hok hrule ih => ?_) xs
  · rw [registrants_concat, registrant_of_not_ok hfail]
    simpa using ih
  · rw [registrants_concat]
    cases hrule with
    | registerArtist _ hnew =>
      rw [artists_eq] at hnew
      have hnotMem : s ∉ registrants T l xs := fun hmem => by simp [hmem] at hnew
      have hregistrant : registrant T l ⟨xs, s, .registerArtist⟩ = some s := by
        simp [registrant, returnedOk, hok]
      rw [hregistrant]
      simpa using ih.concat hnotMem
    | _ => simpa [registrant] using ih

/-- Whoever created a stored collection has registered. -/
theorem creator_mem_registrants {c : CollectionId} (col : Collection AccountId)
    (h : (after T l xs).collections c = some col) : col.creator ∈ registrants T l xs := by
  revert col
  refine after_induction
    (P := fun xs σ => ∀ col, σ.collections c = some col → col.creator ∈ registrants T l xs)
    (fun col h => by simp [State.genesis] at h) (fun xs x _ ih col h => ?_)
    (fun xs s call τ _ hrule ih col h => ?_) xs
  · rw [registrants_concat]
    exact List.mem_append_left _ (ih col h)
  rw [registrants_concat]
  apply List.mem_append_left
  cases hrule with
  | createCollection metadata md hmd hartist =>
    obtain ⟨rfl, rfl⟩ | ⟨-, h⟩ := StorageMap.insert_eq_some_iff.mp h
    · by_contra hnotMem
      simp [artists_eq, hnotMem] at hartist
    · exact ih col h
  | deleteCollection => exact ih col (StorageMap.remove_eq_some_iff.mp h).2
  | createNft _ _ _ col' _ _ hcol | burnNft _ _ _ col' _ _ _ hcol =>
    obtain ⟨rfl, rfl⟩ | ⟨-, h⟩ := StorageMap.insert_eq_some_iff.mp h
    · exact ih col' hcol
    · exact ih col h
  | _ => exact ih col h

/-! ### Prices -/

/-- The price of a stored NFT is the one it was created with. -/
theorem listedPrice_eq {c : CollectionId} {i : ItemId} (n : NFT AccountId)
    (h : (after T l xs).nfts (c, i) = some n) : listedPrice T l c i xs = some n.price := by
  revert n
  refine after_induction
    (P := fun xs σ => ∀ n, σ.nfts (c, i) = some n → listedPrice T l c i xs = some n.price)
    (fun n h => by simp [State.genesis] at h) (fun xs x hfail ih n h => ?_)
    (fun xs s call τ hok hrule ih n h => ?_) xs
  · rw [listedPrice_concat, listing_of_not_ok hfail, Option.none_or]
    exact ih n h
  rw [listedPrice_concat]
  cases hrule with
  | createNft c' metadata price =>
    obtain ⟨hci, rfl⟩ | ⟨hci, h⟩ := StorageMap.insert_eq_some_iff.mp h
    · obtain ⟨rfl, rfl⟩ := Prod.mk.inj hci
      simp [listing, assignedItem, returnedOk, hok]
    · have hlisting : listing T l c i ⟨xs, s, .createNft c' metadata price⟩ = none := by
        simp only [listing, assignedItem, ite_eq_right_iff]
        split_ifs with hc
        · intro hi
          exact absurd (by rw [hc.1, Option.some.inj hi]) hci
        · simp
      rw [hlisting, Option.none_or]
      exact ih n h
  | burnNft => exact ih n (StorageMap.remove_eq_some_iff.mp h).2
  | transferNft _ _ _ m hnft | mintNft _ _ m _ hnft =>
    obtain ⟨hci, rfl⟩ | ⟨-, h⟩ := StorageMap.insert_eq_some_iff.mp h
    · exact ih m (hci ▸ hnft)
    · exact ih n h
  | _ => exact ih n h

/-- A purchase is a sale at the price of the NFT. -/
lemma sale_eq {s : AccountId} {c : CollectionId} {i : ItemId} {n : NFT AccountId}
    (hok : succeeds T (after T l xs) ⟨s, .mintNft c i⟩ = true)
    (h : (after T l xs).nfts (c, i) = some n) :
    sale T l ⟨xs, s, .mintNft c i⟩ = some ⟨s, n.owner, n.price⟩ := by
  simp [sale, returnedOk, hok, h, listedPrice_eq n h]

/-! ### Balances -/

/-- The payments of a run settle the initial ledger into the final one. -/
theorem settles_after (hT : T.currency.Exact) (l : Ledger) (xs : List (Extrinsic AccountId)) :
    T.currency.Settles l (payments T l xs) (after T l xs).ledger := by
  refine after_induction
    (P := fun xs σ => T.currency.Settles l (payments T l xs) σ.ledger)
    .nil (fun xs x hfail ih => ?_) (fun xs s call τ hok hrule ih => ?_) xs
  · rw [payments_concat, payment_of_not_ok hfail]
    simpa using ih
  · rw [payments_concat]
    cases hrule with
    | registerArtist l' _ hpay =>
      have hpayment : payment T l ⟨xs, s, .registerArtist⟩ = some (fee T s) := by
        simp [payment, registrant, returnedOk, hok]
      rw [hpayment]
      exact ih.concat _ (hT _ _ _ _ _ hpay)
    | mintNft c i n l' hnft _ _ hpay =>
      have hpayment : payment T l ⟨xs, s, .mintNft c i⟩ = some ⟨s, n.owner, n.price⟩ :=
        sale_eq hok hnft
      rw [hpayment]
      exact ih.concat _ (hT _ _ _ _ _ hpay)
    | _ => simpa [payment, sale] using ih

/-- A payment is a fee or a sale. -/
lemma payment_cases (o : Occurrence (Extrinsic AccountId)) :
    (sale T l o = none ∧ payment T l o = (registrant T l o).map (fee T)) ∨
      (registrant T l o = none ∧ payment T l o = sale T l o) := by
  obtain ⟨past, s, call⟩ := o
  cases call with
  | registerArtist => exact Or.inl ⟨rfl, rfl⟩
  | _ => exact Or.inr ⟨rfl, rfl⟩

/-- The payments of a run are its sales and the fees of its registrants. -/
lemma payments_perm (xs : List (Extrinsic AccountId)) :
    (payments T l xs).Perm (sales T l xs ++ (registrants T l xs).map (fee T)) := by
  induction xs using List.reverseRecOn with
  | nil => exact .refl _
  | append_singleton xs x ih =>
    rw [payments_concat, sales_concat, registrants_concat]
    obtain ⟨hsale, hpayment⟩ | ⟨hregistrant, hpayment⟩ :=
      payment_cases (T := T) (l := l) ⟨xs, x⟩
    · rw [hsale, hpayment, Option.toList_none, List.append_nil, List.map_append,
        ← List.append_assoc, Option.toList_map]
      exact ih.append_right _
    · rw [hregistrant, hpayment, Option.toList_none, List.append_nil, List.append_assoc]
      refine (ih.append_right _).trans ?_
      rw [List.append_assoc]
      exact List.perm_append_comm.append_left _

lemma paidBy_fees (a : AccountId) (rs : List AccountId) :
    paidBy a (rs.map (fee T)) = registrationFee T * rs.count a := by
  induction rs with
  | nil => rfl
  | cons r rs ih =>
    rw [List.map_cons, paidBy_cons, ih]
    by_cases ha : a = r
    · simp [fee, ha, Nat.mul_add, add_comm]
    · simp [fee, ha, Ne.symm ha]

lemma paidTo_fees (a : AccountId) (rs : List AccountId) :
    paidTo a (rs.map (fee T)) =
      if a = T.palletAccount then registrationFee T * rs.length else 0 := by
  induction rs with
  | nil => simp [paidTo]
  | cons r rs ih =>
    rw [List.map_cons, paidTo_cons, ih]
    by_cases ha : a = T.palletAccount
    · simp [fee, ha, Nat.mul_add, add_comm]
    · simp [fee, ha]

/-- The balances after a run: everyone has what they had, plus the prices of what they sold,
minus the prices of what they bought and the fee if they registered, and the pallet has all the
fees. Every purchase is a sale, the total is constant, nobody paid the fee twice, and whoever
created a stored collection has paid it once. -/
theorem money_ledger (hT : T.currency.Exact) (l : Ledger) (xs : List (Extrinsic AccountId)) :
    (∀ a, T.currency.freeBalance (after T l xs).ledger a + paidBy a (sales T l xs) +
        (if a ∈ registrants T l xs then registrationFee T else 0) =
      T.currency.freeBalance l a + paidTo a (sales T l xs) +
        (if a = T.palletAccount then registrationFee T * (registrants T l xs).length else 0)) ∧
    (∀ o ∈ occurrences xs, returnedOk T l o = true → ∀ c i, o.input.call = .mintNft c i →
      ∃ n price, (after T l o.past).nfts (c, i) = some n ∧
        listedPrice T l c i o.past = some price ∧
        sale T l o = some ⟨o.input.signer, n.owner, price⟩) ∧
    T.currency.totalBalance (after T l xs).ledger = T.currency.totalBalance l ∧
    (registrants T l xs).Nodup ∧
    ∀ c col, (after T l xs).collections c = some col →
      (registrants T l xs).count col.creator = 1 := by
  have hsettles := settles_after hT l xs
  have hnodup : (registrants T l xs).Nodup := registrants_nodup xs
  refine ⟨fun a => ?_, ?_, hsettles.totalBalance_eq, hnodup, fun c col hcol => ?_⟩
  · have hbalance := hsettles.freeBalance_eq a
    rw [paidBy_perm a (payments_perm xs), paidTo_perm a (payments_perm xs), paidBy_append,
      paidTo_append, paidBy_fees, paidTo_fees, hnodup.count, mul_ite, mul_one, mul_zero,
      ← add_assoc, ← add_assoc] at hbalance
    exact hbalance
  · rintro ⟨past, s, call⟩ - hok c i rfl
    have hrule := callRule_of_succeeds hok
    generalize step T _ _ = τ at hrule
    cases hrule with
    | mintNft _ _ n _ hnft => exact ⟨n, n.price, hnft, listedPrice_eq n hnft, sale_eq hok hnft⟩
  · exact List.count_eq_one_of_mem hnodup (creator_mem_registrants col hcol)

/-- An artist registers, creates an NFT for the price of 7 and sells it. -/
theorem money_ledger_demo :
    let T := demoRuntime
    let l := demoLedger
    let xs := [⟨1, .registerArtist⟩, ⟨1, .createCollection []⟩, ⟨1, .createNft 0 [] 7⟩,
      ⟨2, .mintNft 0 0⟩]
    (∀ a, T.currency.freeBalance (after T l xs).ledger a + paidBy a (sales T l xs) +
        (if a ∈ registrants T l xs then registrationFee T else 0) =
      T.currency.freeBalance l a + paidTo a (sales T l xs) +
        (if a = T.palletAccount then registrationFee T * (registrants T l xs).length else 0)) ∧
    (∀ o ∈ occurrences xs, returnedOk T l o = true → ∀ c i, o.input.call = .mintNft c i →
      ∃ n price, (after T l o.past).nfts (c, i) = some n ∧
        listedPrice T l c i o.past = some price ∧
        sale T l o = some ⟨o.input.signer, n.owner, price⟩) ∧
    T.currency.totalBalance (after T l xs).ledger = T.currency.totalBalance l ∧
    (registrants T l xs).Nodup ∧
    ∀ c col, (after T l xs).collections c = some col →
      (registrants T l xs).count col.creator = 1 :=
  money_ledger (Currency.balances_exact 1) demoLedger _

example : sales demoRuntime demoLedger [⟨1, .registerArtist⟩, ⟨1, .createCollection []⟩,
    ⟨1, .createNft 0 [] 7⟩, ⟨2, .mintNft 0 0⟩] = [⟨2, 1, 7⟩] := by decide +kernel

end FarcasterNft
