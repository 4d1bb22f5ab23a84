import FarcasterNft.Pallet.Supply

/-!
# Slots of a collection that never come back

A collection has room for 256 NFTs. A burn gives its slot back, while a sold NFT keeps its slot
for good, whatever is done afterwards. Since anyone may create an NFT in any collection, and a
transfer to oneself counts as a sale, every account can take all free slots of a collection at
no cost. From then on the collection never has more NFTs on offer than before.
-/

namespace FarcasterNft

open Frame

variable {AccountId Ledger : Type}

/-! ### Sold and unsold items -/

/-- The items of a collection that are stored and sold. -/
def soldItems (σ : State AccountId Ledger) (c : CollectionId) : Set ItemId :=
  {i | ∃ n, σ.nfts (c, i) = some n ∧ n.isSold = true}

/-- The items of a collection that are stored and on offer. -/
def unsoldItems (σ : State AccountId Ledger) (c : CollectionId) : Set ItemId :=
  {i | ∃ n, σ.nfts (c, i) = some n ∧ n.isSold = false}

variable {σ τ : State AccountId Ledger} {c : CollectionId} {i : ItemId}

lemma keysUnder_eq_union (σ : State AccountId Ledger) (c : CollectionId) :
    σ.nfts.keysUnder c = soldItems σ c ∪ unsoldItems σ c := by
  ext i
  rw [StorageMap.mem_keysUnder, Option.ne_none_iff_exists']
  constructor
  · rintro ⟨n, hn⟩
    cases hsold : n.isSold with
    | true => exact Or.inl ⟨n, hn, hsold⟩
    | false => exact Or.inr ⟨n, hn, hsold⟩
  · rintro (⟨n, hn, -⟩ | ⟨n, hn, -⟩)
    · exact ⟨n, hn⟩
    · exact ⟨n, hn⟩

lemma notMem_unsoldItems_of_mem_soldItems (hi : i ∈ soldItems σ c) : i ∉ unsoldItems σ c := by
  rintro ⟨m, hm, hunsold⟩
  obtain ⟨n, hn, hsold⟩ := hi
  obtain rfl := Option.some.inj (hn.symm.trans hm)
  rw [hsold] at hunsold
  cases hunsold

/-- The slots in use are those of sold items and those of items on offer. -/
lemma encard_keysUnder_eq (σ : State AccountId Ledger) (c : CollectionId) :
    (σ.nfts.keysUnder c).encard = (soldItems σ c).encard + (unsoldItems σ c).encard := by
  rw [keysUnder_eq_union, Set.encard_union_eq]
  exact Set.disjoint_left.mpr fun _ => notMem_unsoldItems_of_mem_soldItems

/-! ### A sold item keeps its slot -/

section

variable [DecidableEq AccountId] {T : Config AccountId Ledger} {l : Ledger}
  {past later : List (Extrinsic AccountId)}

lemma mem_soldItems_iff {xs : List (Extrinsic AccountId)} :
    i ∈ soldItems (after T l xs) c ↔ (life T l xs (c, i)).IsSold := by
  constructor
  · rintro ⟨n, hn, hsold⟩
    rw [life_eq_held_iff.mpr hn]
    exact hsold
  · intro h
    cases hlife : life T l xs (c, i) with
    | held n =>
      rw [hlife] at h
      exact ⟨n, life_eq_held_iff.mp hlife, h⟩
    | unassigned | burned => simp [hlife, Life.IsSold] at h

/-- A sold item is sold ever after. -/
lemma soldItems_subset (h : WithinBudget T l (past ++ later)) (c : CollectionId) :
    soldItems (after T l past) c ⊆ soldItems (after T l (past ++ later)) c := by
  intro i hi
  rw [mem_soldItems_iff] at hi ⊢
  exact life_invariant (fun _ _ _ _ hmove => hmove.isSold) h hi

/-- At no time after an item was sold there is more on offer than what is left of the 256 slots,
also if the collection is deleted. -/
theorem sold_slots_stay_taken (h : WithinBudget T l (past ++ later)) (c : CollectionId) :
    (soldItems (after T l past) c).encard +
      (unsoldItems (after T l (past ++ later)) c).encard ≤ 256 := by
  calc
    _ ≤ (soldItems (after T l (past ++ later)) c).encard +
        (unsoldItems (after T l (past ++ later)) c).encard :=
      add_le_add (Set.encard_le_encard (soldItems_subset h c)) le_rfl
    _ = ((after T l (past ++ later)).nfts.keysUnder c).encard := (encard_keysUnder_eq _ c).symm
    _ ≤ 256 := encard_keysUnder_le h c

/-- A buyer and an artist's own transfer take a slot each. -/
theorem sold_slots_stay_taken_demo :
    (soldItems (after demoRuntime demoLedger (demoRun ++ [⟨2, .mintNft 0 0⟩])) 0).encard +
      (unsoldItems (after demoRuntime demoLedger (demoRun ++ [⟨2, .mintNft 0 0⟩] ++
        [⟨1, .transferNft 0 2 3⟩, ⟨1, .deleteCollection 0⟩])) 0).encard ≤ 256 :=
  sold_slots_stay_taken (.of_length_le (by decide)) 0

end

/-! ### Taking all slots -/

section

variable [DecidableEq AccountId] {T : Config AccountId Ledger}

/-- The calls all succeed, one after the other. -/
def AllSucceed (T : Config AccountId Ledger) (σ : State AccountId Ledger)
    (xs : List (Extrinsic AccountId)) : Prop :=
  ∀ o ∈ occurrences xs, succeeds T (run (step T) σ o.past) o.input = true

lemma AllSucceed.concat {xs : List (Extrinsic AccountId)} {x : Extrinsic AccountId}
    (h : AllSucceed T σ xs) (hx : succeeds T (run (step T) σ xs) x = true) :
    AllSucceed T σ (xs ++ [x]) := by
  intro o ho
  rw [occurrences_concat, List.mem_append, List.mem_singleton] at ho
  rcases ho with ho | rfl
  · exact h o ho
  · exact hx

/-- Between `σ` and `τ` somebody has taken `n` slots of a collection at no cost. -/
structure Squatted (σ τ : State AccountId Ledger) (c : CollectionId) (n : ℕ) : Prop where
  ledger : τ.ledger = σ.ledger
  offers : unsoldItems τ c ⊆ unsoldItems σ c
  list : ∃ col col', σ.collections c = some col ∧ τ.collections c = some col' ∧
    col'.nfts.val.length = col.nfts.val.length + n

/-- In a collection with room, an account can create an NFT and transfer it to itself. -/
lemma create_then_transfer (a : AccountId) {col : Collection AccountId}
    (hcol : σ.collections c = some col) (hroom : col.nfts.val.length < 256) :
    ∃ τ υ, CallRule T σ a (.createNft c [] 0) τ ∧
      CallRule T τ a (.transferNft c (σ.itemCounter c) a) υ ∧ Squatted σ υ c 1 := by
  obtain ⟨nfts, hnfts⟩ := BoundedVec.tryPush_isSome_iff.mpr hroom
  have hpush := BoundedVec.tryPush_eq_some_iff.mp hnfts
  have hcreate := CallRule.createNft (T := T) (s := a) c [] 0 col .new nfts hcol rfl hpush
  refine ⟨_, _, hcreate, .transferNft c _ a _ (StorageMap.insert_self _ _ _) rfl, rfl, ?_, ?_⟩
  · -- the item that is new is sold
    rintro i ⟨n, hn, hunsold⟩
    obtain ⟨-, rfl⟩ | ⟨hi, hn⟩ := StorageMap.insert_eq_some_iff.mp hn
    · cases hunsold
    · exact ⟨n, (StorageMap.insert_eq_some_iff.mp hn).resolve_left (fun h => hi h.1) |>.2, hunsold⟩
  · exact ⟨col, _, hcol, StorageMap.insert_self _ _ _, by simp [hpush]⟩

omit [DecidableEq AccountId] in
lemma Squatted.trans {υ : State AccountId Ledger} {m n : ℕ} (h : Squatted σ τ c m)
    (h' : Squatted τ υ c n) : Squatted σ υ c (m + n) := by
  obtain ⟨col, col', hcol, hcol', hlen⟩ := h.list
  obtain ⟨col'', col₃, hcol'', hcol₃, hlen'⟩ := h'.list
  obtain rfl := Option.some.inj (hcol'.symm.trans hcol'')
  refine ⟨h'.ledger.trans h.ledger, h'.offers.trans h.offers, col, col₃, hcol, hcol₃, ?_⟩
  rw [hlen', hlen, Nat.add_assoc]

/-- Any account can take any number of free slots, by two calls for each. -/
lemma exists_squatting (a : AccountId) {col : Collection AccountId}
    (hcol : σ.collections c = some col) (n : ℕ) (hroom : col.nfts.val.length + n ≤ 256) :
    ∃ xs : List (Extrinsic AccountId), (∀ x ∈ xs, x.signer = a) ∧ xs.length = 2 * n ∧
      AllSucceed T σ xs ∧ Squatted σ (run (step T) σ xs) c n := by
  induction n with
  | zero =>
    refine ⟨[], by simp, rfl, fun o ho => ?_, rfl, subset_rfl, col, col, hcol, hcol, rfl⟩
    cases ho
  | succ n ih =>
    obtain ⟨xs, hsigner, hlen, hok, hsquatted⟩ := ih (by omega)
    obtain ⟨col', col'', hcol', hcol'', hlen'⟩ := hsquatted.list
    obtain rfl := Option.some.inj (hcol'.symm.trans hcol)
    obtain ⟨τ, υ, hcreate, htransfer, hround⟩ :=
      create_then_transfer (T := T) a hcol'' (by omega)
    have hτ : run (step T) σ (xs ++ [⟨a, .createNft c [] 0⟩]) = τ := by
      rw [run_concat, hcreate.step_eq]
    refine ⟨xs ++ [⟨a, .createNft c [] 0⟩] ++
      [⟨a, .transferNft c ((run (step T) σ xs).itemCounter c) a⟩], ?_, ?_, ?_, ?_⟩
    · intro x hx
      simp only [List.mem_append, List.mem_singleton] at hx
      rcases hx with (hx | rfl) | rfl
      · exact hsigner x hx
      · rfl
      · rfl
    · simp only [List.length_append, List.length_singleton, hlen]
      omega
    · apply (hok.concat hcreate.succeeds).concat
      rw [hτ]
      exact htransfer.succeeds
    · rw [run_concat, hτ, htransfer.step_eq]
      exact hsquatted.trans hround

end

section

variable [DecidableEq AccountId] {T : Config AccountId Ledger} {l : Ledger}

lemma after_append (xs ys : List (Extrinsic AccountId)) :
    after T l (xs ++ ys) = run (step T) (after T l xs) ys := by
  rw [after, after, run, run, run, List.foldl_append]

/-- In a full collection, the slots in use are all 256. -/
lemma encard_soldItems_add_unsoldItems {xs : List (Extrinsic AccountId)}
    (h : WithinBudget T l xs) {col : Collection AccountId}
    (hcol : (after T l xs).collections c = some col) (hfull : col.nfts.val.length = 256) :
    (soldItems (after T l xs) c).encard + (unsoldItems (after T l xs) c).encard = 256 := by
  rw [← encard_keysUnder_eq, (indexed_after xs h c col hcol).encard_eq, hfull]
  rfl

/-- With all slots taken, there is never more on offer than there was when they were. -/
lemma unsoldItems_encard_le {past later : List (Extrinsic AccountId)}
    (h : WithinBudget T l (past ++ later)) {col : Collection AccountId}
    (hcol : (after T l past).collections c = some col) (hfull : col.nfts.val.length = 256) :
    (unsoldItems (after T l (past ++ later)) c).encard ≤
      (unsoldItems (after T l past) c).encard := by
  have hcount :=
    encard_soldItems_add_unsoldItems (h.of_isPrefix (List.prefix_append _ _)) hcol hfull
  have hle := (sold_slots_stay_taken h c).trans_eq hcount.symm
  refine (ENat.add_le_add_iff_left ?_).mp hle
  rintro htop
  rw [htop, top_add] at hcount
  cases hcount

/-- With all slots sold, no NFT can be created ever after. -/
lemma not_succeeds_createNft_of_sold {past later : List (Extrinsic AccountId)}
    (h : WithinBudget T l (past ++ later))
    (hsold : 256 ≤ (soldItems (after T l past) c).encard) (s : AccountId)
    (metadata : List UInt8) (price : ℕ) :
    succeeds T (after T l (past ++ later)) ⟨s, .createNft c metadata price⟩ = false := by
  rw [Bool.eq_false_iff]
  intro hok
  obtain ⟨col, hcol, -, hroom⟩ := succeeds_createNft_iff.mp hok
  have hkept : 256 ≤ ((after T l (past ++ later)).nfts.keysUnder c).encard := by
    apply hsold.trans
    apply Set.encard_le_encard
    rw [keysUnder_eq_union]
    exact (soldItems_subset h c).trans Set.subset_union_left
  rw [(indexed_after _ h c col hcol).encard_eq] at hkept
  exact absurd (Nat.cast_le.mp hkept) (Nat.not_le.mpr hroom)

/-- Whatever has happened, any account can make at most 512 calls that all succeed and move no
money, after which the collection never has more NFTs on offer than it had before. If it had
none, then nobody can create an NFT in it any more. -/
theorem anyone_can_exhaust (T : Config AccountId Ledger) (l : Ledger)
    (past : List (Extrinsic AccountId)) (c : CollectionId)
    (hstored : (after T l past).collections c ≠ none) (a : AccountId) :
    ∃ xs : List (Extrinsic AccountId), (∀ x ∈ xs, x.signer = a) ∧ xs.length ≤ 512 ∧
      AllSucceed T (after T l past) xs ∧
      (after T l (past ++ xs)).ledger = (after T l past).ledger ∧
      ∀ later, WithinBudget T l (past ++ xs ++ later) →
        (unsoldItems (after T l (past ++ xs ++ later)) c).encard ≤
          (unsoldItems (after T l past) c).encard ∧
        (unsoldItems (after T l past) c = ∅ → ∀ s metadata price,
          succeeds T (after T l (past ++ xs ++ later)) ⟨s, .createNft c metadata price⟩ =
            false) := by
  obtain ⟨col, hcol⟩ := Option.ne_none_iff_exists'.mp hstored
  have hbound := col.nfts.bound
  obtain ⟨xs, hsigner, hlen, hok, hsquatted⟩ :=
    exists_squatting (T := T) a hcol (256 - col.nfts.val.length) (by omega)
  rw [← after_append] at hsquatted
  obtain ⟨col₀, col', hcol₀, hcol', hfull⟩ := hsquatted.list
  obtain rfl := Option.some.inj (hcol₀.symm.trans hcol)
  have hfull : col'.nfts.val.length = 256 := by omega
  refine ⟨xs, hsigner, by omega, hok, hsquatted.ledger, fun later hbudget => ?_⟩
  have hle := unsoldItems_encard_le hbudget hcol' hfull
  have hoffers := Set.encard_le_encard hsquatted.offers
  refine ⟨hle.trans hoffers, fun hnone => not_succeeds_createNft_of_sold hbudget ?_⟩
  -- nothing was on offer, so all slots are sold
  have hcount := encard_soldItems_add_unsoldItems
    (hbudget.of_isPrefix (List.prefix_append _ _)) hcol' hfull
  have hempty : unsoldItems (after T l (past ++ xs)) c = ∅ := by
    rw [← Set.subset_empty_iff, ← hnone]
    exact hsquatted.offers
  rw [hempty, Set.encard_empty, add_zero] at hcount
  exact hcount.ge

/-- An account without funds and without registration can do it. -/
theorem anyone_can_exhaust_demo :
    ∃ xs : List (Extrinsic ℕ), (∀ x ∈ xs, x.signer = 9) ∧ xs.length ≤ 512 ∧
      AllSucceed demoRuntime (after demoRuntime demoLedger demoRun) xs ∧
      (after demoRuntime demoLedger (demoRun ++ xs)).ledger =
        (after demoRuntime demoLedger demoRun).ledger ∧
      ∀ later, WithinBudget demoRuntime demoLedger (demoRun ++ xs ++ later) →
        (unsoldItems (after demoRuntime demoLedger (demoRun ++ xs ++ later)) 0).encard ≤
          (unsoldItems (after demoRuntime demoLedger demoRun) 0).encard ∧
        (unsoldItems (after demoRuntime demoLedger demoRun) 0 = ∅ → ∀ s metadata price,
          succeeds demoRuntime (after demoRuntime demoLedger (demoRun ++ xs ++ later))
            ⟨s, .createNft 0 metadata price⟩ = false) :=
  anyone_can_exhaust demoRuntime demoLedger demoRun 0 (by decide +kernel) 9

end

end FarcasterNft
