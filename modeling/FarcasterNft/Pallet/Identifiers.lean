import FarcasterNft.Pallet.Integrity

/-!
# Ids are fresh as long as the counters last

Both counters of the pallet saturate, and both inserts are unconditional. Up to `2 ^ 32`
successful calls every assigned id is new, so nothing that is stored is ever overwritten.
The next call gets the last id once more. Reaching that point needs no more than one account:
an artist who creates collections, or who creates NFTs and burns them again.
-/

namespace FarcasterNft

open Frame

variable {AccountId Ledger : Type} [DecidableEq AccountId]
variable {T : Config AccountId Ledger} {l : Ledger}

/-! ### Item ids -/

/-- The run assigns no item id twice, and no `createNft` of it touches a stored NFT. -/
def ItemIdsFresh (T : Config AccountId Ledger) (l : Ledger) (xs : List (Extrinsic AccountId)) :
    Prop :=
  (∀ c, (assignedItems T l c xs).Nodup) ∧
    ∀ o ∈ occurrences xs, returnedOk T l o = true →
      ∀ c metadata price, o.input.call = .createNft c metadata price →
        ∀ k n, (after T l o.past).nfts k = some n →
          (after T l (o.past ++ [o.input])).nfts k = some n

/-- Among the first `2 ^ 32` NFTs of a collection id, a new one replaces no stored NFT. -/
lemma createNft_keeps_nfts {past : List (Extrinsic AccountId)} {s : AccountId}
    {c : CollectionId} {metadata : List UInt8} {price : ℕ}
    (hok : succeeds T (after T l past) ⟨s, .createNft c metadata price⟩ = true)
    (hlen : (assignedItems T l c (past ++ [⟨s, .createNft c metadata price⟩])).length ≤ 2 ^ 32)
    {k : CollectionId × ItemId} {n : NFT AccountId} (hn : (after T l past).nfts k = some n) :
    (after T l (past ++ [⟨s, .createNft c metadata price⟩])).nfts k = some n := by
  have hk : k ≠ (c, (after T l past).itemCounter c) := by
    rintro rfl
    have hmem := mem_assignedItems past (Option.ne_none_iff_exists'.mpr ⟨n, hn⟩)
    exact UInt32.lt_irrefl _ (lt_itemCounter hok hlen hmem)
  rw [after_concat]
  have hrule := callRule_of_succeeds hok
  generalize step T _ _ = τ at hrule
  cases hrule with
  | createNft => simpa [StorageMap.insert_of_ne, hk] using hn

/-- Item ids are fresh exactly as long as at most `2 ^ 32` NFTs are created under each
collection id. -/
theorem item_ids_fresh_iff (T : Config AccountId Ledger) (l : Ledger)
    (xs : List (Extrinsic AccountId)) :
    ItemIdsFresh T l xs ↔ ∀ c, (assignedItems T l c xs).length ≤ 2 ^ 32 := by
  constructor
  · intro h c
    exact (allocated_items c xs).nodup_iff.mp (h.1 c)
  · intro h
    refine ⟨fun c => (allocated_items c xs).nodup_iff.mpr (h c), ?_⟩
    rintro ⟨past, s, call⟩ ho hok c metadata price rfl k n hn
    refine createNft_keeps_nfts hok ?_ hn
    exact (assignedItems_isPrefix c (past_isPrefix ho)).length_le.trans (h c)

/-- In an empty collection an NFT can be created and burned, which empties it again. -/
lemma create_then_burn {s : AccountId} {c : CollectionId} {σ : State AccountId Ledger}
    (hcol : σ.collections c = some ⟨s, .new, .new⟩) :
    ∃ τ υ, CallRule T σ s (.createNft c [] 0) τ ∧
      CallRule T τ s (.burnNft c (σ.itemCounter c)) υ ∧
      υ.collections c = some ⟨s, .new, .new⟩ := by
  have hcreate := CallRule.createNft (T := T) (s := s) c [] 0 _ .new
    ⟨[σ.itemCounter c], by simp⟩ hcol rfl rfl
  refine ⟨_, _, hcreate, .burnNft c _ _ _ (StorageMap.insert_self _ _ _) rfl rfl
    (StorageMap.insert_self _ _ _), ?_⟩
  have hretain : BoundedVec.retain (⟨[σ.itemCounter c], by simp⟩ : BoundedVec ItemId 256)
      (· != σ.itemCounter c) = .new := BoundedVec.ext (by simp)
  simp [hretain]

/-- An artist creates an NFT and burns it, `n` times over. -/
def churn : ℕ → List (Extrinsic ℕ)
  | 0 => [⟨1, .registerArtist⟩, ⟨1, .createCollection []⟩]
  | n + 1 =>
    churn n ++ [⟨1, .createNft 0 [] 0⟩] ++ [⟨1, .burnNft 0 (UInt32.ofNat (min n (2 ^ 32 - 1)))⟩]

/-- Each round leaves the collection empty and assigns one more item id. -/
lemma churn_spec (n : ℕ) :
    (after demoRuntime demoLedger (churn n)).collections 0 = some ⟨1, .new, .new⟩ ∧
      (assignedItems demoRuntime demoLedger 0 (churn n)).length = n := by
  induction n with
  | zero => exact ⟨by decide +kernel, by decide +kernel⟩
  | succ n ih =>
    obtain ⟨hcol, hlen⟩ := ih
    have hcounter : UInt32.ofNat (min n (2 ^ 32 - 1)) =
        (after demoRuntime demoLedger (churn n)).itemCounter 0 := by
      rw [← UInt32.toNat_inj, (allocated_items 0 (churn n)).next_eq, hlen,
        UInt32.toNat_ofNat_of_lt' (by simp [UInt32.size])]
    obtain ⟨τ, υ, hcreate, hburn, hempty⟩ := create_then_burn (T := demoRuntime) hcol
    rw [← hcounter] at hburn
    constructor
    · rw [churn, after_concat, after_concat, hcreate.step_eq, hburn.step_eq]
      exact hempty
    · rw [churn, assignedItems_concat, assignedItems_concat]
      simp [assignedItem, returnedOk, hcreate.succeeds, hlen]

/-- Nothing but those item ids and one collection id is assigned. -/
lemma churn_withinBudget {n : ℕ} (hn : n ≤ 2 ^ 32) :
    WithinBudget demoRuntime demoLedger (churn n) where
  collections := by
    have hone : (assignedCollections demoRuntime demoLedger (churn n)).length = 1 := by
      clear hn
      induction n with
      | zero => decide +kernel
      | succ n ih =>
        rw [churn, assignedCollections_concat, assignedCollections_concat]
        simpa [assignedCollection] using ih
    simp [hone]
  items c := by
    by_cases hc : c = 0
    · rw [hc, (churn_spec n).2]
      exact hn
    · have hnone : assignedItems demoRuntime demoLedger c (churn n) = [] := by
        clear hn
        induction n with
        | zero => rfl
        | succ n ih =>
          rw [churn, assignedItems_concat, assignedItems_concat, ih]
          simp [assignedItem, Ne.symm hc]
      simp [hnone]

/-- After `2 ^ 32` rounds the counter stands still, and the next NFT reuses the last id. -/
theorem item_ids_fresh_fails : ¬ ItemIdsFresh demoRuntime demoLedger (churn (2 ^ 32 + 1)) := by
  intro h
  have hle := (allocated_items 0 _).nodup_iff.mp (h.1 0)
  rw [(churn_spec _).2] at hle
  omega

/-! ### Collection ids -/

/-- The run assigns no collection id twice, and no `createCollection` of it touches a stored
collection or finds NFTs under its id. -/
def CollectionIdsFresh (T : Config AccountId Ledger) (l : Ledger)
    (xs : List (Extrinsic AccountId)) : Prop :=
  (assignedCollections T l xs).Nodup ∧
    ∀ o ∈ occurrences xs, returnedOk T l o = true →
      ∀ metadata, o.input.call = .createCollection metadata →
        (∀ c col, (after T l o.past).collections c = some col →
          (after T l (o.past ++ [o.input])).collections c = some col) ∧
        HasNoNfts (after T l (o.past ++ [o.input])) (after T l o.past).nextCollectionId

/-- Among the first `2 ^ 32` collections, a new one replaces no stored collection and starts
without NFTs. -/
lemma createCollection_spec {past : List (Extrinsic AccountId)} {s : AccountId}
    {metadata : List UInt8}
    (hok : succeeds T (after T l past) ⟨s, .createCollection metadata⟩ = true)
    (hlen : (assignedCollections T l (past ++ [⟨s, .createCollection metadata⟩])).length
      ≤ 2 ^ 32) :
    (∀ c col, (after T l past).collections c = some col →
      (after T l (past ++ [⟨s, .createCollection metadata⟩])).collections c = some col) ∧
    HasNoNfts (after T l (past ++ [⟨s, .createCollection metadata⟩]))
      (after T l past).nextCollectionId := by
  have hfresh := nextCollectionId_notMem hok hlen
  rw [after_concat]
  have hrule := callRule_of_succeeds hok
  generalize step T _ _ = τ at hrule
  cases hrule with
  | createCollection =>
    constructor
    · intro c col hcol
      have hc : c ≠ (after T l past).nextCollectionId := by
        rintro rfl
        exact hfresh (mem_assignedCollections past (Option.ne_none_iff_exists'.mpr ⟨col, hcol⟩))
      simpa [StorageMap.insert_of_ne, hc] using hcol
    · intro i
      by_contra hne
      exact (keysUnder_eq_empty_of_notMem hfresh).subset hne

/-- Collection ids are fresh exactly as long as at most `2 ^ 32` collections are created. -/
theorem collection_ids_fresh_iff (T : Config AccountId Ledger) (l : Ledger)
    (xs : List (Extrinsic AccountId)) :
    CollectionIdsFresh T l xs ↔ (assignedCollections T l xs).length ≤ 2 ^ 32 := by
  constructor
  · intro h
    exact (allocated_collections xs).nodup_iff.mp h.1
  · intro h
    refine ⟨(allocated_collections xs).nodup_iff.mpr h, ?_⟩
    rintro ⟨past, s, call⟩ ho hok metadata rfl
    refine createCollection_spec hok ?_
    exact (assignedCollections_isPrefix (past_isPrefix ho)).length_le.trans h

/-- An artist creates `n` collections. -/
def createMany : ℕ → List (Extrinsic ℕ)
  | 0 => [⟨1, .registerArtist⟩]
  | n + 1 => createMany n ++ [⟨1, .createCollection []⟩]

lemma createMany_spec (n : ℕ) :
    (after demoRuntime demoLedger (createMany n)).artists 1 = some true ∧
      (assignedCollections demoRuntime demoLedger (createMany n)).length = n := by
  induction n with
  | zero => exact ⟨by decide +kernel, by decide +kernel⟩
  | succ n ih =>
    obtain ⟨hartist, hlen⟩ := ih
    have hcreate := CallRule.createCollection (T := demoRuntime) [] .new rfl
      (s := 1) (by rw [hartist]; rfl)
    constructor
    · rw [createMany, after_concat, hcreate.step_eq]
      exact hartist
    · rw [createMany, assignedCollections_concat]
      simp [assignedCollection, returnedOk, hcreate.succeeds, hlen]

/-- The collection after the first `2 ^ 32` takes the place of the one before it. -/
theorem collection_ids_fresh_fails :
    ¬ CollectionIdsFresh demoRuntime demoLedger (createMany (2 ^ 32 + 1)) := by
  intro h
  have hle := (allocated_collections _).nodup_iff.mp h.1
  rw [(createMany_spec _).2] at hle
  omega

end FarcasterNft
