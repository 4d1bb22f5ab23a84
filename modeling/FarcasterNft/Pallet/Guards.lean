import FarcasterNft.Pallet.Integrity

/-!
# When creating and burning an NFT succeed

Both calls fail late, in the mutation of the collection. For `createNft` this is the bounded
push: as long as the counters have ids left, it fails exactly when 256 NFTs of the collection
are stored. For `burnNft` it is the lookup of the collection, which fails if the collection was
deleted: the owner of an unsold NFT of a deleted collection cannot burn it.
-/

namespace FarcasterNft

open Frame

variable {AccountId Ledger : Type} [DecidableEq AccountId]
variable {T : Config AccountId Ledger} {l : Ledger} {σ τ : State AccountId Ledger}

/-! ### The capacity of a collection -/

/-- In every state of a run within the budget, an NFT can be created exactly if the collection
is stored, the metadata fits, and fewer than 256 NFTs of the collection are stored. -/
theorem createNft_succeeds_iff {xs pre : List (Extrinsic AccountId)} (h : WithinBudget T l xs)
    (hpre : pre <+: xs) (s : AccountId) (c : CollectionId) (metadata : List UInt8) (price : ℕ) :
    succeeds T (after T l pre) ⟨s, .createNft c metadata price⟩ = true ↔
      (after T l pre).collections c ≠ none ∧ metadata.length ≤ 256 ∧
        ((after T l pre).nfts.keysUnder c).encard < 256 := by
  have hidx := indexed_after pre (h.of_isPrefix hpre)
  have hcard : ∀ col, (after T l pre).collections c = some col →
      (((after T l pre).nfts.keysUnder c).encard < 256 ↔ col.nfts.val.length < 256) := by
    intro col hcol
    rw [(hidx c col hcol).encard_eq]
    exact Nat.cast_lt (α := ℕ∞) (n := 256)
  rw [succeeds_createNft_iff]
  constructor
  · rintro ⟨col, hcol, hlen, hroom⟩
    exact ⟨by simp [hcol], hlen, (hcard col hcol).mpr hroom⟩
  · rintro ⟨hstored, hlen, hroom⟩
    obtain ⟨col, hcol⟩ := Option.ne_none_iff_exists'.mp hstored
    exact ⟨col, hcol, hlen, (hcard col hcol).mp hroom⟩

theorem createNft_succeeds_iff_demo :
    succeeds demoRuntime (after demoRuntime demoLedger demoRun) ⟨3, .createNft 0 [1, 2] 5⟩ = true ↔
      (after demoRuntime demoLedger demoRun).collections 0 ≠ none ∧
        ([1, 2] : List UInt8).length ≤ 256 ∧
        ((after demoRuntime demoLedger demoRun).nfts.keysUnder 0).encard < 256 :=
  createNft_succeeds_iff (.of_length_le (by decide)) List.prefix_rfl 3 0 [1, 2] 5

/-! ### Burning -/

/-- Between `σ` and `τ` the NFT `i` of the collection `c` has gone, from the storage and from
the list of its collection, and nothing else about NFTs and collections has changed. -/
structure BurnEffect (σ τ : State AccountId Ledger) (c : CollectionId) (i : ItemId) : Prop where
  gone : τ.nfts (c, i) = none
  otherNfts : ∀ k, k ≠ (c, i) → τ.nfts k = σ.nfts k
  otherCollections : ∀ c', c' ≠ c → τ.collections c' = σ.collections c'
  list : ∃ col col', σ.collections c = some col ∧ τ.collections c = some col' ∧
    col'.creator = col.creator ∧ col'.metadata = col.metadata ∧
    i ∉ col'.nfts.val ∧ col'.nfts.val = col.nfts.val.filter (· ≠ i)

/-- Burning `(c, i)` works for the signer `s` exactly if `s` owns the NFT and it is unsold, and
it does nothing but burn. -/
def OwnerCanBurn (T : Config AccountId Ledger) (σ : State AccountId Ledger) (s : AccountId)
    (c : CollectionId) (i : ItemId) : Prop :=
  (succeeds T σ ⟨s, .burnNft c i⟩ = true ↔
    ∃ n, σ.nfts (c, i) = some n ∧ n.owner = s ∧ n.isSold = false) ∧
  (succeeds T σ ⟨s, .burnNft c i⟩ = true → BurnEffect σ (step T σ ⟨s, .burnNft c i⟩) c i)

/-- A burn that succeeds takes the NFT and its place on the list away, and nothing else. -/
lemma burnEffect_of_callRule {s : AccountId} {c : CollectionId} {i : ItemId}
    (h : CallRule T σ s (.burnNft c i) τ) : BurnEffect σ τ c i := by
  cases h with
  | burnNft _ _ n col hnft howner hunsold hcol =>
    refine ⟨StorageMap.remove_self _ _, fun k hk => StorageMap.remove_of_ne _ hk,
      fun c' hc => StorageMap.insert_of_ne _ _ hc, ?_⟩
    refine ⟨col, _, hcol, StorageMap.insert_self _ _ _, rfl, rfl, ?_, ?_⟩
    · simp
    · rw [BoundedVec.val_retain]
      exact List.filter_congr fun j _ => by simp [bne, beq_eq_decide]

/-- The owner of an unsold NFT can burn it exactly if its collection is still stored. -/
lemma ownerCanBurn_iff {s : AccountId} {c : CollectionId} {i : ItemId} :
    OwnerCanBurn T σ s c i ↔
      ∀ n, σ.nfts (c, i) = some n → n.owner = s → n.isSold = false → σ.collections c ≠ none := by
  constructor
  · rintro ⟨hok, -⟩ n hnft howner hunsold
    obtain ⟨-, col, hcol⟩ := succeeds_burnNft_iff.mp (hok.mpr ⟨n, hnft, howner, hunsold⟩)
    simp [hcol]
  · intro hstored
    refine ⟨⟨fun h => (succeeds_burnNft_iff.mp h).1, ?_⟩, fun h => ?_⟩
    · rintro ⟨n, hnft, howner, hunsold⟩
      obtain ⟨col, hcol⟩ := Option.ne_none_iff_exists'.mp (hstored n hnft howner hunsold)
      exact succeeds_burnNft_iff.mpr ⟨⟨n, hnft, howner, hunsold⟩, col, hcol⟩
    · exact burnEffect_of_callRule (callRule_of_succeeds h)

/-- In every state of every run: the owner of an unsold NFT can burn it, and nobody else can,
exactly if its collection has not been deleted in the meantime. -/
theorem owner_can_burn_iff (T : Config AccountId Ledger) (l : Ledger)
    (xs : List (Extrinsic AccountId)) (s : AccountId) (c : CollectionId) (i : ItemId) :
    OwnerCanBurn T (after T l xs) s c i ↔
      ∀ n, (after T l xs).nfts (c, i) = some n → n.owner = s → n.isSold = false →
        (after T l xs).collections c ≠ none :=
  ownerCanBurn_iff

/-- An artist creates an NFT and deletes the collection: burning the NFT is refused. -/
theorem owner_can_burn_fails :
    ¬ OwnerCanBurn demoRuntime
      (after demoRuntime demoLedger
        [⟨1, .registerArtist⟩, ⟨1, .createCollection []⟩, ⟨1, .createNft 0 [] 7⟩,
          ⟨1, .deleteCollection 0⟩]) 1 0 0 := by
  rintro ⟨hok, -⟩
  have hburn := hok.mpr ⟨⟨1, .new, false, 7⟩, by decide +kernel, rfl, rfl⟩
  exact absurd hburn (by decide +kernel)

end FarcasterNft
