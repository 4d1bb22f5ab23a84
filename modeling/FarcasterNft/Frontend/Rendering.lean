import FarcasterNft.Frontend.Views

/-!
# Metadata that the views can render

The renderers read `metadata.title` and `metadata.image` without a check, which throws if the
metadata is `undefined` or `null`. Two of the three loaders leave it `undefined` where the text
is not JSON, and all three pass a `null` on. So anyone who stores such a text breaks the views,
and only texts that are JSON other than `null` are harmless wherever they are listed.
-/

namespace FarcasterNft

open Frame Js

variable {AccountId Ledger : Type}

/-- Whether properties of a value can be read: it is neither `undefined` nor `null`. -/
def Renderable : Option Json → Bool
  | none | some .null => false
  | _ => true

variable {fmt : AddressFormat AccountId} {σ : State AccountId Ledger}

/-- What the dashboard shows in place of other texts can be rendered. -/
lemma renderable_unknownNFT : Renderable (some UserDashboard.unknownNFT) = true := rfl

/-! ### The entries of the three views -/

lemma NFTMarketplace.exists_nft_of_mem (L : Listing σ.collections) {e : ShownNFT}
    (h : e ∈ (perform (NFTMarketplace.loadNFTs fmt σ L.entries) []).2) :
    ∃ c i n, σ.nfts (c, i) = some n ∧ σ.collections c ≠ none ∧
      e.metadata = metadataValue n.metadata := by
  rw [NFTMarketplace.perform_loadNFTs] at h
  obtain ⟨⟨c, col⟩, hcol, i, -, he⟩ := mem_found.mp h
  obtain ⟨n, hat, rfl⟩ := Option.map_eq_some_iff.mp he
  obtain ⟨c', i', hc, -, hn⟩ := nftAt_eq_some_iff.mp hat
  obtain rfl := UInt32.toNat_inj.mp hc
  have hstored := (L.mem_iff c col).mp hcol
  exact ⟨c, i', n, hn, by simp [hstored], parse_decodeMetadata n.metadata⟩

lemma UserDashboard.exists_nft_of_mem {account : Option JsString} {e : ShownNFT}
    (h : e ∈ (perform (UserDashboard.loadUserNFTs fmt σ account) []).2) :
    ∃ c i n, σ.nfts (c, i) = some n ∧ c < σ.nextCollectionId ∧ i < σ.itemCounter c ∧
      e.metadata = some ((metadataValue n.metadata).getD UserDashboard.unknownNFT) := by
  match account with
  | none | some [] => cases h
  | some (u :: us) =>
    rw [UserDashboard.loadUserNFTs, perform_loadState, UserDashboard.allUserNFTs_eq] at h
    obtain ⟨c, hc, i, hi, he⟩ := mem_found.mp h
    obtain ⟨n, hmine, rfl⟩ := Option.map_eq_some_iff.mp he
    obtain ⟨hat, -⟩ := Option.filter_eq_some_iff.mp hmine
    obtain ⟨c', i', rfl, rfl, hn⟩ := nftAt_eq_some_iff.mp hat
    rw [UInt32.ofNat_toNat] at hi
    refine ⟨c', i', n, hn, UInt32.lt_iff_toNat_lt.mpr (List.mem_range.mp hc),
      UInt32.lt_iff_toNat_lt.mpr hi, ?_⟩
    rw [← parse_decodeMetadata]
    rfl

lemma CollectionManager.perform_loadNFTs (c : CollectionId) (prev : List ManagedNFT) :
    perform (CollectionManager.loadNFTs fmt σ c.toNat) prev =
      (.ok (), if itemBound (σ.itemCounter c) < 2 ^ 32 then
          (List.range (itemBound (σ.itemCounter c))).filterMap fun i =>
            (σ.nftAt c.toNat i).map (CollectionManager.entry fmt i)
        else prev) := by
  rw [CollectionManager.loadNFTs, perform_loadState, CollectionManager.collectionNFTs_eq]
  split_ifs <;> rfl

lemma CollectionManager.exists_nft_of_mem {collectionId : ℕ} {e : ManagedNFT}
    (h : e ∈ (perform (CollectionManager.loadNFTs fmt σ collectionId) []).2) :
    ∃ c i n, σ.nfts (c, i) = some n ∧ itemBound (σ.itemCounter c) < 2 ^ 32 ∧
      e.metadata = metadataValue n.metadata := by
  by_cases hc : collectionId < 2 ^ 32
  · have hid : (UInt32.ofNat collectionId).toNat = collectionId := UInt32.toNat_ofNat_of_lt' hc
    rw [← hid, CollectionManager.perform_loadNFTs] at h
    split_ifs at h with hbound
    · obtain ⟨i, -, he⟩ := List.mem_filterMap.mp h
      obtain ⟨n, hat, rfl⟩ := Option.map_eq_some_iff.mp he
      obtain ⟨c', i', hc', -, hn⟩ := nftAt_eq_some_iff.mp hat
      obtain rfl := UInt32.toNat_inj.mp hc'
      exact ⟨_, i', n, hn, hbound, parse_decodeMetadata n.metadata⟩
    · cases h
  · -- the query for the counter throws, and nothing is loaded
    have hthrow : CollectionManager.collectionNFTs fmt σ.queries collectionId = .error .other := by
      rw [CollectionManager.collectionNFTs, queries_nextItemId, Query.nextItemId,
        u32_of_le (Nat.le_of_not_lt hc)]
      rfl
    rw [CollectionManager.loadNFTs, perform_loadState, hthrow] at h
    cases h

/-- The manager finds an NFT whose id is at most the counter, if it can load the collection. -/
lemma CollectionManager.mem_loadNFTs (prev : List ManagedNFT) {c : CollectionId} {i : ItemId}
    {n : NFT AccountId} (hn : σ.nfts (c, i) = some n)
    (hbound : itemBound (σ.itemCounter c) < 2 ^ 32) (hi : i ≤ σ.itemCounter c) :
    CollectionManager.entry fmt i.toNat n ∈
      (perform (CollectionManager.loadNFTs fmt σ c.toNat) prev).2 := by
  rw [CollectionManager.perform_loadNFTs, if_pos hbound]
  refine List.mem_filterMap.mpr ⟨i.toNat, ?_, ?_⟩
  · have hle := UInt32.le_iff_toNat_le.mp hi
    rw [List.mem_range, itemBound_eq]
    omega
  · rw [nftAt_toNat hn]
    rfl

/-! ### Harmless metadata -/

/-- Whatever is loaded, from whichever component, can be rendered. -/
structure ViewsRenderable (fmt : AddressFormat AccountId) (σ : State AccountId Ledger) : Prop where
  marketplace : ∀ L : Listing σ.collections,
    ∀ e ∈ (perform (NFTMarketplace.loadNFTs fmt σ L.entries) []).2, Renderable e.metadata = true
  manager : ∀ collectionId : ℕ,
    ∀ e ∈ (perform (CollectionManager.loadNFTs fmt σ collectionId) []).2,
      Renderable e.metadata = true
  dashboard : ∀ account : Option JsString,
    ∀ e ∈ (perform (UserDashboard.loadUserNFTs fmt σ account) []).2, Renderable e.metadata = true

lemma ne_null_of_renderable {v : Option Json} (h : Renderable v = true) : v ≠ some .null := by
  rintro rfl
  cases h

/-- The dashboard breaks on `null` only. -/
lemma renderable_getD {v : Option Json} (h : v ≠ some .null) :
    Renderable (some (v.getD UserDashboard.unknownNFT)) = true := by
  cases v with
  | none => exact renderable_unknownNFT
  | some v =>
    cases v with
    | null => exact absurd rfl h
    | _ => rfl

/-- Whether the marketplace or the manager lists the NFTs of a collection: the marketplace those
of every stored one, the manager those of any with an item bound that an array can have. -/
def Listed (σ : State AccountId Ledger) (c : CollectionId) : Prop :=
  σ.collections c ≠ none ∨ itemBound (σ.itemCounter c) < 2 ^ 32

/-- The metadata of a stored NFT is a JSON text with a value other than `null`, if the
marketplace or the manager lists it. If only the dashboard does, it may be any text but `null`. -/
structure Harmless (σ : State AccountId Ledger) (c : CollectionId) (i : ItemId)
    (metadata : BoundedVec UInt8 256) : Prop where
  renderable : Listed σ c → Renderable (metadataValue metadata) = true
  ne_null : c < σ.nextCollectionId → i < σ.itemCounter c → metadataValue metadata ≠ some .null

/-- In every state of every run, the entries of all views can be rendered exactly if the
metadata of every stored NFT is harmless. -/
theorem views_renderable_iff [DecidableEq AccountId] (fmt : AddressFormat AccountId)
    (T : Config AccountId Ledger) (l : Ledger) (xs : List (Extrinsic AccountId)) :
    ViewsRenderable fmt (after T l xs) ↔
      ∀ c i n, (after T l xs).nfts (c, i) = some n → Harmless (after T l xs) c i n.metadata := by
  constructor
  · intro h c i n hn
    have hne : (after T l xs).nfts (c, i) ≠ none := by simp [hn]
    have hle := item_le_itemCounter xs hne
    constructor
    · rintro (hstored | hbound)
      · obtain ⟨L⟩ := exists_listing (T := T) (l := l) xs
        rw [← parse_decodeMetadata]
        exact h.marketplace L _ (NFTMarketplace.mem_loadNFTs L [] hn hstored hle)
      · rw [← parse_decodeMetadata]
        exact h.manager c.toNat _ (CollectionManager.mem_loadNFTs [] hn hbound hle)
    · intro hc hi hnull
      have hshown := h.dashboard _ _ (UserDashboard.mem_loadUserNFTs [] hn hc hi)
      rw [← parse_decodeMetadata] at hnull
      have hentry : (UserDashboard.entry fmt c.toNat i.toNat n).metadata = some .null := by
        show some ((Json.parse (decodeMetadata (toHex n.metadata.val))).getD _) = _
        rw [hnull]
        rfl
      exact ne_null_of_renderable hshown hentry
  · intro h
    constructor
    · intro L e he
      obtain ⟨c, i, n, hn, hstored, hmetadata⟩ := NFTMarketplace.exists_nft_of_mem L he
      exact hmetadata ▸ (h c i n hn).renderable (Or.inl hstored)
    · intro collectionId e he
      obtain ⟨c, i, n, hn, hbound, hmetadata⟩ := CollectionManager.exists_nft_of_mem he
      exact hmetadata ▸ (h c i n hn).renderable (Or.inr hbound)
    · intro account e he
      obtain ⟨c, i, n, hn, hc, hi, hmetadata⟩ := UserDashboard.exists_nft_of_mem he
      exact hmetadata ▸ renderable_getD ((h c i n hn).ne_null hc hi)

/-- An NFT with empty metadata is shown without metadata. -/
theorem views_renderable_fails :
    ¬ ViewsRenderable demoFormat
      (after demoRuntime demoLedger
        [⟨1, .registerArtist⟩, ⟨1, .createCollection []⟩, ⟨2, .createNft 0 [] 5⟩]) := by
  intro h
  have hmanager := h.manager 0
  revert hmanager
  decide +kernel

end FarcasterNft
