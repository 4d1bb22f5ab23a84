import FarcasterNft.Frontend.Api
import FarcasterNft.Js.Loop
import FarcasterNft.Pallet.Integrity

/-!
# Loading NFTs

The three components that load NFTs: `NFTMarketplace` shows those of all collections,
`CollectionManager` those of one collection and `UserDashboard` those of one account. Each
queries the items of a collection one after the other, up to a bound of its own, and keeps the
ones that are stored.

A loader takes the queries it makes as an argument, and runs in the monad of these. Here all
queries of a load are answered from one state of the chain; elsewhere they are noted, or asked
while the chain goes on.
-/

namespace FarcasterNft

open Frame Js

variable {AccountId Ledger : Type}

/-- An NFT in the list of the marketplace or of the dashboard. A missing value of the metadata
is `undefined`. -/
structure ShownNFT where
  id : ℕ
  collectionId : ℕ
  metadata : Option Json
  owner : JsString
  isSold : Bool

/-- Collection and item id of an NFT in the list. -/
def ShownNFT.key (e : ShownNFT) : ℕ × ℕ := (e.collectionId, e.id)

/-- An NFT in the list of the collection manager. -/
structure ManagedNFT where
  id : ℕ
  metadata : Option Json
  owner : JsString
  isSold : Bool

/-- `Number(nextItemId.toString() + 1)`: the `1` is appended to the numeral. -/
def itemBound (nextItemId : ItemId) : ℕ :=
  decimalValue (decimalText nextItemId.toNat ++ js "1")

@[simp] lemma itemBound_eq (n : ItemId) : itemBound n = 10 * n.toNat + 1 :=
  decimalValue_decimalText_one n.toNat

/-! ### The queries of a load -/

/-- The queries that the loaders make, in a monad. -/
structure Queries (AccountId : Type) (m : Type → Type) where
  nextCollectionId : m CollectionId
  nextItemId : ℕ → m ItemId
  nfts : ℕ → ℕ → m (Option (NFT AccountId))

/-- All queries are answered from one state. -/
def State.queries (σ : State AccountId Ledger) : Queries AccountId (Except Thrown) where
  nextCollectionId := Query.nextCollectionId σ
  nextItemId := Query.nextItemId σ
  nfts := Query.nfts σ

@[simp] lemma queries_nextCollectionId (σ : State AccountId Ledger) :
    σ.queries.nextCollectionId = .ok σ.nextCollectionId := rfl

@[simp] lemma queries_nextItemId (σ : State AccountId Ledger) (c : ℕ) :
    σ.queries.nextItemId c = Query.nextItemId σ c := rfl

@[simp] lemma queries_nfts (σ : State AccountId Ledger) (c i : ℕ) :
    σ.queries.nfts c i = Query.nfts σ c i := rfl

section

variable {m : Type → Type} [Monad m] [MonadExcept Thrown m]
variable (fmt : AddressFormat AccountId) (queries : Queries AccountId m)

/-! ### The marketplace -/

namespace NFTMarketplace

/-- The entry for an NFT. Metadata that is not JSON stays `undefined`. -/
def entry (collectionId itemId : ℕ) (nft : NFT AccountId) : ShownNFT where
  id := itemId
  collectionId := collectionId
  metadata := Json.parse (decodeMetadata (nft.toJSON fmt).metadata)
  owner := (nft.toJSON fmt).owner
  isSold := (nft.toJSON fmt).isSold

/-- One iteration of the inner loop: an item that cannot be queried is passed over. -/
def loadItem (collectionId itemId : ℕ) : m (List ShownNFT) :=
  tryCatch
    (do
      match ← queries.nfts collectionId itemId with
      | none => return []
      | some nft => return [entry fmt collectionId itemId nft])
    fun _ => return []

def allNFTs (collections : List (CollectionId × Collection AccountId)) : m (List ShownNFT) :=
  collect
    (fun (key, _) => do
      let collectionId := numberOf key
      let nextItemId ← queries.nextItemId collectionId
      collect (loadItem fmt queries collectionId) (List.range (itemBound nextItemId)))
    collections

end NFTMarketplace

/-! ### The dashboard -/

namespace UserDashboard

/-- What is shown in place of metadata that is not JSON. -/
def unknownNFT : Json :=
  .object
    [(js "title", .string (js "Unknown NFT")),
      (js "description", .string (js "Invalid metadata")), (js "image", .string (js ""))]

def entry (collectionId itemId : ℕ) (nft : NFT AccountId) : ShownNFT where
  id := itemId
  collectionId := collectionId
  metadata := some ((Json.parse (decodeMetadata (nft.toJSON fmt).metadata)).getD unknownNFT)
  owner := (nft.toJSON fmt).owner
  isSold := (nft.toJSON fmt).isSold

/-- One iteration of the inner loop: a query that throws ends the load. -/
def loadItem (address : JsString) (collectionId itemId : ℕ) : m (List ShownNFT) := do
  match ← queries.nfts collectionId itemId with
  | none => return []
  | some nft =>
    if (nft.toJSON fmt).owner = address then
      return [entry fmt collectionId itemId nft]
    else
      return []

def allUserNFTs (address : JsString) : m (List ShownNFT) := do
  let nextCollectionId ← queries.nextCollectionId
  collect
    (fun collectionId => do
      let nextItemId ← queries.nextItemId collectionId
      collect (loadItem fmt queries address collectionId) (List.range (numberOf nextItemId)))
    (List.range (numberOf nextCollectionId))

end UserDashboard

/-! ### The collection manager -/

namespace CollectionManager

def entry (itemId : ℕ) (nft : NFT AccountId) : ManagedNFT where
  id := itemId
  metadata := Json.parse (decodeMetadata (nft.toJSON fmt).metadata)
  owner := (nft.toJSON fmt).owner
  isSold := (nft.toJSON fmt).isSold

/-- The callback for one item, which never rejects. -/
def loadItem (collectionId itemId : ℕ) : m (Option ManagedNFT) :=
  tryCatch
    (do
      match ← queries.nfts collectionId itemId with
      | none => return none
      | some nft => return some (entry fmt itemId nft))
    fun _ => return none

/-- The item queries are all made at once. -/
def collectionNFTs (collectionId : ℕ) : m (List ManagedNFT) := do
  let nextItemId ← queries.nextItemId collectionId
  let nftResults ← arrayFrom (itemBound nextItemId) (loadItem fmt queries collectionId)
  return nftResults.filterMap id

end CollectionManager

end

/-! ### Loading from one state -/

section

variable (fmt : AddressFormat AccountId) (σ : State AccountId Ledger)

/-- Load the NFTs of the listed collections into the state variable `nfts`. -/
def NFTMarketplace.loadNFTs (collections : List (CollectionId × Collection AccountId)) :
    Async (List ShownNFT) Unit :=
  loadState (NFTMarketplace.allNFTs fmt σ.queries collections)

/-- Load the NFTs of the account into the state variable `userNFTs`. -/
def UserDashboard.loadUserNFTs (account : Option JsString) : Async (List ShownNFT) Unit :=
  match account with
  | some (u :: us) => loadState (UserDashboard.allUserNFTs fmt σ.queries (u :: us))
  | _ => pure ()

/-- Load the NFTs of a collection into the state variable `nfts`. -/
def CollectionManager.loadNFTs (collectionId : ℕ) : Async (List ManagedNFT) Unit :=
  loadState (CollectionManager.collectionNFTs fmt σ.queries collectionId)

end

/-! ### What an iteration finds -/

/-- The NFT under two numbers, if both are ids and an NFT is stored under them. -/
def State.nftAt (σ : State AccountId Ledger) (collectionId itemId : ℕ) : Option (NFT AccountId) :=
  if collectionId < 2 ^ 32 ∧ itemId < 2 ^ 32 then
    σ.nfts (UInt32.ofNat collectionId, UInt32.ofNat itemId)
  else none

variable {fmt : AddressFormat AccountId} {σ : State AccountId Ledger}

lemma nftAt_eq_some_iff {c i : ℕ} {n : NFT AccountId} :
    σ.nftAt c i = some n ↔
      ∃ c' i' : UInt32, c = c'.toNat ∧ i = i'.toNat ∧ σ.nfts (c', i') = some n := by
  rw [State.nftAt]
  constructor
  · intro h
    split_ifs at h with hlt
    exact ⟨_, _, (UInt32.toNat_ofNat_of_lt' hlt.1).symm, (UInt32.toNat_ofNat_of_lt' hlt.2).symm, h⟩
  · rintro ⟨c', i', rfl, rfl, hn⟩
    rw [if_pos ⟨c'.toNat_lt, i'.toNat_lt⟩, UInt32.ofNat_toNat, UInt32.ofNat_toNat, hn]

/-- A stored NFT is found under the numbers of its ids. -/
lemma nftAt_toNat {c : CollectionId} {i : ItemId} {n : NFT AccountId}
    (h : σ.nfts (c, i) = some n) : σ.nftAt c.toNat i.toNat = some n :=
  nftAt_eq_some_iff.mpr ⟨c, i, rfl, rfl, h⟩

/-- A query returns the NFT under the two numbers, or throws where there cannot be one. -/
lemma query_nfts (c i : ℕ) :
    Query.nfts σ c i = .ok (σ.nftAt c i) ∨
      Query.nfts σ c i = .error .other ∧ σ.nftAt c i = none := by
  rw [State.nftAt, Query.nfts]
  by_cases hc : c < 2 ^ 32
  · rw [u32_of_lt hc]
    by_cases hi : i < 2 ^ 32
    · rw [u32_of_lt hi, if_pos ⟨hc, hi⟩]
      exact Or.inl rfl
    · rw [u32_of_le (Nat.le_of_not_lt hi), if_neg fun h => hi h.2]
      exact Or.inr ⟨rfl, rfl⟩
  · rw [u32_of_le (Nat.le_of_not_lt hc), if_neg fun h => hc h.1]
    exact Or.inr ⟨rfl, rfl⟩

lemma NFTMarketplace.loadItem_eq (c i : ℕ) :
    NFTMarketplace.loadItem fmt σ.queries c i =
      .ok ((σ.nftAt c i).map (NFTMarketplace.entry fmt c i)).toList := by
  rw [NFTMarketplace.loadItem, queries_nfts]
  obtain hq | ⟨hq, hnone⟩ := query_nfts (σ := σ) c i
  · rw [hq]
    cases σ.nftAt c i <;> rfl
  · rw [hq, hnone]
    rfl

lemma CollectionManager.loadItem_eq (c i : ℕ) :
    CollectionManager.loadItem fmt σ.queries c i =
      .ok ((σ.nftAt c i).map (CollectionManager.entry fmt i)) := by
  rw [CollectionManager.loadItem, queries_nfts]
  obtain hq | ⟨hq, hnone⟩ := query_nfts (σ := σ) c i
  · rw [hq]
    cases σ.nftAt c i <;> rfl
  · rw [hq, hnone]
    rfl

/-- Within the range of ids, the dashboard finds the NFTs of the account. -/
lemma UserDashboard.loadItem_eq (address : JsString) {c i : ℕ} (hc : c < 2 ^ 32) (hi : i < 2 ^ 32) :
    UserDashboard.loadItem fmt σ.queries address c i =
      .ok (((σ.nftAt c i).filter fun n => fmt.print n.owner = address).map
        (UserDashboard.entry fmt c i)).toList := by
  rw [UserDashboard.loadItem, queries_nfts, Query.nfts, u32_of_lt hc, u32_of_lt hi, State.nftAt,
    if_pos ⟨hc, hi⟩]
  cases hn : σ.nfts (UInt32.ofNat c, UInt32.ofNat i) with
  | none =>
    simp only [bind, Except.bind, pure, Except.pure, hn]
    rfl
  | some n =>
    simp only [bind, Except.bind, pure, Except.pure, hn]
    by_cases howner : fmt.print n.owner = address
    · simp [NFT.toJSON, Option.filter, howner]
    · simp [NFT.toJSON, Option.filter, howner]

/-! ### What a load collects -/

section

variable {ι : Type} {cs : List ι} {bound : ι → ℕ} {item : ι → ℕ → Option ShownNFT}

/-- The entries that two nested loops over collections and items find. -/
def found (cs : List ι) (bound : ι → ℕ) (item : ι → ℕ → Option ShownNFT) : List ShownNFT :=
  cs.flatMap fun c => (List.range (bound c)).flatMap fun i => (item c i).toList

lemma mem_found {e : ShownNFT} :
    e ∈ found cs bound item ↔ ∃ c ∈ cs, ∃ i < bound c, item c i = some e := by
  simp [found]

/-- No NFT is found twice. -/
lemma nodup_keys_found (number : ι → ℕ) (hcs : (cs.map number).Nodup)
    (hitem : ∀ c i e, item c i = some e → e.key = (number c, i)) :
    ((found cs bound item).map ShownNFT.key).Nodup := by
  have hkey : ∀ c i e, e ∈ (item c i).toList → e.key = (number c, i) :=
    fun c i e he => hitem c i e (Option.mem_toList.mp he)
  refine nodup_map_flatMap number Prod.fst hcs (fun c _ => ?_) fun c _ e he => ?_
  · refine nodup_map_flatMap id Prod.snd ?_ (fun i _ => ?_) fun i _ e he => ?_
    · rw [List.map_id]
      exact List.nodup_range
    · cases item c i <;> simp
    · rw [hkey c i e he]
      rfl
  · obtain ⟨i, -, he⟩ := List.mem_flatMap.mp he
    rw [hkey c i e he]

end

theorem NFTMarketplace.allNFTs_eq (collections : List (CollectionId × Collection AccountId)) :
    NFTMarketplace.allNFTs fmt σ.queries collections =
      .ok (found collections (fun e => itemBound (σ.itemCounter e.1))
        fun e i => (σ.nftAt e.1.toNat i).map (NFTMarketplace.entry fmt e.1.toNat i)) := by
  apply collect_eq_ok
  intro e _
  simp only [numberOf_eq, queries_nextItemId, Query.nextItemId, u32_toNat]
  exact collect_eq_ok fun i _ => NFTMarketplace.loadItem_eq e.1.toNat i

theorem UserDashboard.allUserNFTs_eq (address : JsString) :
    UserDashboard.allUserNFTs fmt σ.queries address =
      .ok (found (List.range σ.nextCollectionId.toNat)
        (fun c => (σ.itemCounter (UInt32.ofNat c)).toNat)
        fun c i => ((σ.nftAt c i).filter fun n => fmt.print n.owner = address).map
          (UserDashboard.entry fmt c i)) := by
  rw [UserDashboard.allUserNFTs]
  simp only [queries_nextCollectionId, numberOf_eq]
  apply collect_eq_ok
  intro c hc
  have hclt : c < 2 ^ 32 := (List.mem_range.mp hc).trans σ.nextCollectionId.toNat_lt
  simp only [queries_nextItemId, Query.nextItemId, u32_of_lt hclt]
  apply collect_eq_ok
  intro i hi
  exact UserDashboard.loadItem_eq address hclt
    ((List.mem_range.mp hi).trans (σ.itemCounter (UInt32.ofNat c)).toNat_lt)

/-- What the manager loads within the item bound of a collection, unless the bound is no length
of an array. -/
theorem CollectionManager.collectionNFTs_eq (c : CollectionId) :
    CollectionManager.collectionNFTs fmt σ.queries c.toNat =
      if itemBound (σ.itemCounter c) < 2 ^ 32 then
        .ok ((List.range (itemBound (σ.itemCounter c))).filterMap fun i =>
          (σ.nftAt c.toNat i).map (CollectionManager.entry fmt i))
      else .error (.error (js "Invalid array length")) := by
  rw [CollectionManager.collectionNFTs, queries_nextItemId, Query.nextItemId, u32_toNat]
  simp only [bind, Except.bind, pure, Except.pure]
  split_ifs with hbound
  · rw [arrayFrom_eq_ok hbound fun i _ => CollectionManager.loadItem_eq c.toNat i]
    simp [List.filterMap_map]
  · rw [arrayFrom_eq_error hbound]

/-! ### No NFT is hidden, and none is shown twice -/

section

variable [DecidableEq AccountId] {T : Config AccountId Ledger} {l : Ledger}

omit [DecidableEq AccountId] in
/-- The marketplace shows every NFT within the item bounds of the listed collections. -/
lemma NFTMarketplace.perform_loadNFTs (collections : List (CollectionId × Collection AccountId))
    (prev : List ShownNFT) :
    perform (NFTMarketplace.loadNFTs fmt σ collections) prev =
      (.ok (), found collections (fun e => itemBound (σ.itemCounter e.1))
        fun e i => (σ.nftAt e.1.toNat i).map (NFTMarketplace.entry fmt e.1.toNat i)) := by
  rw [NFTMarketplace.loadNFTs, perform_loadState, NFTMarketplace.allNFTs_eq]

omit [DecidableEq AccountId] in
lemma UserDashboard.perform_loadUserNFTs (a : AccountId) (prev : List ShownNFT) :
    perform (UserDashboard.loadUserNFTs fmt σ (some (fmt.print a))) prev =
      (.ok (), found (List.range σ.nextCollectionId.toNat)
        (fun c => (σ.itemCounter (UInt32.ofNat c)).toNat)
        fun c i => ((σ.nftAt c i).filter fun n => fmt.print n.owner = fmt.print a).map
          (UserDashboard.entry fmt c i)) := by
  obtain ⟨u, us, hprint⟩ := List.exists_cons_of_ne_nil (fmt.print_ne_nil a)
  rw [hprint, UserDashboard.loadUserNFTs, perform_loadState, UserDashboard.allUserNFTs_eq]

omit [DecidableEq AccountId] in
/-- The marketplace finds an NFT of a listed collection, if its id is at most the counter. -/
lemma NFTMarketplace.mem_loadNFTs (L : Listing σ.collections) (prev : List ShownNFT)
    {c : CollectionId} {i : ItemId} {n : NFT AccountId} (hn : σ.nfts (c, i) = some n)
    (hstored : σ.collections c ≠ none) (hi : i ≤ σ.itemCounter c) :
    NFTMarketplace.entry fmt c.toNat i.toNat n ∈
      (perform (NFTMarketplace.loadNFTs fmt σ L.entries) prev).2 := by
  rw [NFTMarketplace.perform_loadNFTs, mem_found]
  obtain ⟨col, hcol⟩ := Option.ne_none_iff_exists'.mp hstored
  refine ⟨(c, col), (L.mem_iff c col).mpr hcol, i.toNat, ?_, ?_⟩
  · have hle := UInt32.le_iff_toNat_le.mp hi
    show i.toNat < itemBound (σ.itemCounter c)
    rw [itemBound_eq]
    omega
  · rw [nftAt_toNat hn]
    rfl

omit [DecidableEq AccountId] in
/-- The dashboard of the owner finds an NFT, if its ids are below the counters. -/
lemma UserDashboard.mem_loadUserNFTs (prev : List ShownNFT) {c : CollectionId} {i : ItemId}
    {n : NFT AccountId} (hn : σ.nfts (c, i) = some n) (hc : c < σ.nextCollectionId)
    (hi : i < σ.itemCounter c) :
    UserDashboard.entry fmt c.toNat i.toNat n ∈
      (perform (UserDashboard.loadUserNFTs fmt σ (some (fmt.print n.owner))) prev).2 := by
  rw [UserDashboard.perform_loadUserNFTs, mem_found]
  refine ⟨c.toNat, ?_, i.toNat, ?_, ?_⟩
  · exact List.mem_range.mpr (UInt32.lt_iff_toNat_lt.mp hc)
  · rw [UInt32.ofNat_toNat]
    exact UInt32.lt_iff_toNat_lt.mp hi
  · rw [nftAt_toNat hn]
    simp [Option.filter]

/-- Each entry of a list has a key of its own, and the entries are those of the NFTs that are
stored and satisfy `shows`. -/
def ShowsExactly (σ : State AccountId Ledger) (list : List ShownNFT)
    (entry : ℕ → ℕ → NFT AccountId → ShownNFT)
    (shows : CollectionId → ItemId → NFT AccountId → Prop) : Prop :=
  (list.map ShownNFT.key).Nodup ∧
    ∀ e, e ∈ list ↔ ∃ (c : CollectionId) (i : ItemId) (n : NFT AccountId),
      σ.nfts (c, i) = some n ∧ shows c i n ∧ e = entry c.toNat i.toNat n

/-- The dashboard of an account visits every id below the counters, and so every NFT. -/
lemma UserDashboard.showsExactly {xs : List (Extrinsic AccountId)} (h : BelowLimit T l xs)
    (a : AccountId) (prev : List ShownNFT) :
    ShowsExactly (after T l xs)
      (perform (UserDashboard.loadUserNFTs fmt (after T l xs) (some (fmt.print a))) prev).2
      (UserDashboard.entry fmt) fun _ _ n => n.owner = a := by
  constructor
  · rw [UserDashboard.perform_loadUserNFTs]
    apply nodup_keys_found id
    · rw [List.map_id]
      exact List.nodup_range
    · intro c i e he
      obtain ⟨n, -, rfl⟩ := Option.map_eq_some_iff.mp he
      rfl
  · intro e
    constructor
    · intro he
      rw [UserDashboard.perform_loadUserNFTs, mem_found] at he
      obtain ⟨c, -, i, -, he⟩ := he
      obtain ⟨n, hmine, rfl⟩ := Option.map_eq_some_iff.mp he
      obtain ⟨hat, howner⟩ := Option.filter_eq_some_iff.mp hmine
      obtain ⟨c', i', rfl, rfl, hn⟩ := nftAt_eq_some_iff.mp hat
      exact ⟨c', i', n, hn, fmt.injective (of_decide_eq_true howner), rfl⟩
    · rintro ⟨c, i, n, hn, rfl, rfl⟩
      have hne : (after T l xs).nfts (c, i) ≠ none := by simp [hn]
      exact UserDashboard.mem_loadUserNFTs prev hn (h.collection_lt hne) (h.item_lt hne)

/-- The marketplace visits more ids than there are, and none of a stored NFT escapes it in any
run. -/
lemma NFTMarketplace.showsExactly {xs : List (Extrinsic AccountId)}
    (L : Listing (after T l xs).collections) (prev : List ShownNFT) :
    ShowsExactly (after T l xs)
      (perform (NFTMarketplace.loadNFTs fmt (after T l xs) L.entries) prev).2
      (NFTMarketplace.entry fmt) fun c _ _ => (after T l xs).collections c ≠ none := by
  constructor
  · rw [NFTMarketplace.perform_loadNFTs]
    apply nodup_keys_found fun e => e.1.toNat
    · exact nodup_numbers L
    · intro e i s hs
      obtain ⟨n, -, rfl⟩ := Option.map_eq_some_iff.mp hs
      rfl
  · intro e
    constructor
    · intro he
      rw [NFTMarketplace.perform_loadNFTs, mem_found] at he
      obtain ⟨⟨c, col⟩, hcol, i, -, he⟩ := he
      obtain ⟨n, hat, rfl⟩ := Option.map_eq_some_iff.mp he
      obtain ⟨c', i', hc, rfl, hn⟩ := nftAt_eq_some_iff.mp hat
      obtain rfl := UInt32.toNat_inj.mp hc
      have hstored := (L.mem_iff c col).mp hcol
      exact ⟨c, i', n, hn, by simp [hstored], rfl⟩
    · rintro ⟨c, i, n, hn, hstored, rfl⟩
      have hne : (after T l xs).nfts (c, i) ≠ none := by simp [hn]
      exact NFTMarketplace.mem_loadNFTs L prev hn hstored (item_le_itemCounter xs hne)

/-- As long as no counter has reached its limit, the dashboard of an account shows exactly the
stored NFTs the account owns, and the marketplace exactly the stored NFTs of stored
collections, each of them once. -/
theorem nfts_shown_once {xs : List (Extrinsic AccountId)} (h : BelowLimit T l xs) :
    (∀ a prev, ShowsExactly (after T l xs)
      (perform (UserDashboard.loadUserNFTs fmt (after T l xs) (some (fmt.print a))) prev).2
      (UserDashboard.entry fmt) fun _ _ n => n.owner = a) ∧
    ∀ (L : Listing (after T l xs).collections) prev, ShowsExactly (after T l xs)
      (perform (NFTMarketplace.loadNFTs fmt (after T l xs) L.entries) prev).2
      (NFTMarketplace.entry fmt) fun c _ _ => (after T l xs).collections c ≠ none :=
  ⟨UserDashboard.showsExactly h, NFTMarketplace.showsExactly⟩

end

/-- The dashboard of the artist of the sample run. -/
theorem nfts_shown_once_demo :
    ShowsExactly (after demoRuntime demoLedger demoRun)
      (perform (UserDashboard.loadUserNFTs demoFormat (after demoRuntime demoLedger demoRun)
        (some (demoFormat.print 1))) []).2
      (UserDashboard.entry demoFormat) fun _ _ n => n.owner = 1 :=
  (nfts_shown_once (.of_length_lt (by decide))).1 1 []

end FarcasterNft
