import FarcasterNft.Frontend.Views
import FarcasterNft.Js.Asking

/-!
# Loading NFTs while the chain goes on

A load makes hundreds of queries one after the other, and the chain executes calls in between, so
its list need not be the list of any one state. Here the loaders of `Frontend/Views` ask anew for
each query, which is answered from the state the chain has then, or fails. What can be said about
the list: every entry is of an NFT that was stored at some moment of the load, no two entries have
one key, and no NFT is missing that was there all along. A query that fails ends the load of the
dashboard, while the marketplace goes on without the item.
-/

namespace FarcasterNft

open Frame Js

variable {AccountId Ledger : Type}

/-- The chain at the moment at which a query is answered: its state, and the order in which its
collections are listed. -/
structure Snapshot (AccountId Ledger : Type) where
  state : State AccountId Ledger
  listing : Listing state.collections

/-- The answers to the queries of a load, in the order in which these are made. -/
abbrev Answers (AccountId Ledger : Type) := ℕ → Except Thrown (Snapshot AccountId Ledger)

variable (fmt : AddressFormat AccountId) (answers : Answers AccountId Ledger)

/-! ### The loaders -/

/-- Each query is a question of its own. -/
def Answers.queries (answers : Answers AccountId Ledger) : Queries AccountId (Async ℕ) where
  nextCollectionId := ask answers fun q => Query.nextCollectionId q.state
  nextItemId collectionId := ask answers fun q => Query.nextItemId q.state collectionId
  nfts collectionId itemId := ask answers fun q => Query.nfts q.state collectionId itemId

namespace NFTMarketplace

/-- The collections are listed first. -/
def allNFTsAsking : Async ℕ (List ShownNFT) := do
  let collections ← ask answers fun q => pure q.listing.entries
  allNFTs fmt answers.queries collections

def loadNFTsAsking : Async (List ShownNFT) Unit :=
  loadState (perform (allNFTsAsking fmt answers) 0).1

end NFTMarketplace

namespace UserDashboard

def allUserNFTsAsking (address : JsString) : Async ℕ (List ShownNFT) :=
  allUserNFTs fmt answers.queries address

def loadUserNFTsAsking (account : Option JsString) : Async (List ShownNFT) Unit :=
  match account with
  | some (u :: us) => loadState (perform (allUserNFTsAsking fmt answers (u :: us)) 0).1
  | _ => pure ()

end UserDashboard

namespace CollectionManager

/-- In which order the item queries are answered does not matter, as each has an answer of its
own. -/
def collectionNFTsAsking (collectionId : ℕ) : Async ℕ (List ManagedNFT) :=
  collectionNFTs fmt answers.queries collectionId

def loadNFTsAsking (collectionId : ℕ) : Async (List ManagedNFT) Unit :=
  loadState (perform (collectionNFTsAsking fmt answers collectionId) 0).1

end CollectionManager

/-! ### What an iteration finds -/

/-- The NFT that the `k`-th query finds under two numbers; nothing if the query fails. -/
def Answers.nftAt (k collectionId itemId : ℕ) : Option (NFT AccountId) :=
  (answers k).toOption.bind fun q => q.state.nftAt collectionId itemId

variable {fmt answers}

lemma nftAt_eq_some {k c i : ℕ} {n : NFT AccountId} (h : answers.nftAt k c i = some n) :
    ∃ q, answers k = .ok q ∧ q.state.nftAt c i = some n := by
  rw [Answers.nftAt] at h
  cases hq : answers k with
  | error e =>
    rw [hq] at h
    cases h
  | ok q =>
    rw [hq] at h
    exact ⟨q, rfl, h⟩

lemma nftAt_of_answer {k : ℕ} {q : Snapshot AccountId Ledger} (h : answers k = .ok q) (c i : ℕ) :
    answers.nftAt k c i = q.state.nftAt c i := by
  rw [Answers.nftAt, h]
  rfl

/-- What is done with the NFT that an item query returns. -/
lemma perform_nfts_bind {α : Type} (c i : ℕ) (f : Option (NFT AccountId) → Async ℕ α) (k : ℕ) :
    perform (answers.queries.nfts c i >>= f) k =
      match answers k >>= fun q => Query.nfts q.state c i with
      | .ok found => perform (f found) (k + 1)
      | .error e => (.error e, k + 1) := by
  rw [Answers.queries, perform_ask_bind]
  cases answers k >>= fun q => Query.nfts q.state c i <;> rfl

/-- A query returns what it finds, or throws where it finds nothing. -/
lemma answer_nfts (answers : Answers AccountId Ledger) (k c i : ℕ) :
    (answers k >>= fun q => Query.nfts q.state c i) = .ok (answers.nftAt k c i) ∨
      ∃ e, (answers k >>= fun q => Query.nfts q.state c i) = .error e ∧
        answers.nftAt k c i = none := by
  rw [Answers.nftAt]
  cases answers k with
  | error e => exact Or.inr ⟨e, rfl, rfl⟩
  | ok q =>
    obtain hq | ⟨hq, hnone⟩ := query_nfts (σ := q.state) c i
    · exact Or.inl hq
    · exact Or.inr ⟨_, hq, hnone⟩

lemma NFTMarketplace.perform_loadItem (c i k : ℕ) :
    perform (NFTMarketplace.loadItem fmt answers.queries c i) k =
      (.ok ((answers.nftAt k c i).map (NFTMarketplace.entry fmt c i)).toList, k + 1) := by
  rw [NFTMarketplace.loadItem, perform_tryCatch, perform_nfts_bind]
  obtain hq | ⟨e, hq, hnone⟩ := answer_nfts answers k c i
  · rw [hq]
    cases answers.nftAt k c i <;> rfl
  · rw [hq, hnone]
    rfl

lemma CollectionManager.perform_loadItem (c i k : ℕ) :
    perform (CollectionManager.loadItem fmt answers.queries c i) k =
      (.ok ((answers.nftAt k c i).map (CollectionManager.entry fmt i)), k + 1) := by
  rw [CollectionManager.loadItem, perform_tryCatch, perform_nfts_bind]
  obtain hq | ⟨e, hq, hnone⟩ := answer_nfts answers k c i
  · rw [hq]
    cases answers.nftAt k c i <;> rfl
  · rw [hq, hnone]
    rfl

/-- A query of the dashboard takes one question, however it ends. -/
lemma UserDashboard.perform_loadItem_snd (fmt : AddressFormat AccountId)
    (answers : Answers AccountId Ledger) (address : JsString) (c i k : ℕ) :
    (perform (UserDashboard.loadItem fmt answers.queries address c i) k).2 = k + 1 := by
  rw [UserDashboard.loadItem, perform_nfts_bind]
  cases answers k >>= fun q => Query.nfts q.state c i with
  | error e => rfl
  | ok found =>
    cases found with
    | none => rfl
    | some nft =>
      show (perform (if (nft.toJSON fmt).owner = address then _ else _) (k + 1)).2 = k + 1
      split_ifs <;> rfl

/-- If it returns, then it was answered, and returns the NFT if the account owns it. -/
lemma UserDashboard.perform_loadItem_fst {address : JsString} {c i k : ℕ}
    {es : List ShownNFT}
    (h : (perform (UserDashboard.loadItem fmt answers.queries address c i) k).1 = .ok es) :
    (∃ q, answers k = .ok q) ∧
      es = (((answers.nftAt k c i).filter fun n => fmt.print n.owner = address).map
        (UserDashboard.entry fmt c i)).toList := by
  rw [UserDashboard.loadItem, perform_nfts_bind] at h
  obtain hq | ⟨e, hq, hnone⟩ := answer_nfts answers k c i
  · rw [hq] at h
    refine ⟨?_, ?_⟩
    · cases hk : answers k with
      | error e =>
        rw [hk] at hq
        cases hq
      | ok q => exact ⟨q, rfl⟩
    · cases hn : answers.nftAt k c i with
      | none =>
        rw [hn] at h
        exact (Except.ok.inj h).symm
      | some n =>
        rw [hn] at h
        have hes : (perform (if (n.toJSON fmt).owner = address then
            pure [UserDashboard.entry fmt c i n] else pure []) (k + 1)).1 = .ok es := h
        by_cases howner : fmt.print n.owner = address
        · rw [if_pos (show (n.toJSON fmt).owner = address from howner)] at hes
          simpa [Option.filter, howner, eq_comm] using hes
        · rw [if_neg (show ¬ (n.toJSON fmt).owner = address from howner)] at hes
          simpa [Option.filter, howner, eq_comm] using hes
  · rw [hq] at h
    cases h

/-! ### What a load returns -/

/-- The item counter that the `k`-th query finds; zero if the query fails. -/
def Answers.itemCounter (answers : Answers AccountId Ledger) (k : ℕ) (c : CollectionId) : ItemId :=
  match answers k with
  | .ok q => q.state.itemCounter c
  | .error _ => 0

lemma itemCounter_of_answer {k : ℕ} {q : Snapshot AccountId Ledger} (h : answers k = .ok q)
    (c : CollectionId) : answers.itemCounter k c = q.state.itemCounter c := by
  rw [Answers.itemCounter, h]

/-- A query for the collection counter, and what is done with the counter. -/
lemma perform_nextCollectionId_bind {α : Type} (f : CollectionId → Async ℕ α) (k : ℕ) :
    perform (answers.queries.nextCollectionId >>= f) k = match answers k with
      | .ok q => perform (f q.state.nextCollectionId) (k + 1)
      | .error e => (.error e, k + 1) := by
  rw [Answers.queries, perform_ask_bind]
  cases answers k <;> rfl

/-- A query for the item counter of a collection, and what is done with the counter. -/
lemma perform_nextItemId_bind {α : Type} (c : CollectionId) (f : ItemId → Async ℕ α) (k : ℕ) :
    perform (answers.queries.nextItemId c.toNat >>= f) k = match answers k with
      | .ok _ => perform (f (answers.itemCounter k c)) (k + 1)
      | .error e => (.error e, k + 1) := by
  rw [Answers.queries, perform_ask_bind, Answers.itemCounter]
  cases answers k with
  | error e => rfl
  | ok q =>
    have hcounter : (Except.ok q >>= fun q => Query.nextItemId q.state c.toNat) =
        .ok (q.state.itemCounter c) := by
      show Query.nextItemId q.state c.toNat = _
      rw [Query.nextItemId, u32_toNat]
      rfl
    rw [hcounter]

namespace NFTMarketplace

/-- The part of a load that is about one collection. -/
lemma perform_collection_fst (c : CollectionId) (k : ℕ) :
    (perform (do
        let nextItemId ← answers.queries.nextItemId c.toNat
        collect (loadItem fmt answers.queries c.toNat)
          (List.range (itemBound nextItemId))) k).1 =
      match answers k with
      | .ok _ => .ok ((List.range (itemBound (answers.itemCounter k c))).flatMap fun i =>
          ((answers.nftAt (k + 1 + i) c.toNat i).map (entry fmt c.toNat i)).toList)
      | .error e => .error e := by
  rw [perform_nextItemId_bind]
  cases answers k with
  | error e => rfl
  | ok q =>
    have hsnd : ∀ i k, (perform (loadItem fmt answers.queries c.toNat i) k).2 = k + 1 := by
      intro i k
      rw [perform_loadItem]
    obtain ⟨es, hes⟩ := (exists_perform_collect_range_iff hsnd
      (itemBound (answers.itemCounter k c)) (k + 1)).mpr fun i _ =>
        ⟨_, by rw [perform_loadItem]⟩
    have heq := perform_collect_range
      (g := fun i k => ((answers.nftAt k c.toNat i).map (entry fmt c.toNat i)).toList) hsnd
      (fun i k new hnew => by
        rw [perform_loadItem] at hnew
        exact (Except.ok.inj hnew).symm) hes
    exact hes.trans (congrArg Except.ok heq)

/-- A load that ends normally visits the collections that are listed first, each with a query for
its counter that is answered, and finds what the item queries find. -/
lemma exists_found_of_eq_ok {nfts : List ShownNFT}
    (h : (perform (allNFTsAsking fmt answers) 0).1 = .ok nfts) :
    ∃ q, answers 0 = .ok q ∧ ∃ cs : List ((CollectionId × Collection AccountId) × ℕ),
      cs.map Prod.fst = q.listing.entries ∧ (∀ p ∈ cs, ∃ q', answers p.2 = .ok q') ∧
      nfts = found cs (fun p => itemBound (answers.itemCounter p.2 p.1.1)) fun p i =>
        (answers.nftAt (p.2 + 1 + i) p.1.1.toNat i).map (entry fmt p.1.1.toNat i) := by
  rw [allNFTsAsking, perform_ask_bind] at h
  cases hq : answers 0 with
  | error e =>
    rw [hq] at h
    cases h
  | ok q =>
    rw [hq] at h
    change (perform (collect _ q.listing.entries) 1).1 = .ok nfts at h
    simp only [numberOf_eq] at h
    rw [perform_collect_fst] at h
    generalize hcs : starts _ q.listing.entries 1 = cs at h
    have hfst : cs.map Prod.fst = q.listing.entries := by
      rw [← hcs, map_fst_starts]
    refine ⟨q, rfl, cs, hfst, fun p hp => ?_, ?_⟩
    · obtain ⟨new, hnew⟩ := exists_collect_eq_ok_iff.mp ⟨nfts, h⟩ p hp
      rw [perform_collection_fst] at hnew
      cases hk : answers p.2 with
      | error e =>
        rw [hk] at hnew
        cases hnew
      | ok q' => exact ⟨q', rfl⟩
    · apply eq_flatMap_of_collect_eq_ok h
      intro p _ new hnew
      rw [perform_collection_fst] at hnew
      cases hk : answers p.2 with
      | error e =>
        rw [hk] at hnew
        cases hnew
      | ok q' =>
        rw [hk] at hnew
        exact (Except.ok.inj hnew).symm

/-- If no query fails then the load ends normally. -/
lemma exists_allNFTsAsking_eq_ok (fmt : AddressFormat AccountId) (h : ∀ k, ∃ q, answers k = .ok q) :
    ∃ nfts, (perform (allNFTsAsking fmt answers) 0).1 = .ok nfts := by
  rw [allNFTsAsking, perform_ask_bind]
  obtain ⟨q, hq⟩ := h 0
  rw [hq]
  change ∃ nfts, (perform (collect _ q.listing.entries) 1).1 = .ok nfts
  simp only [numberOf_eq]
  rw [perform_collect_fst, exists_collect_eq_ok_iff]
  intro p _
  obtain ⟨q', hq'⟩ := h p.2
  rw [perform_collection_fst, hq']
  exact ⟨_, rfl⟩

end NFTMarketplace

namespace UserDashboard

/-- The part of a load that is about one collection, if it ends normally: all its queries are
answered. -/
lemma of_perform_collection_fst {address : JsString} {c : CollectionId} {k : ℕ}
    {es : List ShownNFT}
    (h : (perform (do
        let nextItemId ← answers.queries.nextItemId c.toNat
        collect (loadItem fmt answers.queries address c.toNat)
          (List.range (numberOf nextItemId))) k).1 = .ok es) :
    (∃ q, answers k = .ok q) ∧
      (∀ i < (answers.itemCounter k c).toNat, ∃ q, answers (k + 1 + i) = .ok q) ∧
      es = (List.range (answers.itemCounter k c).toNat).flatMap fun i =>
        (((answers.nftAt (k + 1 + i) c.toNat i).filter fun n => fmt.print n.owner = address).map
          (entry fmt c.toNat i)).toList := by
  rw [perform_nextItemId_bind] at h
  cases hk : answers k with
  | error e =>
    rw [hk] at h
    cases h
  | ok q =>
    rw [hk] at h
    simp only [numberOf_eq] at h
    have hsnd := perform_loadItem_snd fmt answers address c.toNat
    refine ⟨⟨q, rfl⟩, fun i hi => ?_, ?_⟩
    · obtain ⟨new, hnew⟩ := (exists_perform_collect_range_iff hsnd _ _).mp ⟨es, h⟩ i hi
      exact (perform_loadItem_fst hnew).1
    · exact perform_collect_range
        (g := fun i k => (((answers.nftAt k c.toNat i).filter fun n =>
          fmt.print n.owner = address).map (entry fmt c.toNat i)).toList)
        hsnd (fun i k new hnew => (perform_loadItem_fst hnew).2) h

/-- A load that ends normally visits the collection ids below the counter, each with queries that
are all answered, and finds what belongs to the account. -/
lemma exists_found_of_eq_ok {address : JsString} {userNFTs : List ShownNFT}
    (h : (perform (allUserNFTsAsking fmt answers address) 0).1 = .ok userNFTs) :
    ∃ q, answers 0 = .ok q ∧ ∃ cs : List (ℕ × ℕ),
      cs.map Prod.fst = List.range q.state.nextCollectionId.toNat ∧
      (∀ p ∈ cs, (∃ q', answers p.2 = .ok q') ∧
        ∀ i < (answers.itemCounter p.2 (UInt32.ofNat p.1)).toNat,
          ∃ q', answers (p.2 + 1 + i) = .ok q') ∧
      userNFTs = found cs (fun p => (answers.itemCounter p.2 (UInt32.ofNat p.1)).toNat) fun p i =>
        ((answers.nftAt (p.2 + 1 + i) p.1 i).filter fun n => fmt.print n.owner = address).map
          (entry fmt p.1 i) := by
  rw [allUserNFTsAsking, allUserNFTs, perform_nextCollectionId_bind] at h
  cases hq : answers 0 with
  | error e =>
    rw [hq] at h
    cases h
  | ok q =>
    rw [hq] at h
    change (perform (collect _ (List.range (numberOf q.state.nextCollectionId))) 1).1 =
      .ok userNFTs at h
    rw [numberOf_eq, perform_collect_fst] at h
    generalize hcs : starts _ (List.range q.state.nextCollectionId.toNat) 1 = cs at h
    have hfst : cs.map Prod.fst = List.range q.state.nextCollectionId.toNat := by
      rw [← hcs, map_fst_starts]
    have hid : ∀ p ∈ cs, (UInt32.ofNat p.1).toNat = p.1 := by
      intro p hp
      have hmem : p.1 ∈ List.range q.state.nextCollectionId.toNat :=
        hfst ▸ List.mem_map_of_mem hp
      exact UInt32.toNat_ofNat_of_lt'
        ((List.mem_range.mp hmem).trans q.state.nextCollectionId.toNat_lt)
    refine ⟨q, rfl, cs, hfst, fun p hp => ?_, ?_⟩
    · obtain ⟨new, hnew⟩ := exists_collect_eq_ok_iff.mp ⟨userNFTs, h⟩ p hp
      rw [← hid p hp] at hnew
      obtain ⟨hcounter, hitems, -⟩ := of_perform_collection_fst hnew
      exact ⟨hcounter, hitems⟩
    · apply eq_flatMap_of_collect_eq_ok h
      intro p hp new hnew
      rw [← hid p hp] at hnew
      have hes := (of_perform_collection_fst hnew).2.2
      rw [hid p hp] at hes
      exact hes

/-- Within the range of ids, a query that is answered returns. -/
lemma exists_loadItem_eq_ok {address : JsString} {c i k : ℕ} (hc : c < 2 ^ 32)
    (hi : i < 2 ^ 32) (h : ∃ q, answers k = .ok q) :
    ∃ es, (perform (loadItem fmt answers.queries address c i) k).1 = .ok es := by
  obtain ⟨q, hq⟩ := h
  have hquery : (answers k >>= fun q => Query.nfts q.state c i) =
      .ok (q.state.nfts (UInt32.ofNat c, UInt32.ofNat i)) := by
    rw [hq]
    show Query.nfts q.state c i = _
    rw [Query.nfts, u32_of_lt hc, u32_of_lt hi]
    rfl
  rw [loadItem, perform_nfts_bind, hquery]
  cases q.state.nfts (UInt32.ofNat c, UInt32.ofNat i) with
  | none => exact ⟨_, rfl⟩
  | some nft =>
    show ∃ es, (perform (if (nft.toJSON fmt).owner = address then _ else _) (k + 1)).1 = .ok es
    split_ifs
    · exact ⟨_, rfl⟩
    · exact ⟨_, rfl⟩

/-- If no query fails then the load ends normally. -/
lemma exists_allUserNFTsAsking_eq_ok (fmt : AddressFormat AccountId) (address : JsString)
    (h : ∀ k, ∃ q, answers k = .ok q) :
    ∃ userNFTs, (perform (allUserNFTsAsking fmt answers address) 0).1 = .ok userNFTs := by
  rw [allUserNFTsAsking, allUserNFTs, perform_nextCollectionId_bind]
  obtain ⟨q, hq⟩ := h 0
  rw [hq]
  change ∃ userNFTs, (perform (collect _
    (List.range (numberOf q.state.nextCollectionId))) 1).1 = .ok userNFTs
  rw [numberOf_eq, perform_collect_fst, exists_collect_eq_ok_iff]
  intro p hp
  have hmem : p.1 ∈ List.range q.state.nextCollectionId.toNat := by
    rw [← map_fst_starts _ (List.range q.state.nextCollectionId.toNat) 1]
    exact List.mem_map_of_mem hp
  have hlt : p.1 < 2 ^ 32 := (List.mem_range.mp hmem).trans q.state.nextCollectionId.toNat_lt
  have hid : (UInt32.ofNat p.1).toNat = p.1 := UInt32.toNat_ofNat_of_lt' hlt
  obtain ⟨q', hq'⟩ := h p.2
  rw [← hid, perform_nextItemId_bind, hq', hid]
  simp only [numberOf_eq]
  apply (exists_perform_collect_range_iff
    (perform_loadItem_snd fmt answers address p.1) _ _).mpr
  intro i hi
  exact exists_loadItem_eq_ok hlt
    (hi.trans (answers.itemCounter p.2 (UInt32.ofNat p.1)).toNat_lt) (h _)

end UserDashboard

/-- What the manager loads: what its item queries find, unless the query for the counter fails or
the bound is no length of an array. -/
lemma CollectionManager.collectionNFTsAsking_fst (c : CollectionId) :
    (perform (CollectionManager.collectionNFTsAsking fmt answers c.toNat) 0).1 =
      match answers 0 with
      | .ok _ =>
        if itemBound (answers.itemCounter 0 c) < 2 ^ 32 then
          .ok ((List.range (itemBound (answers.itemCounter 0 c))).filterMap fun i =>
            (answers.nftAt (1 + i) c.toNat i).map (CollectionManager.entry fmt i))
        else .error (.error (js "Invalid array length"))
      | .error e => .error e := by
  rw [CollectionManager.collectionNFTsAsking, CollectionManager.collectionNFTs,
    perform_nextItemId_bind]
  cases answers 0 with
  | error e => rfl
  | ok q =>
    generalize itemBound (answers.itemCounter 0 c) = bound
    show (perform (arrayFrom bound (CollectionManager.loadItem fmt answers.queries c.toNat) >>=
      fun nftResults => pure (nftResults.filterMap id)) 1).1 = _
    rw [arrayFrom]
    split_ifs with hbound
    · have hmap := perform_mapM (f := CollectionManager.loadItem fmt answers.queries c.toNat)
        (g := fun i k => (answers.nftAt k c.toNat i).map (CollectionManager.entry fmt i))
        (List.range bound) 1 fun i _ k => CollectionManager.perform_loadItem c.toNat i k
      rw [perform_bind, hmap, starts_succ_range, List.map_map]
      show Except.ok (List.filterMap id _) = _
      rw [List.filterMap_map]
      rfl
    · rfl

/-! ### A chain that stands still -/

lemma found_map_fst {ι κ : Type} (cs : List (ι × κ)) (bound : ι → ℕ)
    (item : ι → ℕ → Option ShownNFT) :
    found cs (fun p => bound p.1) (fun p i => item p.1 i) = found (cs.map Prod.fst) bound item := by
  simp [found, List.flatMap_map]

/-- Where all queries are answered from one state, the marketplace loads the list of this state. -/
theorem NFTMarketplace.loadNFTsAsking_const (q : Snapshot AccountId Ledger)
    (prev : List ShownNFT) :
    perform (NFTMarketplace.loadNFTsAsking fmt fun _ => .ok q) prev =
      perform (NFTMarketplace.loadNFTs fmt q.state q.listing.entries) prev := by
  have hanswered : ∀ k : ℕ, ∃ q', (fun _ => .ok q : Answers AccountId Ledger) k = .ok q' :=
    fun _ => ⟨q, rfl⟩
  obtain ⟨nfts, hnfts⟩ := NFTMarketplace.exists_allNFTsAsking_eq_ok fmt hanswered
  obtain ⟨q', hq', cs, hcs, -, hfound⟩ := NFTMarketplace.exists_found_of_eq_ok hnfts
  obtain rfl := Except.ok.inj hq'
  rw [NFTMarketplace.loadNFTsAsking, perform_loadState, hnfts, NFTMarketplace.perform_loadNFTs,
    hfound, ← hcs]
  exact congrArg _ (found_map_fst cs (fun e => itemBound (q.state.itemCounter e.1)) fun e i =>
    (q.state.nftAt e.1.toNat i).map (NFTMarketplace.entry fmt e.1.toNat i))

theorem UserDashboard.loadUserNFTsAsking_const (q : Snapshot AccountId Ledger) (a : AccountId)
    (prev : List ShownNFT) :
    perform (UserDashboard.loadUserNFTsAsking fmt (fun _ => .ok q) (some (fmt.print a))) prev =
      perform (UserDashboard.loadUserNFTs fmt q.state (some (fmt.print a))) prev := by
  have hanswered : ∀ k : ℕ, ∃ q', (fun _ => .ok q : Answers AccountId Ledger) k = .ok q' :=
    fun _ => ⟨q, rfl⟩
  obtain ⟨userNFTs, hload⟩ :=
    UserDashboard.exists_allUserNFTsAsking_eq_ok fmt (fmt.print a) hanswered
  obtain ⟨q', hq', cs, hcs, -, hfound⟩ := UserDashboard.exists_found_of_eq_ok hload
  obtain rfl := Except.ok.inj hq'
  rw [UserDashboard.perform_loadUserNFTs, ← hcs]
  obtain ⟨u, us, hprint⟩ := List.exists_cons_of_ne_nil (fmt.print_ne_nil a)
  rw [hprint] at hload hfound ⊢
  rw [UserDashboard.loadUserNFTsAsking, perform_loadState, hload, hfound]
  exact congrArg _ (found_map_fst cs (fun c => (q.state.itemCounter (UInt32.ofNat c)).toNat)
    fun c i => ((q.state.nftAt c i).filter fun n : NFT AccountId =>
      fmt.print n.owner = u :: us).map (UserDashboard.entry fmt c i))

theorem CollectionManager.loadNFTsAsking_const (q : Snapshot AccountId Ledger) (c : CollectionId)
    (prev : List ManagedNFT) :
    perform (CollectionManager.loadNFTsAsking fmt (fun _ => .ok q) c.toNat) prev =
      perform (CollectionManager.loadNFTs fmt q.state c.toNat) prev := by
  rw [CollectionManager.loadNFTsAsking, perform_loadState,
    CollectionManager.collectionNFTsAsking_fst,
    CollectionManager.loadNFTs, perform_loadState, CollectionManager.collectionNFTs_eq]
  rfl

/-! ### A chain that goes on -/

section

variable [DecidableEq AccountId] (T : Config AccountId Ledger) (l : Ledger)
  (start now : List (Extrinsic AccountId))

/-- At some moment between two points of a run. -/
def Sometime (P : State AccountId Ledger → Prop) : Prop :=
  ∃ p, start <+: p ∧ p <+: now ∧ P (after T l p)

/-- All the time between two points of a run. -/
def Throughout (P : State AccountId Ledger → Prop) : Prop :=
  ∀ p, start <+: p → p <+: now → P (after T l p)

/-- The answers are given at moments between two points of a run. -/
def AnsweredBetween (answers : Answers AccountId Ledger) : Prop :=
  ∀ k q, answers k = .ok q → Sometime T l start now fun σ => q.state = σ

variable (fmt) in
/-- No two entries of a list have one key, and each is the entry of an NFT that was stored at some
moment, in a collection that was stored at some moment. -/
structure NFTMarketplace.ShowsDuring (list : List ShownNFT) : Prop where
  nodup : (list.map ShownNFT.key).Nodup
  sound : ∀ e ∈ list, ∃ c i n, Sometime T l start now (fun σ => σ.nfts (c, i) = some n) ∧
    Sometime T l start now (fun σ => σ.collections c ≠ none) ∧
    e = NFTMarketplace.entry fmt c.toNat i.toNat n

variable (fmt) in
/-- No two entries of a list have one key, each is the entry of an NFT that the account owned at
some moment, and no NFT is missing that the account owned all the time. -/
structure UserDashboard.ShowsDuring (a : AccountId) (list : List ShownNFT) : Prop where
  nodup : (list.map ShownNFT.key).Nodup
  sound : ∀ e ∈ list, ∃ c i n, n.owner = a ∧
    Sometime T l start now (fun σ => σ.nfts (c, i) = some n) ∧
    e = UserDashboard.entry fmt c.toNat i.toNat n
  complete : ∀ c i,
    Throughout T l start now (fun σ => ∃ n, σ.nfts (c, i) = some n ∧ n.owner = a) →
    (c.toNat, i.toNat) ∈ list.map ShownNFT.key

end

section

variable [DecidableEq AccountId] {T : Config AccountId Ledger} {l : Ledger}
  {start now : List (Extrinsic AccountId)}

/-- What an answer says is so at the moment of the answer. -/
lemma AnsweredBetween.sometime (h : AnsweredBetween T l start now answers) {k : ℕ}
    {q : Snapshot AccountId Ledger} (hq : answers k = .ok q) {P : State AccountId Ledger → Prop}
    (hP : P q.state) : Sometime T l start now P := by
  obtain ⟨p, hstart, hnow, heq⟩ := h k q hq
  exact ⟨p, hstart, hnow, heq ▸ hP⟩

/-- What is so all the time is so at the moment of an answer. -/
lemma AnsweredBetween.of_throughout (h : AnsweredBetween T l start now answers) {k : ℕ}
    {q : Snapshot AccountId Ledger} (hq : answers k = .ok q) {P : State AccountId Ledger → Prop}
    (hP : Throughout T l start now P) :
    P q.state ∧ ∃ p, p <+: now ∧ q.state = after T l p := by
  obtain ⟨p, hstart, hnow, heq⟩ := h k q hq
  exact ⟨heq ▸ hP p hstart hnow, p, hnow, heq⟩

/-- What an item query finds was stored at the moment of the answer. -/
lemma AnsweredBetween.stored (h : AnsweredBetween T l start now answers) {k c i : ℕ}
    {n : NFT AccountId} (hn : answers.nftAt k c i = some n) :
    ∃ (c' : CollectionId) (i' : ItemId), c = c'.toNat ∧ i = i'.toNat ∧
      Sometime T l start now fun σ => σ.nfts (c', i') = some n := by
  obtain ⟨q, hq, hat⟩ := nftAt_eq_some hn
  obtain ⟨c', i', rfl, rfl, hstored⟩ := nftAt_eq_some_iff.mp hat
  exact ⟨c', i', rfl, rfl, h.sometime hq hstored⟩

namespace NFTMarketplace

/-- A load that ends normally shows NFTs that were stored while it was going on. -/
lemma showsDuring (h : AnsweredBetween T l start now answers) {nfts : List ShownNFT}
    (hload : (perform (allNFTsAsking fmt answers) 0).1 = .ok nfts) :
    ShowsDuring fmt T l start now nfts := by
  obtain ⟨q, hq, cs, hcs, -, rfl⟩ := exists_found_of_eq_ok hload
  constructor
  · apply nodup_keys_found fun p => p.1.1.toNat
    · have hnumbers := nodup_numbers q.listing
      rw [← hcs, List.map_map] at hnumbers
      exact hnumbers
    · intro p i e he
      obtain ⟨n, -, rfl⟩ := Option.map_eq_some_iff.mp he
      rfl
  · intro e he
    obtain ⟨⟨⟨c, col⟩, k⟩, hp, i, -, he⟩ := mem_found.mp he
    obtain ⟨n, hn, rfl⟩ := Option.map_eq_some_iff.mp he
    obtain ⟨c', i', hc, rfl, hstored⟩ := h.stored hn
    obtain rfl := UInt32.toNat_inj.mp hc
    have hlisted : (c, col) ∈ q.listing.entries := hcs ▸ List.mem_map_of_mem hp
    have hcol := (q.listing.mem_iff c col).mp hlisted
    exact ⟨c, i', n, hstored, h.sometime hq (by simp [hcol]), rfl⟩

/-- If no query fails, a load misses no NFT that was stored all the time in a collection that
was. -/
lemma key_mem_of_throughout (h : AnsweredBetween T l start now answers)
    (hanswered : ∀ k, ∃ q, answers k = .ok q) {nfts : List ShownNFT}
    (hload : (perform (allNFTsAsking fmt answers) 0).1 = .ok nfts) {c : CollectionId} {i : ItemId}
    (hstored : Throughout T l start now fun σ =>
      σ.collections c ≠ none ∧ σ.nfts (c, i) ≠ none) :
    (c.toNat, i.toNat) ∈ nfts.map ShownNFT.key := by
  obtain ⟨q, hq, cs, hcs, -, rfl⟩ := exists_found_of_eq_ok hload
  obtain ⟨⟨hcol, -⟩, -⟩ := h.of_throughout hq hstored
  obtain ⟨col, hcol⟩ := Option.ne_none_iff_exists'.mp hcol
  obtain ⟨⟨e, k⟩, hp, rfl⟩ := List.mem_map.mp (hcs ▸ (q.listing.mem_iff c col).mpr hcol)
  -- the counter and the item are queried at two moments, and the item is stored at both
  obtain ⟨q₁, hq₁⟩ := hanswered k
  obtain ⟨⟨-, hne⟩, p, -, hstate⟩ := h.of_throughout hq₁ hstored
  have hle : i ≤ answers.itemCounter k c := by
    rw [itemCounter_of_answer hq₁, hstate]
    exact item_le_itemCounter p (hstate ▸ hne)
  obtain ⟨q₂, hq₂⟩ := hanswered (k + 1 + i.toNat)
  obtain ⟨⟨-, hne⟩, -⟩ := h.of_throughout hq₂ hstored
  obtain ⟨n, hn⟩ := Option.ne_none_iff_exists'.mp hne
  refine List.mem_map.mpr ⟨entry fmt c.toNat i.toNat n, mem_found.mpr ⟨_, hp, i.toNat, ?_, ?_⟩, rfl⟩
  · have hle := UInt32.le_iff_toNat_le.mp hle
    show i.toNat < itemBound (answers.itemCounter k c)
    rw [itemBound_eq]
    omega
  · show (answers.nftAt (k + 1 + i.toNat) c.toNat i.toNat).map _ = _
    rw [nftAt_of_answer hq₂, nftAt_toNat hn]
    rfl

end NFTMarketplace

namespace UserDashboard

/-- A load that ends normally shows NFTs that the account owned while it was going on, and misses
none that it owned all the time. -/
lemma showsDuring (h : AnsweredBetween T l start now answers) (hlimit : BelowLimit T l now)
    {a : AccountId} {userNFTs : List ShownNFT}
    (hload : (perform (allUserNFTsAsking fmt answers (fmt.print a)) 0).1 = .ok userNFTs) :
    ShowsDuring fmt T l start now a userNFTs := by
  obtain ⟨q, hq, cs, hcs, hanswered, rfl⟩ := exists_found_of_eq_ok hload
  constructor
  · apply nodup_keys_found Prod.fst
    · rw [hcs]
      exact List.nodup_range
    · intro p i e he
      obtain ⟨n, -, rfl⟩ := Option.map_eq_some_iff.mp he
      rfl
  · intro e he
    obtain ⟨⟨c, k⟩, -, i, -, he⟩ := mem_found.mp he
    obtain ⟨n, hmine, rfl⟩ := Option.map_eq_some_iff.mp he
    obtain ⟨hn, howner⟩ := Option.filter_eq_some_iff.mp hmine
    obtain ⟨c', i', rfl, rfl, hstored⟩ := h.stored hn
    exact ⟨c', i', n, fmt.injective (of_decide_eq_true howner), hstored, rfl⟩
  · intro c i hmine
    obtain ⟨⟨n, hn, -⟩, p, hp, hstate⟩ := h.of_throughout hq hmine
    have hc : c < q.state.nextCollectionId := by
      rw [hstate] at hn ⊢
      have hne : (after T l p).nfts (c, i) ≠ none := by simp [hn]
      exact (hlimit.of_isPrefix hp).collection_lt hne
    have hvisited : c.toNat ∈ cs.map Prod.fst := by
      rw [hcs, List.mem_range]
      exact UInt32.lt_iff_toNat_lt.mp hc
    obtain ⟨⟨c', k⟩, hmem, rfl⟩ := List.mem_map.mp hvisited
    obtain ⟨⟨q₁, hq₁⟩, hitems⟩ := hanswered _ hmem
    obtain ⟨⟨n, hn, -⟩, p, hp, hstate⟩ := h.of_throughout hq₁ hmine
    have hi : i.toNat < (answers.itemCounter k c).toNat := by
      rw [itemCounter_of_answer hq₁, hstate]
      have hne : (after T l p).nfts (c, i) ≠ none := by simp [← hstate, hn]
      exact UInt32.lt_iff_toNat_lt.mp ((hlimit.of_isPrefix hp).item_lt hne)
    rw [UInt32.ofNat_toNat] at hitems
    obtain ⟨q₂, hq₂⟩ := hitems i.toNat hi
    obtain ⟨⟨n, hn, howner⟩, -⟩ := h.of_throughout hq₂ hmine
    refine List.mem_map.mpr
      ⟨entry fmt c.toNat i.toNat n, mem_found.mpr ⟨_, hmem, i.toNat, ?_, ?_⟩, rfl⟩
    · show i.toNat < (answers.itemCounter k (UInt32.ofNat c.toNat)).toNat
      rw [UInt32.ofNat_toNat]
      exact hi
    · show ((answers.nftAt (k + 1 + i.toNat) c.toNat i.toNat).filter _).map _ = _
      rw [nftAt_of_answer hq₂, nftAt_toNat hn]
      simp [Option.filter, howner]

end UserDashboard

/-- A load whose first query is answered before some calls and whose other queries after them. -/
lemma exists_answeredBetween (past later : List (Extrinsic AccountId)) :
    ∃ answers : Answers AccountId Ledger, (∀ k, ∃ q, answers k = .ok q) ∧
      AnsweredBetween T l past (past ++ later) answers := by
  obtain ⟨L⟩ := exists_listing (T := T) (l := l) past
  obtain ⟨L'⟩ := exists_listing (T := T) (l := l) (past ++ later)
  refine ⟨fun k => .ok (if k = 0 then ⟨_, L⟩ else ⟨_, L'⟩), fun k => ⟨_, rfl⟩, fun k q hq => ?_⟩
  obtain rfl := Except.ok.inj hq
  split_ifs
  · exact ⟨past, List.prefix_rfl, List.prefix_append _ _, rfl⟩
  · exact ⟨past ++ later, List.prefix_append _ _, List.prefix_rfl, rfl⟩

/-- Between two points of a run with one call between them there are only these two moments. -/
lemma throughout_concat {x : Extrinsic AccountId} {P : State AccountId Ledger → Prop}
    (hstart : P (after T l start)) (hnow : P (after T l (start ++ [x]))) :
    Throughout T l start (start ++ [x]) P := by
  intro p hp hpx
  obtain rfl | hle := List.prefix_concat_iff.mp hpx
  · exact hnow
  · rwa [← hp.eq_of_length (hp.length_le.antisymm hle.length_le)]

/-- Whatever the chain executes in the course of a load of the marketplace, and whichever of its
queries fail: either the list stays as it was, or it shows NFTs that were stored while the load
was going on, each once. If no query fails, then it shows all that were stored all the time in a
collection that was. -/
theorem marketplace_across_blocks (h : AnsweredBetween T l start now answers)
    (prev : List ShownNFT) :
    let list := (perform (NFTMarketplace.loadNFTsAsking fmt answers) prev).2
    (list = prev ∨ NFTMarketplace.ShowsDuring fmt T l start now list) ∧
      ((∀ k, ∃ q, answers k = .ok q) → NFTMarketplace.ShowsDuring fmt T l start now list ∧
        ∀ c i, Throughout T l start now
          (fun σ => σ.collections c ≠ none ∧ σ.nfts (c, i) ≠ none) →
          (c.toNat, i.toNat) ∈ list.map ShownNFT.key) := by
  rw [NFTMarketplace.loadNFTsAsking, perform_loadState]
  constructor
  · cases hload : (perform (NFTMarketplace.allNFTsAsking fmt answers) 0).1 with
    | error e => exact Or.inl rfl
    | ok nfts => exact Or.inr (NFTMarketplace.showsDuring h hload)
  · intro hanswered
    obtain ⟨nfts, hload⟩ := NFTMarketplace.exists_allNFTsAsking_eq_ok fmt hanswered
    rw [hload]
    refine ⟨NFTMarketplace.showsDuring h hload, fun c i hstored => ?_⟩
    exact NFTMarketplace.key_mem_of_throughout h hanswered hload hstored

/-- A load in the course of which an NFT is bought: all queries are answered, and what is not bought
is in the list. -/
theorem marketplace_across_blocks_demo :
    ∃ answers : Answers ℕ (ℕ → ℕ), (∀ k, ∃ q, answers k = .ok q) ∧
      let list := (perform (NFTMarketplace.loadNFTsAsking demoFormat answers) []).2
      let now := demoRun ++ [⟨2, .mintNft 0 0⟩]
      list ≠ [] ∧
        NFTMarketplace.ShowsDuring demoFormat demoRuntime demoLedger demoRun now list ∧
        ∀ c i, Throughout demoRuntime demoLedger demoRun now
          (fun σ => σ.collections c ≠ none ∧ σ.nfts (c, i) ≠ none) →
          (c.toNat, i.toNat) ∈ list.map ShownNFT.key := by
  obtain ⟨answers, hanswered, h⟩ := exists_answeredBetween (T := demoRuntime) (l := demoLedger)
    demoRun [⟨2, .mintNft 0 0⟩]
  refine ⟨answers, hanswered, ?_⟩
  intro list now
  have hlist : NFTMarketplace.ShowsDuring demoFormat demoRuntime demoLedger demoRun now list ∧ _ :=
    (marketplace_across_blocks h []).2 hanswered
  refine ⟨fun hempty => ?_, hlist⟩
  have hmem : (0, 2) ∈ list.map ShownNFT.key :=
    hlist.2 0 2 (throughout_concat (by decide +kernel) (by decide +kernel))
  rw [hempty] at hmem
  cases hmem

/-- Whatever the chain executes in the course of a load of the dashboard, and whichever of its
queries fail: either the list stays as it was, or it shows NFTs that the account owned while the
load was going on, each once, and all that it owned all the time. If no query fails, then it does
not stay as it was. -/
theorem dashboard_across_blocks (h : AnsweredBetween T l start now answers)
    (hlimit : BelowLimit T l now) (a : AccountId) (prev : List ShownNFT) :
    let list :=
      (perform (UserDashboard.loadUserNFTsAsking fmt answers (some (fmt.print a))) prev).2
    (list = prev ∨ UserDashboard.ShowsDuring fmt T l start now a list) ∧
      ((∀ k, ∃ q, answers k = .ok q) → UserDashboard.ShowsDuring fmt T l start now a list) := by
  have hshows := @UserDashboard.showsDuring _ _ fmt answers _ T l start now h hlimit a
  obtain ⟨u, us, hprint⟩ := List.exists_cons_of_ne_nil (fmt.print_ne_nil a)
  rw [hprint] at hshows ⊢
  rw [UserDashboard.loadUserNFTsAsking, perform_loadState]
  constructor
  · cases hload : (perform (UserDashboard.allUserNFTsAsking fmt answers (u :: us)) 0).1 with
    | error e => exact Or.inl rfl
    | ok userNFTs => exact Or.inr (hshows hload)
  · intro hanswered
    obtain ⟨userNFTs, hload⟩ :=
      UserDashboard.exists_allUserNFTsAsking_eq_ok fmt (u :: us) hanswered
    rw [hload]
    exact hshows hload

/-- The artist's dashboard, loaded while one of the two NFTs is bought: all queries are answered,
and the other NFT is in the list. -/
theorem dashboard_across_blocks_demo :
    ∃ answers : Answers ℕ (ℕ → ℕ), (∀ k, ∃ q, answers k = .ok q) ∧
      let list := (perform (UserDashboard.loadUserNFTsAsking demoFormat answers
        (some (demoFormat.print 1))) []).2
      let now := demoRun ++ [⟨2, .mintNft 0 0⟩]
      list ≠ [] ∧
        UserDashboard.ShowsDuring demoFormat demoRuntime demoLedger demoRun now 1 list := by
  obtain ⟨answers, hanswered, h⟩ := exists_answeredBetween (T := demoRuntime) (l := demoLedger)
    demoRun [⟨2, .mintNft 0 0⟩]
  refine ⟨answers, hanswered, ?_⟩
  intro list now
  have hshows : UserDashboard.ShowsDuring demoFormat demoRuntime demoLedger demoRun now 1 list :=
    (dashboard_across_blocks h (.of_length_lt (by decide)) 1 []).2 hanswered
  refine ⟨fun hempty => ?_, hshows⟩
  have howned : Throughout demoRuntime demoLedger demoRun now
      fun σ => ∃ n, σ.nfts (0, 2) = some n ∧ n.owner = 1 :=
    throughout_concat ⟨⟨1, .new, false, 9⟩, by decide +kernel⟩
      ⟨⟨1, .new, false, 9⟩, by decide +kernel⟩
  have hmem : (0, 2) ∈ list.map ShownNFT.key := hshows.complete 0 2 howned
  rw [hempty] at hmem
  cases hmem

end

end FarcasterNft
