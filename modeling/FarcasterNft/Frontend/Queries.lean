import FarcasterNft.Frontend.Views
import FarcasterNft.Js.Log

/-!
# The item queries of the loaders

The loaders of `Frontend/Views`, with a note of every item query they make. The dashboard runs up
to the item counter `n` of a collection. The marketplace and the collection manager append a `1`
to the numeral of `n` where they mean to add one, and so run up to `10 * n + 1`: they never query
the same items as the dashboard. In the lists nothing of it is seen, as the additional items are
not stored.
-/

namespace FarcasterNft

open Frame Js

variable {AccountId Ledger : Type}

/-- A program that notes its item queries, as numbers of collection and item. -/
abbrev Noted (α : Type) := Async (List (ℕ × ℕ)) α

/-- All queries are answered from one state, and the item queries are noted, whether or not they
throw. -/
def State.notedQueries (σ : State AccountId Ledger) : Queries AccountId Noted where
  nextCollectionId := lift σ.queries.nextCollectionId
  nextItemId collectionId := lift (σ.queries.nextItemId collectionId)
  nfts collectionId itemId := do
    note (collectionId, itemId)
    lift (σ.queries.nfts collectionId itemId)

variable (fmt : AddressFormat AccountId) (σ : State AccountId Ledger)

/-! ### The loaders -/

def NFTMarketplace.allNFTsNoted (collections : List (CollectionId × Collection AccountId)) :
    Noted (List ShownNFT) := NFTMarketplace.allNFTs fmt σ.notedQueries collections

def UserDashboard.allUserNFTsNoted (address : JsString) : Noted (List ShownNFT) :=
  UserDashboard.allUserNFTs fmt σ.notedQueries address

def CollectionManager.collectionNFTsNoted (collectionId : ℕ) : Noted (List ManagedNFT) :=
  CollectionManager.collectionNFTs fmt σ.notedQueries collectionId

/-! ### They load what the loaders without notes load -/

variable {fmt σ}

lemma logs_notedQueries_nfts (c i : ℕ) :
    Logs (σ.notedQueries.nfts c i) (σ.queries.nfts c i) [(c, i)] :=
  (logs_note (c, i)).bind (logs_lift _)

lemma NFTMarketplace.logs_loadItem (c i : ℕ) :
    Logs (NFTMarketplace.loadItem fmt σ.notedQueries c i)
      (NFTMarketplace.loadItem fmt σ.queries c i) [(c, i)] := by
  apply Logs.tryCatch_quiet
  apply (logs_notedQueries_nfts c i).bind_quiet
  intro found
  cases found with
  | none => exact logs_pure _
  | some nft => exact logs_pure _

lemma CollectionManager.logs_loadItem (c i : ℕ) :
    Logs (CollectionManager.loadItem fmt σ.notedQueries c i)
      (CollectionManager.loadItem fmt σ.queries c i) [(c, i)] := by
  apply Logs.tryCatch_quiet
  apply (logs_notedQueries_nfts c i).bind_quiet
  intro found
  cases found with
  | none => exact logs_pure _
  | some nft => exact logs_pure _

lemma UserDashboard.logs_loadItem (address : JsString) (c i : ℕ) :
    Logs (UserDashboard.loadItem fmt σ.notedQueries address c i)
      (UserDashboard.loadItem fmt σ.queries address c i) [(c, i)] := by
  apply (logs_notedQueries_nfts c i).bind_quiet
  intro found
  cases found with
  | none => exact logs_pure _
  | some nft =>
    show Logs (if (nft.toJSON fmt).owner = address then _ else _)
      (if (nft.toJSON fmt).owner = address then _ else _) _
    split_ifs
    · exact logs_pure _
    · exact logs_pure _

/-- Only the item queries are noted. -/
lemma logs_notedQueries_nextItemId (c : CollectionId) :
    Logs (σ.notedQueries.nextItemId c.toNat) (.ok (σ.itemCounter c)) [] := by
  have hquery : Logs (σ.notedQueries.nextItemId c.toNat) (Query.nextItemId σ c.toNat) [] :=
    logs_lift _
  rwa [Query.nextItemId, u32_toNat] at hquery

/-- The queries for the first `n` items of a collection. -/
def queries (c n : ℕ) : List (ℕ × ℕ) := (List.range n).map fun i => (c, i)

lemma flatMap_eq_queries (c n : ℕ) : ((List.range n).flatMap fun i => [(c, i)]) = queries c n :=
  List.map_eq_flatMap.symm

/-- The marketplace queries each listed collection up to its item bound. -/
theorem NFTMarketplace.logs_allNFTsNoted
    (collections : List (CollectionId × Collection AccountId)) :
    Logs (NFTMarketplace.allNFTsNoted fmt σ collections)
      (NFTMarketplace.allNFTs fmt σ.queries collections)
      (collections.flatMap fun e => queries e.1.toNat (itemBound (σ.itemCounter e.1))) := by
  rw [NFTMarketplace.allNFTs_eq]
  apply logs_collect
  intro e _
  simp only [numberOf_eq, ← flatMap_eq_queries]
  apply (logs_notedQueries_nextItemId e.1).bind
  apply logs_collect
  intro i _
  rw [← NFTMarketplace.loadItem_eq]
  exact NFTMarketplace.logs_loadItem e.1.toNat i

/-- The dashboard queries each collection id below the counter up to the item counter. -/
theorem UserDashboard.logs_allUserNFTsNoted (address : JsString) :
    Logs (UserDashboard.allUserNFTsNoted fmt σ address)
      (UserDashboard.allUserNFTs fmt σ.queries address)
      ((List.range σ.nextCollectionId.toNat).flatMap fun c =>
        queries c (σ.itemCounter (UInt32.ofNat c)).toNat) := by
  rw [UserDashboard.allUserNFTs_eq, UserDashboard.allUserNFTsNoted, UserDashboard.allUserNFTs]
  simp only [numberOf_eq, ← flatMap_eq_queries]
  have hcounter : Logs σ.notedQueries.nextCollectionId (.ok σ.nextCollectionId) [] := logs_lift _
  apply hcounter.bind
  apply logs_collect
  intro c hc
  have hclt : c < 2 ^ 32 := (List.mem_range.mp hc).trans σ.nextCollectionId.toNat_lt
  obtain ⟨c, rfl⟩ : ∃ c' : CollectionId, c = c'.toNat :=
    ⟨_, (UInt32.toNat_ofNat_of_lt' hclt).symm⟩
  simp only [UInt32.ofNat_toNat]
  apply (logs_notedQueries_nextItemId c).bind
  apply logs_collect
  intro i hi
  have hilt : i < 2 ^ 32 := (List.mem_range.mp hi).trans (σ.itemCounter c).toNat_lt
  rw [← UserDashboard.loadItem_eq address hclt hilt]
  exact UserDashboard.logs_loadItem address c.toNat i

/-- The collection manager queries a collection up to its item bound, or not at all. -/
theorem CollectionManager.logs_collectionNFTsNoted (c : CollectionId) :
    Logs (CollectionManager.collectionNFTsNoted fmt σ c.toNat)
      (CollectionManager.collectionNFTs fmt σ.queries c.toNat)
      (if itemBound (σ.itemCounter c) < 2 ^ 32 then
        queries c.toNat (itemBound (σ.itemCounter c)) else []) := by
  rw [CollectionManager.collectionNFTs_eq, CollectionManager.collectionNFTsNoted,
    CollectionManager.collectionNFTs]
  by_cases hbound : itemBound (σ.itemCounter c) < 2 ^ 32
  · have hitem : ∀ i < itemBound (σ.itemCounter c),
        Logs (CollectionManager.loadItem fmt σ.notedQueries c.toNat i)
          (.ok ((σ.nftAt c.toNat i).map (CollectionManager.entry fmt i))) [(c.toNat, i)] := by
      intro i _
      rw [← CollectionManager.loadItem_eq]
      exact CollectionManager.logs_loadItem c.toNat i
    rw [if_pos hbound, if_pos hbound, ← flatMap_eq_queries, ← List.append_nil (List.flatMap _ _)]
    apply (logs_notedQueries_nextItemId c).bind
    apply (logs_arrayFrom hbound hitem).bind
    rw [List.filterMap_map]
    exact logs_pure _
  · rw [if_neg hbound, if_neg hbound]
    apply (logs_notedQueries_nextItemId c).bind
    apply Logs.bind_error
    exact logs_arrayFrom_error hbound

/-! ### The items of one collection -/

/-- The items that were queried of a collection, in order. -/
def itemsOf (c : ℕ) (log : List (ℕ × ℕ)) : List ℕ := (log.filter fun q => q.1 = c).map Prod.snd

lemma itemsOf_append (c : ℕ) (log log' : List (ℕ × ℕ)) :
    itemsOf c (log ++ log') = itemsOf c log ++ itemsOf c log' := by
  simp [itemsOf]

@[simp] lemma itemsOf_queries_self (c n : ℕ) : itemsOf c (queries c n) = List.range n := by
  simp [itemsOf, queries, List.filter_map, Function.comp_def]

lemma itemsOf_queries_of_ne {c d : ℕ} (h : d ≠ c) (n : ℕ) : itemsOf c (queries d n) = [] := by
  simp [itemsOf, queries, h]

section

variable {ι : Type} {number bound : ι → ℕ} {cs : List ι}

lemma itemsOf_flatMap_of_notMem {c : ℕ} (h : c ∉ cs.map number) :
    itemsOf c (cs.flatMap fun d => queries (number d) (bound d)) = [] := by
  induction cs with
  | nil => rfl
  | cons d cs ih =>
    rw [List.map_cons, List.mem_cons, not_or] at h
    rw [List.flatMap_cons, itemsOf_append, itemsOf_queries_of_ne (Ne.symm h.1), ih h.2]
    rfl

/-- A loop over collections with different numbers queries the items of each of them once. -/
lemma itemsOf_flatMap {c : ι} (hcs : (cs.map number).Nodup) (hc : c ∈ cs) :
    itemsOf (number c) (cs.flatMap fun d => queries (number d) (bound d)) =
      List.range (bound c) := by
  induction cs with
  | nil => cases hc
  | cons d cs ih =>
    rw [List.map_cons, List.nodup_cons] at hcs
    rw [List.flatMap_cons, itemsOf_append]
    rcases List.mem_cons.mp hc with rfl | hc
    · rw [itemsOf_queries_self, itemsOf_flatMap_of_notMem hcs.1, List.append_nil]
    · have hne : number d ≠ number c := by
        intro heq
        exact hcs.1 (heq ▸ List.mem_map_of_mem hc)
      rw [itemsOf_queries_of_ne hne, ih hcs.2 hc]
      rfl

end

/-- Of a stored collection, the marketplace queries the items up to its bound. -/
theorem NFTMarketplace.itemsOf_allNFTsNoted (fmt : AddressFormat AccountId)
    (L : Listing σ.collections) {c : CollectionId} (h : σ.collections c ≠ none) :
    itemsOf c.toNat (noted (NFTMarketplace.allNFTsNoted fmt σ L.entries)) =
      List.range (itemBound (σ.itemCounter c)) := by
  obtain ⟨col, hcol⟩ := Option.ne_none_iff_exists'.mp h
  rw [(NFTMarketplace.logs_allNFTsNoted L.entries).noted_eq]
  exact itemsOf_flatMap (nodup_numbers L) ((L.mem_iff c col).mpr hcol)

/-- Of a collection below the counter, the dashboard queries the items below the item counter. -/
theorem UserDashboard.itemsOf_allUserNFTsNoted (fmt : AddressFormat AccountId)
    (σ : State AccountId Ledger) (address : JsString) {c : CollectionId}
    (h : c < σ.nextCollectionId) :
    itemsOf c.toNat (noted (UserDashboard.allUserNFTsNoted fmt σ address)) =
      List.range (σ.itemCounter c).toNat := by
  have hkeys : ((List.range σ.nextCollectionId.toNat).map id).Nodup := by
    rw [List.map_id]
    exact List.nodup_range
  have hmem := List.mem_range.mpr (UInt32.lt_iff_toNat_lt.mp h)
  rw [(UserDashboard.logs_allUserNFTsNoted address).noted_eq]
  refine (itemsOf_flatMap hkeys hmem).trans ?_
  rw [UInt32.ofNat_toNat]

theorem CollectionManager.itemsOf_collectionNFTsNoted (fmt : AddressFormat AccountId)
    (σ : State AccountId Ledger) (c : CollectionId) :
    itemsOf c.toNat (noted (CollectionManager.collectionNFTsNoted fmt σ c.toNat)) =
      if itemBound (σ.itemCounter c) < 2 ^ 32 then List.range (itemBound (σ.itemCounter c))
      else [] := by
  rw [(CollectionManager.logs_collectionNFTsNoted c).noted_eq]
  split_ifs
  · exact itemsOf_queries_self _ _
  · rfl

/-! ### The loops never agree -/

/-- A load queries the items of a collection that the dashboard queries, which are those below
the item counter `n`, and it makes `n` queries for them. -/
structure QueriesAsDashboard (load dashboard : List (ℕ × ℕ)) (c n : ℕ) : Prop where
  same : {i | i ∈ itemsOf c load} = {i | i ∈ itemsOf c dashboard}
  below : {i | i ∈ itemsOf c dashboard} = {i | i < n}
  cost : (itemsOf c load).length = n

/-- Of a load that agrees with the dashboard, no item is queried that has the number of the
counter. -/
lemma QueriesAsDashboard.counter_notMem {load dashboard : List (ℕ × ℕ)} {c n : ℕ}
    (h : QueriesAsDashboard load dashboard c n) : n ∉ itemsOf c load := by
  intro hmem
  have hlt : n ∈ {i | i < n} := by
    rw [← h.below, ← h.same]
    exact hmem
  exact lt_irrefl n hlt

/-- In every state, whatever the item counter of a stored collection is, neither the marketplace
nor the collection manager queries the items that the dashboard queries. -/
theorem item_queries_never_agree (fmt : AddressFormat AccountId) (σ : State AccountId Ledger)
    (L : Listing σ.collections) (address : JsString) {c : CollectionId}
    (h : σ.collections c ≠ none) :
    ¬ QueriesAsDashboard (noted (NFTMarketplace.allNFTsNoted fmt σ L.entries))
        (noted (UserDashboard.allUserNFTsNoted fmt σ address)) c.toNat (σ.itemCounter c).toNat ∧
      ¬ QueriesAsDashboard (noted (CollectionManager.collectionNFTsNoted fmt σ c.toNat))
        (noted (UserDashboard.allUserNFTsNoted fmt σ address)) c.toNat
        (σ.itemCounter c).toNat := by
  have hmem : (σ.itemCounter c).toNat ∈ List.range (itemBound (σ.itemCounter c)) := by
    rw [List.mem_range, itemBound_eq]
    omega
  constructor
  · intro hagree
    apply hagree.counter_notMem
    rw [NFTMarketplace.itemsOf_allNFTsNoted fmt L h]
    exact hmem
  · intro hagree
    have hitems := CollectionManager.itemsOf_collectionNFTsNoted fmt σ c
    split_ifs at hitems with hbound
    · apply hagree.counter_notMem
      rw [hitems]
      exact hmem
    · -- too many items for an array, of which none is queried
      have hcost := hagree.cost
      rw [hitems, List.length_nil] at hcost
      rw [itemBound_eq, ← hcost] at hbound
      exact hbound (by decide)

/-- After the sample run the collection `0` is stored. -/
theorem item_queries_never_agree_demo :
    ∃ L : Listing (after demoRuntime demoLedger demoRun).collections,
      ¬ QueriesAsDashboard
          (noted (NFTMarketplace.allNFTsNoted demoFormat (after demoRuntime demoLedger demoRun)
            L.entries))
          (noted (UserDashboard.allUserNFTsNoted demoFormat
            (after demoRuntime demoLedger demoRun) (demoFormat.print 1))) 0 3 ∧
        ¬ QueriesAsDashboard
          (noted (CollectionManager.collectionNFTsNoted demoFormat
            (after demoRuntime demoLedger demoRun) 0))
          (noted (UserDashboard.allUserNFTsNoted demoFormat
            (after demoRuntime demoLedger demoRun) (demoFormat.print 1))) 0 3 := by
  obtain ⟨L⟩ := exists_listing (T := demoRuntime) (l := demoLedger) demoRun
  have hcounter : ((after demoRuntime demoLedger demoRun).itemCounter 0).toNat = 3 := by
    decide +kernel
  have hnever := item_queries_never_agree demoFormat _ L (demoFormat.print 1)
    (c := 0) (by decide +kernel)
  rw [hcounter] at hnever
  exact ⟨L, hnever⟩

/-- Three items have been created in the sample run, and the collection manager makes 31 queries
for them. -/
theorem item_queries_agree_fails :
    ¬ ∀ L : Listing (after demoRuntime demoLedger demoRun).collections,
      QueriesAsDashboard
          (noted (NFTMarketplace.allNFTsNoted demoFormat (after demoRuntime demoLedger demoRun)
            L.entries))
          (noted (UserDashboard.allUserNFTsNoted demoFormat
            (after demoRuntime demoLedger demoRun) (demoFormat.print 1))) 0 3 ∧
        QueriesAsDashboard
          (noted (CollectionManager.collectionNFTsNoted demoFormat
            (after demoRuntime demoLedger demoRun) 0))
          (noted (UserDashboard.allUserNFTsNoted demoFormat
            (after demoRuntime demoLedger demoRun) (demoFormat.print 1))) 0 3 := by
  intro h
  obtain ⟨L⟩ := exists_listing (T := demoRuntime) (l := demoLedger) demoRun
  have hcost : (itemsOf 0 (noted (CollectionManager.collectionNFTsNoted demoFormat
      (after demoRuntime demoLedger demoRun) 0))).length = 31 := by
    decide +kernel
  rw [(h L).2.cost] at hcost
  cases hcost

end FarcasterNft
