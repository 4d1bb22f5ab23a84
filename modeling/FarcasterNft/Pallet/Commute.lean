import FarcasterNft.Frame.Footprint
import FarcasterNft.Pallet.Failure

/-!
# Calls that can change places

The cells of the pallet's state are the entries of its storages, the two kinds of counters and
the ledger. Each dispatched call has a footprint of cells. Calls with disjoint footprints
commute; two burns in one collection share its entry and commute all the same, since each only
takes its own item off the list.
-/

namespace FarcasterNft

open Frame

variable {AccountId Ledger : Type}

/-! ### Cells -/

/-- A part of the state that is read and written as a whole. -/
inductive StateCell (AccountId : Type) where
  | artist (who : AccountId)
  | collection (c : CollectionId)
  | nft (c : CollectionId) (i : ItemId)
  | itemCounter (c : CollectionId)
  | collectionCounter
  | ledger

/-- The state as a family of cells. The events are in none of them. -/
def stateCells (AccountId Ledger : Type) :
    CellView (State AccountId Ledger) (StateCell AccountId) where
  Val
    | .artist _ => Option Bool
    | .collection _ => Option (Collection AccountId)
    | .nft _ _ => Option (NFT AccountId)
    | .itemCounter _ => Option ItemId
    | .collectionCounter => CollectionId
    | .ledger => Ledger
  read σ
    | .artist who => σ.artists who
    | .collection c => σ.collections c
    | .nft c i => σ.nfts (c, i)
    | .itemCounter c => σ.nextItemId c
    | .collectionCounter => σ.nextCollectionId
    | .ledger => σ.ledger

/-- States that agree on every cell differ in the events at most. -/
lemma sameStorage_of_read_eq {σ τ : State AccountId Ledger}
    (h : ∀ k, (stateCells AccountId Ledger).read τ k = (stateCells AccountId Ledger).read σ k) :
    SameStorage σ τ where
  artists := funext fun who => h (.artist who)
  collections := funext fun c => h (.collection c)
  nfts := funext fun k => h (.nft k.1 k.2)
  nextItemId := funext fun c => h (.itemCounter c)
  nextCollectionId := h .collectionCounter
  ledger := h .ledger

/-- The cells a call works on. The id of a new NFT is read from the counter, so creating one
may work on any NFT cell of the collection; likewise for a new collection. -/
def footprint (s : AccountId) : Call AccountId → Set (StateCell AccountId)
  | .registerArtist => {.artist s, .ledger}
  | .createCollection _ => {.artist s, .collectionCounter} ∪ Set.range .collection
  | .deleteCollection c => {.collection c}
  | .createNft c _ _ => {.collection c, .itemCounter c} ∪ Set.range (.nft c)
  | .transferNft c i _ => {.nft c i}
  | .burnNft c i => {.nft c i, .collection c}
  | .mintNft c i => {.nft c i, .ledger}

variable [DecidableEq AccountId]
variable {T : Config AccountId Ledger} {σ τ σ' : State AccountId Ledger} {s : AccountId}
variable {call : Call AccountId}

/-! ### The footprint of a dispatched call -/

/-- A call writes to its footprint only. -/
lemma read_of_notMem_footprint (h : CallRule T σ s call τ) {k : StateCell AccountId}
    (hk : k ∉ footprint s call) :
    (stateCells AccountId Ledger).read τ k = (stateCells AccountId Ledger).read σ k := by
  cases h with
  | registerArtist l hnew hpay =>
    cases k with
    | artist who => exact StorageMap.insert_of_ne _ _ fun heq => hk (by simp [footprint, heq])
    | ledger => exact absurd (by simp [footprint]) hk
    | _ => rfl
  | createCollection metadata md hmd hartist =>
    cases k with
    | collection c => exact absurd (by simp [footprint]) hk
    | collectionCounter => exact absurd (by simp [footprint]) hk
    | _ => rfl
  | deleteCollection c col hcol hcreator =>
    cases k with
    | collection c' => exact StorageMap.remove_of_ne _ fun heq => hk (by simp [footprint, heq])
    | _ => rfl
  | createNft c metadata price col md nfts hcol hmd hpush =>
    cases k with
    | collection c' => exact StorageMap.insert_of_ne _ _ fun heq => hk (by simp [footprint, heq])
    | itemCounter c' => exact StorageMap.insert_of_ne _ _ fun heq => hk (by simp [footprint, heq])
    | nft c' i =>
      refine StorageMap.insert_of_ne _ _ fun heq => hk ?_
      simp [footprint, (Prod.mk.inj heq).1]
    | _ => rfl
  | transferNft c i dest n hnft howner =>
    cases k with
    | nft c' i' =>
      refine StorageMap.insert_of_ne _ _ fun heq => hk ?_
      simp [footprint, (Prod.mk.inj heq).1, (Prod.mk.inj heq).2]
    | _ => rfl
  | burnNft c i n col hnft howner hunsold hcol =>
    cases k with
    | collection c' => exact StorageMap.insert_of_ne _ _ fun heq => hk (by simp [footprint, heq])
    | nft c' i' =>
      refine StorageMap.remove_of_ne _ fun heq => hk ?_
      simp [footprint, (Prod.mk.inj heq).1, (Prod.mk.inj heq).2]
    | _ => rfl
  | mintNft c i n l hnft hunsold howner hpay =>
    cases k with
    | nft c' i' =>
      refine StorageMap.insert_of_ne _ _ fun heq => hk ?_
      simp [footprint, (Prod.mk.inj heq).1, (Prod.mk.inj heq).2]
    | ledger => exact absurd (by simp [footprint]) hk
    | _ => rfl

/-- What a call does depends on its footprint only. -/
lemma CallRule.congr (h : CallRule T σ s call τ)
    (hag : (stateCells AccountId Ledger).AgreeOn (footprint s call) σ σ') :
    ∃ τ', CallRule T σ' s call τ' ∧
      (stateCells AccountId Ledger).AgreeOn (footprint s call) τ τ' := by
  cases h with
  | registerArtist l hnew hpay =>
    have hartist : σ.artists s = σ'.artists s := hag (.artist s) (by simp [footprint])
    have hledger : σ.ledger = σ'.ledger := hag .ledger (by simp [footprint])
    refine ⟨_, .registerArtist l (hartist ▸ hnew) (hledger ▸ hpay), fun k hk => ?_⟩
    cases k with
    | artist who => exact StorageMap.insert_congr (hag _ hk)
    | ledger => rfl
    | _ => exact hag _ hk
  | createCollection metadata md hmd hartist =>
    have hold : σ.artists s = σ'.artists s := hag (.artist s) (by simp [footprint])
    have hnext : σ.nextCollectionId = σ'.nextCollectionId :=
      hag .collectionCounter (by simp [footprint])
    refine ⟨_, .createCollection metadata md hmd (hold ▸ hartist), fun k hk => ?_⟩
    rw [← hnext]
    cases k with
    | collection c => exact StorageMap.insert_congr (hag _ hk)
    | collectionCounter => rfl
    | _ => exact hag _ hk
  | deleteCollection c col hcol hcreator =>
    have hentry : σ.collections c = σ'.collections c := hag (.collection c) (by simp [footprint])
    refine ⟨_, .deleteCollection c col (hentry ▸ hcol) hcreator, fun k hk => ?_⟩
    cases k with
    | collection c' => exact StorageMap.remove_congr (hag _ hk)
    | _ => exact hag _ hk
  | createNft c metadata price col md nfts hcol hmd hpush =>
    have hentry : σ.collections c = σ'.collections c := hag (.collection c) (by simp [footprint])
    have hcounter : σ.itemCounter c = σ'.itemCounter c :=
      congrArg (·.getD 0) (hag (.itemCounter c) (by simp [footprint]))
    refine ⟨_, .createNft c metadata price col md nfts (hentry ▸ hcol) hmd (hcounter ▸ hpush),
      fun k hk => ?_⟩
    rw [← hcounter]
    cases k with
    | collection c' => exact StorageMap.insert_congr (hag _ hk)
    | itemCounter c' => exact StorageMap.insert_congr (hag _ hk)
    | nft c' i => exact StorageMap.insert_congr (hag _ hk)
    | _ => exact hag _ hk
  | transferNft c i dest n hnft howner =>
    have hentry : σ.nfts (c, i) = σ'.nfts (c, i) := hag (.nft c i) (by simp [footprint])
    refine ⟨_, .transferNft c i dest n (hentry ▸ hnft) howner, fun k hk => ?_⟩
    cases k with
    | nft c' i' => exact StorageMap.insert_congr (hag _ hk)
    | _ => exact hag _ hk
  | burnNft c i n col hnft howner hunsold hcol =>
    have hentry : σ.nfts (c, i) = σ'.nfts (c, i) := hag (.nft c i) (by simp [footprint])
    have hlist : σ.collections c = σ'.collections c := hag (.collection c) (by simp [footprint])
    refine ⟨_, .burnNft c i n col (hentry ▸ hnft) howner hunsold (hlist ▸ hcol), fun k hk => ?_⟩
    cases k with
    | collection c' => exact StorageMap.insert_congr (hag _ hk)
    | nft c' i' => exact StorageMap.remove_congr (hag _ hk)
    | _ => exact hag _ hk
  | mintNft c i n l hnft hunsold howner hpay =>
    have hentry : σ.nfts (c, i) = σ'.nfts (c, i) := hag (.nft c i) (by simp [footprint])
    have hledger : σ.ledger = σ'.ledger := hag .ledger (by simp [footprint])
    refine ⟨_, .mintNft c i n l (hentry ▸ hnft) hunsold howner (hledger ▸ hpay), fun k hk => ?_⟩
    cases k with
    | nft c' i' => exact StorageMap.insert_congr (hag _ hk)
    | ledger => rfl
    | _ => exact hag _ hk

omit [DecidableEq AccountId] in
/-- So does the error it fails with. -/
lemma FailRule.congr {e : DispatchError Error} (h : FailRule T σ s call e τ)
    (hag : (stateCells AccountId Ledger).AgreeOn (footprint s call) σ σ') :
    ∃ τ', FailRule T σ' s call e τ' := by
  cases call with
  | registerArtist =>
    have hartist : σ.artists s = σ'.artists s := hag (.artist s) (by simp [footprint])
    have hledger : σ.ledger = σ'.ledger := hag .ledger (by simp [footprint])
    cases h with
    | alreadyRegistered hold => exact ⟨_, .alreadyRegistered (hartist ▸ hold)⟩
    | feeRefused e hnew hpay => exact ⟨_, .feeRefused e (hartist ▸ hnew) (hledger ▸ hpay)⟩
  | createCollection metadata =>
    have hold : σ.artists s = σ'.artists s := hag (.artist s) (by simp [footprint])
    cases h with
    | notRegisteredArtist _ hartist => exact ⟨_, .notRegisteredArtist metadata (hold ▸ hartist)⟩
    | collectionMetadataInvalid _ hartist hlen =>
      exact ⟨_, .collectionMetadataInvalid metadata (hold ▸ hartist) hlen⟩
  | deleteCollection c =>
    have hentry : σ.collections c = σ'.collections c := hag (.collection c) (by simp [footprint])
    cases h with
    | deletedNotFound _ hcol => exact ⟨_, .deletedNotFound c (hentry ▸ hcol)⟩
    | notCollectionOwner _ col hcol hcreator =>
      exact ⟨_, .notCollectionOwner c col (hentry ▸ hcol) hcreator⟩
  | createNft c metadata price =>
    have hentry : σ.collections c = σ'.collections c := hag (.collection c) (by simp [footprint])
    cases h with
    | createdInNotFound _ _ _ hcol =>
      exact ⟨_, .createdInNotFound c metadata price (hentry ▸ hcol)⟩
    | nftMetadataInvalid _ _ _ col hcol hlen =>
      exact ⟨_, .nftMetadataInvalid c metadata price col (hentry ▸ hcol) hlen⟩
    | collectionFull _ _ _ col md hcol hmd hfull =>
      exact ⟨_, .collectionFull c metadata price col md (hentry ▸ hcol) hmd hfull⟩
  | transferNft c i dest =>
    have hentry : σ.nfts (c, i) = σ'.nfts (c, i) := hag (.nft c i) (by simp [footprint])
    cases h with
    | transferredNotFound _ _ _ hnft =>
      exact ⟨_, .transferredNotFound c i dest (hentry ▸ hnft)⟩
    | transferredNotOwned _ _ _ n hnft howner =>
      exact ⟨_, .transferredNotOwned c i dest n (hentry ▸ hnft) howner⟩
  | burnNft c i =>
    have hentry : σ.nfts (c, i) = σ'.nfts (c, i) := hag (.nft c i) (by simp [footprint])
    have hlist : σ.collections c = σ'.collections c := hag (.collection c) (by simp [footprint])
    cases h with
    | burnedNotFound _ _ hnft => exact ⟨_, .burnedNotFound c i (hentry ▸ hnft)⟩
    | burnedNotOwned _ _ n hnft howner =>
      exact ⟨_, .burnedNotOwned c i n (hentry ▸ hnft) howner⟩
    | burnedSold _ _ n hnft howner hsold =>
      exact ⟨_, .burnedSold c i n (hentry ▸ hnft) howner hsold⟩
    | burnedFromNotFound _ _ n hnft howner hunsold hcol =>
      exact ⟨_, .burnedFromNotFound c i n (hentry ▸ hnft) howner hunsold (hlist ▸ hcol)⟩
  | mintNft c i =>
    have hentry : σ.nfts (c, i) = σ'.nfts (c, i) := hag (.nft c i) (by simp [footprint])
    have hledger : σ.ledger = σ'.ledger := hag .ledger (by simp [footprint])
    cases h with
    | boughtNotFound _ _ hnft => exact ⟨_, .boughtNotFound c i (hentry ▸ hnft)⟩
    | boughtSold _ _ n hnft hsold => exact ⟨_, .boughtSold c i n (hentry ▸ hnft) hsold⟩
    | boughtOwn _ _ n hnft hunsold howner =>
      exact ⟨_, .boughtOwn c i n (hentry ▸ hnft) hunsold howner⟩
    | priceRefused _ _ n e hnft hunsold howner hpay =>
      exact ⟨_, .priceRefused c i n e (hentry ▸ hnft) hunsold howner (hledger ▸ hpay)⟩

/-- A dispatched call does not tell states apart that agree on its footprint. -/
lemma dispatch_congr {x : Extrinsic AccountId}
    (hag : (stateCells AccountId Ledger).AgreeOn (footprint x.signer x.call) σ σ') :
    (dispatch T σ x).1 = (dispatch T σ' x).1 ∧
      (stateCells AccountId Ledger).AgreeOn (footprint x.signer x.call)
        (dispatch T σ x).2 (dispatch T σ' x).2 := by
  rcases hd : dispatch T σ x with ⟨e | ⟨⟩, τ⟩
  · obtain ⟨rfl, υ, hfail⟩ := dispatch_error_iff.mp hd
    obtain ⟨υ', hfail'⟩ := hfail.congr hag
    rw [dispatch_error_iff.mpr ⟨rfl, υ', hfail'⟩]
    exact ⟨rfl, hag⟩
  · obtain ⟨τ', hrule, hag'⟩ := (dispatch_ok_iff.mp hd).congr hag
    rw [dispatch_ok_iff.mpr hrule]
    exact ⟨rfl, hag'⟩

/-- A dispatched call has its footprint. -/
theorem dispatch_hasFootprint (T : Config AccountId Ledger) (x : Extrinsic AccountId) :
    HasFootprint (stateCells AccountId Ledger) (footprint x.signer x.call)
      (fun σ => dispatch T σ x) where
  frame σ k hk := by
    obtain ⟨-, hstep⟩ | ⟨-, hrule⟩ := step_cases T σ x
    · exact congrArg (fun τ => (stateCells AccountId Ledger).read τ k) hstep
    · exact read_of_notMem_footprint hrule hk
  result _ _ hag := (dispatch_congr hag).1
  agree _ _ hag := (dispatch_congr hag).2

/-! ### Commuting calls -/

/-- Each of the two extrinsics returns the same whether it comes first or second, and both
orders leave the same storages. -/
structure OrderIrrelevant (T : Config AccountId Ledger) (σ : State AccountId Ledger)
    (x y : Extrinsic AccountId) : Prop where
  left : (dispatch T (step T σ y) x).1 = (dispatch T σ x).1
  right : (dispatch T (step T σ x) y).1 = (dispatch T σ y).1
  storage : SameStorage (step T (step T σ x) y) (step T (step T σ y) x)

/-- Extrinsics with disjoint footprints commute. -/
theorem orderIrrelevant_of_disjoint {x y : Extrinsic AccountId}
    (h : Disjoint (footprint x.signer x.call) (footprint y.signer y.call)) :
    OrderIrrelevant T σ x y where
  left := (dispatch_hasFootprint T x).result_eq (dispatch_hasFootprint T y) h σ
  right := (dispatch_hasFootprint T y).result_eq (dispatch_hasFootprint T x) h.symm σ
  storage := sameStorage_of_read_eq fun k =>
    (dispatch_hasFootprint T y).read_comm (dispatch_hasFootprint T x) h.symm σ k

/-! ### Two burns in one collection -/

section

variable {c : CollectionId} {i j : ItemId} {s' : AccountId}

omit [DecidableEq AccountId] in
/-- Take an item off the list of a collection. -/
def Collection.delist (i : ItemId) (col : Collection AccountId) : Collection AccountId :=
  { col with nfts := col.nfts.retain (· != i) }

omit [DecidableEq AccountId] in
lemma Collection.delist_comm (i j : ItemId) (col : Collection AccountId) :
    (col.delist j).delist i = (col.delist i).delist j := by
  have hnfts : (col.nfts.retain (· != j)).retain (· != i) =
      (col.nfts.retain (· != i)).retain (· != j) :=
    BoundedVec.ext (List.filter_comm _ _ _)
  simp only [Collection.delist, hnfts]

/-- What a burn does to the state if it succeeds. -/
def State.burn (σ : State AccountId Ledger) (s : AccountId) (c : CollectionId) (i : ItemId) :
    State AccountId Ledger :=
  { σ with
    nfts := σ.nfts.remove (c, i)
    collections := σ.collections.modify c (Collection.delist i)
    events := σ.events ++ [.nftBurned c i s] }

lemma step_burnNft_of_succeeds (h : succeeds T σ ⟨s, .burnNft c i⟩ = true) :
    step T σ ⟨s, .burnNft c i⟩ = σ.burn s c i := by
  have hrule := callRule_of_succeeds h
  generalize step T _ _ = τ at hrule
  cases hrule with
  | burnNft _ _ n col hnft howner hunsold hcol =>
    rw [State.burn, StorageMap.modify_eq_insert hcol]
    rfl

/-- The result of a burn depends on the NFT, and on whether the collection is stored. -/
lemma dispatch_burnNft_congr (hnft : σ.nfts (c, i) = σ'.nfts (c, i))
    (hstored : σ.collections c = none ↔ σ'.collections c = none) :
    (dispatch T σ' ⟨s, .burnNft c i⟩).1 = (dispatch T σ ⟨s, .burnNft c i⟩).1 := by
  rcases hd : dispatch T σ ⟨s, .burnNft c i⟩ with ⟨e | ⟨⟩, τ⟩
  · obtain ⟨rfl, υ, hfail⟩ := dispatch_error_iff.mp hd
    have hfail' : ∃ υ', FailRule T σ' s (.burnNft c i) e υ' := by
      cases hfail with
      | burnedNotFound _ _ hn => exact ⟨_, .burnedNotFound c i (hnft ▸ hn)⟩
      | burnedNotOwned _ _ n hn howner => exact ⟨_, .burnedNotOwned c i n (hnft ▸ hn) howner⟩
      | burnedSold _ _ n hn howner hsold =>
        exact ⟨_, .burnedSold c i n (hnft ▸ hn) howner hsold⟩
      | burnedFromNotFound _ _ n hn howner hunsold hcol =>
        exact ⟨_, .burnedFromNotFound c i n (hnft ▸ hn) howner hunsold (hstored.mp hcol)⟩
    rw [dispatch_error_iff.mpr ⟨rfl, hfail'⟩]
  · have hrule := dispatch_ok_iff.mp hd
    cases hrule with
    | burnNft _ _ n col hn howner hunsold hcol =>
      have hcol' : σ'.collections c ≠ none := fun h => by simp [hstored.mpr h] at hcol
      obtain ⟨col', hcol'⟩ := Option.ne_none_iff_exists'.mp hcol'
      rw [dispatch_ok_iff.mpr (.burnNft c i n col' (hnft ▸ hn) howner hunsold hcol')]

/-- Burning one item leaves the others and the collection stored. -/
lemma dispatch_burnNft_after_burnNft (hij : i ≠ j) :
    (dispatch T (step T σ ⟨s', .burnNft c j⟩) ⟨s, .burnNft c i⟩).1 =
      (dispatch T σ ⟨s, .burnNft c i⟩).1 := by
  obtain ⟨-, hstep⟩ | ⟨hok, -⟩ := step_cases T σ ⟨s', .burnNft c j⟩
  · rw [hstep]
  · rw [step_burnNft_of_succeeds hok]
    refine dispatch_burnNft_congr (StorageMap.remove_of_ne _ ?_).symm ?_
    · simp [hij]
    · simp [State.burn, StorageMap.modify, StorageMap.put]

/-- Burns of two items of one collection commute. -/
theorem orderIrrelevant_burnNft (hij : i ≠ j) :
    OrderIrrelevant T σ ⟨s, .burnNft c i⟩ ⟨s', .burnNft c j⟩ where
  left := dispatch_burnNft_after_burnNft hij
  right := dispatch_burnNft_after_burnNft hij.symm
  storage := by
    have hi : succeeds T (step T σ ⟨s', .burnNft c j⟩) ⟨s, .burnNft c i⟩ =
        succeeds T σ ⟨s, .burnNft c i⟩ :=
      congrArg Except.isOk (dispatch_burnNft_after_burnNft hij)
    have hj : succeeds T (step T σ ⟨s, .burnNft c i⟩) ⟨s', .burnNft c j⟩ =
        succeeds T σ ⟨s', .burnNft c j⟩ :=
      congrArg Except.isOk (dispatch_burnNft_after_burnNft hij.symm)
    cases hx : succeeds T σ ⟨s, .burnNft c i⟩ with
    | false =>
      rw [step_of_not_succeeds (hi.trans hx), step_of_not_succeeds hx]
      exact .refl _
    | true =>
      cases hy : succeeds T σ ⟨s', .burnNft c j⟩ with
      | false =>
        rw [step_of_not_succeeds (hj.trans hy), step_of_not_succeeds hy]
        exact .refl _
      | true =>
        rw [step_burnNft_of_succeeds (hj.trans hy), step_burnNft_of_succeeds (hi.trans hx),
          step_burnNft_of_succeeds hx, step_burnNft_of_succeeds hy]
        exact ⟨rfl, StorageMap.modify_comm _ _ (Collection.delist_comm j i),
          StorageMap.remove_comm _ _ _, rfl, rfl, rfl⟩

end

/-! ### Independent calls -/

namespace Call

omit [DecidableEq AccountId]

/-- The collection id a call names. -/
def collection : Call AccountId → Option CollectionId
  | .registerArtist | .createCollection _ => none
  | .deleteCollection c | .createNft c _ _ | .transferNft c _ _ | .burnNft c _ | .mintNft c _ =>
    some c

/-- The NFT a call names. -/
def item : Call AccountId → Option (CollectionId × ItemId)
  | .transferNft c i _ | .burnNft c i | .mintNft c i => some (c, i)
  | _ => none

def isBurn : Call AccountId → Bool
  | .burnNft _ _ => true
  | _ => false

def isMint : Call AccountId → Bool
  | .mintNft _ _ => true
  | _ => false

/-- The calls name different collections, or they name different NFTs. -/
def Independent (x y : Call AccountId) : Prop :=
  (∃ c d, x.collection = some c ∧ y.collection = some d ∧ c ≠ d) ∨
    ∃ k l, x.item = some k ∧ y.item = some l ∧ k ≠ l

end Call

/-- The collection a cell belongs to. -/
def StateCell.owningCollection : StateCell AccountId → Option CollectionId
  | .collection c | .nft c _ | .itemCounter c => some c
  | _ => none

omit [DecidableEq AccountId] in
/-- A call that names a collection works inside it, but for the payment of a sale. -/
lemma owningCollection_of_mem_footprint {c : CollectionId} (hc : call.collection = some c)
    {k : StateCell AccountId} (hk : k ∈ footprint s call) :
    k.owningCollection = some c ∨ (k = .ledger ∧ call.isMint = true) := by
  cases call with
  | registerArtist | createCollection => cases hc
  | deleteCollection | transferNft | burnNft =>
    cases hc
    simp only [footprint, Set.mem_insert_iff, Set.mem_singleton_iff] at hk
    rcases hk with rfl | rfl <;> exact Or.inl rfl
  | createNft =>
    cases hc
    rcases hk with (rfl | rfl) | ⟨i, rfl⟩ <;> exact Or.inl rfl
  | mintNft =>
    cases hc
    rcases hk with rfl | rfl
    · exact Or.inl rfl
    · exact Or.inr ⟨rfl, rfl⟩

omit [DecidableEq AccountId] in
/-- A call that names an NFT works on it alone, but for a burn, which also edits the list, and
for the payment of a sale. -/
lemma eq_of_mem_footprint {c : CollectionId} {i : ItemId} (hi : call.item = some (c, i))
    {k : StateCell AccountId} (hk : k ∈ footprint s call) :
    k = .nft c i ∨ (k = .collection c ∧ call.isBurn = true) ∨
      (k = .ledger ∧ call.isMint = true) := by
  cases call with
  | registerArtist | createCollection | deleteCollection | createNft => cases hi
  | transferNft =>
    cases hi
    exact Or.inl hk
  | burnNft =>
    cases hi
    rcases hk with rfl | rfl
    · exact Or.inl rfl
    · exact Or.inr (Or.inl ⟨rfl, rfl⟩)
  | mintNft =>
    cases hi
    rcases hk with rfl | rfl
    · exact Or.inl rfl
    · exact Or.inr (Or.inr ⟨rfl, rfl⟩)

section

variable {x y : Extrinsic AccountId}

omit [DecidableEq AccountId] in
/-- Calls on different collections, one of them a sale at most, have disjoint footprints. -/
lemma disjoint_of_collection_ne {c d : CollectionId} (hx : x.call.collection = some c)
    (hy : y.call.collection = some d) (hcd : c ≠ d)
    (hmint : ¬(x.call.isMint = true ∧ y.call.isMint = true)) :
    Disjoint (footprint x.signer x.call) (footprint y.signer y.call) := by
  apply Set.disjoint_left.mpr
  intro k hkx hky
  obtain hkx | ⟨rfl, hmx⟩ := owningCollection_of_mem_footprint hx hkx
  · obtain hky | ⟨rfl, -⟩ := owningCollection_of_mem_footprint hy hky
    · exact hcd (Option.some.inj (hkx.symm.trans hky))
    · cases hkx
  · obtain hky | ⟨-, hmy⟩ := owningCollection_of_mem_footprint hy hky
    · cases hky
    · exact hmint ⟨hmx, hmy⟩

omit [DecidableEq AccountId] in
/-- So have calls on different NFTs that are not both burns. -/
lemma disjoint_of_item_ne {k l : CollectionId × ItemId} (hx : x.call.item = some k)
    (hy : y.call.item = some l) (hkl : k ≠ l)
    (hmint : ¬(x.call.isMint = true ∧ y.call.isMint = true))
    (hburn : ¬(x.call.isBurn = true ∧ y.call.isBurn = true)) :
    Disjoint (footprint x.signer x.call) (footprint y.signer y.call) := by
  apply Set.disjoint_left.mpr
  intro cell hcx hcy
  obtain rfl | ⟨rfl, hbx⟩ | ⟨rfl, hmx⟩ := eq_of_mem_footprint hx hcx
  · obtain h | ⟨h, -⟩ | ⟨h, -⟩ := eq_of_mem_footprint hy hcy
    · injection h with hc hi
      exact hkl (Prod.ext hc hi)
    · cases h
    · cases h
  · obtain h | ⟨-, hby⟩ | ⟨h, -⟩ := eq_of_mem_footprint hy hcy
    · cases h
    · exact hburn ⟨hbx, hby⟩
    · cases h
  · obtain h | ⟨h, -⟩ | ⟨-, hmy⟩ := eq_of_mem_footprint hy hcy
    · cases h
    · cases h
    · exact hmint ⟨hmx, hmy⟩

end

/-- Independent calls, one of them a sale at most, can change places in every state. -/
theorem independent_calls_commute (T : Config AccountId Ledger) (σ : State AccountId Ledger)
    (x y : Extrinsic AccountId) (hind : x.call.Independent y.call)
    (hmint : ¬(x.call.isMint = true ∧ y.call.isMint = true)) : OrderIrrelevant T σ x y := by
  obtain ⟨c, d, hx, hy, hcd⟩ | ⟨⟨c, i⟩, ⟨d, j⟩, hx, hy, hne⟩ := hind
  · exact orderIrrelevant_of_disjoint (disjoint_of_collection_ne hx hy hcd hmint)
  · by_cases hburn : x.call.isBurn = true ∧ y.call.isBurn = true
    · obtain ⟨s, call⟩ := x
      obtain ⟨s', call'⟩ := y
      cases call with
      | burnNft =>
        cases call' with
        | burnNft =>
          cases hx
          cases hy
          by_cases hcd : c = d
          · subst hcd
            exact orderIrrelevant_burnNft fun hij => hne (by rw [hij])
          · exact orderIrrelevant_of_disjoint (disjoint_of_collection_ne rfl rfl hcd hmint)
        | _ => cases hburn.2
      | _ => cases hburn.1
    · exact orderIrrelevant_of_disjoint (disjoint_of_item_ne hx hy hne hmint hburn)

/-- A sale of one NFT and the burn of another one in the same collection. -/
theorem independent_calls_commute_demo :
    OrderIrrelevant demoRuntime
      (after demoRuntime demoLedger
        [⟨1, .registerArtist⟩, ⟨1, .createCollection []⟩, ⟨1, .createNft 0 [] 7⟩,
          ⟨2, .createNft 0 [] 5⟩])
      ⟨3, .mintNft 0 0⟩ ⟨2, .burnNft 0 1⟩ :=
  independent_calls_commute demoRuntime _ _ _
    (Or.inr ⟨(0, 0), (0, 1), rfl, rfl, by decide⟩) (by decide)

end FarcasterNft
