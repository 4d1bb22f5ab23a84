import FarcasterNft.Pallet.History

/-!
# Failing calls

`FailRule` lists the ways a call can fail, and what its body has written by then; `exec_error_iff`
says that the list is exact. Two of the failures come late: creating an NFT in a full collection
has already stored the NFT, and burning an NFT of a deleted collection has already removed it.
All other calls do their checks first. The pallet relies on a storage layer to roll the writes of
these two back. The code that `#[pallet::call]` generates opens one around each body, so that it
is there also when another pallet or a unit test calls the function directly; a direct execution
leaves a trace only without it.
-/

namespace FarcasterNft

open Frame

variable {AccountId Ledger : Type} [DecidableEq AccountId]

/-! ### What a failing call has done -/

/-- `FailRule T σ s call e τ`: the call, signed by `s` in the state `σ`, fails with the error
`e`, and has turned the state into `τ` by then. -/
inductive FailRule (T : Config AccountId Ledger) (σ : State AccountId Ledger) (s : AccountId) :
    Call AccountId → DispatchError Error → State AccountId Ledger → Prop where
  | alreadyRegistered (hold : σ.artists s ≠ none) :
      FailRule T σ s .registerArtist (.module .alreadyRegistered) σ
  | feeRefused (e : CurrencyError) (hnew : σ.artists s = none)
      (hpay : T.currency.transfer σ.ledger s T.palletAccount (registrationFee T) .keepAlive
        = .error e) :
      FailRule T σ s .registerArtist (.currency e) σ
  | notRegisteredArtist (metadata : List UInt8) (hartist : (σ.artists s).getD false = false) :
      FailRule T σ s (.createCollection metadata) (.module .notRegisteredArtist) σ
  | collectionMetadataInvalid (metadata : List UInt8) (hartist : (σ.artists s).getD false = true)
      (hlen : 256 < metadata.length) :
      FailRule T σ s (.createCollection metadata) (.module .metadataInvalid) σ
  | deletedNotFound (c : CollectionId) (hcol : σ.collections c = none) :
      FailRule T σ s (.deleteCollection c) (.module .collectionNotFound) σ
  | notCollectionOwner (c : CollectionId) (col : Collection AccountId)
      (hcol : σ.collections c = some col) (hcreator : col.creator ≠ s) :
      FailRule T σ s (.deleteCollection c) (.module .notCollectionOwner) σ
  | createdInNotFound (c : CollectionId) (metadata : List UInt8) (price : ℕ)
      (hcol : σ.collections c = none) :
      FailRule T σ s (.createNft c metadata price) (.module .collectionNotFound) σ
  | nftMetadataInvalid (c : CollectionId) (metadata : List UInt8) (price : ℕ)
      (col : Collection AccountId) (hcol : σ.collections c = some col)
      (hlen : 256 < metadata.length) :
      FailRule T σ s (.createNft c metadata price) (.module .metadataInvalid) σ
  | collectionFull (c : CollectionId) (metadata : List UInt8) (price : ℕ)
      (col : Collection AccountId) (md : BoundedVec UInt8 256) (hcol : σ.collections c = some col)
      (hmd : md.val = metadata) (hfull : 256 ≤ col.nfts.val.length) :
      FailRule T σ s (.createNft c metadata price) (.module .collectionNotFound)
        { σ with nfts := σ.nfts.insert (c, σ.itemCounter c) ⟨s, md, false, price⟩ }
  | transferredNotFound (c : CollectionId) (i : ItemId) (dest : AccountId)
      (hnft : σ.nfts (c, i) = none) :
      FailRule T σ s (.transferNft c i dest) (.module .nftNotFound) σ
  | transferredNotOwned (c : CollectionId) (i : ItemId) (dest : AccountId) (n : NFT AccountId)
      (hnft : σ.nfts (c, i) = some n) (howner : n.owner ≠ s) :
      FailRule T σ s (.transferNft c i dest) (.module .notNFTOwner) σ
  | burnedNotFound (c : CollectionId) (i : ItemId) (hnft : σ.nfts (c, i) = none) :
      FailRule T σ s (.burnNft c i) (.module .nftNotFound) σ
  | burnedNotOwned (c : CollectionId) (i : ItemId) (n : NFT AccountId)
      (hnft : σ.nfts (c, i) = some n) (howner : n.owner ≠ s) :
      FailRule T σ s (.burnNft c i) (.module .notNFTOwner) σ
  | burnedSold (c : CollectionId) (i : ItemId) (n : NFT AccountId)
      (hnft : σ.nfts (c, i) = some n) (howner : n.owner = s) (hsold : n.isSold = true) :
      FailRule T σ s (.burnNft c i) (.module .nftAlreadySold) σ
  | burnedFromNotFound (c : CollectionId) (i : ItemId) (n : NFT AccountId)
      (hnft : σ.nfts (c, i) = some n) (howner : n.owner = s) (hunsold : n.isSold = false)
      (hcol : σ.collections c = none) :
      FailRule T σ s (.burnNft c i) (.module .collectionNotFound)
        { σ with nfts := σ.nfts.remove (c, i) }
  | boughtNotFound (c : CollectionId) (i : ItemId) (hnft : σ.nfts (c, i) = none) :
      FailRule T σ s (.mintNft c i) (.module .nftNotFound) σ
  | boughtSold (c : CollectionId) (i : ItemId) (n : NFT AccountId)
      (hnft : σ.nfts (c, i) = some n) (hsold : n.isSold = true) :
      FailRule T σ s (.mintNft c i) (.module .nftAlreadySold) σ
  | boughtOwn (c : CollectionId) (i : ItemId) (n : NFT AccountId)
      (hnft : σ.nfts (c, i) = some n) (hunsold : n.isSold = false) (howner : n.owner = s) :
      FailRule T σ s (.mintNft c i) (.module .notNFTOwner) σ
  | priceRefused (c : CollectionId) (i : ItemId) (n : NFT AccountId) (e : CurrencyError)
      (hnft : σ.nfts (c, i) = some n) (hunsold : n.isSold = false) (howner : n.owner ≠ s)
      (hpay : T.currency.transfer σ.ledger s n.owner n.price .keepAlive = .error e) :
      FailRule T σ s (.mintNft c i) (.currency e) σ

variable {T : Config AccountId Ledger} {σ τ : State AccountId Ledger} {s : AccountId}
variable {e : DispatchError Error}

omit [DecidableEq AccountId] in
@[simp] lemma exec_currencyTransfer_error_iff {src dst : AccountId} {v : ℕ}
    {req : ExistenceRequirement} :
    exec (currencyTransfer T src dst v req) σ = (.error e, τ) ↔
      ∃ e', T.currency.transfer σ.ledger src dst v req = .error e' ∧ e = .currency e' ∧ τ = σ := by
  simp only [currencyTransfer, exec_bind, exec_get]
  cases T.currency.transfer σ.ledger src dst v req with
  | error e' => simp [eq_comm]
  | ok l => simp

lemma exec_registerArtist_error_iff :
    exec (registerArtist T (.signed s)) σ = (.error e, τ) ↔
      FailRule T σ s .registerArtist e τ := by
  simp [registerArtist, exec_bind_error_iff]
  constructor
  · rintro (⟨hold, rfl, rfl⟩ | ⟨hnew, e', hpay, rfl, rfl⟩)
    · exact .alreadyRegistered (Option.isSome_iff_ne_none.mp hold)
    · exact .feeRefused e' hnew hpay
  · intro h
    cases h with
    | alreadyRegistered hold => exact Or.inl ⟨Option.isSome_iff_ne_none.mpr hold, rfl, rfl⟩
    | feeRefused e' hnew hpay => exact Or.inr ⟨hnew, e', hpay, rfl, rfl⟩

omit [DecidableEq AccountId] in
lemma exec_createCollection_error_iff {metadata : List UInt8} :
    exec (createCollection (.signed s) metadata) σ = (.error e, τ) ↔
      FailRule T σ s (.createCollection metadata) e τ := by
  simp [createCollection, exec_bind_error_iff, BoundedVec.tryFrom_eq_none_iff]
  constructor
  · rintro (⟨hartist, rfl, rfl⟩ | ⟨hartist, hlen, rfl, rfl⟩)
    · exact .notRegisteredArtist metadata hartist
    · exact .collectionMetadataInvalid metadata hartist hlen
  · intro h
    cases h with
    | notRegisteredArtist _ hartist => exact Or.inl ⟨hartist, rfl, rfl⟩
    | collectionMetadataInvalid _ hartist hlen => exact Or.inr ⟨hartist, hlen, rfl, rfl⟩

lemma exec_deleteCollection_error_iff {c : CollectionId} :
    exec (deleteCollection (.signed s) c) σ = (.error e, τ) ↔
      FailRule T σ s (.deleteCollection c) e τ := by
  simp [deleteCollection, exec_bind_error_iff]
  constructor
  · rintro (⟨hcol, rfl, rfl⟩ | ⟨col, hcol, hcreator, rfl, rfl⟩)
    · exact .deletedNotFound c hcol
    · exact .notCollectionOwner c col hcol hcreator
  · intro h
    cases h with
    | deletedNotFound _ hcol => exact Or.inl ⟨hcol, rfl, rfl⟩
    | notCollectionOwner _ col hcol hcreator => exact Or.inr ⟨col, hcol, hcreator, rfl, rfl⟩

omit [DecidableEq AccountId] in
lemma exec_createNft_error_iff {c : CollectionId} {metadata : List UInt8} {price : ℕ} :
    exec (createNft (.signed s) c metadata price) σ = (.error e, τ) ↔
      FailRule T σ s (.createNft c metadata price) e τ := by
  simp [createNft, exec_bind_error_iff, MapItem.exec_tryMutate_error_iff,
    BoundedVec.tryFrom_eq_none_iff, BoundedVec.tryPush_eq_none_iff]
  constructor
  · rintro (⟨hcol, rfl, rfl⟩ | ⟨hstored, ⟨hlen, rfl, rfl⟩ | ⟨md, hmd, hfull⟩⟩)
    · exact .createdInNotFound c metadata price hcol
    · obtain ⟨col, hcol⟩ := Option.isSome_iff_exists.mp hstored
      exact .nftMetadataInvalid c metadata price col hcol hlen
    · obtain ⟨hcol, -⟩ | ⟨col, hcol, hfull, rfl, rfl⟩ := hfull
      · simp [hcol] at hstored
      · exact .collectionFull c metadata price col md hcol
          (BoundedVec.tryFrom_eq_some_iff.mp hmd) hfull
  · intro h
    cases h with
    | createdInNotFound _ _ _ hcol => exact Or.inl ⟨hcol, rfl, rfl⟩
    | nftMetadataInvalid _ _ _ col hcol hlen =>
      exact Or.inr ⟨by simp [hcol], Or.inl ⟨hlen, rfl, rfl⟩⟩
    | collectionFull _ _ _ col md hcol hmd hfull =>
      exact Or.inr ⟨by simp [hcol], Or.inr ⟨md, BoundedVec.tryFrom_eq_some_iff.mpr hmd,
        Or.inr ⟨col, hcol, hfull, rfl, rfl⟩⟩⟩

lemma exec_transferNft_error_iff {c : CollectionId} {i : ItemId} {dest : AccountId} :
    exec (transferNft (.signed s) c i dest) σ = (.error e, τ) ↔
      FailRule T σ s (.transferNft c i dest) e τ := by
  simp [transferNft, exec_bind_error_iff, MapItem.exec_tryMutate_error_iff]
  constructor
  · rintro (⟨hnft, rfl, rfl⟩ | ⟨n, hnft, howner, rfl, rfl⟩)
    · exact .transferredNotFound c i dest hnft
    · exact .transferredNotOwned c i dest n hnft howner
  · intro h
    cases h with
    | transferredNotFound _ _ _ hnft => exact Or.inl ⟨hnft, rfl, rfl⟩
    | transferredNotOwned _ _ _ n hnft howner => exact Or.inr ⟨n, hnft, howner, rfl, rfl⟩

lemma exec_burnNft_error_iff {c : CollectionId} {i : ItemId} :
    exec (burnNft (.signed s) c i) σ = (.error e, τ) ↔ FailRule T σ s (.burnNft c i) e τ := by
  simp [burnNft, exec_bind_error_iff, MapItem.exec_tryMutate_error_iff]
  constructor
  · rintro (⟨hnft, rfl, rfl⟩ | ⟨n, hnft, ⟨howner, rfl, rfl⟩ | ⟨howner, hlate⟩⟩)
    · exact .burnedNotFound c i hnft
    · exact .burnedNotOwned c i n hnft howner
    · obtain ⟨hsold, rfl, rfl⟩ | ⟨hunsold, hcol, rfl, rfl⟩ := hlate
      · exact .burnedSold c i n hnft howner hsold
      · exact .burnedFromNotFound c i n hnft howner hunsold hcol
  · intro h
    cases h with
    | burnedNotFound _ _ hnft => exact Or.inl ⟨hnft, rfl, rfl⟩
    | burnedNotOwned _ _ n hnft howner => exact Or.inr ⟨n, hnft, Or.inl ⟨howner, rfl, rfl⟩⟩
    | burnedSold _ _ n hnft howner hsold =>
      exact Or.inr ⟨n, hnft, Or.inr ⟨howner, Or.inl ⟨hsold, rfl, rfl⟩⟩⟩
    | burnedFromNotFound _ _ n hnft howner hunsold hcol =>
      exact Or.inr ⟨n, hnft, Or.inr ⟨howner, Or.inr ⟨hunsold, hcol, rfl, rfl⟩⟩⟩

lemma exec_mintNft_error_iff {c : CollectionId} {i : ItemId} :
    exec (mintNft T (.signed s) c i) σ = (.error e, τ) ↔ FailRule T σ s (.mintNft c i) e τ := by
  simp [mintNft, exec_bind_error_iff, MapItem.exec_tryMutate_error_iff]
  constructor
  · rintro (⟨hnft, rfl, rfl⟩ | ⟨n, hnft, ⟨hsold, rfl, rfl⟩ | ⟨hunsold, hlate⟩⟩)
    · exact .boughtNotFound c i hnft
    · exact .boughtSold c i n hnft hsold
    · obtain ⟨howner, rfl, rfl⟩ | ⟨howner, hlate⟩ := hlate
      · exact .boughtOwn c i n hnft hunsold howner
      · obtain ⟨e', hpay, rfl, rfl⟩ | ⟨l, -, hvacant, -⟩ := hlate
        · exact .priceRefused c i n e' hnft hunsold howner hpay
        · -- the NFT is still there when it is looked up again after the payment
          simp [hnft] at hvacant
  · intro h
    cases h with
    | boughtNotFound _ _ hnft => exact Or.inl ⟨hnft, rfl, rfl⟩
    | boughtSold _ _ n hnft hsold => exact Or.inr ⟨n, hnft, Or.inl ⟨hsold, rfl, rfl⟩⟩
    | boughtOwn _ _ n hnft hunsold howner =>
      exact Or.inr ⟨n, hnft, Or.inr ⟨hunsold, Or.inl ⟨howner, rfl, rfl⟩⟩⟩
    | priceRefused _ _ n e' hnft hunsold howner hpay =>
      exact Or.inr ⟨n, hnft, Or.inr ⟨hunsold, Or.inr ⟨howner, Or.inl ⟨e', hpay, rfl, rfl⟩⟩⟩⟩

/-- A call executed directly fails exactly by one of the rules. -/
theorem exec_error_iff {call : Call AccountId} :
    exec (call.apply T (.signed s)) σ = (.error e, τ) ↔ FailRule T σ s call e τ := by
  cases call with
  | registerArtist => exact exec_registerArtist_error_iff
  | createCollection metadata => exact exec_createCollection_error_iff
  | deleteCollection c => exact exec_deleteCollection_error_iff
  | createNft c metadata price => exact exec_createNft_error_iff
  | transferNft c i dest => exact exec_transferNft_error_iff
  | burnNft c i => exact exec_burnNft_error_iff
  | mintNft c i => exact exec_mintNft_error_iff

/-- A dispatched extrinsic fails by one of the rules, and is then rolled back. -/
theorem dispatch_error_iff {x : Extrinsic AccountId} :
    dispatch T σ x = (.error e, τ) ↔ τ = σ ∧ ∃ υ, FailRule T σ x.signer x.call e υ := by
  rw [dispatch, withStorageLayer_error_iff]
  exact and_congr_right fun _ => exists_congr fun _ => exec_error_iff

/-! ### Direct execution -/

/-- Execute an extrinsic directly, by calling its function. The parameter `layered` stands for the
code generated around the bodies: whether it opens a storage layer. -/
def execute (layered : Bool) (T : Config AccountId Ledger) (σ : State AccountId Ledger)
    (x : Extrinsic AccountId) : Except (DispatchError Error) Unit × State AccountId Ledger :=
  if layered then withStorageLayer (x.call.apply T (.signed x.signer)) σ
  else exec (x.call.apply T (.signed x.signer)) σ

/-- The state a run of direct executions leads to, failed ones included. -/
def afterDirect (layered : Bool) (T : Config AccountId Ledger) (l : Ledger)
    (xs : List (Extrinsic AccountId)) : State AccountId Ledger :=
  run (fun σ x => (execute layered T σ x).2) (.genesis l) xs

/-- Two states with the same storages and the same ledger. -/
structure SameStorage (σ τ : State AccountId Ledger) : Prop where
  artists : τ.artists = σ.artists
  collections : τ.collections = σ.collections
  nfts : τ.nfts = σ.nfts
  nextItemId : τ.nextItemId = σ.nextItemId
  nextCollectionId : τ.nextCollectionId = σ.nextCollectionId
  ledger : τ.ledger = σ.ledger

/-- If the extrinsic fails when executed directly, it leaves all storages as they were. -/
def LeavesNoTrace (layered : Bool) (T : Config AccountId Ledger) (σ : State AccountId Ledger)
    (x : Extrinsic AccountId) : Prop :=
  ∀ e τ, execute layered T σ x = (.error e, τ) → SameStorage σ τ

/-- The extrinsic does not fail after its first write: it does not create an NFT in a full
collection (unless the same NFT is left there by an earlier failure), and its signer does not
burn an unsold NFT of his own whose collection is not stored. -/
def FailsEarly (σ : State AccountId Ledger) (x : Extrinsic AccountId) : Prop :=
  match x.call with
  | .createNft c metadata price =>
    ∀ col md, σ.collections c = some col → md.val = metadata → 256 ≤ col.nfts.val.length →
      σ.nfts (c, σ.itemCounter c) = some ⟨x.signer, md, false, price⟩
  | .burnNft c i =>
    ∀ n, σ.nfts (c, i) = some n → n.owner = x.signer → n.isSold = false →
      σ.collections c ≠ none
  | _ => True

omit [DecidableEq AccountId] in
lemma SameStorage.refl (σ : State AccountId Ledger) : SameStorage σ σ :=
  ⟨rfl, rfl, rfl, rfl, rfl, rfl⟩

/-- Under a storage layer a direct execution is a dispatch, and a failure is rolled back. -/
lemma leavesNoTrace_true {x : Extrinsic AccountId} : LeavesNoTrace true T σ x := by
  intro e τ h
  have hdispatch : dispatch T σ x = (.error e, τ) := h
  obtain ⟨rfl, -⟩ := dispatch_error_iff.mp hdispatch
  exact .refl τ

/-- Without a storage layer a direct execution leaves no trace of a failure exactly if it fails
early or not at all. -/
lemma leavesNoTrace_false_iff {x : Extrinsic AccountId} :
    LeavesNoTrace false T σ x ↔ FailsEarly σ x := by
  obtain ⟨s, call⟩ := x
  have hfail : ∀ e τ, execute false T σ ⟨s, call⟩ = (.error e, τ) ↔ FailRule T σ s call e τ :=
    fun _ _ => exec_error_iff
  constructor
  · intro h
    cases call with
    | createNft c metadata price =>
      intro col md hcol hmd hfull
      have hsame := h _ _ ((hfail _ _).mpr
        (.collectionFull c metadata price col md hcol hmd hfull))
      rw [← hsame.nfts]
      exact StorageMap.insert_self _ _ _
    | burnNft c i =>
      intro n hnft howner hunsold hcol
      have hsame := h _ _ ((hfail _ _).mpr
        (.burnedFromNotFound c i n hnft howner hunsold hcol))
      have hgone : σ.nfts (c, i) = none := hsame.nfts ▸ StorageMap.remove_self _ _
      simp [hnft] at hgone
    | _ => trivial
  · intro hearly e τ h
    rw [hfail] at h
    cases h with
    | collectionFull c metadata price col md hcol hmd hfull =>
      have hnft := hearly col md hcol hmd hfull
      exact ⟨rfl, rfl, StorageMap.insert_eq_of_apply hnft, rfl, rfl, rfl⟩
    | burnedFromNotFound c i n hnft howner hunsold hcol =>
      exact absurd hcol (hearly n hnft howner hunsold)
    | _ => exact .refl σ

/-- All along a run of direct executions failures leave no trace, exactly if the bodies run under a
storage layer or every call of the run fails early or not at all. -/
theorem leaves_no_trace_iff (layered : Bool) (T : Config AccountId Ledger) (l : Ledger)
    (xs : List (Extrinsic AccountId)) :
    (∀ o ∈ occurrences xs, LeavesNoTrace layered T (afterDirect layered T l o.past) o.input) ↔
      layered = true ∨
        ∀ o ∈ occurrences xs, FailsEarly (afterDirect layered T l o.past) o.input := by
  cases layered with
  | true => exact iff_of_true (fun _ _ => leavesNoTrace_true) (Or.inl rfl)
  | false =>
    simp only [Bool.false_eq_true, false_or]
    exact forall₂_congr fun _ _ => leavesNoTrace_false_iff

/-- Without a storage layer: an artist creates an NFT, deletes the collection and tries to burn the
NFT. The call fails, but the NFT is gone. -/
theorem leaves_no_trace_fails :
    ¬ LeavesNoTrace false demoRuntime
      (afterDirect false demoRuntime demoLedger
        [⟨1, .registerArtist⟩, ⟨1, .createCollection []⟩, ⟨1, .createNft 0 [] 7⟩,
          ⟨1, .deleteCollection 0⟩]) ⟨1, .burnNft 0 0⟩ := by
  intro h
  have hsame := h (.module .collectionNotFound) _ (Prod.ext (by decide +kernel) rfl)
  have hnft := congrFun hsame.nfts (0, 0)
  revert hnft
  decide +kernel

end FarcasterNft
