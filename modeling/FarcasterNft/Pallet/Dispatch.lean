import FarcasterNft.Pallet.Calls

/-!
# Dispatching the calls

`dispatch` runs a signed call inside a storage layer. `CallRule` lists what a successful call
can do, one rule for each call, guards included; `dispatch_ok_iff` says that the list is exact.
Every later result about a step of the pallet is a case analysis on `CallRule`.
-/

namespace FarcasterNft

open Frame

inductive Call (AccountId : Type) where
  | registerArtist
  | createCollection (metadata : List UInt8)
  | deleteCollection (collectionId : CollectionId)
  | createNft (collectionId : CollectionId) (metadata : List UInt8) (price : ℕ)
  | transferNft (collectionId : CollectionId) (itemId : ItemId) (dest : AccountId)
  | burnNft (collectionId : CollectionId) (itemId : ItemId)
  | mintNft (collectionId : CollectionId) (itemId : ItemId)
  deriving DecidableEq

/-- A call and the account that signs it. -/
structure Extrinsic (AccountId : Type) where
  signer : AccountId
  call : Call AccountId

variable {AccountId Ledger : Type} [DecidableEq AccountId]

/-- The dispatchable function behind a call. -/
def Call.apply (T : Config AccountId Ledger) (origin : RawOrigin AccountId) :
    Call AccountId → PalletCall AccountId Ledger Unit
  | .registerArtist => FarcasterNft.registerArtist T origin
  | .createCollection metadata => FarcasterNft.createCollection origin metadata
  | .deleteCollection c => FarcasterNft.deleteCollection origin c
  | .createNft c metadata price => FarcasterNft.createNft origin c metadata price
  | .transferNft c i dest => FarcasterNft.transferNft origin c i dest
  | .burnNft c i => FarcasterNft.burnNft origin c i
  | .mintNft c i => FarcasterNft.mintNft T origin c i

/-- A call that nobody signed fails, whichever it is, and changes nothing. -/
theorem withStorageLayer_not_signed (T : Config AccountId Ledger) {origin : RawOrigin AccountId}
    (h : ∀ s, origin ≠ .signed s) (call : Call AccountId) (σ : State AccountId Ledger) :
    withStorageLayer (call.apply T origin) σ = (.error .badOrigin, σ) := by
  cases origin with
  | signed s => exact absurd rfl (h s)
  | root | none => cases call <;> rfl

/-- Dispatch an extrinsic: its result, and the state after it. -/
def dispatch (T : Config AccountId Ledger) (σ : State AccountId Ledger)
    (x : Extrinsic AccountId) : Except (DispatchError Error) Unit × State AccountId Ledger :=
  withStorageLayer (x.call.apply T (.signed x.signer)) σ

/-- The state after an extrinsic, whether it succeeds or not. -/
def step (T : Config AccountId Ledger) (σ : State AccountId Ledger) (x : Extrinsic AccountId) :
    State AccountId Ledger :=
  (dispatch T σ x).2

/-- Whether an extrinsic returns `Ok`. -/
def succeeds (T : Config AccountId Ledger) (σ : State AccountId Ledger)
    (x : Extrinsic AccountId) : Bool :=
  (dispatch T σ x).1.isOk

/-! ### What a successful call does -/

/-- `CallRule T σ s call τ`: the call, signed by `s` in the state `σ`, succeeds and leaves `τ`. -/
inductive CallRule (T : Config AccountId Ledger) (σ : State AccountId Ledger) (s : AccountId) :
    Call AccountId → State AccountId Ledger → Prop where
  | registerArtist (l : Ledger) (hnew : σ.artists s = none)
      (hpay : T.currency.transfer σ.ledger s T.palletAccount (registrationFee T) .keepAlive
        = .ok l) :
      CallRule T σ s .registerArtist
        { σ with
          ledger := l
          artists := σ.artists.insert s true
          events := σ.events ++ [.artistRegistered s] }
  | createCollection (metadata : List UInt8) (md : BoundedVec UInt8 256) (hmd : md.val = metadata)
      (hartist : (σ.artists s).getD false = true) :
      CallRule T σ s (.createCollection metadata)
        { σ with
          collections := σ.collections.insert σ.nextCollectionId ⟨s, md, .new⟩
          nextCollectionId := saturatingAdd σ.nextCollectionId 1
          events := σ.events ++ [.collectionCreated σ.nextCollectionId s] }
  | deleteCollection (c : CollectionId) (col : Collection AccountId)
      (hcol : σ.collections c = some col) (hcreator : col.creator = s) :
      CallRule T σ s (.deleteCollection c)
        { σ with
          collections := σ.collections.remove c
          events := σ.events ++ [.collectionDeleted c] }
  | createNft (c : CollectionId) (metadata : List UInt8) (price : ℕ) (col : Collection AccountId)
      (md : BoundedVec UInt8 256) (nfts : BoundedVec ItemId 256)
      (hcol : σ.collections c = some col) (hmd : md.val = metadata)
      (hpush : nfts.val = col.nfts.val ++ [σ.itemCounter c]) :
      CallRule T σ s (.createNft c metadata price)
        { σ with
          nfts := σ.nfts.insert (c, σ.itemCounter c) ⟨s, md, false, price⟩
          collections := σ.collections.insert c { col with nfts }
          nextItemId := σ.nextItemId.insert c (saturatingAdd (σ.itemCounter c) 1)
          events := σ.events ++ [.nftMinted c (σ.itemCounter c) s] }
  | transferNft (c : CollectionId) (i : ItemId) (dest : AccountId) (n : NFT AccountId)
      (hnft : σ.nfts (c, i) = some n) (howner : n.owner = s) :
      CallRule T σ s (.transferNft c i dest)
        { σ with
          nfts := σ.nfts.insert (c, i) { n with owner := dest, isSold := true }
          events := σ.events ++ [.nftTransferred c i s dest] }
  | burnNft (c : CollectionId) (i : ItemId) (n : NFT AccountId) (col : Collection AccountId)
      (hnft : σ.nfts (c, i) = some n) (howner : n.owner = s) (hunsold : n.isSold = false)
      (hcol : σ.collections c = some col) :
      CallRule T σ s (.burnNft c i)
        { σ with
          nfts := σ.nfts.remove (c, i)
          collections := σ.collections.insert c
            { col with nfts := col.nfts.retain (· != i) }
          events := σ.events ++ [.nftBurned c i s] }
  | mintNft (c : CollectionId) (i : ItemId) (n : NFT AccountId) (l : Ledger)
      (hnft : σ.nfts (c, i) = some n) (hunsold : n.isSold = false) (howner : n.owner ≠ s)
      (hpay : T.currency.transfer σ.ledger s n.owner n.price .keepAlive = .ok l) :
      CallRule T σ s (.mintNft c i)
        { σ with
          ledger := l
          nfts := σ.nfts.insert (c, i) { n with owner := s, isSold := true }
          events := σ.events ++ [.nftTransferred c i n.owner s] }

variable {T : Config AccountId Ledger} {σ τ : State AccountId Ledger} {s : AccountId}

lemma exec_registerArtist_ok_iff :
    exec (registerArtist T (.signed s)) σ = (.ok (), τ) ↔ CallRule T σ s .registerArtist τ := by
  simp [registerArtist, exec_bind_ok_iff]
  constructor
  · rintro ⟨hnew, l, hpay, rfl⟩
    exact .registerArtist l hnew hpay
  · intro h
    cases h with
    | registerArtist l hnew hpay => exact ⟨hnew, l, hpay, rfl⟩

lemma exec_createCollection_ok_iff {metadata : List UInt8} :
    exec (createCollection (.signed s) metadata) σ = (.ok (), τ) ↔
      CallRule T σ s (.createCollection metadata) τ := by
  simp [createCollection, exec_bind_ok_iff, BoundedVec.tryFrom_eq_some_iff]
  constructor
  · rintro ⟨hartist, md, hmd, rfl⟩
    exact .createCollection metadata md hmd hartist
  · intro h
    cases h with
    | createCollection _ md hmd hartist => exact ⟨hartist, md, hmd, rfl⟩

lemma exec_deleteCollection_ok_iff {c : CollectionId} :
    exec (deleteCollection (.signed s) c) σ = (.ok (), τ) ↔
      CallRule T σ s (.deleteCollection c) τ := by
  simp [deleteCollection, exec_bind_ok_iff]
  constructor
  · rintro ⟨col, hcol, hcreator, rfl⟩
    exact .deleteCollection c col hcol hcreator
  · intro h
    cases h with
    | deleteCollection _ col hcol hcreator => exact ⟨col, hcol, hcreator, rfl⟩

lemma exec_createNft_ok_iff {c : CollectionId} {metadata : List UInt8} {price : ℕ} :
    exec (createNft (.signed s) c metadata price) σ = (.ok (), τ) ↔
      CallRule T σ s (.createNft c metadata price) τ := by
  simp [createNft, exec_bind_ok_iff, exec_map_ok_iff, MapItem.exec_tryMutate_ok_iff,
    BoundedVec.tryFrom_eq_some_iff, BoundedVec.tryPush_eq_some_iff]
  constructor
  · rintro ⟨-, md, hmd, col, nfts, ⟨hcol, hpush⟩, rfl⟩
    exact .createNft c metadata price col md nfts hcol hmd hpush
  · intro h
    cases h with
    | createNft _ _ _ col md nfts hcol hmd hpush =>
      exact ⟨by simp [hcol], md, hmd, col, nfts, ⟨hcol, hpush⟩, rfl⟩

lemma exec_transferNft_ok_iff {c : CollectionId} {i : ItemId} {dest : AccountId} :
    exec (transferNft (.signed s) c i dest) σ = (.ok (), τ) ↔
      CallRule T σ s (.transferNft c i dest) τ := by
  simp [transferNft, exec_bind_ok_iff, exec_map_ok_iff, MapItem.exec_tryMutate_ok_iff]
  constructor
  · rintro ⟨n, ⟨hnft, howner⟩, rfl⟩
    exact .transferNft c i dest n hnft howner
  · intro h
    cases h with
    | transferNft _ _ _ n hnft howner => exact ⟨n, ⟨hnft, howner⟩, rfl⟩

lemma exec_burnNft_ok_iff {c : CollectionId} {i : ItemId} :
    exec (burnNft (.signed s) c i) σ = (.ok (), τ) ↔ CallRule T σ s (.burnNft c i) τ := by
  simp [burnNft, exec_bind_ok_iff, exec_map_ok_iff, MapItem.exec_tryMutate_ok_iff]
  constructor
  · rintro ⟨n, hnft, howner, hunsold, col, hcol, rfl⟩
    exact .burnNft c i n col hnft howner hunsold hcol
  · intro h
    cases h with
    | burnNft _ _ n col hnft howner hunsold hcol =>
      exact ⟨n, hnft, howner, hunsold, col, hcol, rfl⟩

lemma exec_mintNft_ok_iff {c : CollectionId} {i : ItemId} :
    exec (mintNft T (.signed s) c i) σ = (.ok (), τ) ↔ CallRule T σ s (.mintNft c i) τ := by
  simp [mintNft, exec_bind_ok_iff, exec_map_ok_iff, MapItem.exec_tryMutate_ok_iff]
  constructor
  · rintro ⟨n, hnft, hunsold, howner, l, hpay, n', hnft', rfl⟩
    -- the payment does not touch the storage, so the second read sees the same NFT
    obtain rfl : n' = n := Option.some.inj (hnft'.symm.trans hnft)
    exact .mintNft c i n' l hnft hunsold howner hpay
  · intro h
    cases h with
    | mintNft _ _ n l hnft hunsold howner hpay =>
      exact ⟨n, hnft, hunsold, howner, l, hpay, n, hnft, rfl⟩

/-- A dispatched extrinsic returns `Ok` exactly by one of the rules. -/
theorem dispatch_ok_iff {x : Extrinsic AccountId} :
    dispatch T σ x = (.ok (), τ) ↔ CallRule T σ x.signer x.call τ := by
  rw [dispatch, withStorageLayer_ok_iff]
  cases x.call with
  | registerArtist => exact exec_registerArtist_ok_iff
  | createCollection metadata => exact exec_createCollection_ok_iff
  | deleteCollection c => exact exec_deleteCollection_ok_iff
  | createNft c metadata price => exact exec_createNft_ok_iff
  | transferNft c i dest => exact exec_transferNft_ok_iff
  | burnNft c i => exact exec_burnNft_ok_iff
  | mintNft c i => exact exec_mintNft_ok_iff

/-! ### Steps -/

variable {x : Extrinsic AccountId}

lemma succeeds_iff : succeeds T σ x = true ↔ dispatch T σ x = (.ok (), step T σ x) := by
  rw [succeeds, step]
  rcases dispatch T σ x with ⟨_ | ⟨⟩, τ⟩
  · simp [Except.isOk, Except.toBool]
  · simp [Except.isOk, Except.toBool]

/-- A successful extrinsic takes one of the rules from the state it meets. -/
lemma callRule_of_succeeds (h : succeeds T σ x = true) :
    CallRule T σ x.signer x.call (step T σ x) :=
  dispatch_ok_iff.mp (succeeds_iff.mp h)

/-- A failed extrinsic leaves the state as it was. -/
lemma step_of_not_succeeds (h : succeeds T σ x = false) : step T σ x = σ := by
  rw [succeeds] at h
  rw [step]
  rcases hd : dispatch T σ x with ⟨e | _, τ⟩
  · exact withStorageLayer_error hd
  · simp [hd, Except.isOk, Except.toBool] at h

/-- Whatever a rule allows is what the extrinsic does. -/
lemma CallRule.dispatch_eq {call : Call AccountId} (h : CallRule T σ s call τ) :
    dispatch T σ ⟨s, call⟩ = (.ok (), τ) := dispatch_ok_iff.mpr h

lemma CallRule.succeeds {call : Call AccountId} (h : CallRule T σ s call τ) :
    succeeds T σ ⟨s, call⟩ = true := by
  simp [FarcasterNft.succeeds, h.dispatch_eq, Except.isOk, Except.toBool]

lemma CallRule.step_eq {call : Call AccountId} (h : CallRule T σ s call τ) :
    step T σ ⟨s, call⟩ = τ := by
  simp [step, h.dispatch_eq]

/-- One step: nothing at all, or one of the rules. -/
theorem step_cases (T : Config AccountId Ledger) (σ : State AccountId Ledger)
    (x : Extrinsic AccountId) :
    (succeeds T σ x = false ∧ step T σ x = σ) ∨
      (succeeds T σ x = true ∧ CallRule T σ x.signer x.call (step T σ x)) := by
  cases h : succeeds T σ x with
  | false => exact Or.inl ⟨rfl, step_of_not_succeeds h⟩
  | true => exact Or.inr ⟨rfl, callRule_of_succeeds h⟩

/-! ### When a call succeeds -/

lemma succeeds_createCollection_iff {metadata : List UInt8} :
    succeeds T σ ⟨s, .createCollection metadata⟩ = true ↔
      (σ.artists s).getD false = true ∧ metadata.length ≤ 256 := by
  constructor
  · intro h
    have hrule := callRule_of_succeeds h
    generalize step T _ _ = τ at hrule
    cases hrule with
    | createCollection _ md hmd hartist => exact ⟨hartist, hmd ▸ md.bound⟩
  · rintro ⟨hartist, hlen⟩
    obtain ⟨md, hmd⟩ := BoundedVec.tryFrom_isSome_iff.mpr hlen
    exact (CallRule.createCollection metadata md (BoundedVec.tryFrom_eq_some_iff.mp hmd)
      hartist).succeeds

lemma succeeds_deleteCollection_iff {c : CollectionId} :
    succeeds T σ ⟨s, .deleteCollection c⟩ = true ↔
      ∃ col, σ.collections c = some col ∧ col.creator = s := by
  constructor
  · intro h
    have hrule := callRule_of_succeeds h
    generalize step T _ _ = τ at hrule
    cases hrule with
    | deleteCollection _ col hcol hcreator => exact ⟨col, hcol, hcreator⟩
  · rintro ⟨col, hcol, hcreator⟩
    exact (CallRule.deleteCollection c col hcol hcreator).succeeds

lemma succeeds_createNft_iff {c : CollectionId} {metadata : List UInt8} {price : ℕ} :
    succeeds T σ ⟨s, .createNft c metadata price⟩ = true ↔
      ∃ col, σ.collections c = some col ∧ metadata.length ≤ 256 ∧ col.nfts.val.length < 256 := by
  constructor
  · intro h
    have hrule := callRule_of_succeeds h
    generalize step T _ _ = τ at hrule
    cases hrule with
    | createNft _ _ _ col md nfts hcol hmd hpush =>
      refine ⟨col, hcol, hmd ▸ md.bound, ?_⟩
      exact BoundedVec.tryPush_isSome_iff.mp ⟨nfts, BoundedVec.tryPush_eq_some_iff.mpr hpush⟩
  · rintro ⟨col, hcol, hlen, hroom⟩
    obtain ⟨md, hmd⟩ := BoundedVec.tryFrom_isSome_iff.mpr hlen
    obtain ⟨nfts, hnfts⟩ := BoundedVec.tryPush_isSome_iff.mpr hroom
    exact (CallRule.createNft c metadata price col md nfts hcol
      (BoundedVec.tryFrom_eq_some_iff.mp hmd) (BoundedVec.tryPush_eq_some_iff.mp hnfts)).succeeds

lemma succeeds_burnNft_iff {c : CollectionId} {i : ItemId} :
    succeeds T σ ⟨s, .burnNft c i⟩ = true ↔
      (∃ n, σ.nfts (c, i) = some n ∧ n.owner = s ∧ n.isSold = false) ∧
        ∃ col, σ.collections c = some col := by
  constructor
  · intro h
    have hrule := callRule_of_succeeds h
    generalize step T _ _ = τ at hrule
    cases hrule with
    | burnNft _ _ n col hnft howner hunsold hcol =>
      exact ⟨⟨n, hnft, howner, hunsold⟩, col, hcol⟩
  · rintro ⟨⟨n, hnft, howner, hunsold⟩, col, hcol⟩
    exact (CallRule.burnNft c i n col hnft howner hunsold hcol).succeeds

/-! ### A runtime to try the calls on -/

/-- Accounts and balances are numbers, the minimum balance is `1`, and `0` is the pallet's
account. -/
def demoRuntime : Config ℕ (ℕ → ℕ) := ⟨Currency.balances 1, 0⟩

/-- Four accounts have funds to start with. -/
def demoLedger (a : ℕ) : ℕ := if a < 4 then 1000 else 0

end FarcasterNft
