import FarcasterNft.Frame.Allocator
import FarcasterNft.Pallet.Types

/-!
# The calls of the NFT pallet

The seven dispatchable functions of `pallets/template/src/lib.rs`, statement by statement.
-/

namespace FarcasterNft

open Frame

variable {AccountId Ledger : Type}

/-- A dispatchable function of this pallet. -/
abbrev PalletCall (AccountId Ledger α : Type) :=
  Dispatchable (State AccountId Ledger) Error α

/-! ### Currency and events -/

/-- `T::Currency::transfer`: a refused transfer leaves the ledger as it is. -/
def currencyTransfer (T : Config AccountId Ledger) (source dest : AccountId) (value : ℕ)
    (existence : ExistenceRequirement) : PalletCall AccountId Ledger Unit := do
  match T.currency.transfer (← get).ledger source dest value existence with
  | .ok l => modify fun σ => { σ with ledger := l }
  | .error e => throw (.currency e)

def depositEvent (e : Event AccountId) : PalletCall AccountId Ledger Unit :=
  modify fun σ => { σ with events := σ.events ++ [e] }

@[simp] lemma exec_currencyTransfer_ok_iff {T : Config AccountId Ledger} {src dst : AccountId}
    {v : ℕ} {req : ExistenceRequirement} {σ τ : State AccountId Ledger} {u : Unit} :
    exec (currencyTransfer T src dst v req) σ = (.ok u, τ) ↔
      ∃ l, T.currency.transfer σ.ledger src dst v req = .ok l ∧ τ = { σ with ledger := l } := by
  simp only [currencyTransfer, exec_bind, exec_get]
  cases T.currency.transfer σ.ledger src dst v req with
  | error e => simp
  | ok l => simp [eq_comm]

@[simp] lemma exec_depositEvent (e : Event AccountId) (σ : State AccountId Ledger) :
    exec (depositEvent e) σ = (.ok (), { σ with events := σ.events ++ [e] }) := rfl

/-! ### The calls -/

section

variable [DecidableEq AccountId] (T : Config AccountId Ledger) (origin : RawOrigin AccountId)

def registrationFee : ℕ := T.currency.minimumBalance * 100

/-- Register as an artist. -/
def registerArtist : PalletCall AccountId Ledger Unit := do
  let who ← ensureSigned origin
  ensure (¬(← Storage.artists.containsKey who)) .alreadyRegistered
  currencyTransfer T who T.palletAccount (registrationFee T) .keepAlive
  Storage.artists.insert who true
  depositEvent (.artistRegistered who)

/-- Create a new collection (artist only). -/
def createCollection (metadata : List UInt8) : PalletCall AccountId Ledger Unit := do
  let creator ← ensureSigned origin
  ensure (← Storage.artists.getOrDefault creator) .notRegisteredArtist
  let boundedMetadata ← okOr (BoundedVec.tryFrom metadata) .metadataInvalid
  let collectionId ← Storage.nextCollectionId.get
  Storage.collections.insert collectionId ⟨creator, boundedMetadata, .new⟩
  Storage.nextCollectionId.put (saturatingAdd collectionId 1)
  depositEvent (.collectionCreated collectionId creator)

/-- Delete collection (creator only). -/
def deleteCollection (collectionId : CollectionId) : PalletCall AccountId Ledger Unit := do
  let who ← ensureSigned origin
  let collection ← okOr (← Storage.collections.get collectionId) .collectionNotFound
  ensure (collection.creator = who) .notCollectionOwner
  Storage.collections.remove collectionId
  depositEvent (.collectionDeleted collectionId)

/-- Mint a single NFT. -/
def createNft (collectionId : CollectionId) (metadata : List UInt8) (price : ℕ) :
    PalletCall AccountId Ledger Unit := do
  let sender ← ensureSigned origin
  ensure (← Storage.collections.containsKey collectionId) .collectionNotFound
  let boundedMetadata ← okOr (BoundedVec.tryFrom metadata) .metadataInvalid
  let itemId ← Storage.nextItemId.getOrDefault collectionId
  Storage.nfts.insert (collectionId, itemId) ⟨sender, boundedMetadata, false, price⟩
  ensure (← Storage.nfts.containsKey (collectionId, itemId)) .nftNotFound
  Storage.collections.tryMutate collectionId fun collectionOption => do
    let collection ← okOr collectionOption .collectionNotFound
    let nfts ← okOr (collection.nfts.tryPush itemId) .collectionNotFound
    let collection := { collection with nfts }
    Storage.collections.insert collectionId collection
    return some collection
  Storage.nextItemId.insert collectionId (saturatingAdd itemId 1)
  depositEvent (.nftMinted collectionId itemId sender)

/-- Transfer an NFT from the caller to another account. -/
def transferNft (collectionId : CollectionId) (itemId : ItemId) (dest : AccountId) :
    PalletCall AccountId Ledger Unit := do
  let sender ← ensureSigned origin
  Storage.nfts.tryMutate (collectionId, itemId) fun nftOption => do
    let nft ← okOr nftOption .nftNotFound
    ensure (nft.owner = sender) .notNFTOwner
    return some { nft with owner := dest, isSold := true }
  depositEvent (.nftTransferred collectionId itemId sender dest)

/-- Burn an NFT (only if not sold). -/
def burnNft (collectionId : CollectionId) (itemId : ItemId) :
    PalletCall AccountId Ledger Unit := do
  let sender ← ensureSigned origin
  let nft ← okOr (← Storage.nfts.get (collectionId, itemId)) .nftNotFound
  ensure (nft.owner = sender) .notNFTOwner
  ensure (¬nft.isSold) .nftAlreadySold
  Storage.nfts.remove (collectionId, itemId)
  Storage.collections.tryMutate collectionId fun collectionOption => do
    let collection ← okOr collectionOption .collectionNotFound
    return some { collection with nfts := collection.nfts.retain (· != itemId) }
  depositEvent (.nftBurned collectionId itemId sender)

/-- Buy an NFT from its owner. -/
def mintNft (collectionId : CollectionId) (itemId : ItemId) :
    PalletCall AccountId Ledger Unit := do
  let buyer ← ensureSigned origin
  let nft ← okOr (← Storage.nfts.get (collectionId, itemId)) .nftNotFound
  ensure (¬nft.isSold) .nftAlreadySold
  ensure (nft.owner ≠ buyer) .notNFTOwner
  let seller := nft.owner
  currencyTransfer T buyer seller nft.price .keepAlive
  Storage.nfts.tryMutate (collectionId, itemId) fun nftOption => do
    let nft ← okOr nftOption .nftNotFound
    return some { nft with owner := buyer, isSold := true }
  depositEvent (.nftTransferred collectionId itemId seller buyer)

end

end FarcasterNft
