import FarcasterNft.Frame.Currency

/-!
# Data model of the NFT pallet

The types, storages, events and errors of `pallets/template/src/lib.rs`. The state holds the
five storages of the pallet, the ledger its currency works on and the events deposited so far.
Amounts are natural numbers: the only arithmetic the pallet does on them is the registration
fee, a hundred times the minimum balance, far below the limit of the runtime's `u128`.
-/

namespace FarcasterNft

open Frame

abbrev CollectionId := UInt32
abbrev ItemId := UInt32

@[ext] structure NFT (AccountId : Type) where
  owner : AccountId
  metadata : BoundedVec UInt8 256
  isSold : Bool
  price : ℕ
  deriving DecidableEq

structure Collection (AccountId : Type) where
  creator : AccountId
  metadata : BoundedVec UInt8 256
  /-- The ids of the NFTs in the collection. -/
  nfts : BoundedVec ItemId 256
  deriving DecidableEq

inductive Event (AccountId : Type) where
  | artistRegistered (who : AccountId)
  | collectionCreated (collectionId : CollectionId) (creator : AccountId)
  | collectionUpdated (collectionId : CollectionId)
  | collectionFrozen (collectionId : CollectionId)
  | collectionDeleted (collectionId : CollectionId)
  | nftMinted (collectionId : CollectionId) (itemId : ItemId) (owner : AccountId)
  | nftBatchMinted (collectionId : CollectionId) (itemIds : List ItemId) (owner : AccountId)
  | nftTransferred (collectionId : CollectionId) (itemId : ItemId) (sender dest : AccountId)
  | nftBurned (collectionId : CollectionId) (itemId : ItemId) (owner : AccountId)
  deriving DecidableEq

inductive Error where
  | nftNotFound
  | notNFTOwner
  | notRegisteredArtist
  | collectionNotFound
  | alreadyRegistered
  | collectionFrozen
  | notCollectionOwner
  | nftAlreadySold
  | metadataInvalid
  | priceNotSet
  deriving DecidableEq

/-- What a runtime has to provide: a currency, and the account derived from the pallet's id. -/
structure Config (AccountId Ledger : Type) where
  currency : Currency AccountId Ledger
  palletAccount : AccountId

structure State (AccountId Ledger : Type) where
  artists : StorageMap AccountId Bool
  collections : StorageMap CollectionId (Collection AccountId)
  nfts : StorageMap (CollectionId × ItemId) (NFT AccountId)
  nextItemId : StorageMap CollectionId ItemId
  nextCollectionId : CollectionId
  ledger : Ledger
  events : List (Event AccountId)

variable {AccountId Ledger : Type}

/-- Empty pallet storage over a given ledger. -/
def State.genesis (l : Ledger) : State AccountId Ledger where
  artists := .empty
  collections := .empty
  nfts := .empty
  nextItemId := .empty
  nextCollectionId := 0
  ledger := l
  events := []

/-- The counter of a collection's items; a vacant counter reads as zero. -/
def State.itemCounter (σ : State AccountId Ledger) (c : CollectionId) : ItemId :=
  (σ.nextItemId c).getD 0

/-! ### The storage items -/

namespace Storage

@[simp] def artists : MapItem (State AccountId Ledger) AccountId Bool where
  read := State.artists
  write σ m := { σ with artists := m }

@[simp] def collections :
    MapItem (State AccountId Ledger) CollectionId (Collection AccountId) where
  read := State.collections
  write σ m := { σ with collections := m }

@[simp] def nfts : MapItem (State AccountId Ledger) (CollectionId × ItemId) (NFT AccountId) where
  read := State.nfts
  write σ m := { σ with nfts := m }

@[simp] def nextItemId : MapItem (State AccountId Ledger) CollectionId ItemId where
  read := State.nextItemId
  write σ m := { σ with nextItemId := m }

@[simp] def nextCollectionId : ValueItem (State AccountId Ledger) CollectionId where
  read := State.nextCollectionId
  write σ v := { σ with nextCollectionId := v }

end Storage

end FarcasterNft
