import FarcasterNft.Frame.Replay
import FarcasterNft.Pallet.History

/-!
# The event log records the state

An indexer reads the events of the pallet and keeps its own copy of the storage, except for
metadata and prices, which no event carries. It rejects an event that does not fit its copy: a
transfer or a burn by somebody who is not the owner, or an item of a collection it does not
know. Replaying the log of any run is accepted, and rebuilds the storage the run leads to.
-/

namespace FarcasterNft

open Frame

/-! ### The indexer -/

structure NFTEntry (AccountId : Type) where
  owner : AccountId
  isSold : Bool

structure CollectionEntry (AccountId : Type) where
  creator : AccountId
  nfts : List ItemId

/-- The indexer's copy of the storage. -/
@[ext] structure Index (AccountId : Type) where
  artists : StorageMap AccountId Bool
  collections : StorageMap CollectionId (CollectionEntry AccountId)
  nfts : StorageMap (CollectionId × ItemId) (NFTEntry AccountId)
  nextItemId : StorageMap CollectionId ItemId
  nextCollectionId : CollectionId

namespace Index

variable {AccountId : Type}

/-- The copy of the empty storage. -/
def empty : Index AccountId := ⟨.empty, .empty, .empty, .empty, 0⟩

/-- What an event tells the indexer. -/
def applyEvent [DecidableEq AccountId] (ix : Index AccountId) :
    Event AccountId → Option (Index AccountId)
  | .artistRegistered who => some { ix with artists := ix.artists.insert who true }
  | .collectionCreated c creator =>
    some { ix with
      collections := ix.collections.insert c ⟨creator, []⟩
      nextCollectionId := saturatingAdd c 1 }
  | .collectionDeleted c => some { ix with collections := ix.collections.remove c }
  | .nftMinted c i owner => do
    let col ← ix.collections c
    return { ix with
      collections := ix.collections.insert c { col with nfts := col.nfts ++ [i] }
      nfts := ix.nfts.insert (c, i) ⟨owner, false⟩
      nextItemId := ix.nextItemId.insert c (saturatingAdd i 1) }
  | .nftTransferred c i sender dest => do
    let nft ← ix.nfts (c, i)
    guard (nft.owner = sender)
    return { ix with nfts := ix.nfts.insert (c, i) ⟨dest, true⟩ }
  | .nftBurned c i owner => do
    let nft ← ix.nfts (c, i)
    guard (nft.owner = owner)
    let col ← ix.collections c
    return { ix with
      collections := ix.collections.insert c { col with nfts := col.nfts.filter (· != i) }
      nfts := ix.nfts.remove (c, i) }
  -- the pallet declares these events but no call deposits them
  | .collectionUpdated _ | .collectionFrozen _ | .nftBatchMinted .. => none

end Index

/-! ### The storage as the indexer sees it -/

variable {AccountId Ledger : Type}

def NFT.entry (n : NFT AccountId) : NFTEntry AccountId := ⟨n.owner, n.isSold⟩

def Collection.entry (col : Collection AccountId) : CollectionEntry AccountId :=
  ⟨col.creator, col.nfts.val⟩

/-- The part of the storage that the events determine. -/
def State.index (σ : State AccountId Ledger) : Index AccountId where
  artists := σ.artists
  collections := σ.collections.mapValues Collection.entry
  nfts := σ.nfts.mapValues NFT.entry
  nextItemId := σ.nextItemId
  nextCollectionId := σ.nextCollectionId

variable [DecidableEq AccountId] {T : Config AccountId Ledger} {σ τ : State AccountId Ledger}
variable {s : AccountId} {call : Call AccountId}

/-- Every successful call deposits one event, which tells the indexer all that it wrote. -/
theorem CallRule.event (h : CallRule T σ s call τ) :
    ∃ e, τ.events = σ.events ++ [e] ∧ σ.index.applyEvent e = some τ.index := by
  cases h with
  | registerArtist => exact ⟨_, rfl, rfl⟩
  | createCollection =>
    refine ⟨_, rfl, ?_⟩
    simp [Index.applyEvent, State.index, Collection.entry]
  | deleteCollection =>
    refine ⟨_, rfl, ?_⟩
    simp [Index.applyEvent, State.index]
  | createNft c _ _ col _ _ hcol _ hpush =>
    refine ⟨_, rfl, ?_⟩
    simp [Index.applyEvent, State.index, hcol, Collection.entry, NFT.entry, hpush]
  | transferNft c i dest n hnft howner =>
    refine ⟨_, rfl, ?_⟩
    simp [Index.applyEvent, State.index, hnft, NFT.entry, howner]
  | burnNft c i n col hnft howner _ hcol =>
    refine ⟨_, rfl, ?_⟩
    simp [Index.applyEvent, State.index, hnft, hcol, NFT.entry, Collection.entry, howner]
  | mintNft c i n l hnft =>
    refine ⟨_, rfl, ?_⟩
    simp [Index.applyEvent, State.index, hnft, NFT.entry]

/-- After any run, replaying the event log from an empty copy is accepted at every event and
rebuilds the storage. -/
theorem events_rebuild_storage (T : Config AccountId Ledger) (l : Ledger)
    (xs : List (Extrinsic AccountId)) :
    replay Index.applyEvent .empty (after T l xs).events = some (after T l xs).index := by
  have hgenesis : (State.genesis l : State AccountId Ledger).events = [] := rfl
  refine replay_run State.events State.index hgenesis (fun σ x => ?_) xs
  obtain ⟨-, hstep⟩ | ⟨-, hrule⟩ := step_cases T σ x
  · exact ⟨[], by rw [hstep, List.append_nil], by rw [hstep, replay_nil]⟩
  · obtain ⟨e, hevents, happly⟩ := hrule.event
    exact ⟨[e], hevents, by rw [replay_singleton, happly]⟩

end FarcasterNft
