import FarcasterNft.Frame.Listing
import FarcasterNft.Frontend.Metadata
import FarcasterNft.Pallet.History

/-!
# The chain as the frontend sees it

Queries of the pallet's storages through the API, and the JSON form of what they return. Ids
are numbers on this side: a query with an id beyond `u32` throws. Accounts are printed in one
address format.
-/

namespace FarcasterNft

open Frame Js

variable {AccountId Ledger : Type}

/-- How accounts are printed: no two alike, and none as the empty string. -/
structure AddressFormat (AccountId : Type) where
  print : AccountId → JsString
  injective : Function.Injective print
  print_ne_nil : ∀ a, print a ≠ []

/-! ### Queries -/

/-- A number as an id, if it is in range. -/
def u32 (n : ℕ) : Except Thrown UInt32 :=
  if n < 2 ^ 32 then .ok (UInt32.ofNat n) else .error .other

namespace Query

variable (σ : State AccountId Ledger)

def nextCollectionId : Except Thrown CollectionId := .ok σ.nextCollectionId

def nextItemId (collectionId : ℕ) : Except Thrown ItemId := do
  return σ.itemCounter (← u32 collectionId)

def nfts (collectionId itemId : ℕ) : Except Thrown (Option (NFT AccountId)) := do
  return σ.nfts (← u32 collectionId, ← u32 itemId)

end Query

/-- `Number(id.toString())`. -/
def numberOf (id : UInt32) : ℕ := decimalValue (decimalText id.toNat)

@[simp] lemma numberOf_eq (id : UInt32) : numberOf id = id.toNat :=
  decimalValue_decimalText id.toNat

@[simp] lemma u32_toNat (n : UInt32) : u32 n.toNat = .ok n := by
  rw [u32, if_pos n.toNat_lt, UInt32.ofNat_toNat]

lemma u32_of_lt {n : ℕ} (h : n < 2 ^ 32) : u32 n = .ok (UInt32.ofNat n) := if_pos h

lemma u32_of_le {n : ℕ} (h : 2 ^ 32 ≤ n) : u32 n = .error .other := if_neg (Nat.not_lt.mpr h)

/-! ### JSON data -/

/-- An NFT as `nft.toJSON()` returns it. -/
structure NFTData where
  owner : JsString
  metadata : JsString
  isSold : Bool

/-- A collection as `value.toJSON()` returns it. -/
structure CollectionData where
  creator : JsString
  metadata : JsString
  nfts : List ℕ

def NFT.toJSON (fmt : AddressFormat AccountId) (n : NFT AccountId) : NFTData where
  owner := fmt.print n.owner
  metadata := toHex n.metadata.val
  isSold := n.isSold

def Collection.toJSON (fmt : AddressFormat AccountId) (col : Collection AccountId) :
    CollectionData where
  creator := fmt.print col.creator
  metadata := toHex col.metadata.val
  nfts := col.nfts.val.map UInt32.toNat

/-- The value of the JSON text that the bytes spell, one character each, zero bytes left out. -/
def metadataValue (md : BoundedVec UInt8 256) : Option Json :=
  Json.parse ((md.val.filter (· ≠ 0)).map UInt8.toUInt16)

lemma parse_decodeMetadata (md : BoundedVec UInt8 256) :
    Json.parse (decodeMetadata (toHex md.val)) = metadataValue md := by
  rw [metadataValue, decodeMetadata_toHex]

/-! ### Listings of the collections -/

/-- The collections of every state can be listed. -/
theorem exists_listing [DecidableEq AccountId] {T : Config AccountId Ledger} {l : Ledger}
    (xs : List (Extrinsic AccountId)) : Nonempty (Listing (after T l xs).collections) := by
  refine after_induction (P := fun _ σ => Nonempty (Listing σ.collections))
    ⟨.empty⟩ (fun _ _ _ ih => ih) (fun xs s call τ hok hrule ih => ?_) xs
  obtain ⟨L⟩ := ih
  cases hrule with
  | createCollection => exact ⟨L.insert _ _⟩
  | deleteCollection c => exact ⟨L.remove c⟩
  | createNft | burnNft => exact ⟨L.insert _ _⟩
  | _ => exact ⟨L⟩

/-- No two listed collections have one number. -/
lemma nodup_numbers {σ : State AccountId Ledger} (L : Listing σ.collections) :
    (L.entries.map fun e => e.1.toNat).Nodup := by
  have hkeys := L.nodup.map fun _ _ => UInt32.toNat_inj.mp
  rwa [List.map_map] at hkeys

/-- An address format to try the frontend with: a `5` and the number of the account. -/
def demoFormat : AddressFormat ℕ where
  print n := 53 :: decimalText n
  injective a b h := by
    have hvalue := congrArg decimalValue (List.cons.inj h).2
    rwa [decimalValue_decimalText, decimalValue_decimalText] at hvalue
  print_ne_nil a := List.cons_ne_nil _ _

end FarcasterNft
