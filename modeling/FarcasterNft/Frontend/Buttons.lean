import FarcasterNft.Frontend.Forms
import FarcasterNft.Frontend.Sessions
import FarcasterNft.Pallet.Custody

/-!
# What can be reached through the frontend

The calls that the buttons of all components hand over. No button deletes a collection, the button
of the collection manager that transfers an NFT names no signer, and the one of the marketplace
gives an empty text as the recipient. So among people who use nothing but the frontend, with an API
that sends nothing without a signer, an NFT is sold by its creator at most once, and can then go
only to the account, if any, that the API makes of an empty text.
-/

namespace FarcasterNft

open Frame Js

variable {AccountId Ledger : Type}

/-- The calls that the buttons hand over to be signed for an address, where the API makes `empty`
of an empty text in the place of an account, and throws `noSigner`, if anything, where no signer is
named. -/
inductive HandedOver (empty : Except Thrown AccountId) (noSigner : Option Thrown)
    (address : JsString) : Call AccountId → Prop where
  | registerAsArtist {call : Call AccountId} (props : ComponentProps) (out : TxReplies AccountId)
      (h : .submitted address call ∈ noted (ArtistDashboard.registerAsArtist props out)) :
      HandedOver empty noSigner address call
  | createCollection {call : Call AccountId} (props : ComponentProps) (out : TxReplies AccountId)
      (title description : JsString)
      (h : .submitted address call ∈
        noted (CreateCollectionModal.createCollection props out title description)) :
      HandedOver empty noSigner address call
  | createNFT {c : CollectionId} {metadata : List UInt8} {price : ℕ}
      (props : CreateNFTModal.Props) (form : CreateNFTModal.Form) (out : CreateReplies)
      (haddress : props.address = some address)
      (h : .submitted c metadata price ∈ noted (CreateNFTModal.createNFT props form out)) :
      HandedOver empty noSigner address (.createNft c metadata price)
  | burnNFT {call : Call AccountId} (props : ComponentProps) (out : TxReplies AccountId)
      (collectionId itemId : ℕ)
      (h : .submitted address call ∈
        noted (CollectionManager.burnNFT props out collectionId itemId)) :
      HandedOver empty noSigner address call
  | transferNFT {call : Call AccountId} (props : ComponentProps) (out : TxReplies AccountId)
      (hsigner : out.noSigner = noSigner) (collectionId itemId : ℕ) (value : JsString)
      (h : .submitted address call ∈
        noted (CollectionManager.transferNFT props out collectionId itemId value)) :
      HandedOver empty noSigner address call
  | handleTransfer {call : Call AccountId} (props : ComponentProps) (out : TxReplies AccountId)
      (hempty : out.readAddress [] = empty) (collectionId itemId : ℕ)
      (h : .submitted address call ∈
        noted (NFTMarketplace.handleTransfer props out collectionId itemId [])) :
      HandedOver empty noSigner address call
  | mintNft {N : Type} [DecidableEq N] (toNumber : JsString → Option N) (out : Replies N)
      (props : MarketplaceProps) (collectionId itemId : ℕ) (c : CollectionId) (i : ItemId)
      (h : .signAndSend address c.toNat i.toNat ∈
        (perform (NFTMarketplace.mintNft toNumber out props collectionId itemId) []).2) :
      HandedOver empty noSigner address (.mintNft c i)

namespace HandedOver

variable {empty : Except Thrown AccountId} {noSigner : Option Thrown} {address : JsString}
  {c : CollectionId} {i : ItemId} {dest : AccountId}

/-- Where the API sends nothing without a signer, transfers go to what it makes of an empty text. -/
lemma eq_ok_of_transferNft (hrefused : noSigner ≠ none)
    (h : HandedOver empty noSigner address (.transferNft c i dest)) : empty = .ok dest := by
  generalize hcall : Call.transferNft c i dest = call at h
  cases h with
  | registerAsArtist props out h =>
    rw [(ArtistDashboard.mem_registerAsArtist h).2] at hcall
    cases hcall
  | createCollection props out title description h =>
    rw [(CreateCollectionModal.mem_createCollection h).2] at hcall
    cases hcall
  | createNFT | mintNft => cases hcall
  | burnNFT props out c' i' h =>
    obtain ⟨-, _, _, -, -, rfl⟩ := CollectionManager.mem_burnNFT h
    cases hcall
  | transferNFT props out hsigner c' i' value h =>
    exact absurd (hsigner.symm.trans (CollectionManager.mem_transferNFT h).1) hrefused
  | handleTransfer props out hempty c' i' h =>
    obtain ⟨-, _, _, a, -, -, hread, rfl⟩ := NFTMarketplace.mem_handleTransfer h
    cases hcall
    rw [← hempty, hread]

end HandedOver

/-- An artist creates an NFT by the buttons of the frontend, it is sold, and the buyer presses the
button for a transfer, where the API makes account `0` of an empty text. -/
def buttonRun : List (Extrinsic ℕ) :=
  [⟨1, .registerArtist⟩,
    ⟨1, .createCollection
      (toBytes (charCodes (CreateCollectionModal.metadata (js "a") (js "b") (js "51"))))⟩,
    ⟨1, .createNft 0 plainMetadata 7⟩, ⟨2, .mintNft 0 0⟩, ⟨2, .transferNft 0 0 0⟩]

lemma handedOver_buttonRun :
    ∀ x ∈ buttonRun, HandedOver (.ok 0) (some .other) (demoFormat.print x.signer) x.call := by
  intro x hx
  simp only [buttonRun, List.mem_cons, List.not_mem_nil, or_false] at hx
  rcases hx with rfl | rfl | rfl | rfl | rfl
  · exact .registerAsArtist ⟨true, some (js "51"), true⟩ (.willing fun _ => .ok 0)
      (List.mem_singleton_self _)
  · exact .createCollection ⟨true, some (js "51"), true⟩ (.willing fun _ => .ok 0) (js "a") (js "b")
      (List.mem_singleton_self _)
  · have haddress : js "51" ≠ [] := by decide
    exact .createNFT ⟨true, some (js "51"), true, 0⟩ (formWithPrice (js "7")) .willing rfl
      (submitted_plainMetadata haddress)
  · exact .mintNft demoNumber (.obliging ⟨[], []⟩) ⟨true, some (js "52"), true, none, none⟩ 0 0 0 0
      (List.mem_singleton_self _)
  · exact .handleTransfer ⟨true, some (js "52"), true⟩ (.willing fun _ => .ok 0) rfl 0 0
      (List.mem_singleton_self _)

/-! ### Trades -/

/-- After its first transfer the item has gone only to accounts with `P`. -/
def SoldOnce (P : AccountId → Prop) (ds : List (Deed AccountId)) : Prop :=
  ∀ creator owners, ds = .minted creator :: transfers creator owners → ∀ b ∈ owners.tail, P b

lemma transfers_injective (a : AccountId) : Function.Injective (transfers a) := by
  intro bs
  induction bs generalizing a with
  | nil =>
    intro bs' h
    cases bs' with
    | nil => rfl
    | cons b bs' => cases h
  | cons b bs ih =>
    intro bs' h
    cases bs' with
    | nil => cases h
    | cons b' bs' =>
      obtain ⟨hdeed, hrest⟩ := List.cons.inj h
      obtain rfl := (Deed.transferred.inj hdeed).2
      rw [ih b hrest]

/-- The chain of transfers of an item is the only one that its deeds show. -/
lemma soldOnce_transfers {P : AccountId → Prop} {creator : AccountId} {owners : List AccountId}
    (h : ∀ b ∈ owners.tail, P b) : SoldOnce P (.minted creator :: transfers creator owners) := by
  intro creator' owners' heq
  obtain ⟨hdeed, htransfers⟩ := List.cons.inj heq
  obtain rfl := Deed.minted.inj hdeed
  rw [← transfers_injective _ htransfers]
  exact h

/-- A move under a call that transfers to nobody but accounts with `P`. -/
lemma DeedStep.soldOnce {P : AccountId → Prop} {k : CollectionId × ItemId} {s : AccountId}
    {call : Call AccountId} {ds new : List (Deed AccountId)} {a b : Life AccountId}
    (h : DeedStep k s call new a b) (hproves : Proves ds a) (hds : SoldOnce P ds)
    (hcall : ∀ dest, call = .transferNft k.1 k.2 dest → P dest) : SoldOnce P (ds ++ new) := by
  cases h with
  | stay =>
    rw [List.append_nil]
    exact hds
  | create n =>
    obtain rfl : ds = [] := hproves
    exact @soldOnce_transfers _ P s [] fun b hb => by cases hb
  | transfer n dest hdest =>
    obtain ⟨creator, owners, rfl, howner, -⟩ := hproves
    rw [← howner, List.cons_append, ← transfers_concat]
    apply soldOnce_transfers
    intro b hb
    cases owners with
    | nil => cases hb
    | cons o os =>
      rcases List.mem_append.mp hb with hold | hnew
      · exact hds creator (o :: os) rfl b hold
      · rw [List.mem_singleton.mp hnew]
        exact hcall dest hdest
  | mint n hunsold =>
    obtain rfl := hproves.eq_of_unsold hunsold
    exact @soldOnce_transfers _ P n.owner [s] fun b hb => by cases hb
  | burn n howner hunsold =>
    obtain rfl := hproves.eq_of_unsold hunsold
    intro creator owners heq
    cases owners with
    | nil => cases heq
    | cons o os => cases heq

variable [DecidableEq AccountId] {T : Config AccountId Ledger} {l : Ledger}
  {fmt : AddressFormat AccountId} {empty : Except Thrown AccountId} {noSigner : Option Thrown}
  {xs : List (Extrinsic AccountId)}

/-- In every run within the budget whose calls are handed over by the frontend, through an API that
refuses to send a transaction without a signer, each NFT is sold at most once, and then goes only to
the account that the API makes of an empty text. -/
theorem frontend_sells_once (hrefused : noSigner ≠ none) (h : WithinBudget T l xs)
    (hxs : ∀ x ∈ xs, HandedOver empty noSigner (fmt.print x.signer) x.call)
    (k : CollectionId × ItemId) :
    Proves (deeds k (after T l xs).events) (life T l xs k) ∧
      SoldOnce (fun b => empty = .ok b) (deeds k (after T l xs).events) := by
  induction xs using List.reverseRecOn with
  | nil =>
    refine ⟨?_, fun creator owners heq => by cases heq⟩
    rw [life_eq_unassigned (by simp)]
    exact rfl
  | append_singleton xs x ih =>
    obtain ⟨hproves, honce⟩ := ih h.of_concat fun y hy => hxs y (List.mem_append_left _ hy)
    obtain ⟨new, hnew, hmove⟩ := exists_deedStep h k
    have hx := hxs x (List.mem_append_right _ (List.mem_singleton_self x))
    rw [hnew]
    refine ⟨hmove.proves hproves, hmove.soldOnce hproves honce fun dest hcall => ?_⟩
    rw [hcall] at hx
    exact hx.eq_ok_of_transferNft hrefused

theorem frontend_sells_once_demo :
    Proves (deeds (0, 0) (after demoRuntime demoLedger buttonRun).events)
        (life demoRuntime demoLedger buttonRun (0, 0)) ∧
      SoldOnce (fun b => (.ok 0 : Except Thrown ℕ) = .ok b)
        (deeds (0, 0) (after demoRuntime demoLedger buttonRun).events) :=
  frontend_sells_once (Option.some_ne_none _) (.of_length_le (by decide)) handedOver_buttonRun
    (0, 0)

/-! ### Nothing is hidden -/

end FarcasterNft
