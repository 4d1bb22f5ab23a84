import FarcasterNft.Frontend.Api
import FarcasterNft.Js.Log

/-!
# The transactions that the components send

The buttons of the components other than those for buying and creating an NFT. They all go the
same way: without an API, an account or a signer nothing is sent; a transaction is created, which
can fail; it is handed over to be signed for the account; and what is thrown on the way is shown.
The transfer of the collection manager is the one that names no signer, so that it is only sent if
the API does without one.
-/

namespace FarcasterNft

open Frame Js

variable {AccountId : Type}

/-- What is done in the course of an action: an error is shown in the component, or a transaction
is handed over to be signed for an address. -/
inductive UiAction (AccountId : Type) where
  | setError (message : JsString)
  | submitted (address : JsString) (call : Call AccountId)

/-- How the calls end that an action makes. -/
structure TxReplies (AccountId : Type) where
  /-- The account that the API reads from a text. -/
  readAddress : JsString → Except Thrown AccountId
  createTx : Option Thrown
  /-- What the API throws where a transaction is to be signed for an address without a signer, if it
  refuses to go on. -/
  noSigner : Option Thrown
  signAndSend : Option Thrown

/-- The props of a component. -/
structure ComponentProps where
  api : Bool
  address : Option JsString
  signer : Bool

abbrev Acting (AccountId α : Type) := Async (List (UiAction AccountId)) α

section

variable (props : ComponentProps) (out : TxReplies AccountId)

/-- `tx.signAndSend(address, options, callback)`, with a signer in the options or without. -/
def signAndSend (address : JsString) (signer : Bool) (call : Call AccountId) :
    Acting AccountId Unit := do
  external (if signer then none else out.noSigner)
  note (.submitted address call)
  external out.signAndSend

/-- How the components send a transaction. `missing` is what is done where a property is missing,
and `failed` what is done where something is thrown. -/
def submit (signer : Bool) (tx : Except Thrown (Call AccountId))
    (missing failed : Acting AccountId Unit) : Acting AccountId Unit :=
  match props.api, props.address, props.signer with
  | true, some (u :: us), true =>
    tryCatch
      (do
        external out.createTx
        let call ← lift tx
        signAndSend out (u :: us) signer call)
      fun _ => failed
  | _, _, _ => missing

namespace CollectionManager

def burnNFT (collectionId itemId : ℕ) : Acting AccountId Unit :=
  submit props out true (do return .burnNft (← u32 collectionId) (← u32 itemId))
    (note (.setError (js "Missing required properties")))
    (note (.setError (js "Failed to burn NFT")))

/-- The options of this transaction are empty. -/
def transferNFT (collectionId itemId : ℕ) (dest : JsString) : Acting AccountId Unit :=
  submit props out false
    (do return .transferNft (← u32 collectionId) (← u32 itemId) (← out.readAddress dest))
    (note (.setError (js "Missing required properties")))
    (note (.setError (js "Failed to transfer NFT")))

end CollectionManager

namespace NFTMarketplace

def handleTransfer (collectionId itemId : ℕ) (dest : JsString) : Acting AccountId Unit :=
  submit props out true
    (do return .transferNft (← u32 collectionId) (← u32 itemId) (← out.readAddress dest))
    (pure ()) (pure ())

end NFTMarketplace

namespace ArtistDashboard

def registerAsArtist : Acting AccountId Unit :=
  submit props out true (.ok .registerArtist) (pure ()) (pure ())

end ArtistDashboard

namespace CreateCollectionModal

/-- The address of the account is part of the metadata, so there is one whenever it is read. -/
def createCollection (title description : JsString) : Acting AccountId Unit :=
  submit props out true
    (.ok (.createCollection (toBytes (charCodes
      (metadata title description (props.address.getD []))))))
    (pure ()) (pure ())

/-- Whether the button is disabled. -/
def disabled (title description : JsString) (isLoading : Bool) : Bool :=
  isLoading || title.isEmpty || description.isEmpty

end CreateCollectionModal

end

/-! ### What is handed over -/

variable {props : ComponentProps} {out : TxReplies AccountId} {address : JsString}
  {call : Call AccountId}

/-- The log holds no transaction. -/
def NothingSubmitted (log : List (UiAction AccountId)) : Prop :=
  ∀ address call, .submitted address call ∉ log

lemma nothingSubmitted_nil : NothingSubmitted ([] : List (UiAction AccountId)) :=
  fun _ _ => List.not_mem_nil

lemma nothingSubmitted_setError (message : JsString) :
    NothingSubmitted ([.setError message] : List (UiAction AccountId)) := by
  intro address call h
  cases List.mem_singleton.mp h

/-- A transaction is handed over exactly if there is a signer, or the API does without one. -/
lemma exists_logs_signAndSend (out : TxReplies AccountId) (address : JsString) (signer : Bool)
    (call : Call AccountId) :
    (∃ e, Logs (signAndSend out address signer call) (.error e) []) ∨
      (signer = true ∨ out.noSigner = none) ∧
        ∃ r, Logs (signAndSend out address signer call) r [.submitted address call] := by
  cases hrefused : (if signer then none else out.noSigner) with
  | some e =>
    left
    refine ⟨e, ?_⟩
    rw [signAndSend, hrefused]
    exact (logs_external_some e).bind_error
  | none =>
    right
    refine ⟨?_, ?_⟩
    · cases signer with
      | true => exact Or.inl rfl
      | false => exact Or.inr hrefused
    · rw [signAndSend, hrefused]
      cases out.signAndSend with
      | none => exact ⟨_, logs_external_none.bind ((logs_note _).bind logs_external_none)⟩
      | some e => exact ⟨_, logs_external_none.bind ((logs_note _).bind (logs_external_some e))⟩

/-- What is handed over is the transaction that was created, for the account of the component, and
there is a signer, unless the API does without one. -/
lemma exists_logs_submit (props : ComponentProps) (out : TxReplies AccountId) (signer : Bool)
    (tx : Except Thrown (Call AccountId)) {missing failed : Acting AccountId Unit}
    {p q : List (UiAction AccountId)}
    (hmissing : Logs missing (.ok ()) p) (hp : NothingSubmitted p)
    (hfailed : Logs failed (.ok ()) q) (hq : NothingSubmitted q) :
    ∃ log, Logs (submit props out signer tx missing failed) (.ok ()) log ∧
      ∀ address call, .submitted address call ∈ log →
        (signer = true ∨ out.noSigner = none) ∧ props.address = some address ∧ tx = .ok call := by
  obtain ⟨api, addr, hasSigner⟩ := props
  match api, addr, hasSigner with
  | false, _, _ | true, none, _ | true, some [], _ | true, some (_ :: _), false =>
    exact ⟨p, hmissing, fun address call h => absurd h (hp address call)⟩
  | true, some (u :: us), true =>
    -- a throw before the transaction is handed over leaves the log of the handler alone
    have hthrown : ∀ body : Acting AccountId Unit, (∃ e, Logs body (.error e) []) →
        Logs (tryCatch body fun _ => failed) (.ok ()) q :=
      fun body ⟨e, hbody⟩ => hbody.tryCatch_error hfailed
    have hnothing : ∀ address call, .submitted address call ∈ q →
        (signer = true ∨ out.noSigner = none) ∧ some (u :: us) = some address ∧ tx = .ok call :=
      fun address call h => absurd h (hq address call)
    show ∃ log, Logs (tryCatch (do
        external out.createTx
        let call ← lift tx
        signAndSend out (u :: us) signer call) fun _ => failed) (.ok ()) log ∧ _
    cases out.createTx with
    | some e => exact ⟨q, hthrown _ ⟨e, (logs_external_some e).bind_error⟩, hnothing⟩
    | none =>
      cases htx : tx with
      | error e =>
        refine ⟨q, hthrown _ ⟨e, ?_⟩, htx ▸ hnothing⟩
        exact logs_external_none.bind (logs_lift _).bind_error
      | ok call =>
        obtain ⟨e, hrefused⟩ | ⟨hsigner, r, hsent⟩ :=
          exists_logs_signAndSend out (u :: us) signer call
        · refine ⟨q, hthrown _ ⟨e, ?_⟩, htx ▸ hnothing⟩
          exact logs_external_none.bind ((logs_lift _).bind hrefused)
        · have hbody : Logs (do
              external none
              let call ← lift (.ok call)
              signAndSend out (u :: us) signer call) r [.submitted (u :: us) call] :=
            logs_external_none.bind ((logs_lift _).bind hsent)
          have hone : ∀ address call', .submitted address call' ∈
              [UiAction.submitted (u :: us) call] →
              (signer = true ∨ out.noSigner = none) ∧ some (u :: us) = some address ∧
                (.ok call : Except Thrown (Call AccountId)) = .ok call' := by
            intro address call' h
            cases List.mem_singleton.mp h
            exact ⟨hsigner, rfl, rfl⟩
          cases r with
          | ok => exact ⟨_, hbody.tryCatch_ok, hone⟩
          | error e =>
            refine ⟨_, hbody.tryCatch_error hfailed, fun address call' h => ?_⟩
            exact hone address call' ((List.mem_append.mp h).resolve_right (hq address call'))

/-- Replies of which none fails. -/
def TxReplies.willing (readAddress : JsString → Except Thrown AccountId) : TxReplies AccountId where
  readAddress := readAddress
  createTx := none
  noSigner := some .other
  signAndSend := none

lemma u32_eq_ok_iff {n : ℕ} {id : UInt32} : u32 n = .ok id ↔ n = id.toNat := by
  constructor
  · intro h
    rw [u32] at h
    split_ifs at h with hn
    obtain rfl := Except.ok.inj h
    exact (UInt32.toNat_ofNat_of_lt' hn).symm
  · rintro rfl
    exact u32_toNat id

/-- A step of a computation that succeeds, and what is done with its result. -/
lemma exists_of_bind_eq_ok {α β : Type} {x : Except Thrown α} {f : α → Except Thrown β} {b : β}
    (h : (x >>= f) = .ok b) : ∃ a, x = .ok a ∧ f a = .ok b := by
  cases x with
  | error e => cases h
  | ok a => exact ⟨a, rfl, h⟩

namespace CollectionManager

/-- The manager burns the item it is told to burn, for its account. -/
lemma mem_burnNFT {c i : ℕ} (h : .submitted address call ∈ noted (burnNFT props out c i)) :
    props.address = some address ∧
      ∃ (c' : CollectionId) (i' : ItemId), c = c'.toNat ∧ i = i'.toNat ∧
        call = .burnNft c' i' := by
  obtain ⟨log, hlog, hmem⟩ := exists_logs_submit props out true
    (do return .burnNft (← u32 c) (← u32 i)) (logs_note _) (nothingSubmitted_setError _)
    (logs_note _) (nothingSubmitted_setError (js "Failed to burn NFT"))
  rw [burnNFT, hlog.noted_eq] at h
  obtain ⟨-, haddress, htx⟩ := hmem address call h
  obtain ⟨c', hc, htx⟩ := exists_of_bind_eq_ok htx
  obtain ⟨i', hi, htx⟩ := exists_of_bind_eq_ok htx
  exact ⟨haddress, c', i', u32_eq_ok_iff.mp hc, u32_eq_ok_iff.mp hi, (Except.ok.inj htx).symm⟩

/-- The manager only transfers something if the API does without a signer. -/
lemma mem_transferNFT {c i : ℕ} {dest : JsString}
    (h : .submitted address call ∈ noted (transferNFT props out c i dest)) :
    out.noSigner = none ∧ ∃ (c' : CollectionId) (i' : ItemId) (a : AccountId),
      call = .transferNft c' i' a := by
  obtain ⟨log, hlog, hmem⟩ := exists_logs_submit props out false
    (do return .transferNft (← u32 c) (← u32 i) (← out.readAddress dest)) (logs_note _)
    (nothingSubmitted_setError _) (logs_note _)
    (nothingSubmitted_setError (js "Failed to transfer NFT"))
  rw [transferNFT, hlog.noted_eq] at h
  obtain ⟨hsigner, -, htx⟩ := hmem address call h
  obtain ⟨c', -, htx⟩ := exists_of_bind_eq_ok htx
  obtain ⟨i', -, htx⟩ := exists_of_bind_eq_ok htx
  obtain ⟨a, -, htx⟩ := exists_of_bind_eq_ok htx
  exact ⟨hsigner.resolve_left Bool.false_ne_true, c', i', a, (Except.ok.inj htx).symm⟩

end CollectionManager

namespace NFTMarketplace

lemma mem_handleTransfer {c i : ℕ} {dest : JsString}
    (h : .submitted address call ∈ noted (handleTransfer props out c i dest)) :
    props.address = some address ∧
      ∃ (c' : CollectionId) (i' : ItemId) (a : AccountId), c = c'.toNat ∧ i = i'.toNat ∧
        out.readAddress dest = .ok a ∧ call = .transferNft c' i' a := by
  obtain ⟨log, hlog, hmem⟩ := exists_logs_submit props out true
    (do return .transferNft (← u32 c) (← u32 i) (← out.readAddress dest)) (logs_pure ())
    nothingSubmitted_nil (logs_pure ()) nothingSubmitted_nil
  rw [handleTransfer, hlog.noted_eq] at h
  obtain ⟨-, haddress, htx⟩ := hmem address call h
  obtain ⟨c', hc, htx⟩ := exists_of_bind_eq_ok htx
  obtain ⟨i', hi, htx⟩ := exists_of_bind_eq_ok htx
  obtain ⟨a, ha, htx⟩ := exists_of_bind_eq_ok htx
  exact ⟨haddress, c', i', a, u32_eq_ok_iff.mp hc, u32_eq_ok_iff.mp hi, ha,
    (Except.ok.inj htx).symm⟩

end NFTMarketplace

namespace ArtistDashboard

lemma mem_registerAsArtist (h : .submitted address call ∈ noted (registerAsArtist props out)) :
    props.address = some address ∧ call = .registerArtist := by
  obtain ⟨log, hlog, hmem⟩ := exists_logs_submit props out true
    (.ok .registerArtist) (logs_pure ()) nothingSubmitted_nil (logs_pure ())
    nothingSubmitted_nil
  rw [registerAsArtist, hlog.noted_eq] at h
  obtain ⟨-, haddress, htx⟩ := hmem address call h
  exact ⟨haddress, (Except.ok.inj htx).symm⟩

end ArtistDashboard

namespace CreateCollectionModal

lemma mem_createCollection {title description : JsString}
    (h : .submitted address call ∈ noted (createCollection props out title description)) :
    props.address = some address ∧
      call = .createCollection (toBytes (charCodes (metadata title description address))) := by
  obtain ⟨log, hlog, hmem⟩ := exists_logs_submit props out true
    (.ok (.createCollection (toBytes (charCodes
      (metadata title description (props.address.getD [])))))) (logs_pure ())
    nothingSubmitted_nil (logs_pure ()) nothingSubmitted_nil
  rw [createCollection, hlog.noted_eq] at h
  obtain ⟨-, haddress, htx⟩ := hmem address call h
  rw [haddress] at htx
  exact ⟨haddress, (Except.ok.inj htx).symm⟩

end CreateCollectionModal

end FarcasterNft
