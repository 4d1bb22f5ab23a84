import FarcasterNft.Frontend.Actions
import FarcasterNft.Frontend.Gate
import FarcasterNft.Frontend.Rendering
import FarcasterNft.Frontend.Snapshots
import FarcasterNft.Js.Reloading
import FarcasterNft.Pallet.Custody
import FarcasterNft.Pallet.Guards

/-!
# Browsers beside the chain

The components that load NFTs, each in a browser of its own, while the chain executes the calls of
everybody. Loads overlap, each is answered at various moments, and the one that ends last wins.
The marketplace shows the ids of collection and item together, so whatever is bought is what was
seen. The collection manager shows items under the heading of the selected collection, and burns
what was seen only if the list on the screen has been loaded for this collection.
-/

namespace FarcasterNft

open Frame Js

variable {AccountId Ledger : Type} [DecidableEq AccountId]
variable {T : Config AccountId Ledger} {l : Ledger} {fmt : AddressFormat AccountId}
variable {start now start' now' : List (Extrinsic AccountId)}

lemma Sometime.mono {P : State AccountId Ledger → Prop} (h : Sometime T l start now P)
    (hstart : start' <+: start) (hnow : now <+: now') : Sometime T l start' now' P := by
  obtain ⟨p, hp, hp', hP⟩ := h
  exact ⟨p, hstart.trans hp, hp'.trans hnow, hP⟩

/-- Queries that are all answered from the state after one run. -/
lemma answeredBetween_const (xs : List (Extrinsic AccountId))
    (L : Listing (after T l xs).collections) :
    AnsweredBetween T l xs xs fun _ => .ok ⟨_, L⟩ := by
  intro k q hq
  obtain rfl := Except.ok.inj hq
  exact ⟨xs, List.prefix_rfl, List.prefix_rfl, rfl⟩

/-- A load that is answered at once. -/
lemma allowed_loaded {K V : Type} {past : List (Extrinsic AccountId)}
    (L : Listing (after T l past).collections) (k : K) (v : V) :
    Reloading.Allowed (· <+: ·) (fun _ => AnsweredBetween T l) ⟨k, past, v, [(k, past)]⟩
      (.finish 0 fun _ => .ok ⟨_, L⟩) := by
  intro _ w hw
  obtain ⟨-, rfl⟩ := Prod.mk.inj (Option.some.inj hw)
  exact answeredBetween_const past L

/-! ### The marketplace -/

namespace NFTMarketplace

/-- What a load makes of the list. There is nothing to select. -/
def load (fmt : AddressFormat AccountId) (_ : Unit) (answers : Answers AccountId Ledger)
    (prev : List ShownNFT) : List ShownNFT :=
  (perform (loadNFTsAsking fmt answers) prev).2

/-- The list shows NFTs that have been stored, each once. -/
def Right (fmt : AddressFormat AccountId) (T : Config AccountId Ledger) (l : Ledger) (_ : Unit)
    (past : List (Extrinsic AccountId)) (list : List ShownNFT) : Prop :=
  ShowsDuring fmt T l [] past list

lemma ShowsDuring.mono {list : List ShownNFT} (h : ShowsDuring fmt T l start now list)
    (hstart : start' <+: start) (hnow : now <+: now') : ShowsDuring fmt T l start' now' list where
  nodup := h.nodup
  sound e he := by
    obtain ⟨c, i, n, hn, hcol, heq⟩ := h.sound e he
    exact ⟨c, i, n, hn.mono hstart hnow, hcol.mono hstart hnow, heq⟩

lemma showsDuring_nil : ShowsDuring fmt T l start now [] where
  nodup := List.nodup_nil
  sound _ he := absurd he List.not_mem_nil

lemma rules : Reloading.Rules (· <+: ·) (fun _ => AnsweredBetween T l) (load fmt)
    (Right fmt T l) where
  mono hlater h := ShowsDuring.mono h List.prefix_rfl hlater
  load := by
    intro _ w w' answers v h
    rw [load, loadNFTsAsking, perform_loadState]
    cases hload : (perform (allNFTsAsking fmt answers) 0).1 with
    | error e => exact Or.inl rfl
    | ok nfts => exact Or.inr ((showsDuring h hload).mono List.nil_prefix List.prefix_rfl)

/-- A list that has been loaded shows NFTs as they were stored at some point of the run. -/
lemma Right.exists_stored {past : List (Extrinsic AccountId)} {list : List ShownNFT}
    (h : Right fmt T l () past list) {e : ShownNFT} (he : e ∈ list) :
    ∃ c i n p, p <+: past ∧ (after T l p).nfts (c, i) = some n ∧
      e = entry fmt c.toNat i.toNat n := by
  obtain ⟨c, i, n, ⟨p, -, hp, hn⟩, -, heq⟩ := h.sound e he
  exact ⟨c, i, n, p, hp, hn, heq⟩

/-- However its loads overlap, the marketplace shows a list that has been loaded, or none. -/
lemma right_run {tab : Reloading Unit (List (Extrinsic AccountId)) (List ShownNFT)}
    {is : List (Reloading.Input Unit (List (Extrinsic AccountId)) (Answers AccountId Ledger))}
    (hempty : tab.shown = [])
    (his : Reloading.AllAllowed (· <+: ·) (fun _ => AnsweredBetween T l) (load fmt) tab is) :
    Right fmt T l () (run (Reloading.step (load fmt)) tab is).world
      (run (Reloading.step (load fmt)) tab is).shown := by
  obtain ⟨_, h⟩ := rules.run_right his ⟨(), by rw [hempty]; exact showsDuring_nil⟩
  exact h

section

variable {N : Type} [DecidableEq N] {toNumber : JsString → Option N} {out : Replies N}
  {props : MarketplaceProps} {address : JsString} {c i : ℕ}

/-- The gate hands nothing over. -/
lemma exists_unsigned_mayMint (toNumber : JsString → Option N) (out : Replies N)
    (props : MarketplaceProps) :
    ∃ r log, perform (mayMint toNumber out props) [] = (r, log) ∧ Unsigned log := by
  cases hfid : truthy props.fid with
  | true =>
    obtain ⟨u, us, heq⟩ : ∃ u us, props.fid = some (u :: us) := by
      match hprops : props.fid with
      | none | some [] =>
        rw [hprops] at hfid
        cases hfid
      | some (u :: us) => exact ⟨u, us, rfl⟩
    obtain ⟨r, log, hmay, hunsigned, -⟩ := perform_mayMint toNumber out u us heq
    exact ⟨r, log, hmay, hunsigned⟩
  | false =>
    refine ⟨.ok true, [], ?_, unsigned_nil⟩
    rw [mayMint]
    split
    · next u us heq =>
      rw [heq] at hfid
      cases hfid
    · rfl

omit [DecidableEq N] in
lemma mem_signMint {address' : JsString} {c' i' : ℕ} {log : List (Action N)} (hlog : Unsigned log)
    (h : .signAndSend address c i ∈ (perform (signMint out address' c' i') log).2) :
    address = address' ∧ c = c' ∧ i = i' := by
  have hlast : .signAndSend address c i ∈ log ++ [.signAndSend address' c' i'] := by
    rw [signMint, perform_bind] at h
    cases hcreate : out.createTx with
    | some e =>
      rw [hcreate] at h
      exact List.mem_append_left _ h
    | none =>
      rw [hcreate, perform_external_none] at h
      cases hsign : out.signAndSend with
      | some e | none =>
        simp only [perform_bind, perform_modify, hsign] at h
        exact h
  rcases List.mem_append.mp hlast with hold | hnew
  · exact absurd hold (hlog address c i)
  · cases List.mem_singleton.mp hnew
    exact ⟨rfl, rfl, rfl⟩

/-- A purchase is handed over for the account of the component, with the ids it was made with. -/
lemma mem_mintNft {c' i' : ℕ}
    (h : .signAndSend address c i ∈ (perform (mintNft toNumber out props c' i') []).2) :
    props.address = some address ∧ c = c' ∧ i = i' := by
  obtain ⟨r, log, hmay, hunsigned⟩ := exists_unsigned_mayMint toNumber out props
  rw [mintNft] at h
  split at h
  · next u us hapi haddress hsigner =>
    rw [perform_tryCatch, perform_bind, hmay] at h
    rcases r with e | _ | _
    · exact absurd h (hunsigned address c i)
    · exact absurd h (hunsigned address c i)
    · have hsigned : .signAndSend address c i ∈
          (perform (signMint out (u :: us) c' i') log).2 := by
        simp only [if_true] at h
        rcases hsign : perform (signMint out (u :: us) c' i') log with ⟨e | _, t⟩
        · rw [hsign] at h
          exact h
        · rw [hsign] at h
          exact h
      obtain ⟨rfl, rfl, rfl⟩ := mem_signMint hunsigned hsigned
      exact ⟨haddress, rfl, rfl⟩
  · cases h

end

end NFTMarketplace

variable (T l) in
/-- Whoever buys the item `k` at any time after a run pays the price of `n` to its owner and gets
it, and it has not been sold before. -/
def PurchasesGet (now : List (Extrinsic AccountId)) (k : CollectionId × ItemId)
    (n : NFT AccountId) : Prop :=
  ∀ later b, WithinBudget T l (now ++ later) →
    let σ := after T l (now ++ later)
    let τ := after T l (now ++ later ++ [⟨b, .mintNft k.1 k.2⟩])
    succeeds T σ ⟨b, .mintNft k.1 k.2⟩ = true →
      n.isSold = false ∧ b ≠ n.owner ∧ T.currency.Moved σ.ledger τ.ledger b n.owner n.price ∧
        τ.nfts k = some { n with owner := b, isSold := true }

/-- What has been stored at some point of a run is what can be bought after it, if anything. -/
lemma purchasesGet (hT : T.currency.Exact) {p : List (Extrinsic AccountId)} (hp : p <+: now)
    {k : CollectionId × ItemId} {n : NFT AccountId} (hn : (after T l p).nfts k = some n) :
    PurchasesGet T l now k n := by
  intro later b h σ τ hok
  obtain ⟨m, hm, hunsold, howner, hbought, hmoved⟩ := mintNft_spec hT hok
  obtain ⟨rest, rfl⟩ := hp
  rw [List.append_assoc] at h
  have hm' : (after T l (p ++ (rest ++ later))).nfts k = some m := by
    rw [← List.append_assoc]
    exact hm
  obtain rfl := eq_of_unsold h hn hm' hunsold
  rw [← after_concat] at hbought hmoved
  exact ⟨hunsold, howner.symm, hmoved, hbought⟩

/-- However the loads of a marketplace overlap, whoever presses the button of an NFT that it shows
hands over the purchase of the item with the ids that are shown. Whenever a purchase of it goes
through afterwards, the buyer gets the NFT with the metadata that was shown, and pays the price it
has always had to the owner who was shown. -/
theorem buy_what_you_see (hT : T.currency.Exact) {N : Type} [DecidableEq N]
    (toNumber : JsString → Option N)
    {tab : Reloading Unit (List (Extrinsic AccountId)) (List ShownNFT)}
    {is : List (Reloading.Input Unit (List (Extrinsic AccountId)) (Answers AccountId Ledger))}
    (hempty : tab.shown = [])
    (his : Reloading.AllAllowed (· <+: ·) (fun _ => AnsweredBetween T l)
      (NFTMarketplace.load fmt) tab is) :
    let now := run (Reloading.step (NFTMarketplace.load fmt)) tab is
    ∀ e ∈ now.shown, ∀ (out : Replies N) props address c i,
      .signAndSend address c i ∈
        (perform (NFTMarketplace.mintNft toNumber out props e.collectionId e.id) []).2 →
      props.address = some address ∧ (c, i) = (e.collectionId, e.id) ∧
        ∃ (k : CollectionId × ItemId) (n : NFT AccountId), (c, i) = (k.1.toNat, k.2.toNat) ∧
          e.metadata = metadataValue n.metadata ∧ e.owner = fmt.print n.owner ∧
          e.isSold = n.isSold ∧ PurchasesGet T l now.world k n := by
  intro now e he out props address c i hsigned
  obtain ⟨c', i', n, p, hp, hn, rfl⟩ := (NFTMarketplace.right_run hempty his).exists_stored he
  obtain ⟨haddress, rfl, rfl⟩ := NFTMarketplace.mem_mintNft hsigned
  exact ⟨haddress, rfl, (c', i'), n, rfl, parse_decodeMetadata n.metadata, rfl, rfl,
    purchasesGet hT hp hn⟩

/-- The button of the NFT of a run, in a browser where a load has just ended. -/
theorem buy_what_you_see_demo :
    ∃ (e : ShownNFT) (k : CollectionId × ItemId) (n : NFT ℕ),
      (0, 0) = (e.collectionId, e.id) ∧ (0, 0) = (k.1.toNat, k.2.toNat) ∧
      e.metadata = metadataValue n.metadata ∧ e.owner = demoFormat.print n.owner ∧
      e.isSold = n.isSold ∧ PurchasesGet demoRuntime demoLedger demoRun k n := by
  obtain ⟨L⟩ := @exists_listing _ _ _ demoRuntime demoLedger demoRun
  have hn : (after demoRuntime demoLedger demoRun).nfts (0, 0) = some ⟨1, .new, false, 7⟩ := by
    decide +kernel
  have hshown : NFTMarketplace.entry demoFormat (0 : UInt32).toNat (0 : UInt32).toNat
      ⟨1, .new, false, 7⟩ ∈ NFTMarketplace.load demoFormat () (fun _ => .ok ⟨_, L⟩) [] := by
    rw [NFTMarketplace.load, NFTMarketplace.loadNFTsAsking_const]
    exact NFTMarketplace.mem_loadNFTs L [] hn (by decide +kernel) (by decide +kernel)
  obtain ⟨-, hids, k, n, hk, hmetadata, howner, hsold, hget⟩ :=
    buy_what_you_see (Currency.balances_exact 1) demoNumber rfl
      (Reloading.allAllowed_cons.mpr ⟨allowed_loaded L () [], Reloading.allAllowed_nil⟩) _ hshown
      (.obliging ⟨[], []⟩) ⟨true, some (js "5F"), true, none, none⟩ (js "5F") 0 0
      (List.mem_singleton_self _)
  exact ⟨_, k, n, hids, hk, hmetadata, howner, hsold, hget⟩

/-! ### The collection manager -/

namespace CollectionManager

/-- What a load for a collection makes of the list. -/
def load (fmt : AddressFormat AccountId) (c : CollectionId) (answers : Answers AccountId Ledger)
    (prev : List ManagedNFT) : List ManagedNFT :=
  (perform (loadNFTsAsking fmt answers c.toNat) prev).2

/-- The list shows NFTs that have been stored in the collection. -/
def Right (fmt : AddressFormat AccountId) (T : Config AccountId Ledger) (l : Ledger)
    (c : CollectionId) (past : List (Extrinsic AccountId)) (list : List ManagedNFT) : Prop :=
  ∀ e ∈ list, ∃ i n p, p <+: past ∧ (after T l p).nfts (c, i) = some n ∧
    e = entry fmt i.toNat n

/-- A load that ends normally shows what its item queries have found. -/
lemma right_of_eq_ok {c : CollectionId} {answers : Answers AccountId Ledger}
    (h : AnsweredBetween T l start now answers) {nfts : List ManagedNFT}
    (hload : (perform (collectionNFTsAsking fmt answers c.toNat) 0).1 = .ok nfts) :
    Right fmt T l c now nfts := by
  rw [collectionNFTsAsking_fst] at hload
  cases hq : answers 0 with
  | error e =>
    rw [hq] at hload
    cases hload
  | ok q =>
    simp only [hq] at hload
    split_ifs at hload with hbound
    obtain rfl := Except.ok.inj hload
    intro e he
    obtain ⟨i, -, he⟩ := List.mem_filterMap.mp he
    obtain ⟨n, hn, rfl⟩ := Option.map_eq_some_iff.mp he
    obtain ⟨c', i', hc, rfl, p, -, hp, hstored⟩ := h.stored hn
    obtain rfl := UInt32.toNat_inj.mp hc
    exact ⟨i', n, p, hp, hstored, rfl⟩

lemma rules : Reloading.Rules (· <+: ·) (fun _ => AnsweredBetween T l) (load fmt)
    (Right fmt T l) where
  mono hlater h e he := by
    obtain ⟨i, n, p, hp, hn, heq⟩ := h e he
    exact ⟨i, n, p, hp.trans hlater, hn, heq⟩
  load := by
    intro c w w' answers v h
    rw [load, loadNFTsAsking, perform_loadState]
    cases hload : (perform (collectionNFTsAsking fmt answers c.toNat) 0).1 with
    | error e => exact Or.inl rfl
    | ok nfts => exact Or.inr (right_of_eq_ok h hload)

end CollectionManager

variable (T l) in
/-- Whoever burns the item `k` at any time after a run owns `n`, unsold, and it is `n` that is
burned. -/
def BurnsDestroy (now : List (Extrinsic AccountId)) (k : CollectionId × ItemId)
    (n : NFT AccountId) : Prop :=
  ∀ later b, WithinBudget T l (now ++ later) →
    let σ := after T l (now ++ later)
    let τ := after T l (now ++ later ++ [⟨b, .burnNft k.1 k.2⟩])
    succeeds T σ ⟨b, .burnNft k.1 k.2⟩ = true →
      n.isSold = false ∧ n.owner = b ∧ σ.nfts k = some n ∧ BurnEffect σ τ k.1 k.2

lemma burnsDestroy {p : List (Extrinsic AccountId)} (hp : p <+: now)
    {k : CollectionId × ItemId} {n : NFT AccountId} (hn : (after T l p).nfts k = some n) :
    BurnsDestroy T l now k n := by
  intro later b h σ τ hok
  obtain ⟨m, hm, howner, hunsold⟩ := (succeeds_burnNft_iff.mp hok).1
  have heffect := burnEffect_of_callRule (callRule_of_succeeds hok)
  rw [← after_concat] at heffect
  obtain ⟨rest, rfl⟩ := hp
  rw [List.append_assoc] at h
  have hm' : (after T l (p ++ (rest ++ later))).nfts k = some m := by
    rw [← List.append_assoc]
    exact hm
  obtain rfl := eq_of_unsold h hn hm' hunsold
  exact ⟨hunsold, howner, hm, heffect⟩

/-- As long as a manager loads no other collection, after a time at which it showed the selected
one and was loading no other, whoever presses the button of an NFT hands over the burning of what
is shown, and whenever this goes through, it is gone and nothing else. -/
theorem burn_what_you_see
    {tab : Reloading CollectionId (List (Extrinsic AccountId)) (List ManagedNFT)}
    {is : List (Reloading.Input CollectionId (List (Extrinsic AccountId))
      (Answers AccountId Ledger))}
    (hsettled : Reloading.Settled (CollectionManager.Right fmt T l) tab)
    (his : Reloading.AllAllowed (· <+: ·) (fun _ => AnsweredBetween T l)
      (CollectionManager.load fmt) tab is)
    (hkey : ∀ i ∈ is, ∀ k, i.begins = some k → k = tab.key) :
    let now := run (Reloading.step (CollectionManager.load fmt)) tab is
    ∀ e ∈ now.shown, ∀ (props : ComponentProps) (out : TxReplies AccountId) address call,
      .submitted address call ∈
        noted (CollectionManager.burnNFT props out now.key.toNat e.id) →
      props.address = some address ∧ ∃ (i : ItemId) (n : NFT AccountId),
        call = .burnNft now.key i ∧ e.metadata = metadataValue n.metadata ∧
          e.owner = fmt.print n.owner ∧ e.isSold = n.isSold ∧
          BurnsDestroy T l now.world (now.key, i) n := by
  intro now e he props out address call hsubmitted
  have hright := (CollectionManager.rules.run_settled his hkey hsettled).1.right
  obtain ⟨i, n, p, hp, hn, rfl⟩ := hright e he
  obtain ⟨haddress, c', i', hc, hi, rfl⟩ := CollectionManager.mem_burnNFT hsubmitted
  obtain rfl := UInt32.toNat_inj.mp hc
  obtain rfl := UInt32.toNat_inj.mp hi
  exact ⟨haddress, _, n, rfl, parse_decodeMetadata n.metadata, rfl, rfl, burnsDestroy hp hn⟩

/-- A manager is settled when its first collection has been selected. -/
lemma settled_first (c : CollectionId) (past : List (Extrinsic AccountId)) :
    Reloading.Settled (CollectionManager.Right fmt T l) ⟨c, past, [], [(c, past)]⟩ where
  loads p hp := by rw [List.mem_singleton.mp hp]
  right _ he := absurd he List.not_mem_nil

/-- The button of the NFT of a run, in a manager where the first load has just ended. -/
theorem burn_what_you_see_demo :
    ∃ (e : ManagedNFT) (i : ItemId) (n : NFT ℕ), e.metadata = metadataValue n.metadata ∧
      e.owner = demoFormat.print n.owner ∧ e.isSold = n.isSold ∧
      BurnsDestroy demoRuntime demoLedger demoRun (0, i) n := by
  obtain ⟨L⟩ := @exists_listing _ _ _ demoRuntime demoLedger demoRun
  have hn : (after demoRuntime demoLedger demoRun).nfts (0, 0) = some ⟨1, .new, false, 7⟩ := by
    decide +kernel
  have hshown : CollectionManager.entry demoFormat (0 : UInt32).toNat ⟨1, .new, false, 7⟩ ∈
      CollectionManager.load demoFormat 0 (fun _ => .ok ⟨_, L⟩) [] := by
    have hne : (after demoRuntime demoLedger demoRun).nfts (0, 0) ≠ none := by simp [hn]
    have hbound : itemBound ((after demoRuntime demoLedger demoRun).itemCounter 0) < 2 ^ 32 := by
      decide +kernel
    have hle := item_le_itemCounter demoRun hne
    rw [CollectionManager.load, CollectionManager.loadNFTsAsking_const]
    exact CollectionManager.mem_loadNFTs [] hn hbound hle
  obtain ⟨-, i, n, -, hmetadata, howner, hsold, hburns⟩ :=
    burn_what_you_see (settled_first 0 demoRun)
      (Reloading.allAllowed_cons.mpr ⟨allowed_loaded L 0 [], Reloading.allAllowed_nil⟩)
      (fun i hi k hbegins => by
        rw [List.mem_singleton.mp hi] at hbegins
        cases hbegins) _ hshown
      ⟨true, some (js "51"), true⟩ (.willing fun _ => .error .other) (js "51") (.burnNft 0 0)
      (List.mem_singleton_self _)
  exact ⟨_, i, n, hmetadata, howner, hsold, hburns⟩

end FarcasterNft
