import FarcasterNft.Pallet.Lifecycle

/-!
# What the events say about one NFT

Every move of an NFT deposits an event. Read one after the other, the events about one item form
a chain: it is minted once, each transfer starts with the owner the one before ended with, and
only an item that was never transferred is burned. So the events alone show who has held an NFT,
and whether it is sold.
-/

namespace FarcasterNft

open Frame

variable {AccountId Ledger : Type}

/-! ### Deeds -/

/-- What an event says about an item. -/
inductive Deed (AccountId : Type) where
  | minted (owner : AccountId)
  | transferred (sender dest : AccountId)
  | burned (owner : AccountId)
  deriving DecidableEq

/-- What an event says about the item `k`, if it is about this item. -/
def Event.deed (k : CollectionId × ItemId) : Event AccountId → Option (Deed AccountId)
  | .nftMinted c i owner => if (c, i) = k then some (.minted owner) else none
  | .nftTransferred c i sender dest =>
    if (c, i) = k then some (.transferred sender dest) else none
  | .nftBurned c i owner => if (c, i) = k then some (.burned owner) else none
  | _ => none

/-- What the events say about the item `k`, in order. -/
def deeds (k : CollectionId × ItemId) (events : List (Event AccountId)) :
    List (Deed AccountId) :=
  events.filterMap (Event.deed k)

/-- The transfers by which an item goes from one account through the hands of others. -/
def transfers : AccountId → List AccountId → List (Deed AccountId)
  | _, [] => []
  | a, b :: bs => .transferred a b :: transfers b bs

/-- Whether the deeds of an item prove what has become of it. An item that is held was minted for
an account and went through the hands of its later owners up to the present one; it is sold
exactly if there are later owners. A burned item was minted for an account and burned by it. -/
def Proves (ds : List (Deed AccountId)) : Life AccountId → Prop
  | .unassigned => ds = []
  | .held n => ∃ creator owners, ds = .minted creator :: transfers creator owners ∧
      owners.getLastD creator = n.owner ∧ (n.isSold = true ↔ owners ≠ [])
  | .burned => ∃ creator, ds = [.minted creator, .burned creator]

variable {k : CollectionId × ItemId}

@[simp] lemma deeds_concat (events : List (Event AccountId)) (e : Event AccountId) :
    deeds k (events ++ [e]) = deeds k events ++ (e.deed k).toList := by
  rw [deeds, List.filterMap_append, deeds]
  cases h : e.deed k <;> simp [h]

lemma transfers_concat (a : AccountId) (bs : List AccountId) (b : AccountId) :
    transfers a (bs ++ [b]) = transfers a bs ++ [.transferred (bs.getLastD a) b] := by
  induction bs generalizing a with
  | nil => rfl
  | cons c bs ih =>
    rw [List.cons_append, transfers, ih, transfers, List.cons_append, List.getLastD_cons]

/-! ### What a step adds to the deeds -/

/-- The moves of an item under a call signed by `s`, each with the deeds it adds. -/
inductive DeedStep (k : CollectionId × ItemId) (s : AccountId) (call : Call AccountId) :
    List (Deed AccountId) → Life AccountId → Life AccountId → Prop where
  | stay (a : Life AccountId) : DeedStep k s call [] a a
  | create (n : NFT AccountId) (howner : n.owner = s) (hunsold : n.isSold = false) :
      DeedStep k s call [.minted s] .unassigned (.held n)
  | transfer (n : NFT AccountId) (dest : AccountId) (hcall : call = .transferNft k.1 k.2 dest) :
      DeedStep k s call [.transferred n.owner dest] (.held n)
        (.held { n with owner := dest, isSold := true })
  | mint (n : NFT AccountId) (hunsold : n.isSold = false) :
      DeedStep k s call [.transferred n.owner s] (.held n)
        (.held { n with owner := s, isSold := true })
  | burn (n : NFT AccountId) (howner : n.owner = s) (hunsold : n.isSold = false) :
      DeedStep k s call [.burned s] (.held n) .burned

/-- A transfer that is added to a proof makes the recipient the last owner. -/
lemma Proves.transfer {ds : List (Deed AccountId)} {n : NFT AccountId} (h : Proves ds (.held n))
    (dest : AccountId) :
    Proves (ds ++ [.transferred n.owner dest])
      (.held { n with owner := dest, isSold := true }) := by
  obtain ⟨creator, owners, rfl, howner, -⟩ := h
  refine ⟨creator, owners ++ [dest], ?_, by simp, by simp⟩
  rw [transfers_concat, howner, List.cons_append]

/-- Whoever holds an unsold item has created it. -/
lemma Proves.eq_of_unsold {ds : List (Deed AccountId)} {n : NFT AccountId}
    (h : Proves ds (.held n)) (hunsold : n.isSold = false) : ds = [.minted n.owner] := by
  obtain ⟨creator, owners, rfl, howner, hsold⟩ := h
  have hnil : owners = [] := by
    by_contra hne
    rw [hsold.mpr hne] at hunsold
    cases hunsold
  subst hnil
  obtain rfl : creator = n.owner := howner
  rfl

/-- The deeds that a move adds to a proof prove what the move has made of the item. -/
lemma DeedStep.proves {s : AccountId} {call : Call AccountId} {ds new : List (Deed AccountId)}
    {a b : Life AccountId} (h : DeedStep k s call new a b) (ha : Proves ds a) :
    Proves (ds ++ new) b := by
  cases h with
  | stay =>
    rw [List.append_nil]
    exact ha
  | create n howner hunsold =>
    obtain rfl : ds = [] := ha
    exact ⟨s, [], rfl, howner.symm, by simp [hunsold]⟩
  | transfer n dest => exact ha.transfer dest
  | mint n => exact ha.transfer s
  | burn n howner hunsold =>
    obtain rfl := ha.eq_of_unsold hunsold
    exact ⟨s, by rw [howner]; rfl⟩

variable [DecidableEq AccountId] {T : Config AccountId Ledger} {l : Ledger}
  {xs : List (Extrinsic AccountId)} {x : Extrinsic AccountId}

/-- Where a step leaves the storage of an item alone, nothing has become of the item. -/
lemma life_eq_of_nfts_eq (h : WithinBudget T l (xs ++ [x]))
    (hk : (after T l (xs ++ [x])).nfts k = (after T l xs).nfts k) :
    life T l (xs ++ [x]) k = life T l xs k := by
  have hheld : ∀ n, life T l (xs ++ [x]) k = .held n ↔ life T l xs k = .held n := by
    intro n
    rw [life_eq_held_iff, life_eq_held_iff, hk]
  have hmove := life_step h k
  generalize ha : life T l xs k = a at hmove hheld
  generalize hb : life T l (xs ++ [x]) k = b at hmove hheld
  cases hmove with
  | stay => rfl
  | create | transfer | mint => exact (hheld _).mp rfl ▸ rfl
  | burn n => exact (hheld n).mpr rfl

/-- The deed that a step adds to those of an item is that of the move the item makes. -/
lemma exists_deedStep (h : WithinBudget T l (xs ++ [x])) (k : CollectionId × ItemId) :
    ∃ new, deeds k (after T l (xs ++ [x])).events = deeds k (after T l xs).events ++ new ∧
      DeedStep k x.signer x.call new (life T l xs k) (life T l (xs ++ [x]) k) := by
  have stay (hnft : (after T l (xs ++ [x])).nfts k = (after T l xs).nfts k)
      (hdeeds : deeds k (after T l (xs ++ [x])).events = deeds k (after T l xs).events) :
      ∃ new, deeds k (after T l (xs ++ [x])).events = deeds k (after T l xs).events ++ new ∧
        DeedStep k x.signer x.call new (life T l xs k) (life T l (xs ++ [x]) k) := by
    refine ⟨[], by rw [hdeeds, List.append_nil], ?_⟩
    rw [life_eq_of_nfts_eq h hnft]
    exact .stay _
  obtain ⟨-, hstep⟩ | ⟨hok, hrule⟩ := step_cases T (after T l xs) x
  · exact stay (by rw [after_concat, hstep]) (by rw [after_concat, hstep])
  rw [← after_concat] at hrule
  obtain ⟨s, call⟩ := x
  generalize hτ : after T l (xs ++ [⟨s, call⟩]) = τ at hrule stay ⊢
  cases hrule with
  | createNft c metadata price col md nfts =>
    by_cases hk : (c, (after T l xs).itemCounter c) = k
    · subst hk
      rw [life_eq_unassigned fun hmem => UInt32.lt_irrefl _ (h.item_lt_counter hok hmem),
        life_eq_held_of_insert (congrArg State.nfts hτ)]
      exact ⟨_, by simp [Event.deed], .create ⟨s, md, false, price⟩ rfl rfl⟩
    · exact stay (StorageMap.insert_of_ne _ _ (Ne.symm hk)) (by simp [Event.deed, hk])
  | transferNft c i dest n hnft howner =>
    by_cases hk : (c, i) = k
    · subst hk
      rw [life_eq_held_iff.mpr hnft, life_eq_held_of_insert (congrArg State.nfts hτ)]
      exact ⟨_, by simp [Event.deed, howner], .transfer n dest rfl⟩
    · exact stay (StorageMap.insert_of_ne _ _ (Ne.symm hk)) (by simp [Event.deed, hk])
  | mintNft c i n _ hnft hunsold =>
    by_cases hk : (c, i) = k
    · subst hk
      rw [life_eq_held_iff.mpr hnft, life_eq_held_of_insert (congrArg State.nfts hτ)]
      exact ⟨_, by simp [Event.deed], .mint n hunsold⟩
    · exact stay (StorageMap.insert_of_ne _ _ (Ne.symm hk)) (by simp [Event.deed, hk])
  | burnNft c i n col hnft howner hunsold =>
    by_cases hk : (c, i) = k
    · subst hk
      have hmem : i ∈ assignedItems T l c (xs ++ [⟨s, .burnNft c i⟩]) :=
        assignedItems_subset_concat c xs _ (mem_assignedItems xs (by simp [hnft]))
      rw [life_eq_held_iff.mpr hnft,
        life_eq_burned (by rw [hτ]; exact StorageMap.remove_self _ _) hmem]
      exact ⟨_, by simp [Event.deed], .burn n howner hunsold⟩
    · exact stay (StorageMap.remove_of_ne _ (Ne.symm hk)) (by simp [Event.deed, hk])
  | _ => exact stay rfl (by simp [Event.deed])

/-- In every run within the budget, the events about an item prove what has become of it. -/
theorem events_prove_custody (h : WithinBudget T l xs) (k : CollectionId × ItemId) :
    Proves (deeds k (after T l xs).events) (life T l xs k) := by
  induction xs using List.reverseRecOn with
  | nil =>
    rw [life_eq_unassigned (by simp)]
    exact rfl
  | append_singleton xs x ih =>
    obtain ⟨new, hnew, hmove⟩ := exists_deedStep h k
    rw [hnew]
    exact hmove.proves (ih h.of_concat)

/-- The events of a run in which an NFT is sold, its collection deleted, and the NFT passed on. -/
theorem events_prove_custody_demo :
    Proves (deeds (0, 0) (after demoRuntime demoLedger
        (demoRun ++ [⟨2, .mintNft 0 0⟩, ⟨1, .deleteCollection 0⟩, ⟨2, .transferNft 0 0 3⟩])).events)
      (life demoRuntime demoLedger
        (demoRun ++ [⟨2, .mintNft 0 0⟩, ⟨1, .deleteCollection 0⟩, ⟨2, .transferNft 0 0 3⟩])
          (0, 0)) :=
  events_prove_custody (.of_length_le (by decide)) (0, 0)

/-! ### What becomes of an NFT -/

/-- What can have become of an item that was held as `n`: it is as it was, or it is sold with the
same metadata and price, or it was on offer and is burned. -/
inductive Life.Follows (n : NFT AccountId) : Life AccountId → Prop where
  | same : Follows n (.held n)
  | sold (m : NFT AccountId) (hmetadata : m.metadata = n.metadata) (hprice : m.price = n.price)
      (hsold : m.isSold = true) : Follows n (.held m)
  | burned (hunsold : n.isSold = false) : Follows n .burned

omit [DecidableEq AccountId] in
lemma LifeStep.follows {s : AccountId} {call : Call AccountId} {a b : Life AccountId}
    {n : NFT AccountId} (h : LifeStep k s call a b) (ha : a.Follows n) : b.Follows n := by
  cases ha with
  | same =>
    cases h with
    | stay => exact .same
    | transfer => exact .sold _ rfl rfl rfl
    | burn _ _ _ hunsold => exact .burned hunsold
    | mint => exact .sold _ rfl rfl rfl
  | sold m hmetadata hprice hsold =>
    cases h with
    | stay => exact .sold m hmetadata hprice hsold
    | transfer => exact .sold _ hmetadata hprice rfl
    | burn _ _ _ hunsold => exact absurd hunsold (by simp [hsold])
    | mint => exact .sold _ hmetadata hprice rfl
  | burned hunsold =>
    cases h with
    | stay => exact .burned hunsold

/-- Nothing about a stored NFT ever changes but its owner and that it is sold, and only an NFT on
offer is ever lost. -/
lemma life_follows {past later : List (Extrinsic AccountId)} {n : NFT AccountId}
    (h : WithinBudget T l (past ++ later)) (hn : (after T l past).nfts k = some n) :
    (life T l (past ++ later) k).Follows n := by
  apply life_invariant (fun _ _ _ _ hmove ha => hmove.follows ha) h
  rw [life_eq_held_iff.mpr hn]
  exact .same

end FarcasterNft
