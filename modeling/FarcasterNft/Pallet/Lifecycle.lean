import FarcasterNft.Pallet.Identifiers

/-!
# The life of an NFT

What the pallet promises about one item id, as an abstract machine: an id is unassigned, then
held, and either sold for good or burned for good. `LifeStep` lists the moves, each with the
call and the signer it takes. Within the budget of ids the pallet refines this machine at every
id (`life_step`), and what an owner or a buyer relies on is a property of its moves.
-/

namespace FarcasterNft

open Frame

variable {AccountId : Type}

/-! ### The abstract machine -/

inductive Life (AccountId : Type) where
  | unassigned
  | held (n : NFT AccountId)
  | burned

/-- The moves of the item `k` under a call signed by `s`. A call may also leave it alone. -/
inductive LifeStep (k : CollectionId × ItemId) (s : AccountId) (call : Call AccountId) :
    Life AccountId → Life AccountId → Prop where
  | stay (a : Life AccountId) : LifeStep k s call a a
  | create (metadata : List UInt8) (md : BoundedVec UInt8 256) (price : ℕ)
      (hcall : call = .createNft k.1 metadata price) :
      LifeStep k s call .unassigned (.held ⟨s, md, false, price⟩)
  | transfer (n : NFT AccountId) (dest : AccountId) (hcall : call = .transferNft k.1 k.2 dest)
      (howner : n.owner = s) :
      LifeStep k s call (.held n) (.held { n with owner := dest, isSold := true })
  | burn (n : NFT AccountId) (hcall : call = .burnNft k.1 k.2) (howner : n.owner = s)
      (hunsold : n.isSold = false) : LifeStep k s call (.held n) .burned
  | mint (n : NFT AccountId) (hcall : call = .mintNft k.1 k.2) (howner : n.owner ≠ s)
      (hunsold : n.isSold = false) :
      LifeStep k s call (.held n) (.held { n with owner := s, isSold := true })

namespace Life

/-- A sold item: it can neither be burned nor bought any more. -/
def IsSold : Life AccountId → Prop
  | .held n => n.isSold = true
  | _ => False

/-- What can have become of an item that was held as `n`: it is as it was, sold or burned. -/
def Since (n : NFT AccountId) (a : Life AccountId) : Prop :=
  a = .held n ∨ a.IsSold ∨ a = .burned

end Life

namespace LifeStep

variable {k : CollectionId × ItemId} {s : AccountId} {call : Call AccountId}
variable {a b : Life AccountId} {n : NFT AccountId}

/-- A sold item stays sold. -/
lemma isSold (h : LifeStep k s call a b) (ha : a.IsSold) : b.IsSold := by
  cases h with
  | stay => exact ha
  | create => exact ha.elim
  | transfer n dest => exact rfl
  | burn n _ _ hunsold => exact absurd ha (by simp [Life.IsSold, hunsold])
  | mint n => exact rfl

/-- No move leads back to an unsold item that differs from the one there was. -/
lemma since (h : LifeStep k s call a b) (ha : a.Since n) : b.Since n := by
  rcases ha with rfl | ha | rfl
  · cases h with
    | stay => exact Or.inl rfl
    | transfer => exact Or.inr (Or.inl rfl)
    | burn => exact Or.inr (Or.inr rfl)
    | mint => exact Or.inr (Or.inl rfl)
  · exact Or.inr (Or.inl (h.isSold ha))
  · cases h with
    | stay => exact Or.inr (Or.inr rfl)

end LifeStep

/-! ### The pallet refines it -/

section

variable {Ledger : Type} [DecidableEq AccountId]
variable {T : Config AccountId Ledger} {l : Ledger}

variable (T l) in
/-- What has become of the item id `k` after a run. -/
def life (xs : List (Extrinsic AccountId)) (k : CollectionId × ItemId) : Life AccountId :=
  match (after T l xs).nfts k with
  | some n => .held n
  | none => if k.2 ∈ assignedItems T l k.1 xs then .burned else .unassigned

variable {xs : List (Extrinsic AccountId)} {k : CollectionId × ItemId} {n : NFT AccountId}

lemma life_eq_held_iff : life T l xs k = .held n ↔ (after T l xs).nfts k = some n := by
  rw [life]
  split
  · simp_all
  · split_ifs <;> simp_all

/-- A call that writes an item leaves it held as written. -/
lemma life_eq_held_of_insert {m : StorageMap (CollectionId × ItemId) (NFT AccountId)}
    (h : (after T l xs).nfts = m.insert k n) : life T l xs k = .held n := by
  rw [life_eq_held_iff, h, StorageMap.insert_self]

lemma life_congr {ys : List (Extrinsic AccountId)}
    (hnft : (after T l ys).nfts k = (after T l xs).nfts k)
    (hmem : k.2 ∈ assignedItems T l k.1 ys ↔ k.2 ∈ assignedItems T l k.1 xs) :
    life T l ys k = life T l xs k := by
  simp only [life, hnft, hmem]

lemma life_eq_unassigned (h : k.2 ∉ assignedItems T l k.1 xs) :
    life T l xs k = .unassigned := by
  have hnone : (after T l xs).nfts k = none := by
    by_contra hne
    exact h (mem_assignedItems xs hne)
  simp [life, hnone, h]

lemma life_eq_burned (hnone : (after T l xs).nfts k = none)
    (hmem : k.2 ∈ assignedItems T l k.1 xs) : life T l xs k = .burned := by
  simp [life, hnone, hmem]

/-- Within the budget of ids, every step of the pallet is a move of every item. -/
theorem life_step {x : Extrinsic AccountId} (h : WithinBudget T l (xs ++ [x]))
    (k : CollectionId × ItemId) :
    LifeStep k x.signer x.call (life T l xs k) (life T l (xs ++ [x]) k) := by
  have stay (hnft : (after T l (xs ++ [x])).nfts k = (after T l xs).nfts k)
      (hmem : assignedItem T l k.1 ⟨xs, x⟩ ≠ some k.2) :
      LifeStep k x.signer x.call (life T l xs k) (life T l (xs ++ [x]) k) := by
    rw [life_congr hnft (by simp [assignedItems_concat, hmem])]
    exact .stay _
  obtain ⟨hfail, hstep⟩ | ⟨hok, hrule⟩ := step_cases T (after T l xs) x
  · refine stay (by rw [after_concat, hstep]) ?_
    simp [assignedItem_of_not_ok T l (o := ⟨xs, x⟩) hfail]
  rw [← after_concat] at hrule
  obtain ⟨s, call⟩ := x
  generalize hτ : after T l (xs ++ [⟨s, call⟩]) = τ at hrule stay
  cases hrule with
  | createNft c metadata price col md nfts hcol hmd hpush =>
    by_cases hk : k = (c, (after T l xs).itemCounter c)
    · subst hk
      rw [life_eq_unassigned fun hmem => UInt32.lt_irrefl _ (h.item_lt_counter hok hmem),
        life_eq_held_of_insert (congrArg State.nfts hτ)]
      exact .create metadata md price rfl
    · refine stay (StorageMap.insert_of_ne _ _ hk) ?_
      obtain ⟨c', i⟩ := k
      simp only [assignedItem]
      split_ifs with hc
      · rintro hi
        exact hk (by rw [hc.1, Option.some.inj hi])
      · simp
  | transferNft c i dest n hnft howner =>
    by_cases hk : k = (c, i)
    · subst hk
      rw [life_eq_held_iff.mpr hnft,
        life_eq_held_of_insert (congrArg State.nfts hτ)]
      exact .transfer n dest rfl howner
    · exact stay (StorageMap.insert_of_ne _ _ hk) (by simp [assignedItem])
  | burnNft c i n col hnft howner hunsold hcol =>
    by_cases hk : k = (c, i)
    · subst hk
      have hmem : i ∈ assignedItems T l c (xs ++ [⟨s, .burnNft c i⟩]) :=
        assignedItems_subset_concat c xs _ (mem_assignedItems xs (by simp [hnft]))
      rw [life_eq_held_iff.mpr hnft,
        life_eq_burned (by rw [hτ]; exact StorageMap.remove_self _ _) hmem]
      exact .burn n rfl howner hunsold
    · exact stay (StorageMap.remove_of_ne _ hk) (by simp [assignedItem])
  | mintNft c i n l' hnft hunsold howner hpay =>
    by_cases hk : k = (c, i)
    · subst hk
      rw [life_eq_held_iff.mpr hnft,
        life_eq_held_of_insert (congrArg State.nfts hτ)]
      exact .mint n rfl howner hunsold
    · exact stay (StorageMap.insert_of_ne _ _ hk) (by simp [assignedItem])
  | _ => exact stay rfl (by simp [assignedItem])

/-- What every move keeps holds of an item from any point of a run on. -/
theorem life_invariant {P : Life AccountId → Prop} {past later : List (Extrinsic AccountId)}
    (hP : ∀ s call a b, LifeStep k s call a b → P a → P b)
    (h : WithinBudget T l (past ++ later)) (hpast : P (life T l past k)) :
    P (life T l (past ++ later) k) := by
  induction later using List.reverseRecOn with
  | nil => simpa using hpast
  | append_singleton later x ih =>
    rw [← List.append_assoc] at h ⊢
    exact hP _ _ _ _ (life_step h k) (ih h.of_concat)

/-! ### What an owner relies on -/

/-- A successful purchase: the buyer gets an unsold NFT of somebody else and pays its price. -/
lemma mintNft_spec (hT : T.currency.Exact) {σ : State AccountId Ledger} {s : AccountId}
    {c : CollectionId} {i : ItemId} (hok : succeeds T σ ⟨s, .mintNft c i⟩ = true) :
    ∃ n, σ.nfts (c, i) = some n ∧ n.isSold = false ∧ n.owner ≠ s ∧
      (step T σ ⟨s, .mintNft c i⟩).nfts (c, i) = some { n with owner := s, isSold := true } ∧
      T.currency.Moved σ.ledger (step T σ ⟨s, .mintNft c i⟩).ledger s n.owner n.price := by
  have hrule := callRule_of_succeeds hok
  generalize step T _ _ = τ at hrule ⊢
  cases hrule with
  | mintNft _ _ n l hnft hunsold howner hpay =>
    exact ⟨n, hnft, hunsold, howner, StorageMap.insert_self _ _ _, hT _ _ _ _ _ hpay⟩

/-- The next call leaves every stored NFT alone, unless its owner transfers it, its owner burns it
unsold, or somebody else buys it unsold at its price. -/
def RespectsOwners (T : Config AccountId Ledger) (σ : State AccountId Ledger)
    (x : Extrinsic AccountId) : Prop :=
  ∀ c i n, σ.nfts (c, i) = some n →
    (step T σ x).nfts (c, i) = some n ∨
    (∃ dest, x.call = .transferNft c i dest ∧ x.signer = n.owner ∧
      (step T σ x).nfts (c, i) = some { n with owner := dest, isSold := true }) ∨
    (x.call = .burnNft c i ∧ x.signer = n.owner ∧ n.isSold = false ∧
      (step T σ x).nfts (c, i) = none) ∨
    (x.call = .mintNft c i ∧ x.signer ≠ n.owner ∧ n.isSold = false ∧
      (step T σ x).nfts (c, i) = some { n with owner := x.signer, isSold := true } ∧
      T.currency.Moved σ.ledger (step T σ x).ledger x.signer n.owner n.price)

/-- The call creates no NFT in the place of another one: it is not a `createNft` with room in the
collection and acceptable metadata while a different NFT is stored under the item counter. -/
def ReplacesNone (σ : State AccountId Ledger) (x : Extrinsic AccountId) : Prop :=
  match x.call with
  | .createNft c metadata price =>
    ∀ col md n, σ.collections c = some col → col.nfts.val.length < 256 → md.val = metadata →
      σ.nfts (c, σ.itemCounter c) = some n → n = ⟨x.signer, md, false, price⟩
  | _ => True

/-- In a collection with room an NFT can be created, and is stored under the item counter. -/
lemma exists_createNft_rule {σ : State AccountId Ledger} (s : AccountId) (price : ℕ)
    {c : CollectionId} {col : Collection AccountId} (md : BoundedVec UInt8 256)
    (hcol : σ.collections c = some col) (hroom : col.nfts.val.length < 256) :
    ∃ τ, CallRule T σ s (.createNft c md.val price) τ ∧
      τ.nfts (c, σ.itemCounter c) = some ⟨s, md, false, price⟩ := by
  obtain ⟨nfts, hpush⟩ := BoundedVec.tryPush_isSome_iff.mpr hroom
  exact ⟨_, .createNft c md.val price col md nfts hcol rfl
    (BoundedVec.tryPush_eq_some_iff.mp hpush), StorageMap.insert_self _ _ _⟩

/-- Nothing but a `createNft` in the place of another NFT goes against an owner. -/
lemma respectsOwners_iff (hT : T.currency.Exact) {σ : State AccountId Ledger}
    {x : Extrinsic AccountId} : RespectsOwners T σ x ↔ ReplacesNone σ x := by
  obtain ⟨s, call⟩ := x
  constructor
  · intro h
    cases call with
    | createNft c metadata price =>
      rintro col md n hcol hroom rfl hn
      obtain ⟨τ, hcreate, hnew⟩ := exists_createNft_rule (T := T) s price md hcol hroom
      rw [← hcreate.step_eq] at hnew
      obtain hsame | ⟨dest, hcall, -⟩ | ⟨hcall, -⟩ | ⟨hcall, -⟩ := h _ _ _ hn
      · exact Option.some.inj (hsame.symm.trans hnew)
      all_goals cases hcall
    | _ => trivial
  · intro h c i n hn
    obtain ⟨-, hstep⟩ | ⟨-, hrule⟩ := step_cases T σ ⟨s, call⟩
    · rw [hstep]
      exact Or.inl hn
    generalize step T σ ⟨s, call⟩ = τ at hrule ⊢
    cases hrule with
    | createNft c' metadata price col md nfts hcol hmd hpush =>
      by_cases hk : (c, i) = (c', σ.itemCounter c')
      · -- the new NFT is the one that was there
        rw [hk] at hn ⊢
        have hroom : col.nfts.val.length < 256 :=
          BoundedVec.tryPush_isSome_iff.mp ⟨nfts, BoundedVec.tryPush_eq_some_iff.mpr hpush⟩
        have hsame := h col md n hcol hroom hmd hn
        exact Or.inl (hsame ▸ StorageMap.insert_self _ _ _)
      · exact Or.inl ((StorageMap.insert_of_ne _ _ hk).trans hn)
    | transferNft c' i' dest m hm howner =>
      by_cases hk : (c, i) = (c', i')
      · cases hk
        obtain rfl := Option.some.inj (hm.symm.trans hn)
        exact Or.inr (Or.inl ⟨dest, rfl, howner.symm, StorageMap.insert_self _ _ _⟩)
      · exact Or.inl ((StorageMap.insert_of_ne _ _ hk).trans hn)
    | burnNft c' i' m col hm howner hunsold hcol =>
      by_cases hk : (c, i) = (c', i')
      · cases hk
        obtain rfl := Option.some.inj (hm.symm.trans hn)
        exact Or.inr (Or.inr (Or.inl ⟨rfl, howner.symm, hunsold, StorageMap.remove_self _ _⟩))
      · exact Or.inl ((StorageMap.remove_of_ne _ hk).trans hn)
    | mintNft c' i' m l' hm hunsold howner hpay =>
      by_cases hk : (c, i) = (c', i')
      · cases hk
        obtain rfl := Option.some.inj (hm.symm.trans hn)
        exact Or.inr (Or.inr (Or.inr ⟨rfl, howner.symm, hunsold, StorageMap.insert_self _ _ _,
          hT _ _ _ _ _ hpay⟩))
      · exact Or.inl ((StorageMap.insert_of_ne _ _ hk).trans hn)
    | _ => exact Or.inl hn

/-- Within the budget of ids no NFT is stored under the item counter when one is created. -/
lemma replacesNone_of_withinBudget {x : Extrinsic AccountId} (h : WithinBudget T l (xs ++ [x])) :
    ReplacesNone (after T l xs) x := by
  obtain ⟨s, call⟩ := x
  cases call with
  | createNft c metadata price =>
    rintro col md n hcol hroom rfl hn
    obtain ⟨τ, hcreate, -⟩ := exists_createNft_rule (T := T) s price md hcol hroom
    have hmem := mem_assignedItems xs (Option.ne_none_iff_exists'.mpr ⟨n, hn⟩)
    exact absurd (h.item_lt_counter hcreate.succeeds hmem) (UInt32.lt_irrefl _)
  | _ => trivial

/-- All along a run every call respects the owners of the stored NFTs, exactly if no call of it
creates an NFT in the place of another one; and none does as long as the ids last. -/
theorem ownership_safety_iff (hT : T.currency.Exact) (xs : List (Extrinsic AccountId)) :
    ((∀ o ∈ occurrences xs, RespectsOwners T (after T l o.past) o.input) ↔
      ∀ o ∈ occurrences xs, ReplacesNone (after T l o.past) o.input) ∧
    (WithinBudget T l xs → ∀ o ∈ occurrences xs, ReplacesNone (after T l o.past) o.input) := by
  refine ⟨forall₂_congr fun _ _ => respectsOwners_iff hT, fun h o ho => ?_⟩
  exact replacesNone_of_withinBudget (h.of_isPrefix (past_isPrefix ho))

/-- An NFT is created, bought, and then another one is created beside it. -/
theorem ownership_safety_iff_demo :
    let run := [⟨1, .registerArtist⟩, ⟨1, .createCollection []⟩, ⟨1, .createNft 0 [] 7⟩,
      ⟨2, .mintNft 0 0⟩, ⟨3, .createNft 0 [] 9⟩]
    ((∀ o ∈ occurrences run,
        RespectsOwners demoRuntime (after demoRuntime demoLedger o.past) o.input) ↔
      ∀ o ∈ occurrences run, ReplacesNone (after demoRuntime demoLedger o.past) o.input) ∧
    (WithinBudget demoRuntime demoLedger run →
      ∀ o ∈ occurrences run, ReplacesNone (after demoRuntime demoLedger o.past) o.input) :=
  ownership_safety_iff (Currency.balances_exact 1) _

/-- With the last item id assigned and its NFT still stored, the counter points at this NFT. -/
lemma churn_then_create {n : ℕ} (hn : n = 2 ^ 32 - 1) :
    let σ := after demoRuntime demoLedger (churn n ++ [⟨1, .createNft 0 [] 0⟩])
    σ.nfts (0, σ.itemCounter 0) = some ⟨1, .new, false, 0⟩ ∧
      ∃ col, σ.collections 0 = some col ∧ col.nfts.val.length < 256 := by
  obtain ⟨hcol, hlen⟩ := churn_spec n
  obtain ⟨nfts, hnfts⟩ : ∃ nfts : BoundedVec ItemId 256,
      nfts.val = [(after demoRuntime demoLedger (churn n)).itemCounter 0] := ⟨⟨[_], by simp⟩, rfl⟩
  have hcreate := CallRule.createNft (T := demoRuntime) (s := 1) 0 [] 0 _ .new nfts hcol rfl hnfts
  have hcounter : (after demoRuntime demoLedger
      (churn n ++ [⟨1, .createNft 0 [] 0⟩])).itemCounter 0 =
        (after demoRuntime demoLedger (churn n)).itemCounter 0 := by
    rw [← UInt32.toNat_inj, (allocated_items 0 _).next_eq, (allocated_items 0 _).next_eq,
      assignedItems_concat, List.length_append, hlen]
    omega
  intro σ
  rw [show σ.itemCounter 0 = _ from hcounter]
  rw [show σ = _ from (after_concat _ _ _ _).trans hcreate.step_eq]
  refine ⟨StorageMap.insert_self _ _ _, ⟨1, .new, nfts⟩, ?_, ?_⟩
  · simp
  · simp [hnfts]

/-- The run that used up the item ids of a collection is within the budget. With the last NFT
still stored, anybody who creates one more puts it in its place. -/
theorem ownership_safety_fails :
    let run := churn (2 ^ 32 - 1) ++ [⟨1, .createNft 0 [] 0⟩]
    WithinBudget demoRuntime demoLedger run ∧
      ¬ RespectsOwners demoRuntime (after demoRuntime demoLedger run) ⟨2, .createNft 0 [] 5⟩ := by
  obtain ⟨n, hn⟩ : ∃ n, n = 2 ^ 32 - 1 := ⟨_, rfl⟩
  rw [← hn]
  constructor
  · have hnext : n + 1 ≤ 2 ^ 32 := by omega
    exact (churn_withinBudget hnext).of_isPrefix (List.prefix_append _ _)
  · intro h
    obtain ⟨hnft, col, hcol, hroom⟩ := churn_then_create hn
    have hreplaces := (respectsOwners_iff (Currency.balances_exact 1)).mp h
    have hsame := hreplaces col .new _ hcol hroom rfl hnft
    cases hsame

/-! ### What a buyer relies on -/

/-- An unsold NFT is the NFT that has been stored under its ids ever since there was one. -/
lemma eq_of_unsold {past later : List (Extrinsic AccountId)} (h : WithinBudget T l (past ++ later))
    {c : CollectionId} {i : ItemId} {m : NFT AccountId} (hn : (after T l past).nfts (c, i) = some n)
    (hm : (after T l (past ++ later)).nfts (c, i) = some m) (hunsold : m.isSold = false) :
    m = n := by
  have hsince := life_invariant (P := Life.Since n) (fun _ _ _ _ hmove => hmove.since) h
    (Or.inl (life_eq_held_iff.mpr hn))
  rw [life_eq_held_iff.mpr hm] at hsince
  rcases hsince with heq | hsold | hburned
  · cases heq
    rfl
  · exact absurd hsold (by simp [Life.IsSold, hunsold])
  · cases hburned

/-- Whoever saw an unsold NFT and later buys that item, whatever happened in between, pays the
price they saw to the owner they saw, and gets the NFT they saw. -/
theorem buyer_protection (hT : T.currency.Exact) {past later : List (Extrinsic AccountId)}
    (h : WithinBudget T l (past ++ later)) {c : CollectionId} {i : ItemId} {b : AccountId}
    (hn : (after T l past).nfts (c, i) = some n)
    (hok : succeeds T (after T l (past ++ later)) ⟨b, .mintNft c i⟩ = true) :
    let σ := after T l (past ++ later)
    let τ := after T l (past ++ later ++ [⟨b, .mintNft c i⟩])
    b ≠ n.owner ∧ T.currency.Moved σ.ledger τ.ledger b n.owner n.price ∧
      τ.nfts (c, i) = some { n with owner := b, isSold := true } := by
  obtain ⟨m, hm, hunsold, howner, hbought, hmoved⟩ := mintNft_spec hT hok
  obtain rfl := eq_of_unsold h hn hm hunsold
  rw [← after_concat] at hbought hmoved
  exact ⟨howner.symm, hmoved, hbought⟩

/-- The purchase goes through although the collection is deleted in between. -/
theorem buyer_protection_demo :
    let past := [⟨1, .registerArtist⟩, ⟨1, .createCollection []⟩, ⟨1, .createNft 0 [] 7⟩]
    let later := [⟨1, .createNft 0 [] 9⟩, ⟨3, .transferNft 0 0 3⟩, ⟨1, .deleteCollection 0⟩]
    let n : NFT ℕ := ⟨1, .new, false, 7⟩
    let σ := after demoRuntime demoLedger (past ++ later)
    let τ := after demoRuntime demoLedger (past ++ later ++ [⟨2, .mintNft 0 0⟩])
    2 ≠ n.owner ∧ demoRuntime.currency.Moved σ.ledger τ.ledger 2 n.owner n.price ∧
      τ.nfts (0, 0) = some { n with owner := 2, isSold := true } :=
  buyer_protection (Currency.balances_exact 1) (.of_length_le (by decide)) (by decide +kernel)
    (by decide +kernel)

end

end FarcasterNft
