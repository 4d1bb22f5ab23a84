import FarcasterNft.Pallet.Lifecycle

/-!
# The supply of a collection

The only bound in the pallet is the capacity of the list in a collection record, which burning
frees and deletion throws away. Still, at most 256 NFTs are ever stored under a collection id,
and at most 256 of its items ever change hands: a traded item is sold, a sold item can neither
be burned nor bought, so it stays stored until the end of the run.
-/

namespace FarcasterNft

open Frame

variable {AccountId Ledger : Type} [DecidableEq AccountId]
variable {T : Config AccountId Ledger} {l : Ledger}
variable {xs : List (Extrinsic AccountId)} {c : CollectionId} {i : ItemId}

/-! ### Stored NFTs -/

/-- A rule adds a key only under a collection that is stored afterwards. -/
lemma CallRule.keysUnder_subset {σ τ : State AccountId Ledger} {s : AccountId}
    {call : Call AccountId} (h : CallRule T σ s call τ) (hc : τ.collections c = none) :
    τ.nfts.keysUnder c ⊆ σ.nfts.keysUnder c := by
  cases h with
  | createNft c' =>
    have hne : c ≠ c' := by
      rintro rfl
      simp at hc
    rw [StorageMap.keysUnder_insert_of_ne _ _ _ hne]
  | burnNft c' =>
    have hne : c ≠ c' := by
      rintro rfl
      simp at hc
    rw [StorageMap.keysUnder_remove_of_ne _ _ hne]
  | transferNft _ _ _ _ hnft | mintNft _ _ _ _ hnft =>
    rw [StorageMap.keysUnder_insert_of_mem _ hnft]
  | _ => exact subset_rfl

/-- At most 256 NFTs are stored under a collection id, also after the collection is deleted. -/
theorem encard_keysUnder_le (h : WithinBudget T l xs) (c : CollectionId) :
    ((after T l xs).nfts.keysUnder c).encard ≤ 256 := by
  induction xs using List.reverseRecOn with
  | nil => simp [State.genesis, StorageMap.keysUnder]
  | append_singleton xs x ih =>
    cases hcol : (after T l (xs ++ [x])).collections c with
    | some col =>
      rw [(indexed_after _ h c col hcol).encard_eq]
      exact_mod_cast col.nfts.bound
    | none =>
      -- no key was added, since only a stored collection gets new items
      refine le_trans (Set.encard_le_encard ?_) (ih h.of_concat)
      obtain ⟨-, hstep⟩ | ⟨-, hrule⟩ := step_cases T (after T l xs) x
      · rw [after_concat, hstep]
      · rw [← after_concat] at hrule
        exact hrule.keysUnder_subset hcol

/-! ### Traded items -/

/-- The item is the subject of a successful `transferNft` or `mintNft` at a point of a run. -/
def Trades (T : Config AccountId Ledger) (l : Ledger) (c : CollectionId) (i : ItemId)
    (o : Occurrence (Extrinsic AccountId)) : Prop :=
  returnedOk T l o = true ∧
    (o.input.call = .mintNft c i ∨ ∃ dest, o.input.call = .transferNft c i dest)

/-- A trade leaves the item sold. -/
lemma Trades.isSold_after {o : Occurrence (Extrinsic AccountId)} (h : Trades T l c i o) :
    (life T l (o.past ++ [o.input]) (c, i)).IsSold := by
  obtain ⟨past, s, call⟩ := o
  obtain ⟨hok, hcall⟩ := h
  have hrule := callRule_of_succeeds hok
  rw [← after_concat] at hrule
  generalize hτ : after T l (past ++ [⟨s, call⟩]) = τ at hrule
  rcases hcall with rfl | ⟨dest, rfl⟩
  · cases hrule with
    | mintNft _ _ n =>
      rw [life_eq_held_of_insert (congrArg State.nfts hτ)]
      exact rfl
  · cases hrule with
    | transferNft _ _ _ n =>
      rw [life_eq_held_of_insert (congrArg State.nfts hτ)]
      exact rfl

/-- An item that was traded at some point of a run is sold ever after. -/
theorem isSold_of_trades (h : WithinBudget T l xs) {o : Occurrence (Extrinsic AccountId)}
    (ho : o ∈ occurrences xs) (htrade : Trades T l c i o) :
    (life T l xs (c, i)).IsSold := by
  obtain ⟨later, rfl⟩ := past_isPrefix ho
  exact life_invariant (fun _ _ _ _ hmove => hmove.isSold) h htrade.isSold_after

lemma mem_keysUnder_of_isSold (h : (life T l xs (c, i)).IsSold) :
    i ∈ (after T l xs).nfts.keysUnder c := by
  cases hlife : life T l xs (c, i) with
  | held n => simp [life_eq_held_iff.mp hlife]
  | unassigned | burned => simp [hlife, Life.IsSold] at h

/-- Whether the item is bought at a point of a run. -/
def buys (T : Config AccountId Ledger) (l : Ledger) (c : CollectionId) (i : ItemId)
    (o : Occurrence (Extrinsic AccountId)) : Bool :=
  returnedOk T l o ∧ o.input.call = .mintNft c i

lemma trades_of_buys {o : Occurrence (Extrinsic AccountId)} (h : buys T l c i o = true) :
    Trades T l c i o := by
  simp only [buys, decide_eq_true_eq] at h
  exact ⟨h.1, Or.inl h.2⟩

/-- A sold item is not bought. -/
lemma not_buys_of_isSold {x : Extrinsic AccountId} (h : (life T l xs (c, i)).IsSold) :
    buys T l c i ⟨xs, x⟩ = false := by
  obtain ⟨s, call⟩ := x
  by_contra hbuys
  simp only [buys, Bool.not_eq_false, decide_eq_true_eq] at hbuys
  obtain ⟨hok, rfl⟩ := hbuys
  have hrule := callRule_of_succeeds hok
  generalize step T _ _ = τ at hrule
  cases hrule with
  | mintNft _ _ n _ hnft hunsold =>
    rw [life_eq_held_iff.mpr hnft] at h
    exact absurd h (by simp [Life.IsSold, hunsold])

/-- An item is bought at most once. -/
theorem countP_buys_le_one (h : WithinBudget T l xs) :
    (occurrences xs).countP (buys T l c i) ≤ 1 := by
  induction xs using List.reverseRecOn with
  | nil => simp
  | append_singleton xs x ih =>
    rw [occurrences_concat, List.countP_append]
    have hle := ih h.of_concat
    cases hcount : (occurrences xs).countP (buys T l c i) with
    | zero =>
      rw [Nat.zero_add]
      exact List.countP_le_length
    | succ k =>
      -- it was bought before, so it is sold
      obtain ⟨o, ho, hbuys⟩ := List.countP_pos_iff.mp (by rw [hcount]; exact Nat.succ_pos k)
      have hsold := isSold_of_trades h.of_concat ho (trades_of_buys hbuys)
      have hnot := not_buys_of_isSold (x := x) hsold
      simpa [hnot, hcount] using hle

/-- In a run within the budget, at most 256 NFTs are stored under a collection id at any time,
at most 256 of its items are ever transferred or bought, and none is bought twice. -/
theorem supply_cap (h : WithinBudget T l xs) (c : CollectionId) :
    (∀ pre, pre <+: xs → ((after T l pre).nfts.keysUnder c).encard ≤ 256) ∧
      {i | ∃ o ∈ occurrences xs, Trades T l c i o}.encard ≤ 256 ∧
      ∀ i, (occurrences xs).countP (buys T l c i) ≤ 1 := by
  refine ⟨fun pre hpre => encard_keysUnder_le (h.of_isPrefix hpre) c, ?_,
    fun i => countP_buys_le_one h⟩
  refine le_trans (Set.encard_le_encard ?_) (encard_keysUnder_le h c)
  rintro i ⟨o, ho, htrade⟩
  exact mem_keysUnder_of_isSold (isSold_of_trades h ho htrade)

/-- An NFT is bought, another burned, and the collection deleted. -/
def demoSale : List (Extrinsic ℕ) :=
  demoRun ++ [⟨2, .mintNft 0 0⟩, ⟨1, .deleteCollection 0⟩, ⟨2, .transferNft 0 0 3⟩]

theorem supply_cap_demo :
    (∀ pre, pre <+: demoSale →
      ((after demoRuntime demoLedger pre).nfts.keysUnder 0).encard ≤ 256) ∧
      {i | ∃ o ∈ occurrences demoSale, Trades demoRuntime demoLedger 0 i o}.encard ≤ 256 ∧
      ∀ i, (occurrences demoSale).countP (buys demoRuntime demoLedger 0 i) ≤ 1 :=
  supply_cap (.of_length_le (by decide)) 0

end FarcasterNft
