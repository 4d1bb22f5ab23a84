import FarcasterNft.Frame.Enumeration
import FarcasterNft.Pallet.History

/-!
# Collections and their NFTs

A collection record lists the ids of its NFTs, while the NFTs themselves are stored in a map of
their own. Within the budget of ids the list enumerates exactly the NFTs stored under the
collection. The converse reference, from a stored NFT to its collection, survives every call
but two: deleting a collection that has NFTs, and creating one over an id that has NFTs.
-/

namespace FarcasterNft

open Frame

variable {AccountId Ledger : Type} [DecidableEq AccountId]
variable {T : Config AccountId Ledger} {l : Ledger} {σ τ : State AccountId Ledger}

/-! ### The list of a collection is an index of its NFTs -/

/-- Every stored collection enumerates the item ids stored under it. -/
def Indexed (σ : State AccountId Ledger) : Prop :=
  ∀ c col, σ.collections c = some col → Enumerates col.nfts.val (σ.nfts.keysUnder c)

/-- A collection id that was never assigned has no NFT under it. -/
lemma keysUnder_eq_empty_of_notMem {xs : List (Extrinsic AccountId)} {c : CollectionId}
    (h : c ∉ assignedCollections T l xs) : (after T l xs).nfts.keysUnder c = ∅ := by
  rw [Set.eq_empty_iff_forall_notMem]
  intro i hi
  exact h (mem_assignedCollections_of_item xs (mem_assignedItems xs hi))

theorem indexed_after (xs : List (Extrinsic AccountId)) (h : WithinBudget T l xs) :
    Indexed (after T l xs) := by
  revert h
  refine after_induction (P := fun xs σ => WithinBudget T l xs → Indexed σ)
    (fun _ c col hcol => by simp [State.genesis] at hcol)
    (fun xs x _ ih h => ih h.of_concat) (fun xs s call τ hok hrule ih h => ?_) xs
  have hidx : Indexed (after T l xs) := ih h.of_concat
  intro c col hcol
  cases hrule with
  | createCollection metadata md =>
    obtain ⟨rfl, rfl⟩ | ⟨-, hcol⟩ := StorageMap.insert_eq_some_iff.mp hcol
    · rw [BoundedVec.val_new, keysUnder_eq_empty_of_notMem (h.collection_fresh hok)]
      exact .nil
    · exact hidx c col hcol
  | deleteCollection => exact hidx c col (StorageMap.remove_eq_some_iff.mp hcol).2
  | createNft c' metadata price col' md nfts hcol' hmd hpush =>
    obtain ⟨rfl, rfl⟩ | ⟨hc, hcol⟩ := StorageMap.insert_eq_some_iff.mp hcol
    · rw [StorageMap.keysUnder_insert_self, hpush]
      exact (hidx c col' hcol').concat fun i hi => h.item_lt_counter hok (mem_assignedItems xs hi)
    · rw [StorageMap.keysUnder_insert_of_ne _ _ _ hc]
      exact hidx c col hcol
  | burnNft c' i n col' hnft howner hunsold hcol' =>
    obtain ⟨rfl, rfl⟩ | ⟨hc, hcol⟩ := StorageMap.insert_eq_some_iff.mp hcol
    · rw [StorageMap.keysUnder_remove_self]
      exact (hidx c col' hcol').filter_bne i
    · rw [StorageMap.keysUnder_remove_of_ne _ _ hc]
      exact hidx c col hcol
  | transferNft _ _ _ _ hnft | mintNft _ _ _ _ hnft =>
    rw [StorageMap.keysUnder_insert_of_mem _ hnft]
    exact hidx c col hcol
  | _ => exact hidx c col hcol

/-- In every state of a run within the budget, the list of a stored collection is the strictly
increasing list of the item ids under which an NFT of the collection is stored. -/
theorem collection_lists_stored_nfts {xs pre : List (Extrinsic AccountId)}
    (h : WithinBudget T l xs) (hpre : pre <+: xs) {c : CollectionId}
    {col : Collection AccountId} (hcol : (after T l pre).collections c = some col) :
    col.nfts.val.Pairwise (· < ·) ∧
      (∀ i, i ∈ col.nfts.val ↔ ∃ n, (after T l pre).nfts (c, i) = some n) ∧
      col.nfts.val.Nodup ∧ col.nfts.val.length ≤ 256 := by
  have hidx := indexed_after pre (h.of_isPrefix hpre) c col hcol
  refine ⟨hidx.increasing, fun i => ?_, hidx.nodup, col.nfts.bound⟩
  rw [hidx.mem_iff, StorageMap.mem_keysUnder, Option.ne_none_iff_exists']

/-- One artist, one collection, three NFTs by two accounts, one of them burned. -/
def demoRun : List (Extrinsic ℕ) :=
  [⟨1, .registerArtist⟩, ⟨1, .createCollection []⟩, ⟨1, .createNft 0 [] 7⟩,
    ⟨2, .createNft 0 [] 5⟩, ⟨1, .createNft 0 [] 9⟩, ⟨2, .burnNft 0 1⟩]

theorem collection_lists_stored_nfts_demo :
    let nfts : BoundedVec ItemId 256 := ⟨[0, 2], by decide⟩
    nfts.val.Pairwise (· < ·) ∧
      (∀ i, i ∈ nfts.val ↔ ∃ n, (after demoRuntime demoLedger demoRun).nfts (0, i) = some n) ∧
      nfts.val.Nodup ∧ nfts.val.length ≤ 256 :=
  @collection_lists_stored_nfts _ _ _ demoRuntime demoLedger demoRun demoRun
    (.of_length_le (by decide)) List.prefix_rfl 0 ⟨1, .new, ⟨[0, 2], by decide⟩⟩
    (by decide +kernel)

/-! ### From an NFT to its collection -/

/-- Every stored NFT belongs to a stored collection that lists it. -/
def ReferentialIntegrity (σ : State AccountId Ledger) : Prop :=
  ∀ c i n, σ.nfts (c, i) = some n → ∃ col, σ.collections c = some col ∧ i ∈ col.nfts.val

/-- No NFT is stored under a collection id. -/
def HasNoNfts (σ : State AccountId Ledger) (c : CollectionId) : Prop :=
  ∀ i, σ.nfts (c, i) = none

/-- The extrinsic does not cut NFTs off from their collection: a collection is deleted by its
creator only without NFTs, and a registered artist creates one only under an id without NFTs. -/
def SparesNfts (σ : State AccountId Ledger) (x : Extrinsic AccountId) : Prop :=
  match x.call with
  | .deleteCollection c =>
    (∃ col, σ.collections c = some col ∧ col.creator = x.signer) → HasNoNfts σ c
  | .createCollection metadata =>
    (σ.artists x.signer).getD false = true ∧ metadata.length ≤ 256 →
      HasNoNfts σ σ.nextCollectionId
  | _ => True

/-- A failed extrinsic spares all NFTs. -/
lemma sparesNfts_of_not_succeeds {x : Extrinsic AccountId} (h : succeeds T σ x = false) :
    SparesNfts σ x := by
  obtain ⟨s, call⟩ := x
  cases call with
  | deleteCollection c =>
    intro hcreator
    exact absurd (succeeds_deleteCollection_iff.mpr hcreator) (Bool.eq_false_iff.mp h)
  | createCollection metadata =>
    intro hartist
    exact absurd (succeeds_createCollection_iff.mpr hartist) (Bool.eq_false_iff.mp h)
  | _ => trivial

omit [DecidableEq AccountId] in
/-- Overwriting or erasing NFTs of collections that keep listing them keeps the references. -/
lemma ReferentialIntegrity.mono (h : ReferentialIntegrity σ)
    (hstored : ∀ c i, τ.nfts (c, i) ≠ none → σ.nfts (c, i) ≠ none)
    (hlisted : ∀ c col i, σ.collections c = some col → i ∈ col.nfts.val → τ.nfts (c, i) ≠ none →
      ∃ col', τ.collections c = some col' ∧ i ∈ col'.nfts.val) :
    ReferentialIntegrity τ := by
  intro c i n hn
  have hn' : τ.nfts (c, i) ≠ none := by simp [hn]
  obtain ⟨m, hm⟩ := Option.ne_none_iff_exists'.mp (hstored c i hn')
  obtain ⟨col, hcol, hi⟩ := h c i m hm
  exact hlisted c col i hcol hi hn'

/-- One step keeps the references exactly if it spares all NFTs. -/
lemma referentialIntegrity_step_iff {x : Extrinsic AccountId} (h : ReferentialIntegrity σ) :
    ReferentialIntegrity (step T σ x) ↔ SparesNfts σ x := by
  obtain ⟨hfail, hstep⟩ | ⟨hok, hrule⟩ := step_cases T σ x
  · rw [hstep]
    exact iff_of_true h (sparesNfts_of_not_succeeds hfail)
  obtain ⟨s, call⟩ := x
  generalize step T σ ⟨s, call⟩ = τ at hrule
  cases hrule with
  | registerArtist => exact iff_of_true h trivial
  | createCollection metadata md hmd hartist =>
    constructor
    · intro hτ _ i
      by_contra hne
      obtain ⟨n, hn⟩ := Option.ne_none_iff_exists'.mp hne
      obtain ⟨col, hcol, hi⟩ := hτ _ i n hn
      obtain ⟨-, rfl⟩ | ⟨hc, -⟩ := StorageMap.insert_eq_some_iff.mp hcol
      · simp at hi
      · exact hc rfl
    · intro hspares
      have hempty := hspares ⟨hartist, hmd ▸ md.bound⟩
      refine h.mono (fun _ _ hne => hne) fun c col i hcol hi hne => ⟨col, ?_, hi⟩
      have hc : c ≠ σ.nextCollectionId := fun hc => hne (hc ▸ hempty i)
      simpa [StorageMap.insert_of_ne, hc] using hcol
  | deleteCollection c col hcol hcreator =>
    constructor
    · intro hτ _ i
      by_contra hne
      obtain ⟨n, hn⟩ := Option.ne_none_iff_exists'.mp hne
      obtain ⟨col', hcol', -⟩ := hτ c i n hn
      simp at hcol'
    · intro hspares
      have hempty := hspares ⟨col, hcol, hcreator⟩
      refine h.mono (fun _ _ hne => hne) fun c' col' i hcol' hi hne => ⟨col', ?_, hi⟩
      have hc : c' ≠ c := fun hc => hne (hc ▸ hempty i)
      simpa [StorageMap.remove_of_ne, hc] using hcol'
  | createNft c metadata price col md nfts hcol hmd hpush =>
    refine iff_of_true (fun c' i n hn => ?_) trivial
    obtain ⟨hci, -⟩ | ⟨-, hn⟩ := StorageMap.insert_eq_some_iff.mp hn
    · obtain ⟨rfl, rfl⟩ := Prod.mk.inj hci
      exact ⟨_, StorageMap.insert_self _ _ _, by simp [hpush]⟩
    · obtain ⟨col', hcol', hmem⟩ := h c' i n hn
      by_cases hc : c' = c
      · subst hc
        obtain rfl := Option.some.inj (hcol'.symm.trans hcol)
        exact ⟨_, StorageMap.insert_self _ _ _, by simp [hpush, hmem]⟩
      · exact ⟨col', by simpa [StorageMap.insert_of_ne, hc] using hcol', hmem⟩
  | transferNft c i dest n hnft | mintNft c i n l hnft =>
    refine iff_of_true (h.mono (fun c' i' hne => ?_) fun c' col i' hcol hi _ => ⟨col, hcol, hi⟩)
      trivial
    obtain hci | hne := StorageMap.insert_ne_none_iff.mp hne
    · simp [hci, hnft]
    · exact hne
  | burnNft c i n col hnft howner hunsold hcol =>
    refine iff_of_true (h.mono (fun c' i' hne => (StorageMap.remove_ne_none_iff.mp hne).2)
      fun c' col' i' hcol' hi hne => ?_) trivial
    by_cases hc : c' = c
    · subst hc
      obtain rfl := Option.some.inj (hcol'.symm.trans hcol)
      refine ⟨_, StorageMap.insert_self _ _ _, ?_⟩
      have hi' : i' ≠ i := fun hi' => by simp [hi'] at hne
      simp [hi, hi']
    · exact ⟨col', by simpa [StorageMap.insert_of_ne, hc] using hcol', hi⟩

/-- Every stored NFT belongs to a stored collection that lists it, all along a run, exactly if
no step of the run deletes or overwrites a collection id that has NFTs. -/
theorem referential_integrity_iff (T : Config AccountId Ledger) (l : Ledger)
    (xs : List (Extrinsic AccountId)) :
    (∀ pre, pre <+: xs → ReferentialIntegrity (after T l pre)) ↔
      ∀ o ∈ occurrences xs, SparesNfts (after T l o.past) o.input :=
  run_invariant_iff (by simp [ReferentialIntegrity, State.genesis])
    (fun _ _ h => referentialIntegrity_step_iff h) xs

/-- An artist creates an NFT, then deletes its collection: the NFT is left without one. -/
theorem referential_integrity_fails :
    ¬ ReferentialIntegrity (after demoRuntime demoLedger
      [⟨1, .registerArtist⟩, ⟨1, .createCollection []⟩, ⟨1, .createNft 0 [] 7⟩,
        ⟨1, .deleteCollection 0⟩]) := by
  intro h
  obtain ⟨col, hcol, -⟩ := h 0 0 ⟨1, .new, false, 7⟩ (by decide +kernel)
  have hnone : (after demoRuntime demoLedger
      [⟨1, .registerArtist⟩, ⟨1, .createCollection []⟩, ⟨1, .createNft 0 [] 7⟩,
        ⟨1, .deleteCollection 0⟩]).collections 0 = none := by decide +kernel
  rw [hnone] at hcol
  cases hcol

end FarcasterNft
