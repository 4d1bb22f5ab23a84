import FarcasterNft.Frame.Run
import FarcasterNft.Pallet.Dispatch

/-!
# Runs and what they have allocated

A run is a list of extrinsics, oldest first, from empty pallet storage. The lists
`assignedCollections` and `assignedItems` collect the ids its successful `createCollection`
and `createNft` calls assigned. The two counters of the pallet are saturating allocators of
these lists, and everything the pallet stores is stored under an assigned id.
-/

namespace FarcasterNft

open Frame

variable {AccountId Ledger : Type} [DecidableEq AccountId]

section

variable (T : Config AccountId Ledger) (l : Ledger)

/-- The state a run leads to, from empty pallet storage over the ledger `l`. -/
def after (xs : List (Extrinsic AccountId)) : State AccountId Ledger :=
  run (step T) (.genesis l) xs

/-- Whether the call at a point of a run returned `Ok`. -/
def returnedOk (o : Occurrence (Extrinsic AccountId)) : Bool :=
  succeeds T (after T l o.past) o.input

/-- The collection id assigned at a point of a run, if a collection was created there. -/
def assignedCollection (o : Occurrence (Extrinsic AccountId)) : Option CollectionId :=
  match o.input.call with
  | .createCollection _ =>
    if returnedOk T l o then some (after T l o.past).nextCollectionId else none
  | _ => none

/-- The item id of collection `c` assigned at a point of a run, if an NFT was created there. -/
def assignedItem (c : CollectionId) (o : Occurrence (Extrinsic AccountId)) : Option ItemId :=
  match o.input.call with
  | .createNft c' _ _ =>
    if c' = c ∧ returnedOk T l o then some ((after T l o.past).itemCounter c) else none
  | _ => none

/-- The ids assigned by the successful `createCollection` calls of a run, in order. -/
def assignedCollections (xs : List (Extrinsic AccountId)) : List CollectionId :=
  (occurrences xs).filterMap (assignedCollection T l)

/-- The ids assigned by the successful `createNft` calls of a run on `c`, in order. -/
def assignedItems (c : CollectionId) (xs : List (Extrinsic AccountId)) : List ItemId :=
  (occurrences xs).filterMap (assignedItem T l c)

/-- At most `2 ^ 32` collections, and at most `2 ^ 32` NFTs under each collection id, are
created in the run. -/
structure WithinBudget (xs : List (Extrinsic AccountId)) : Prop where
  collections : (assignedCollections T l xs).length ≤ 2 ^ 32
  items : ∀ c, (assignedItems T l c xs).length ≤ 2 ^ 32

@[simp] lemma after_nil : after T l [] = .genesis l := rfl

@[simp] lemma after_concat (xs : List (Extrinsic AccountId)) (x : Extrinsic AccountId) :
    after T l (xs ++ [x]) = step T (after T l xs) x := run_concat _ _ _ _

@[simp] lemma assignedCollections_nil : assignedCollections T l [] = [] := rfl

@[simp] lemma assignedItems_nil (c : CollectionId) : assignedItems T l c [] = [] := rfl

lemma assignedCollection_of_not_ok {o : Occurrence (Extrinsic AccountId)}
    (h : returnedOk T l o = false) : assignedCollection T l o = none := by
  rw [assignedCollection]
  split <;> simp [h]

lemma assignedItem_of_not_ok {c : CollectionId} {o : Occurrence (Extrinsic AccountId)}
    (h : returnedOk T l o = false) : assignedItem T l c o = none := by
  rw [assignedItem]
  split <;> simp [h]

lemma assignedCollections_concat (xs : List (Extrinsic AccountId)) (x : Extrinsic AccountId) :
    assignedCollections T l (xs ++ [x]) =
      assignedCollections T l xs ++ (assignedCollection T l ⟨xs, x⟩).toList :=
  filterMap_occurrences_concat _ xs x

lemma assignedItems_concat (c : CollectionId) (xs : List (Extrinsic AccountId))
    (x : Extrinsic AccountId) :
    assignedItems T l c (xs ++ [x]) =
      assignedItems T l c xs ++ (assignedItem T l c ⟨xs, x⟩).toList :=
  filterMap_occurrences_concat _ xs x

end

variable {T : Config AccountId Ledger} {l : Ledger}

/-- Induction over runs: a run grows by a call that fails, or by a call that takes a rule. -/
theorem after_induction {P : List (Extrinsic AccountId) → State AccountId Ledger → Prop}
    (genesis : P [] (.genesis l))
    (failed : ∀ xs x, succeeds T (after T l xs) x = false → P xs (after T l xs) →
      P (xs ++ [x]) (after T l xs))
    (rule : ∀ xs s call τ, succeeds T (after T l xs) ⟨s, call⟩ = true →
      CallRule T (after T l xs) s call τ → P xs (after T l xs) → P (xs ++ [⟨s, call⟩]) τ)
    (xs : List (Extrinsic AccountId)) : P xs (after T l xs) := by
  apply run_invariant P genesis
  intro ⟨past, x⟩ _ ih
  obtain ⟨hfail, hstep⟩ | ⟨hok, hrule⟩ := step_cases T (after T l past) x
  · exact hstep.symm ▸ failed past x hfail ih
  · exact rule past x.signer x.call _ hok hrule ih

/-! ### The counters are allocators -/

theorem allocated_collections (xs : List (Extrinsic AccountId)) :
    Allocated (assignedCollections T l xs) (after T l xs).nextCollectionId := by
  refine after_induction
    (P := fun xs σ => Allocated (assignedCollections T l xs) σ.nextCollectionId)
    .nil (fun xs x hfail ih => ?_) (fun xs s call τ hok hrule ih => ?_) xs
  · rw [assignedCollections_concat, assignedCollection_of_not_ok T l (o := ⟨xs, x⟩) hfail]
    simpa using ih
  · rw [assignedCollections_concat]
    cases hrule with
    | createCollection => simpa [assignedCollection, returnedOk, hok] using ih.push
    | _ => simpa [assignedCollection] using ih

theorem allocated_items (c : CollectionId) (xs : List (Extrinsic AccountId)) :
    Allocated (assignedItems T l c xs) ((after T l xs).itemCounter c) := by
  refine after_induction
    (P := fun xs σ => Allocated (assignedItems T l c xs) (σ.itemCounter c))
    .nil (fun xs x hfail ih => ?_) (fun xs s call τ hok hrule ih => ?_) xs
  · rw [assignedItems_concat, assignedItem_of_not_ok T l (o := ⟨xs, x⟩) hfail]
    simpa using ih
  · rw [assignedItems_concat]
    cases hrule with
    | createNft c' =>
      by_cases hc : c' = c
      · subst hc
        simpa [assignedItem, returnedOk, hok, State.itemCounter] using ih.push
      · simpa [assignedItem, hc, State.itemCounter, StorageMap.insert_of_ne, Ne.symm hc] using ih
    | _ => simpa [assignedItem, State.itemCounter] using ih

/-! ### What is stored was assigned -/

lemma assignedCollections_subset_concat (xs : List (Extrinsic AccountId))
    (x : Extrinsic AccountId) :
    assignedCollections T l xs ⊆ assignedCollections T l (xs ++ [x]) := by
  rw [assignedCollections_concat]
  exact List.subset_append_left _ _

lemma assignedItems_subset_concat (c : CollectionId) (xs : List (Extrinsic AccountId))
    (x : Extrinsic AccountId) : assignedItems T l c xs ⊆ assignedItems T l c (xs ++ [x]) := by
  rw [assignedItems_concat]
  exact List.subset_append_left _ _

/-- A stored collection is stored under an id that was assigned to it. -/
theorem mem_assignedCollections (xs : List (Extrinsic AccountId)) {c : CollectionId}
    (h : (after T l xs).collections c ≠ none) : c ∈ assignedCollections T l xs := by
  revert h
  refine after_induction
    (P := fun xs σ => σ.collections c ≠ none → c ∈ assignedCollections T l xs)
    (by simp [State.genesis]) (fun xs x _ ih h => assignedCollections_subset_concat xs x (ih h))
    (fun xs s call τ hok hrule ih h => ?_) xs
  have hold : (after T l xs).collections c ≠ none →
      c ∈ assignedCollections T l (xs ++ [⟨s, call⟩]) :=
    fun h => assignedCollections_subset_concat xs _ (ih h)
  cases hrule with
  | createCollection =>
    obtain rfl | h := StorageMap.insert_ne_none_iff.mp h
    · simp [assignedCollections_concat, assignedCollection, returnedOk, hok]
    · exact hold h
  | deleteCollection => exact hold (StorageMap.remove_ne_none_iff.mp h).2
  | createNft _ _ _ col _ _ hcol | burnNft _ _ _ col _ _ _ hcol =>
    obtain rfl | h := StorageMap.insert_ne_none_iff.mp h
    · exact hold (by simp [hcol])
    · exact hold h
  | _ => exact hold h

/-- A stored NFT is stored under an item id that was assigned in its collection. -/
theorem mem_assignedItems (xs : List (Extrinsic AccountId)) {c : CollectionId} {i : ItemId}
    (h : (after T l xs).nfts (c, i) ≠ none) : i ∈ assignedItems T l c xs := by
  revert h
  refine after_induction
    (P := fun xs σ => σ.nfts (c, i) ≠ none → i ∈ assignedItems T l c xs)
    (by simp [State.genesis]) (fun xs x _ ih h => assignedItems_subset_concat c xs x (ih h))
    (fun xs s call τ hok hrule ih h => ?_) xs
  have hold : (after T l xs).nfts (c, i) ≠ none →
      i ∈ assignedItems T l c (xs ++ [⟨s, call⟩]) :=
    fun h => assignedItems_subset_concat c xs _ (ih h)
  cases hrule with
  | createNft =>
    obtain hci | h := StorageMap.insert_ne_none_iff.mp h
    · obtain ⟨rfl, rfl⟩ := Prod.mk.inj hci
      simp [assignedItems_concat, assignedItem, returnedOk, hok]
    · exact hold h
  | burnNft => exact hold (StorageMap.remove_ne_none_iff.mp h).2
  | transferNft _ _ _ n hnft | mintNft _ _ n _ hnft =>
    obtain hci | h := StorageMap.insert_ne_none_iff.mp h
    · exact hold (by simp [hci, hnft])
    · exact hold h
  | _ => exact hold h

/-- Items are only assigned in a collection that has been created. -/
theorem mem_assignedCollections_of_item (xs : List (Extrinsic AccountId)) {c : CollectionId}
    {i : ItemId} (h : i ∈ assignedItems T l c xs) : c ∈ assignedCollections T l xs := by
  induction xs using List.reverseRecOn with
  | nil => simp at h
  | append_singleton xs x ih =>
    rw [assignedItems_concat, List.mem_append] at h
    rcases h with h | h
    · exact assignedCollections_subset_concat xs x (ih h)
    · refine assignedCollections_subset_concat xs x (mem_assignedCollections xs ?_)
      cases hok : returnedOk T l ⟨xs, x⟩ with
      | false => simp [assignedItem_of_not_ok T l hok] at h
      | true =>
        have hrule := callRule_of_succeeds hok
        obtain ⟨s, call⟩ := x
        generalize step T _ _ = τ at hrule
        cases hrule with
        | createNft c' _ _ col _ _ hcol =>
          by_cases hc : c' = c
          · simp [← hc, hcol]
          · simp [assignedItem, hc] at h
        | _ => simp [assignedItem] at h

/-! ### Fresh ids -/

section

variable {xs : List (Extrinsic AccountId)} {s : AccountId}

/-- Among the first `2 ^ 32` collections, a new one gets an id that was never assigned. -/
theorem nextCollectionId_notMem {metadata : List UInt8}
    (hok : succeeds T (after T l xs) ⟨s, .createCollection metadata⟩ = true)
    (hlen : (assignedCollections T l (xs ++ [⟨s, .createCollection metadata⟩])).length ≤ 2 ^ 32) :
    (after T l xs).nextCollectionId ∉ assignedCollections T l xs := by
  refine (allocated_collections xs).next_notMem ?_
  simp only [assignedCollections_concat, assignedCollection, returnedOk, hok, if_true,
    Option.toList_some, List.length_append, List.length_singleton] at hlen
  omega

/-- Among the first `2 ^ 32` NFTs of a collection id, a new one gets an item id above all that
were assigned before. -/
theorem lt_itemCounter {c : CollectionId} {metadata : List UInt8} {price : ℕ}
    (hok : succeeds T (after T l xs) ⟨s, .createNft c metadata price⟩ = true)
    (hlen : (assignedItems T l c (xs ++ [⟨s, .createNft c metadata price⟩])).length ≤ 2 ^ 32)
    {i : ItemId} (hi : i ∈ assignedItems T l c xs) : i < (after T l xs).itemCounter c := by
  refine (allocated_items c xs).lt_next ?_ hi
  simp only [assignedItems_concat, assignedItem, returnedOk, hok, and_self, if_true,
    Option.toList_some, List.length_append, List.length_singleton] at hlen
  omega

end

lemma assignedCollections_isPrefix {xs ys : List (Extrinsic AccountId)} (h : xs <+: ys) :
    assignedCollections T l xs <+: assignedCollections T l ys :=
  (occurrences_isPrefix h).filterMap _

lemma assignedItems_isPrefix (c : CollectionId) {xs ys : List (Extrinsic AccountId)}
    (h : xs <+: ys) : assignedItems T l c xs <+: assignedItems T l c ys :=
  (occurrences_isPrefix h).filterMap _

/-! ### What a collection keeps -/

/-- A collection that is stored after a call has just been created by it, or has the creator and
the metadata that it had before. -/
lemma collection_of_callRule {σ τ : State AccountId Ledger} {s : AccountId}
    {call : Call AccountId} (h : CallRule T σ s call τ) {c : CollectionId}
    {col : Collection AccountId} (hcol : τ.collections c = some col) :
    (call = .createCollection col.metadata.val ∧ c = σ.nextCollectionId ∧ col.creator = s) ∨
      ∃ old, σ.collections c = some old ∧ col.creator = old.creator ∧
        col.metadata = old.metadata := by
  cases h with
  | registerArtist | transferNft | mintNft => exact Or.inr ⟨col, hcol, rfl, rfl⟩
  | createCollection metadata md hmd =>
    rcases StorageMap.insert_eq_some_iff.mp hcol with ⟨hid, rfl⟩ | ⟨-, hcol⟩
    · exact Or.inl ⟨congrArg Call.createCollection hmd.symm, hid, rfl⟩
    · exact Or.inr ⟨col, hcol, rfl, rfl⟩
  | deleteCollection => exact Or.inr ⟨col, (StorageMap.remove_eq_some_iff.mp hcol).2, rfl, rfl⟩
  | createNft _ _ _ old _ _ hold | burnNft _ _ _ old _ _ _ hold =>
    rcases StorageMap.insert_eq_some_iff.mp hcol with ⟨rfl, rfl⟩ | ⟨-, hcol⟩
    · exact Or.inr ⟨old, hold, rfl, rfl⟩
    · exact Or.inr ⟨col, hcol, rfl, rfl⟩

/-- Among the first `2 ^ 32` collections, one that is stored has the creator and the metadata that
it was created with. -/
theorem collection_as_created {past later : List (Extrinsic AccountId)} {s : AccountId}
    {metadata : List UInt8}
    (hok : succeeds T (after T l past) ⟨s, .createCollection metadata⟩ = true)
    (hlen : (assignedCollections T l
      (past ++ ⟨s, .createCollection metadata⟩ :: later)).length ≤ 2 ^ 32)
    {col : Collection AccountId}
    (hcol : (after T l (past ++ ⟨s, .createCollection metadata⟩ :: later)).collections
      (after T l past).nextCollectionId = some col) :
    col.creator = s ∧ col.metadata.val = metadata := by
  induction later using List.reverseRecOn generalizing col with
  | nil =>
    rw [after_concat] at hcol
    obtain ⟨hcall, -, hcreator⟩ | ⟨old, hold, -⟩ :=
      collection_of_callRule (callRule_of_succeeds hok) hcol
    · exact ⟨hcreator, (Call.createCollection.inj hcall).symm⟩
    · have hmem := mem_assignedCollections past (by rw [hold]; exact Option.some_ne_none old)
      exact absurd hmem (nextCollectionId_notMem hok hlen)
  | append_singleton later y ih =>
    rw [← List.cons_append, ← List.append_assoc] at hlen hcol
    rw [after_concat] at hcol
    have hshort := (assignedCollections_isPrefix (List.prefix_append _ [y])).length_le.trans hlen
    obtain ⟨-, hstep⟩ | ⟨hok', hrule⟩ := step_cases T (after T l _) y
    · rw [hstep] at hcol
      exact ih hshort hcol
    · obtain ⟨hcall, hid, -⟩ | ⟨old, hold, hcreator, hmetadata⟩ :=
        collection_of_callRule hrule hcol
      · -- a new collection does not get an id that has been assigned
        obtain ⟨s', call⟩ := y
        obtain rfl : call = _ := hcall
        have hlater : past ++ [⟨s, .createCollection metadata⟩] <+:
            past ++ ⟨s, .createCollection metadata⟩ :: later := ⟨later, by simp⟩
        have hmem := (assignedCollections_isPrefix (T := T) (l := l) hlater).subset
          (a := (after T l past).nextCollectionId)
          (by simp [assignedCollections_concat, assignedCollection, returnedOk, hok])
        rw [hid] at hmem
        exact absurd hmem (nextCollectionId_notMem hok' hlen)
      · rw [hcreator, hmetadata]
        exact ih hshort hold

namespace WithinBudget

variable {xs : List (Extrinsic AccountId)} {x : Extrinsic AccountId}

lemma of_isPrefix {xs ys : List (Extrinsic AccountId)} (h : WithinBudget T l ys)
    (hp : xs <+: ys) : WithinBudget T l xs where
  collections := (assignedCollections_isPrefix hp).length_le.trans h.collections
  items c := (assignedItems_isPrefix c hp).length_le.trans (h.items c)

lemma of_concat (h : WithinBudget T l (xs ++ [x])) : WithinBudget T l xs :=
  h.of_isPrefix (List.prefix_append xs [x])

/-- A run of at most `2 ^ 32` calls is within the budget, whatever the calls are. -/
lemma of_length_le (h : xs.length ≤ 2 ^ 32) : WithinBudget T l xs where
  collections := (List.length_filterMap_le _ _).trans (by simpa using h)
  items c := (List.length_filterMap_le _ _).trans (by simpa using h)

/-- A collection created within the budget gets an id that was never assigned before. -/
lemma collection_fresh {s : AccountId} {metadata : List UInt8}
    (h : WithinBudget T l (xs ++ [⟨s, .createCollection metadata⟩]))
    (hok : succeeds T (after T l xs) ⟨s, .createCollection metadata⟩ = true) :
    (after T l xs).nextCollectionId ∉ assignedCollections T l xs :=
  nextCollectionId_notMem hok h.collections

/-- An NFT created within the budget gets an item id above all that were assigned before. -/
lemma item_lt_counter {s : AccountId} {c : CollectionId} {metadata : List UInt8} {price : ℕ}
    (h : WithinBudget T l (xs ++ [⟨s, .createNft c metadata price⟩]))
    (hok : succeeds T (after T l xs) ⟨s, .createNft c metadata price⟩ = true) {i : ItemId}
    (hi : i ∈ assignedItems T l c xs) : i < (after T l xs).itemCounter c :=
  lt_itemCounter hok (h.items c) hi

end WithinBudget

/-! ### Stored ids and the counters -/

/-- In every state, an item that is stored has an id of at most the counter of its collection. -/
theorem item_le_itemCounter (xs : List (Extrinsic AccountId)) {c : CollectionId} {i : ItemId}
    (h : (after T l xs).nfts (c, i) ≠ none) : i ≤ (after T l xs).itemCounter c :=
  (allocated_items c xs).le_next (mem_assignedItems xs h)

variable (T l) in
/-- Fewer than `2 ^ 32` collections, and fewer than `2 ^ 32` NFTs under each collection id, are
created in the run, so that no counter has reached its limit. -/
structure BelowLimit (xs : List (Extrinsic AccountId)) : Prop where
  collections : (assignedCollections T l xs).length < 2 ^ 32
  items : ∀ c, (assignedItems T l c xs).length < 2 ^ 32

namespace BelowLimit

variable {xs : List (Extrinsic AccountId)} {c : CollectionId} {i : ItemId}

lemma withinBudget (h : BelowLimit T l xs) : WithinBudget T l xs where
  collections := h.collections.le
  items c := (h.items c).le

lemma of_isPrefix {xs ys : List (Extrinsic AccountId)} (h : BelowLimit T l ys)
    (hp : xs <+: ys) : BelowLimit T l xs where
  collections := (assignedCollections_isPrefix hp).length_le.trans_lt h.collections
  items c := (assignedItems_isPrefix c hp).length_le.trans_lt (h.items c)

/-- A run of fewer than `2 ^ 32` calls is below the limit, whatever the calls are. -/
lemma of_length_lt (h : xs.length < 2 ^ 32) : BelowLimit T l xs where
  collections := (List.length_filterMap_le _ _).trans_lt (by simpa using h)
  items c := (List.length_filterMap_le _ _).trans_lt (by simpa using h)

lemma item_lt (h : BelowLimit T l xs) (hi : (after T l xs).nfts (c, i) ≠ none) :
    i < (after T l xs).itemCounter c :=
  (allocated_items c xs).lt_next (h.items c) (mem_assignedItems xs hi)

/-- The collection of a stored item was created, even if it is not stored any more. -/
lemma collection_lt (h : BelowLimit T l xs) (hi : (after T l xs).nfts (c, i) ≠ none) :
    c < (after T l xs).nextCollectionId :=
  (allocated_collections xs).lt_next h.collections
    (mem_assignedCollections_of_item xs (mem_assignedItems xs hi))

end BelowLimit

end FarcasterNft
