import FarcasterNft.Pallet.History

/-!
# Who controls a collection

Deleting a collection takes its creator, and burning an NFT takes its owner. Creating an NFT
checks neither: any account can fill the list of any collection. A collection created when the
counter of ids has run out replaces the one under the last id, whoever created that one. These
two are the only ways to change a collection without a right to.
-/

namespace FarcasterNft

open Frame

variable {AccountId Ledger : Type} [DecidableEq AccountId]
variable {T : Config AccountId Ledger} {l : Ledger} {σ : State AccountId Ledger}
variable {x : Extrinsic AccountId}

/-- The extrinsic changes the record of a collection only if its creator signed it, or if it
burns a listed NFT, signed by the owner of the NFT, and just takes it off the list. -/
def CreatorControls (T : Config AccountId Ledger) (σ : State AccountId Ledger)
    (x : Extrinsic AccountId) : Prop :=
  ∀ c col, σ.collections c = some col → (step T σ x).collections c ≠ some col →
    x.signer = col.creator ∨
      ∃ i n, x.call = .burnNft c i ∧ succeeds T σ x = true ∧
        σ.nfts (c, i) = some n ∧ n.owner = x.signer ∧ i ∈ col.nfts.val ∧
        (step T σ x).collections c =
          some { col with nfts := col.nfts.retain (· != i) }

/-- The extrinsic respects the creators: an NFT that a collection has room for is created by
the creator of the collection, and a registered artist creates no collection over another's. -/
def RespectsCreators (σ : State AccountId Ledger) (x : Extrinsic AccountId) : Prop :=
  match x.call with
  | .createNft c metadata _ =>
    ∀ col, σ.collections c = some col → metadata.length ≤ 256 → col.nfts.val.length < 256 →
      x.signer = col.creator
  | .createCollection metadata =>
    (σ.artists x.signer).getD false = true → metadata.length ≤ 256 →
      ∀ col, σ.collections σ.nextCollectionId = some col → x.signer = col.creator
  | _ => True

/-- A failed extrinsic respects the creators. -/
lemma respectsCreators_of_not_succeeds (h : succeeds T σ x = false) : RespectsCreators σ x := by
  obtain ⟨s, call⟩ := x
  cases call with
  | createNft c metadata price =>
    intro col hcol hmetadata hroom
    have hok : succeeds T σ ⟨s, .createNft c metadata price⟩ = true :=
      succeeds_createNft_iff.mpr ⟨col, hcol, hmetadata, hroom⟩
    exact absurd hok (Bool.eq_false_iff.mp h)
  | createCollection metadata =>
    intro hartist hmetadata
    have hok : succeeds T σ ⟨s, .createCollection metadata⟩ = true :=
      succeeds_createCollection_iff.mpr ⟨hartist, hmetadata⟩
    exact absurd hok (Bool.eq_false_iff.mp h)
  | _ => trivial

/-- One step leaves the creators in control exactly if it respects them. -/
theorem creatorControls_iff : CreatorControls T σ x ↔ RespectsCreators σ x := by
  obtain ⟨hfail, hstep⟩ | ⟨hok, hrule⟩ := step_cases T σ x
  · refine iff_of_true (fun c col hcol hne => ?_) (respectsCreators_of_not_succeeds hfail)
    rw [hstep] at hne
    exact absurd hcol hne
  obtain ⟨s, call⟩ := x
  unfold CreatorControls
  generalize step T σ ⟨s, call⟩ = τ at hrule
  cases hrule with
  | registerArtist => exact iff_of_true (fun c col hcol hne => absurd hcol hne) trivial
  | transferNft | mintNft =>
    exact iff_of_true (fun c col hcol hne => absurd hcol hne) trivial
  | createCollection metadata md hmd hartist =>
    constructor
    · intro h _ _ col hcol
      by_contra hsigner
      have hne : (some ⟨s, md, .new⟩ : Option (Collection AccountId)) ≠ some col := by
        rintro ⟨⟩
        exact hsigner rfl
      obtain heq | ⟨i, n, hcall, -⟩ := h _ col hcol (by simpa using hne)
      · exact hsigner heq
      · cases hcall
    · intro h c col hcol hne
      have hc := StorageMap.eq_of_insert_ne fun heq => hne (heq.trans hcol)
      exact Or.inl (h hartist (hmd ▸ md.bound) col (hc ▸ hcol))
  | deleteCollection c col hcol hcreator =>
    refine iff_of_true (fun c' col' hcol' hne => Or.inl ?_) trivial
    obtain rfl := StorageMap.eq_of_remove_ne fun heq => hne (heq.trans hcol')
    obtain rfl := Option.some.inj (hcol'.symm.trans hcol)
    exact hcreator.symm
  | createNft c metadata price col md nfts hcol hmd hpush =>
    constructor
    · intro h col' hcol' _ _
      obtain rfl := Option.some.inj (hcol.symm.trans hcol')
      have hne : some { col with nfts } ≠ some col := by
        intro heq
        have hnfts := congrArg (fun col => col.nfts.val) (Option.some.inj heq)
        simp [hpush] at hnfts
      obtain heq | ⟨i, n, hcall, -⟩ := h c col hcol (by simpa using hne)
      · exact heq
      · cases hcall
    · intro h c' col' hcol' hne
      obtain rfl := StorageMap.eq_of_insert_ne fun heq => hne (heq.trans hcol')
      obtain rfl := Option.some.inj (hcol'.symm.trans hcol)
      have hroom := BoundedVec.tryPush_isSome_iff.mp
        ⟨nfts, BoundedVec.tryPush_eq_some_iff.mpr hpush⟩
      exact Or.inl (h col' hcol (hmd ▸ md.bound) hroom)
  | burnNft c i n col hnft howner hunsold hcol =>
    refine iff_of_true (fun c' col' hcol' hne => Or.inr ?_) trivial
    obtain rfl := StorageMap.eq_of_insert_ne fun heq => hne (heq.trans hcol')
    obtain rfl := Option.some.inj (hcol'.symm.trans hcol)
    refine ⟨i, n, rfl, hok, hnft, howner, ?_, StorageMap.insert_self _ _ _⟩
    -- the list has changed, so the item was on it
    by_contra hmem
    have hretain : col'.nfts.retain (· != i) = col'.nfts := BoundedVec.ext <| by
      rw [BoundedVec.val_retain, List.filter_eq_self]
      intro j hj
      rw [bne_iff_ne]
      rintro rfl
      exact hmem hj
    exact hne (by simp [hretain])

/-- Creators stay in control all along a run exactly if every step of the run respects them. -/
theorem creator_controls_iff (T : Config AccountId Ledger) (l : Ledger)
    (xs : List (Extrinsic AccountId)) :
    (∀ o ∈ occurrences xs, CreatorControls T (after T l o.past) o.input) ↔
      ∀ o ∈ occurrences xs, RespectsCreators (after T l o.past) o.input :=
  forall₂_congr fun _ _ => creatorControls_iff

/-- An account that is not even an artist puts an NFT into an artist's collection. -/
theorem creator_controls_fails :
    ¬ CreatorControls demoRuntime
      (after demoRuntime demoLedger [⟨1, .registerArtist⟩, ⟨1, .createCollection []⟩])
      ⟨2, .createNft 0 [] 5⟩ := by
  intro h
  obtain hsigner | ⟨i, n, hcall, -⟩ :=
    h 0 ⟨1, .new, .new⟩ (by decide +kernel) (by decide +kernel)
  · exact absurd hsigner (by decide)
  · cases hcall

end FarcasterNft
