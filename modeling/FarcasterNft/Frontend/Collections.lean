import FarcasterNft.Frontend.Api
import FarcasterNft.Js.Loop

/-!
# The collections of an account

The collection manager lists all collections of the chain and keeps those whose metadata says
that the account is their creator. The metadata is whatever text an artist chose, while the
pallet records the creator by itself: the list is right exactly if no text is `null` and each
text names the account in the same cases as the chain does.
-/

namespace FarcasterNft

open Frame Js

variable {AccountId Ledger : Type}

/-- A collection in the list of the collection manager. -/
structure ManagedCollection where
  id : ℕ
  metadata : Json
  nfts : List ℕ

namespace CollectionManager

/-- What is shown in place of metadata that is not JSON. -/
def unknownCollection (creator : JsString) : Json :=
  .object
    [(js "title", .string (js "Unknown Collection")),
      (js "description", .string (js "Invalid metadata")), (js "image", .string (js "")),
      (js "price", .string (js "0")), (js "creator", .string creator)]

variable (fmt : AddressFormat AccountId)

def formatCollection (key : CollectionId) (value : Collection AccountId) : ManagedCollection where
  id := numberOf key
  metadata := (Json.parse (decodeMetadata (value.toJSON fmt).metadata)).getD
    (unknownCollection (value.toJSON fmt).creator)
  nfts := (value.toJSON fmt).nfts

/-- `collection.metadata.creator === account.address` -/
def isOwn (address : JsString) (collection : ManagedCollection) : Except Thrown Bool := do
  let creator ← collection.metadata.property (js "creator")
  return Json.isString address creator

def formattedCollections (address : JsString)
    (collections : List (CollectionId × Collection AccountId)) :
    Except Thrown (List ManagedCollection) :=
  filter (isOwn address) (collections.map fun (key, value) => formatCollection fmt key value)

/-- Load the account's collections, out of the listed ones, into the state variable
`collections`. -/
def loadCollections (account : Option JsString)
    (collections : List (CollectionId × Collection AccountId)) :
    Async (List ManagedCollection) Unit :=
  match account with
  | some (u :: us) => loadState (formattedCollections fmt (u :: us) collections)
  | _ => pure ()

end CollectionManager

open CollectionManager

/-! ### What a text says about the creator -/

/-- Whether a value is an object that names an address as the creator. -/
def namesCreator (address : JsString) : Json → Bool
  | .object members => Json.isString address (Json.lookup members (js "creator"))
  | _ => false

/-- The metadata is not `null`, and if it is JSON then it names the account as the creator
exactly if the chain does. -/
structure TellsCreator (fmt : AddressFormat AccountId) (a : AccountId)
    (col : Collection AccountId) : Prop where
  ne_null : metadataValue col.metadata ≠ some .null
  names_iff : ∀ v, metadataValue col.metadata = some v →
    (namesCreator (fmt.print a) v = true ↔ col.creator = a)

lemma isOwn_eq_ok {address : JsString} {collection : ManagedCollection}
    (h : collection.metadata ≠ .null) :
    isOwn address collection = .ok (namesCreator address collection.metadata) := by
  rw [isOwn]
  cases hv : collection.metadata with
  | null => exact absurd hv h
  | _ => rfl

lemma isOwn_of_null {address : JsString} {collection : ManagedCollection}
    (h : collection.metadata = .null) :
    isOwn address collection = .error (.error (js "Cannot read properties of null")) := by
  rw [isOwn, h]
  rfl

variable {fmt : AddressFormat AccountId} {σ : State AccountId Ledger} {a : AccountId}

lemma metadata_formatCollection (c : CollectionId) (col : Collection AccountId) :
    (formatCollection fmt c col).metadata =
      (metadataValue col.metadata).getD (unknownCollection (fmt.print col.creator)) := by
  rw [← parse_decodeMetadata]
  rfl

lemma metadata_formatCollection_eq_null {c : CollectionId} {col : Collection AccountId} :
    (formatCollection fmt c col).metadata = .null ↔ metadataValue col.metadata = some .null := by
  rw [metadata_formatCollection]
  cases metadataValue col.metadata with
  | none => simp [unknownCollection]
  | some v => simp

/-- The text shown in place of other texts names the creator that the chain knows. -/
lemma namesCreator_unknownCollection (creator : AccountId) :
    namesCreator (fmt.print a) (unknownCollection (fmt.print creator)) = true ↔ creator = a := by
  have hlookup : namesCreator (fmt.print a) (unknownCollection (fmt.print creator)) =
      decide (fmt.print creator = fmt.print a) := rfl
  rw [hlookup, decide_eq_true_iff, fmt.injective.eq_iff]

lemma TellsCreator.names_formatCollection_iff {c : CollectionId} {col : Collection AccountId}
    (h : TellsCreator fmt a col) :
    namesCreator (fmt.print a) (formatCollection fmt c col).metadata = true ↔
      col.creator = a := by
  rw [metadata_formatCollection]
  cases hv : metadataValue col.metadata with
  | none => exact namesCreator_unknownCollection col.creator
  | some v => exact h.names_iff v hv

/-! ### What a load leaves -/

lemma perform_loadCollections (a : AccountId)
    (collections : List (CollectionId × Collection AccountId)) (prev : List ManagedCollection) :
    (perform (loadCollections fmt (some (fmt.print a)) collections) prev).2 =
      match formattedCollections fmt (fmt.print a) collections with
      | .ok formatted => formatted
      | .error _ => prev := by
  obtain ⟨u, us, hprint⟩ := List.exists_cons_of_ne_nil (fmt.print_ne_nil a)
  rw [hprint, loadCollections, perform_loadState]
  cases formattedCollections fmt (u :: us) collections <;> rfl

/-- Without a `null` the load keeps the collections that name the account. -/
lemma formattedCollections_eq_ok (L : Listing σ.collections) (address : JsString)
    (h : ∀ c col, σ.collections c = some col → metadataValue col.metadata ≠ some .null) :
    formattedCollections fmt address L.entries =
      .ok ((L.entries.map fun e => formatCollection fmt e.1 e.2).filter
        fun e => namesCreator address e.metadata) := by
  apply filter_eq_ok
  intro e he
  obtain ⟨⟨c, col⟩, hmem, rfl⟩ := List.mem_map.mp he
  have hne := h c col ((L.mem_iff c col).mp hmem)
  exact isOwn_eq_ok fun hnull => hne (metadata_formatCollection_eq_null.mp hnull)

/-- A single `null` leaves no list at all. -/
lemma exists_formattedCollections_eq_error (fmt : AddressFormat AccountId)
    (L : Listing σ.collections) (address : JsString) {c : CollectionId}
    {col : Collection AccountId} (hcol : σ.collections c = some col)
    (hnull : metadataValue col.metadata = some .null) :
    ∃ e, formattedCollections fmt address L.entries = .error e := by
  have hmem : formatCollection fmt c col ∈
      L.entries.map fun e => formatCollection fmt e.1 e.2 :=
    List.mem_map_of_mem ((L.mem_iff c col).mpr hcol)
  exact exists_filter_eq_error hmem (isOwn_of_null (metadata_formatCollection_eq_null.mpr hnull))

/-- The entries of the list are those of the stored collections that the account created, each
of them once. -/
structure ShowsCollectionsOf (fmt : AddressFormat AccountId) (σ : State AccountId Ledger)
    (a : AccountId) (list : List ManagedCollection) : Prop where
  nodup : (list.map ManagedCollection.id).Nodup
  mem_iff : ∀ e, e ∈ list ↔ ∃ c col, σ.collections c = some col ∧ col.creator = a ∧
    e = formatCollection fmt c col

lemma nodup_ids (L : Listing σ.collections) :
    ((L.entries.map fun e => formatCollection fmt e.1 e.2).map ManagedCollection.id).Nodup := by
  rw [List.map_map]
  have hids : (ManagedCollection.id ∘ fun e : CollectionId × Collection AccountId =>
      formatCollection fmt e.1 e.2) = fun e => e.1.toNat := funext fun e => numberOf_eq e.1
  rw [hids]
  exact nodup_numbers L

/-- Entries of stored collections with one id are of one collection. -/
lemma eq_of_formatCollection_eq {c c' : CollectionId} {col col' : Collection AccountId}
    (hcol : σ.collections c = some col) (hcol' : σ.collections c' = some col')
    (h : formatCollection fmt c col = formatCollection fmt c' col') : col = col' := by
  have hid : c.toNat = c'.toNat := by
    simpa [formatCollection] using congrArg ManagedCollection.id h
  obtain rfl := UInt32.toNat_inj.mp hid
  rw [hcol, Option.some.injEq] at hcol'
  exact hcol'

/-- The list of the account's collections is never left as it was, whatever it was. -/
lemma not_forall_showsCollectionsOf (fmt : AddressFormat AccountId) (σ : State AccountId Ledger)
    (a : AccountId) : ¬ ∀ list, ShowsCollectionsOf fmt σ a list := by
  intro h
  -- an empty list shows that there is nothing to show, and any entry the contrary
  have hone := (h [⟨0, .null, []⟩]).mem_iff ⟨0, .null, []⟩
  have hnone := (h []).mem_iff ⟨0, .null, []⟩
  exact List.not_mem_nil (hnone.mpr (hone.mp List.mem_cons_self))

/-- Of a load that ends with the account's collections, whatever was listed before, every
stored collection tells its creator. -/
lemma tellsCreator_of_showsCollectionsOf {L : Listing σ.collections}
    (h : ∀ prev, ShowsCollectionsOf fmt σ a
      (perform (loadCollections fmt (some (fmt.print a)) L.entries) prev).2)
    {c : CollectionId} {col : Collection AccountId} (hcol : σ.collections c = some col) :
    TellsCreator fmt a col := by
  have hnotnull : ∀ c col, σ.collections c = some col →
      metadataValue col.metadata ≠ some .null := by
    intro c col hcol hnull
    obtain ⟨e, herror⟩ :=
      exists_formattedCollections_eq_error fmt L (fmt.print a) hcol hnull
    apply not_forall_showsCollectionsOf fmt σ a
    intro prev
    have hprev := h prev
    rwa [perform_loadCollections, herror] at hprev
  refine ⟨hnotnull c col hcol, fun v hv => ?_⟩
  have hshows := h []
  rw [perform_loadCollections, formattedCollections_eq_ok L _ hnotnull] at hshows
  have hmetadata : (formatCollection fmt c col).metadata = v := by
    rw [metadata_formatCollection, hv]
    rfl
  have hlisted : formatCollection fmt c col ∈
      L.entries.map fun e => formatCollection fmt e.1 e.2 :=
    List.mem_map_of_mem ((L.mem_iff c col).mpr hcol)
  have hiff := hshows.mem_iff (formatCollection fmt c col)
  rw [List.mem_filter, hmetadata] at hiff
  constructor
  · intro hnames
    obtain ⟨c', col', hcol', hcreator, heq⟩ := hiff.mp ⟨hlisted, hnames⟩
    rw [eq_of_formatCollection_eq hcol hcol' heq]
    exact hcreator
  · intro hcreator
    exact (hiff.mpr ⟨c, col, hcol, hcreator, rfl⟩).2

/-- If every stored collection tells its creator, a load ends with the account's collections. -/
lemma showsCollectionsOf_of_tellsCreator (L : Listing σ.collections)
    (h : ∀ c col, σ.collections c = some col → TellsCreator fmt a col)
    (prev : List ManagedCollection) :
    ShowsCollectionsOf fmt σ a
      (perform (loadCollections fmt (some (fmt.print a)) L.entries) prev).2 := by
  rw [perform_loadCollections,
    formattedCollections_eq_ok L _ fun c col hcol => (h c col hcol).ne_null]
  constructor
  · exact (nodup_ids L).sublist (List.filter_sublist.map _)
  · intro e
    rw [List.mem_filter, List.mem_map]
    constructor
    · rintro ⟨⟨⟨c, col⟩, hmem, rfl⟩, hnames⟩
      have hcol := (L.mem_iff c col).mp hmem
      exact ⟨c, col, hcol, (h c col hcol).names_formatCollection_iff.mp hnames, rfl⟩
    · rintro ⟨c, col, hcol, hcreator, rfl⟩
      exact ⟨⟨(c, col), (L.mem_iff c col).mpr hcol, rfl⟩,
        (h c col hcol).names_formatCollection_iff.mpr hcreator⟩

/-- In every state, and in whatever order the collections are listed, a load ends with the
account's collections exactly if each stored collection tells its creator. -/
theorem collections_shown_iff (fmt : AddressFormat AccountId) (σ : State AccountId Ledger)
    (L : Listing σ.collections) (a : AccountId) :
    (∀ prev, ShowsCollectionsOf fmt σ a
      (perform (loadCollections fmt (some (fmt.print a)) L.entries) prev).2) ↔
      ∀ c col, σ.collections c = some col → TellsCreator fmt a col := by
  constructor
  · intro h c col hcol
    exact tellsCreator_of_showsCollectionsOf h hcol
  · intro h prev
    exact showsCollectionsOf_of_tellsCreator L h prev

/-- A run in which account `2` stores a collection whose metadata names account `1`. -/
def forgedRun : List (Extrinsic ℕ) :=
  [⟨2, .registerArtist⟩, ⟨2, .createCollection
    (toBytes (stringifyMembers [(js "creator", demoFormat.print 1)]))⟩]

/-- Account `1` is shown the collection of account `2`. -/
theorem collections_shown_fails :
    ¬ ∀ (L : Listing (after demoRuntime demoLedger forgedRun).collections) prev,
      ShowsCollectionsOf demoFormat (after demoRuntime demoLedger forgedRun) 1
        (perform (loadCollections demoFormat (some (demoFormat.print 1)) L.entries) prev).2 := by
  intro h
  obtain ⟨L⟩ := exists_listing (T := demoRuntime) (l := demoLedger) forgedRun
  have hforged : ((after demoRuntime demoLedger forgedRun).collections 0).any (fun col =>
      (metadataValue col.metadata).any (namesCreator (demoFormat.print 1)) &&
        col.creator ≠ 1) = true := by
    decide +kernel
  obtain ⟨col, hcol, hcol'⟩ := (Option.any_eq_true _ _).mp hforged
  rw [Bool.and_eq_true, decide_eq_true_iff] at hcol'
  obtain ⟨v, hv, hnames⟩ := (Option.any_eq_true _ _).mp hcol'.1
  exact hcol'.2 (((tellsCreator_of_showsCollectionsOf (h L) hcol).names_iff v hv).mp hnames)

end FarcasterNft
