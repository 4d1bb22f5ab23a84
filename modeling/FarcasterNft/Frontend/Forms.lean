import FarcasterNft.Frontend.Actions
import FarcasterNft.Frontend.Collections
import FarcasterNft.Frontend.Pricing
import FarcasterNft.Frontend.Rendering
import FarcasterNft.Frontend.Snapshots
import FarcasterNft.Js.Printing
import FarcasterNft.Pallet.Custody

/-!
# What is typed is shown

From the forms of the two dialogs through the chain to the components that load. If the code units
of the text that a dialog makes fit in a byte, then what was typed is stored and parsed again as it
was, whatever happens to the NFT or the collection in between. In particular the manager shows the
collections of an account to the account and to nobody else, if all of them were created so.
-/

namespace FarcasterNft

open Frame Js

variable {AccountId Ledger : Type}

/-! ### Stored texts -/

/-- A text of small units, none of which is zero, comes back from its bytes. -/
lemma map_toBytes_charCodes {s : JsString} (hsmall : ∀ u ∈ s, u < 256) (hzero : 0 ∉ s) :
    ((toBytes (charCodes s)).filter (· ≠ 0)).map UInt8.toUInt16 = s := by
  rw [charCodes_eq_self hsmall, toBytes]
  induction s with
  | nil => rfl
  | cons u s ih =>
    have hu : u.toUInt8.toUInt16 = u := toUInt16_toUInt8_of_lt (hsmall u List.mem_cons_self)
    have hne : u.toUInt8 ≠ 0 := by
      intro heq
      rw [heq] at hu
      exact hzero (hu ▸ List.mem_cons_self)
    have hrest := ih (fun v hv => hsmall v (List.mem_cons_of_mem u hv))
      fun hmem => hzero (List.mem_cons_of_mem u hmem)
    simpa [hne, hu] using hrest

/-- The value of metadata that was made of an object of strings. -/
lemma metadataValue_of_stringifyMembers {md : BoundedVec UInt8 256}
    {members : List (JsString × JsString)}
    (hmd : md.val = toBytes (charCodes (stringifyMembers members)))
    (hsmall : ∀ u ∈ stringifyMembers members, u < 256) :
    metadataValue md = some (.object (members.map memberValue)) := by
  rw [metadataValue, hmd, map_toBytes_charCodes hsmall (zero_notMem_stringifyMembers members)]
  exact parse_stringifyMembers members

/-- Whether all units of a text fit in a byte. -/
def isLatin1 (s : JsString) : Bool := s.all fun u => decide (u < 256)

lemma lt_of_isLatin1 {s : JsString} (h : isLatin1 s = true) : ∀ u ∈ s, u < 256 :=
  fun u hu => of_decide_eq_true (List.all_eq_true.mp h u hu)

/-- Three texts of small units, under names of such units. -/
lemma lt_of_mem_three {k₁ k₂ k₃ v₁ v₂ v₃ : JsString}
    (hnames : [k₁, k₂, k₃].all isLatin1 = true)
    (h₁ : ∀ u ∈ v₁, u < 256) (h₂ : ∀ u ∈ v₂, u < 256) (h₃ : ∀ u ∈ v₃, u < 256) :
    ∀ u ∈ stringifyMembers [(k₁, v₁), (k₂, v₂), (k₃, v₃)], u < 256 := by
  have hname : ∀ k ∈ [k₁, k₂, k₃], ∀ u ∈ k, u < 256 := fun k hk =>
    lt_of_isLatin1 (List.all_eq_true.mp hnames k hk)
  intro u hu
  refine lt_of_mem_stringifyMembers (fun m hm => ?_) hu
  simp only [List.mem_cons, List.not_mem_nil, or_false] at hm
  rcases hm with rfl | rfl | rfl
  · exact ⟨hname _ (by simp), h₁⟩
  · exact ⟨hname _ (by simp), h₂⟩
  · exact ⟨hname _ (by simp), h₃⟩

lemma CreateNFTModal.lt_of_mem_metadata {title description imageUrl : JsString}
    (htitle : ∀ u ∈ title, u < 256) (hdescription : ∀ u ∈ description, u < 256)
    (himage : ∀ u ∈ imageUrl, u < 256) : ∀ u ∈ metadata title description imageUrl, u < 256 :=
  lt_of_mem_three (by decide) htitle hdescription himage

lemma CreateCollectionModal.lt_of_mem_metadata {title description address : JsString}
    (htitle : ∀ u ∈ title, u < 256) (hdescription : ∀ u ∈ description, u < 256)
    (haddress : ∀ u ∈ address, u < 256) : ∀ u ∈ metadata title description address, u < 256 :=
  lt_of_mem_three (by decide) htitle hdescription haddress

/-! ### NFTs -/

/-- What is shown of a form. -/
def CreateNFTModal.Form.shown (form : CreateNFTModal.Form) : Json :=
  .object
    [(js "title", .string form.title), (js "description", .string form.description),
      (js "image", .string form.imageUrl)]

lemma CreateNFTModal.mem_createNFT_metadata {props : CreateNFTModal.Props}
    {form : CreateNFTModal.Form} {out : CreateReplies} {c : CollectionId} {md : List UInt8} {p : ℕ}
    (h : .submitted c md p ∈ noted (createNFT props form out)) :
    md = toBytes (charCodes (metadata form.title form.description form.imageUrl)) := by
  rcases mem_createNFT h with heq | hmem
  · cases heq
  · cases hprice : out.createTx (priceValue form.price) with
    | error e =>
      rw [hprice] at hmem
      cases hmem
    | ok amount =>
      rw [hprice] at hmem
      cases List.mem_singleton.mp hmem
      rfl

/-- If nothing is missing and nothing fails, what the form says is handed over. -/
lemma CreateNFTModal.submitted_willing {address : JsString} (haddress : address ≠ [])
    (c : CollectionId) {form : CreateNFTModal.Form} {amount : ℕ}
    (hprice : safeAmount (priceValue form.price) = .ok amount) :
    .submitted c (toBytes (charCodes (metadata form.title form.description form.imageUrl))) amount ∈
      noted (createNFT ⟨true, some address, true, c⟩ form .willing) := by
  have hready : (true && truthy (some address) && true &&
      CreateReplies.willing.createType.isNone) = true := by
    simpa [CreateReplies.willing] using haddress
  have htx : CreateReplies.willing.createTx = safeAmount := rfl
  rw [(logs_createNFT _ _ _).noted_eq, if_pos hready, htx, hprice]
  exact List.mem_cons_of_mem _ (List.mem_singleton_self _)

section

variable [DecidableEq AccountId] {T : Config AccountId Ledger} {l : Ledger}

lemma createNft_stores_metadata {σ : State AccountId Ledger} {s : AccountId} {c : CollectionId}
    {md : List UInt8} {p : ℕ} (hok : succeeds T σ ⟨s, .createNft c md p⟩ = true) :
    ∃ n, (step T σ ⟨s, .createNft c md p⟩).nfts (c, σ.itemCounter c) = some n ∧
      n.metadata.val = md := by
  have hrule := callRule_of_succeeds hok
  generalize step T _ _ = τ at hrule ⊢
  cases hrule with
  | createNft _ _ _ col md' nfts hcol hmd hpush =>
    exact ⟨_, StorageMap.insert_self _ _ _, hmd⟩

/-- Nothing changes the metadata of a stored NFT. -/
lemma metadata_eq_of_stored {past later : List (Extrinsic AccountId)}
    {k : CollectionId × ItemId} {n m : NFT AccountId} (h : WithinBudget T l (past ++ later))
    (hn : (after T l past).nfts k = some n) (hm : (after T l (past ++ later)).nfts k = some m) :
    m.metadata = n.metadata := by
  have hfollows := life_follows h hn
  rw [life_eq_held_iff.mpr hm] at hfollows
  cases hfollows with
  | same => rfl
  | sold _ hmetadata => exact hmetadata

/-- An NFT is listed with what was typed into a form: in the marketplace, if its collection is
stored, in the dashboard of its owner, and in the collection manager, if this can load it. -/
structure ShownAsTyped (fmt : AddressFormat AccountId) (σ : State AccountId Ledger)
    (c : CollectionId) (i : ItemId) (owner : AccountId) (form : CreateNFTModal.Form) : Prop where
  marketplace : σ.collections c ≠ none → ∀ (L : Listing σ.collections) prev,
    ∃ e ∈ (perform (NFTMarketplace.loadNFTs fmt σ L.entries) prev).2,
      e.key = (c.toNat, i.toNat) ∧ e.metadata = some form.shown
  dashboard : ∀ prev, ∃ e ∈ (perform (UserDashboard.loadUserNFTs fmt σ
    (some (fmt.print owner))) prev).2, e.key = (c.toNat, i.toNat) ∧ e.metadata = some form.shown
  manager : itemBound (σ.itemCounter c) < 2 ^ 32 → ∀ prev,
    ∃ e ∈ (perform (CollectionManager.loadNFTs fmt σ c.toNat) prev).2,
      e.id = i.toNat ∧ e.metadata = some form.shown

/-- A stored NFT whose metadata has the value of a form is listed so. -/
lemma shownAsTyped {fmt : AddressFormat AccountId} {xs : List (Extrinsic AccountId)}
    (h : BelowLimit T l xs) {c : CollectionId} {i : ItemId} {n : NFT AccountId}
    (hn : (after T l xs).nfts (c, i) = some n) {form : CreateNFTModal.Form}
    (hvalue : metadataValue n.metadata = some form.shown) :
    ShownAsTyped fmt (after T l xs) c i n.owner form := by
  have hne : (after T l xs).nfts (c, i) ≠ none := by simp [hn]
  have hle := item_le_itemCounter xs hne
  constructor
  · intro hstored L prev
    refine ⟨_, NFTMarketplace.mem_loadNFTs L prev hn hstored hle, rfl, ?_⟩
    exact (parse_decodeMetadata n.metadata).trans hvalue
  · intro prev
    refine ⟨_, UserDashboard.mem_loadUserNFTs prev hn (h.collection_lt hne) (h.item_lt hne), rfl,
      ?_⟩
    show some ((Json.parse (decodeMetadata (toHex n.metadata.val))).getD _) = _
    rw [parse_decodeMetadata, hvalue]
    rfl
  · intro hbound prev
    refine ⟨_, CollectionManager.mem_loadNFTs prev hn hbound hle, rfl, ?_⟩
    exact (parse_decodeMetadata n.metadata).trans hvalue

/-- What is typed into the form of an NFT is what every component shows of it for as long as it
exists, whoever owns it then, if the code units of the text that is sent fit in a byte. -/
theorem nft_shown_as_typed (fmt : AddressFormat AccountId) {props : CreateNFTModal.Props}
    {form : CreateNFTModal.Form} {out : CreateReplies} {c : CollectionId} {md : List UInt8} {p : ℕ}
    (hsubmitted : .submitted c md p ∈ noted (CreateNFTModal.createNFT props form out))
    (hsmall : ∀ u ∈ CreateNFTModal.metadata form.title form.description form.imageUrl, u < 256)
    {past later : List (Extrinsic AccountId)} {s : AccountId}
    (hok : succeeds T (after T l past) ⟨s, .createNft c md p⟩ = true)
    (h : BelowLimit T l (past ++ [⟨s, .createNft c md p⟩] ++ later)) :
    let i := (after T l past).itemCounter c
    let σ := after T l (past ++ [⟨s, .createNft c md p⟩] ++ later)
    ∀ n, σ.nfts (c, i) = some n → ShownAsTyped fmt σ c i n.owner form := by
  intro i σ n hn
  obtain ⟨m, hm, hmd⟩ := createNft_stores_metadata hok
  rw [← after_concat] at hm
  apply shownAsTyped h hn
  rw [metadata_eq_of_stored h.withinBudget hm hn]
  rw [CreateNFTModal.mem_createNFT_metadata hsubmitted] at hmd
  exact metadataValue_of_stringifyMembers hmd hsmall

/-- The text that is sent of a form with plain letters. -/
def plainMetadata : List UInt8 :=
  toBytes (charCodes (CreateNFTModal.metadata (js "a") (js "b") (js "c")))

lemma submitted_plainMetadata {address : JsString} (h : address ≠ []) :
    .submitted 0 plainMetadata 7 ∈
      noted (CreateNFTModal.createNFT ⟨true, some address, true, 0⟩
        (formWithPrice (js "7")) .willing) :=
  CreateNFTModal.submitted_willing h 0 (by decide +kernel)

/-- An NFT that is sold after it was created. -/
theorem nft_shown_as_typed_demo :
    let σ := after demoRuntime demoLedger
      ([⟨1, .registerArtist⟩, ⟨1, .createCollection []⟩] ++ [⟨1, .createNft 0 plainMetadata 7⟩] ++
        [⟨2, .mintNft 0 0⟩])
    ∃ n, σ.nfts (0, 0) = some n ∧ n.owner = 2 ∧
      ShownAsTyped demoFormat σ 0 0 n.owner (formWithPrice (js "7")) := by
  intro σ
  have hsold : (σ.nfts (0, 0)).any (fun n => n.owner = 2) = true := by decide +kernel
  obtain ⟨n, hn, howner⟩ := (Option.any_eq_true _ _).mp hsold
  refine ⟨n, hn, of_decide_eq_true howner, ?_⟩
  have haddress : js "51" ≠ [] := by decide
  exact nft_shown_as_typed demoFormat (submitted_plainMetadata haddress)
    (CreateNFTModal.lt_of_mem_metadata (lt_of_isLatin1 (by decide)) (lt_of_isLatin1 (by decide))
      (lt_of_isLatin1 (by decide))) (by decide +kernel) (.of_length_lt (by decide)) n hn

/-! ### Collections -/

/-- An extrinsic that creates no collection, or was handed over by the form for collections, with a
text whose code units fit in a byte. -/
def FromForm (fmt : AddressFormat AccountId) (x : Extrinsic AccountId) : Prop :=
  ∀ md, x.call = .createCollection md →
    ∃ (props : ComponentProps) (out : TxReplies AccountId) (title description : JsString),
      .submitted (fmt.print x.signer) x.call ∈
        noted (CreateCollectionModal.createCollection props out title description) ∧
      ∀ u ∈ CreateCollectionModal.metadata title description (fmt.print x.signer), u < 256

/-- What is shown of the form. -/
def CreateCollectionModal.shown (title description address : JsString) : Json :=
  .object
    [(js "title", .string title), (js "description", .string description),
      (js "creator", .string address)]

/-- The metadata is the text that the form makes of a title and a description. -/
def MadeByForm (fmt : AddressFormat AccountId) (col : Collection AccountId) : Prop :=
  ∃ title description : JsString, metadataValue col.metadata =
    some (CreateCollectionModal.shown title description (fmt.print col.creator))

omit [DecidableEq AccountId] in
/-- The value of the metadata of a collection that the form has handed over. -/
lemma metadataValue_of_submitted {address title description : JsString} {props : ComponentProps}
    {out : TxReplies AccountId} {md : BoundedVec UInt8 256}
    (hsubmitted : .submitted address (.createCollection md.val) ∈
      noted (CreateCollectionModal.createCollection props out title description))
    (hsmall : ∀ u ∈ CreateCollectionModal.metadata title description address, u < 256) :
    metadataValue md = some (CreateCollectionModal.shown title description address) := by
  have hcall := (CreateCollectionModal.mem_createCollection hsubmitted).2
  exact metadataValue_of_stringifyMembers (Call.createCollection.inj hcall) hsmall

omit [DecidableEq AccountId] in
/-- Such metadata tells the creator, to everyone. -/
lemma MadeByForm.tellsCreator {fmt : AddressFormat AccountId} {col : Collection AccountId}
    (h : MadeByForm fmt col) (a : AccountId) : TellsCreator fmt a col := by
  obtain ⟨title, description, hvalue⟩ := h
  constructor
  · simp [hvalue, CreateCollectionModal.shown]
  · intro v hv
    rw [hvalue] at hv
    obtain rfl := Option.some.inj hv
    have hlookup : Json.lookup [(js "title", .string title),
        (js "description", .string description),
        (js "creator", .string (fmt.print col.creator))] (js "creator") =
        some (.string (fmt.print col.creator)) := by
      simp [Json.lookup]
    rw [CreateCollectionModal.shown, namesCreator, hlookup, Json.isString, decide_eq_true_iff]
    exact fmt.injective.eq_iff

lemma madeByForm_of_stored {fmt : AddressFormat AccountId} {xs : List (Extrinsic AccountId)}
    (hxs : ∀ x ∈ xs, FromForm fmt x) (c : CollectionId) (col : Collection AccountId)
    (hcol : (after T l xs).collections c = some col) : MadeByForm fmt col := by
  induction xs using List.reverseRecOn generalizing c col with
  | nil => cases hcol
  | append_singleton xs x ih =>
    have hx := hxs x (List.mem_append_right _ (List.mem_singleton_self x))
    have hold := ih fun y hy => hxs y (List.mem_append_left _ hy)
    rw [after_concat] at hcol
    obtain ⟨-, hstep⟩ | ⟨-, hrule⟩ := step_cases T (after T l xs) x
    · rw [hstep] at hcol
      exact hold c col hcol
    · obtain ⟨hcall, -, hcreator⟩ | ⟨old, hstored, hcreator, hmetadata⟩ :=
        collection_of_callRule hrule hcol
      · obtain ⟨props, out, title, description, hsubmitted, hsmall⟩ := hx _ hcall
        rw [hcall] at hsubmitted
        refine ⟨title, description, ?_⟩
        rw [hcreator]
        exact metadataValue_of_submitted hsubmitted hsmall
      · obtain ⟨title, description, hvalue⟩ := hold c old hstored
        exact ⟨title, description, by rw [hcreator, hmetadata, hvalue]⟩

/-- The manager of an account lists a collection, as long as it is stored, with what was typed into
the form by which the account created it at a point of the run. -/
def ListedAsTyped (fmt : AddressFormat AccountId) (T : Config AccountId Ledger) (l : Ledger)
    (xs : List (Extrinsic AccountId)) (a : AccountId) (list : List ManagedCollection) : Prop :=
  ∀ o ∈ occurrences xs, o.input.signer = a → returnedOk T l o = true →
    ∀ props out title description,
      .submitted (fmt.print a) o.input.call ∈
        noted (CreateCollectionModal.createCollection props out title description) →
      (∀ u ∈ CreateCollectionModal.metadata title description (fmt.print a), u < 256) →
      let c := (after T l o.past).nextCollectionId
      (after T l xs).collections c ≠ none → ∃ e ∈ list, e.id = c.toNat ∧
        e.metadata = CreateCollectionModal.shown title description (fmt.print a)

/-- Within the budget of ids, a list of the account's collections lists them so. -/
lemma ShowsCollectionsOf.listedAsTyped {fmt : AddressFormat AccountId}
    {xs : List (Extrinsic AccountId)} {a : AccountId} {list : List ManagedCollection}
    (h : ShowsCollectionsOf fmt (after T l xs) a list)
    (hlen : (assignedCollections T l xs).length ≤ 2 ^ 32) : ListedAsTyped fmt T l xs a list := by
  rintro ⟨past, s, call⟩ ho hsigner hok props out title description hsubmitted hsmall c hstored
  obtain rfl : s = a := hsigner
  obtain ⟨later, rfl⟩ := mem_occurrences.mp ho
  obtain ⟨col, hcol⟩ := Option.ne_none_iff_exists'.mp hstored
  obtain rfl : call = _ := (CreateCollectionModal.mem_createCollection hsubmitted).2
  obtain ⟨hcreator, hmetadata⟩ := collection_as_created hok hlen hcol
  refine ⟨CollectionManager.formatCollection fmt c col,
    (h.mem_iff _).mpr ⟨c, col, hcol, hcreator, rfl⟩, numberOf_eq c, ?_⟩
  simp only [← hmetadata] at hsubmitted
  rw [metadata_formatCollection, metadataValue_of_submitted hsubmitted hsmall]
  rfl

/-- If all collections are created by the form, with texts whose code units fit in a byte, then in
every state, and in whatever order they are listed, the manager of an account shows all that the
account has created and none of anybody else. If no more than `2 ^ 32` have been created, each is
shown with the title and the description that were typed. -/
theorem collections_shown_to_creator (fmt : AddressFormat AccountId)
    {xs : List (Extrinsic AccountId)} (hxs : ∀ x ∈ xs, FromForm fmt x)
    (L : Listing (after T l xs).collections) (a : AccountId) (prev : List ManagedCollection) :
    let list :=
      (perform (CollectionManager.loadCollections fmt (some (fmt.print a)) L.entries) prev).2
    ShowsCollectionsOf fmt (after T l xs) a list ∧
      ((assignedCollections T l xs).length ≤ 2 ^ 32 → ListedAsTyped fmt T l xs a list) := by
  intro list
  have hshows : ShowsCollectionsOf fmt (after T l xs) a list :=
    showsCollectionsOf_of_tellsCreator L
      (fun c col hcol => (madeByForm_of_stored hxs c col hcol).tellsCreator a) prev
  exact ⟨hshows, hshows.listedAsTyped⟩

/-- Two artists with a collection each. -/
def twoArtists : List (Extrinsic ℕ) :=
  [⟨1, .registerArtist⟩, ⟨2, .registerArtist⟩,
    ⟨1, .createCollection
      (toBytes (charCodes (CreateCollectionModal.metadata (js "a") (js "b") (js "51"))))⟩,
    ⟨2, .createCollection
      (toBytes (charCodes (CreateCollectionModal.metadata (js "a") (js "b") (js "52"))))⟩]

lemma fromForm_twoArtists : ∀ x ∈ twoArtists, FromForm demoFormat x := by
  have hsmall : ∀ address, isLatin1 address = true →
      ∀ u ∈ CreateCollectionModal.metadata (js "a") (js "b") address, u < 256 := fun _ h =>
    CreateCollectionModal.lt_of_mem_metadata (lt_of_isLatin1 (by decide))
      (lt_of_isLatin1 (by decide)) (lt_of_isLatin1 h)
  intro x hx md hcall
  simp only [twoArtists, List.mem_cons, List.not_mem_nil, or_false] at hx
  rcases hx with rfl | rfl | rfl | rfl
  · cases hcall
  · cases hcall
  · exact ⟨⟨true, some (js "51"), true⟩, .willing fun _ => .error .other, js "a", js "b",
      List.mem_singleton_self _, hsmall _ (by decide)⟩
  · exact ⟨⟨true, some (js "52"), true⟩, .willing fun _ => .error .other, js "a", js "b",
      List.mem_singleton_self _, hsmall _ (by decide)⟩

/-- The list of the first of them, with what it has typed. -/
theorem collections_shown_to_creator_demo :
    ∃ L : Listing (after demoRuntime demoLedger twoArtists).collections,
      let list := (perform (CollectionManager.loadCollections demoFormat
        (some (demoFormat.print 1)) L.entries) []).2
      ShowsCollectionsOf demoFormat (after demoRuntime demoLedger twoArtists) 1 list ∧
        ListedAsTyped demoFormat demoRuntime demoLedger twoArtists 1 list ∧
        ∃ e ∈ list, e.id = 0 ∧
          e.metadata = CreateCollectionModal.shown (js "a") (js "b") (js "51") := by
  obtain ⟨L⟩ := @exists_listing _ _ _ demoRuntime demoLedger twoArtists
  obtain ⟨hshows, htyped⟩ := collections_shown_to_creator demoFormat fromForm_twoArtists L 1 []
  have hbudget : WithinBudget demoRuntime demoLedger twoArtists := .of_length_le (by decide)
  refine ⟨L, hshows, htyped hbudget.collections, ?_⟩
  have hsmall : ∀ u ∈ CreateCollectionModal.metadata (js "a") (js "b") (js "51"), u < 256 :=
    CreateCollectionModal.lt_of_mem_metadata (lt_of_isLatin1 (by decide))
      (lt_of_isLatin1 (by decide)) (lt_of_isLatin1 (by decide))
  exact htyped hbudget.collections ⟨twoArtists.take 2, twoArtists[2]⟩
    (mem_occurrences.mpr ⟨twoArtists.drop 3, rfl⟩) rfl (by decide +kernel)
    ⟨true, some (js "51"), true⟩ (.willing fun _ => .error .other) (js "a") (js "b")
    (List.mem_singleton_self _) hsmall (by decide +kernel)

end

end FarcasterNft
