import FarcasterNft.Frame.Storage
import FarcasterNft.Js.Json

/-!
# Metadata on its way to the chain and back

Both dialogs that create something turn their JSON text into bytes, one byte for each code
point: its first code unit, modulo 256. `decodeMetadata` of `frontend/src/utils/utils.ts` turns
the bytes, as the API prints them, into code units again. What comes back is the text that was
sent exactly if all its code units fit in a byte.
-/

namespace FarcasterNft

open Frame Js

/-! ### Encoding -/

/-- `Array.from(metadata).map((c) => c.charCodeAt(0))`. -/
def charCodes (metadata : JsString) : List UInt16 :=
  (codePoints metadata).map fun c => c.headD 0

/-- The vector of bytes that the API makes of a list of codes. -/
def toBytes (codes : List UInt16) : List UInt8 := codes.map UInt16.toUInt8

/-- The text that `CreateNFTModal` sends. -/
def CreateNFTModal.metadata (title description imageUrl : JsString) : JsString :=
  stringifyMembers
    [(js "title", title), (js "description", description), (js "image", imageUrl)]

/-- The text that `CreateCollectionModal` sends. -/
def CreateCollectionModal.metadata (title description address : JsString) : JsString :=
  stringifyMembers
    [(js "title", title), (js "description", description), (js "creator", address)]

/-! ### Decoding -/

def isLineTerminator (u : UInt16) : Bool := u.toNat ∈ [10, 13, 0x2028, 0x2029]

/-- `hexString.match(/.{1,2}/g)`: pieces of two units, or of one where a line ends. -/
def matchPairs : JsString → List JsString
  | [] => []
  | [u] => if isLineTerminator u then [] else [[u]]
  | u :: v :: us =>
    if isLineTerminator u then matchPairs (v :: us)
    else if isLineTerminator v then [u] :: matchPairs us
    else [u, v] :: matchPairs us

/-- The text of the metadata, from the bytes in hexadecimal. Zero bytes are dropped. -/
def decodeMetadata (metadataBytes : JsString) : JsString :=
  let hexString :=
    if (js "0x").isPrefixOf metadataBytes then metadataBytes.drop 2 else metadataBytes
  let filteredBytes :=
    ((matchPairs hexString).map fun byte => parseInt byte (some 16)).filter (· ≠ some 0)
  fromCharCode filteredBytes

/-! ### Decoding what was printed -/

lemma isLineTerminator_hexDigit : ∀ n < 16, isLineTerminator (hexDigit n) = false := by decide

lemma matchPairs_flatMap_hexByte (bytes : List UInt8) :
    matchPairs (bytes.flatMap hexByte) = bytes.map hexByte := by
  induction bytes with
  | nil => rfl
  | cons b bytes ih =>
    have hb : b.toNat < 256 := b.toNat_lt
    have hhigh := isLineTerminator_hexDigit (b.toNat / 16) (by omega)
    have hlow := isLineTerminator_hexDigit (b.toNat % 16) (by omega)
    rw [List.flatMap_cons, List.map_cons, hexByte]
    simp only [List.cons_append, List.nil_append, matchPairs, hhigh, hlow, Bool.false_eq_true,
      if_false, ih]

/-- Decoding gives back the bytes other than zero, as code units. -/
theorem decodeMetadata_toHex (bytes : List UInt8) :
    decodeMetadata (toHex bytes) = (bytes.filter (· ≠ 0)).map UInt8.toUInt16 := by
  have hfront : (js "0x").isPrefixOf (toHex bytes) = true := by
    rw [List.isPrefixOf_iff_prefix]
    exact List.prefix_append _ _
  have hdrop : (toHex bytes).drop 2 = bytes.flatMap hexByte := by
    have hlen : (js "0x").length = 2 := by decide
    rw [toHex, ← hlen, List.drop_left]
  rw [decodeMetadata, if_pos hfront, hdrop, matchPairs_flatMap_hexByte, List.map_map]
  clear hfront hdrop
  simp only [fromCharCode]
  induction bytes with
  | nil => rfl
  | cons b bytes ih =>
    rw [List.map_cons, Function.comp_apply, parseInt_hexByte]
    by_cases hb : b = 0
    · subst hb
      simpa using ih
    · have hne : b.toNat ≠ 0 := fun h => hb (UInt8.toNat_inj.mp h)
      rw [List.filter_cons_of_pos (by simpa using hne), List.filter_cons_of_pos (by simpa using hb),
        List.map_cons, List.map_cons, Option.getD_some, ofInt_toNat]
      exact congrArg (b.toUInt16 :: ·) ih

/-! ### The round trip -/

/-- The bytes of a text fit into a metadata field, and decoding them gives back the text. -/
def RoundTrips (s : JsString) : Prop :=
  ∃ md : BoundedVec UInt8 256,
    BoundedVec.tryFrom (toBytes (charCodes s)) = some md ∧ decodeMetadata (toHex md.val) = s

/-- A text one of the two dialogs sends, whatever its fields are. -/
inductive Submitted : JsString → Prop where
  | nft (title description imageUrl : JsString) :
      Submitted (CreateNFTModal.metadata title description imageUrl)
  | collection (title description address : JsString) :
      Submitted (CreateCollectionModal.metadata title description address)

lemma Submitted.zero_notMem {s : JsString} (h : Submitted s) : 0 ∉ s := by
  cases h with
  | nft | collection => exact zero_notMem_stringifyMembers _

/-- A text of small units is its own list of codes. -/
lemma charCodes_eq_self {s : JsString} (h : ∀ u ∈ s, u < 256) : charCodes s = s := by
  have hsmall : ∀ u ∈ s, u < 0xD800 := fun u hu => UInt16.lt_trans (h u hu) (by decide)
  rw [charCodes, codePoints_eq_map hsmall, List.map_map]
  exact List.map_id s

/-- A text that a dialog sends comes back as it was exactly if its units fit in a byte. -/
theorem metadata_round_trip_iff {s : JsString} (hs : Submitted s)
    (hlen : (codePoints s).length ≤ 256) : RoundTrips s ↔ ∀ u ∈ s, u < 256 := by
  constructor
  · rintro ⟨md, -, hdecode⟩ u hu
    rw [← hdecode, decodeMetadata_toHex, List.mem_map] at hu
    obtain ⟨b, -, rfl⟩ := hu
    exact toUInt16_lt b
  · intro hsmall
    have hbytes : (toBytes (charCodes s)).length ≤ 256 := by
      simpa [toBytes, charCodes] using hlen
    obtain ⟨md, hmd⟩ := BoundedVec.tryFrom_isSome_iff.mpr hbytes
    refine ⟨md, hmd, ?_⟩
    rw [decodeMetadata_toHex, BoundedVec.tryFrom_eq_some_iff.mp hmd, charCodes_eq_self hsmall,
      toBytes]
    have hnonzero : ∀ b ∈ s.map UInt16.toUInt8, decide (b ≠ 0) = true := by
      intro b hb
      obtain ⟨u, hu, rfl⟩ := List.mem_map.mp hb
      rw [decide_eq_true_eq]
      intro hzero
      have hu0 : u = 0 := by
        rw [← toUInt16_toUInt8_of_lt (hsmall u hu), hzero]
        rfl
      exact hs.zero_notMem (hu0 ▸ hu)
    rw [List.filter_eq_self.mpr hnonzero, List.map_map]
    exact (List.map_congr_left fun u hu => toUInt16_toUInt8_of_lt (hsmall u hu)).trans
      (List.map_id s)

/-- A title in plain letters. -/
theorem metadata_round_trip_iff_demo :
    RoundTrips (CreateNFTModal.metadata (js "Sun") (js "b") (js "c")) ↔
      ∀ u ∈ CreateNFTModal.metadata (js "Sun") (js "b") (js "c"), u < 256 :=
  metadata_round_trip_iff (.nft (js "Sun") (js "b") (js "c")) (by decide +kernel)

/-- The euro sign comes back as another character. -/
theorem metadata_round_trip_fails :
    ¬ RoundTrips (CreateNFTModal.metadata (js "€") (js "b") (js "c")) := by
  rintro ⟨md, hmd, hdecode⟩
  rw [BoundedVec.tryFrom_eq_some_iff.mp hmd] at hdecode
  revert hdecode
  decide +kernel

end FarcasterNft
