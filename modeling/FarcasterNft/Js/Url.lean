import Mathlib.Data.List.DropRight
import Mathlib.Data.List.TakeWhile
import FarcasterNft.Js.Number

/-!
# Query parameters of a URL

What a server reads from the query of a URL that a client writes as a string: the client parses
and serializes the URL, which drops and percent-encodes some of its characters, and the server
splits the query into parameters and decodes them. A string put into a URL without encoding it
is read back as it was if it consists of letters and digits, but not in general.
-/

namespace Js

/-! ### Code points as numbers -/

/-- The value of a code point. A surrogate without a partner is replaced. -/
def scalarValue : JsString → ℕ
  | [u] => if isHighSurrogate u || isLowSurrogate u then 0xFFFD else u.toNat
  | [u, v] => 0x10000 + (u.toNat - 0xD800) * 0x400 + (v.toNat - 0xDC00)
  | _ => 0xFFFD

def scalarValues (s : JsString) : List ℕ := (codePoints s).map scalarValue

/-- The code units of a value. -/
def unitsOf (n : ℕ) : JsString :=
  if n < 0x10000 then [UInt16.ofNat n]
  else
    [UInt16.ofNat (0xD800 + (n - 0x10000) / 0x400),
      UInt16.ofNat (0xDC00 + (n - 0x10000) % 0x400)]

/-! ### UTF-8 -/

def utf8Encode (n : ℕ) : List UInt8 :=
  if n < 0x80 then [UInt8.ofNat n]
  else if n < 0x800 then [UInt8.ofNat (0xC0 + n / 64), UInt8.ofNat (0x80 + n % 64)]
  else if n < 0x10000 then
    [UInt8.ofNat (0xE0 + n / 4096), UInt8.ofNat (0x80 + n / 64 % 64), UInt8.ofNat (0x80 + n % 64)]
  else
    [UInt8.ofNat (0xF0 + n / 262144), UInt8.ofNat (0x80 + n / 4096 % 64),
      UInt8.ofNat (0x80 + n / 64 % 64), UInt8.ofNat (0x80 + n % 64)]

/-- A sequence that has begun: how many bytes it still needs, between which bounds the next one
must be, and the value read so far. -/
structure Utf8Sequence where
  needed : ℕ
  lower : ℕ
  upper : ℕ
  value : ℕ

/-- Read a byte between two sequences. -/
def Utf8Sequence.start (b : UInt8) : List ℕ × Option Utf8Sequence :=
  let n := b.toNat
  if n < 0x80 then ([n], none)
  else if 0xC2 ≤ n ∧ n < 0xE0 then ([], some ⟨1, 0x80, 0xBF, n - 0xC0⟩)
  else if 0xE0 ≤ n ∧ n < 0xF0 then
    ([], some ⟨2, if n = 0xE0 then 0xA0 else 0x80, if n = 0xED then 0x9F else 0xBF, n - 0xE0⟩)
  else if 0xF0 ≤ n ∧ n < 0xF5 then
    ([], some ⟨3, if n = 0xF0 then 0x90 else 0x80, if n = 0xF4 then 0x8F else 0xBF, n - 0xF0⟩)
  else ([0xFFFD], none)

/-- Read a byte. One that does not fit ends the sequence, and is read once more. -/
def Utf8Sequence.step (b : UInt8) : Option Utf8Sequence → List ℕ × Option Utf8Sequence
  | none => start b
  | some p =>
    if p.lower ≤ b.toNat ∧ b.toNat ≤ p.upper then
      let value := 64 * p.value + b.toNat % 64
      if p.needed = 1 then ([value], none) else ([], some ⟨p.needed - 1, 0x80, 0xBF, value⟩)
    else
      let (read, next) := start b
      (0xFFFD :: read, next)

/-- The values that bytes encode, where `U+FFFD` replaces what is not UTF-8. -/
def utf8Decode : Option Utf8Sequence → List UInt8 → List ℕ
  | none, [] => []
  | some _, [] => [0xFFFD]
  | p, b :: bs =>
    let (read, next) := Utf8Sequence.step b p
    read ++ utf8Decode next bs

/-! ### Percent-encoding -/

def upperHexDigit (n : ℕ) : UInt8 := UInt8.ofNat (if n < 10 then 48 + n else 55 + n)

/-- Encode a byte of a query, if it may not stand there. -/
def percentEncode (b : UInt8) : List UInt8 :=
  if b ≤ 0x20 || b > 0x7E || b.toNat ∈ [34, 35, 39, 60, 62] then
    [37, upperHexDigit (b.toNat / 16), upperHexDigit (b.toNat % 16)]
  else [b]

/-- The byte that a percent sign and two hexadecimal digits stand for. -/
def escapedByte (b c d : UInt8) : Option UInt8 :=
  if b = 37 then do
    let hi ← digitValue 16 c.toUInt16
    let lo ← digitValue 16 d.toUInt16
    return UInt8.ofNat (16 * hi + lo)
  else none

def percentDecode : List UInt8 → List UInt8
  | b :: c :: d :: bs =>
    match escapedByte b c d with
    | some e => e :: percentDecode bs
    | none => b :: percentDecode (c :: d :: bs)
  | bs => bs

/-! ### The query of a URL -/

/-- What a client reads of a URL, as the values of its code points: without controls and spaces
at the ends, tabs and line breaks, and the fragment. -/
def urlInput (url : JsString) : List ℕ :=
  let trimmed := ((scalarValues url).dropWhile (· ≤ 32)).rdropWhile (· ≤ 32)
  (trimmed.filter (· ∉ [9, 10, 13])).takeWhile (· ≠ 35)

/-- The query that a client requests for a URL. -/
def requestedQuery (url : JsString) : List UInt8 :=
  (((urlInput url).dropWhile (· ≠ 63)).drop 1).flatMap fun n =>
    (utf8Encode n).flatMap percentEncode

/-- A name or a value of a query as text. -/
def decodeComponent (bytes : List UInt8) : JsString :=
  let spaced := bytes.map fun b => if b = 43 then 32 else b
  (utf8Decode none (percentDecode spaced)).flatMap unitsOf

/-- The names and values in a query. -/
def searchParams (query : List UInt8) : List (JsString × JsString) :=
  ((query.splitOn 38).filter (· ≠ [])).map fun part =>
    (decodeComponent (part.takeWhile (· ≠ 61)),
      decodeComponent ((part.dropWhile (· ≠ 61)).drop 1))

/-- `searchParams.get(name)` -/
def searchParam (query : List UInt8) (name : JsString) : Option JsString :=
  ((searchParams query).find? (·.1 = name)).map (·.2)

/-! ### Strings that are read back as they were -/

/-- A unit that a URL keeps and a query carries without encoding it: a visible character of
ASCII, but no quotation mark, angle bracket or number sign. -/
def isUrlUnit (u : UInt16) : Bool := 0x20 < u && u < 0x7F && u.toNat ∉ [34, 35, 39, 60, 62]

lemma scalarValues_eq_map {s : JsString} (h : ∀ u ∈ s, u < 0xD800) :
    scalarValues s = s.map UInt16.toNat := by
  rw [scalarValues, codePoints_eq_map h, List.map_map]
  apply List.map_congr_left
  intro u hu
  have hlt := h u hu
  have hhigh : isHighSurrogate u = false := by
    simp [isHighSurrogate, UInt16.not_le.mpr hlt]
  have hlow : isLowSurrogate u = false := by
    have hle : ¬ 0xDC00 ≤ u := UInt16.not_le.mpr (UInt16.lt_trans hlt (by decide))
    simp [isLowSurrogate, hle]
  show (if isHighSurrogate u || isLowSurrogate u then 0xFFFD else u.toNat) = u.toNat
  rw [hhigh, hlow]
  rfl

lemma isUrlUnit_iff {u : UInt16} :
    isUrlUnit u = true ↔ 32 < u.toNat ∧ u.toNat < 127 ∧ u.toNat ∉ [34, 35, 39, 60, 62] := by
  simp [isUrlUnit, UInt16.lt_iff_toNat_lt, and_assoc]

/-- The units of a URL that the client keeps are all visible. -/
lemma urlInput_eq {url : JsString} (h : ∀ u ∈ url, isUrlUnit u = true) :
    urlInput url = url.map UInt16.toNat := by
  have hvalues : ∀ n ∈ url.map UInt16.toNat, 32 < n ∧ n ≠ 35 := by
    intro n hn
    obtain ⟨u, hu, rfl⟩ := List.mem_map.mp hn
    obtain ⟨hlow, -, hmem⟩ := isUrlUnit_iff.mp (h u hu)
    exact ⟨hlow, fun h35 => hmem (by simp [h35])⟩
  have hscalars : scalarValues url = url.map UInt16.toNat := by
    refine scalarValues_eq_map fun u hu => UInt16.lt_iff_toNat_lt.mpr ?_
    exact (isUrlUnit_iff.mp (h u hu)).2.1.trans (by decide)
  rw [urlInput, hscalars]
  generalize url.map UInt16.toNat = ns at hvalues
  have hdrop : ns.dropWhile (· ≤ 32) = ns := by
    apply List.dropWhile_eq_self_iff.mpr
    intro hl
    simpa using (hvalues _ (List.getElem_mem hl)).1
  have hrdrop : ns.rdropWhile (· ≤ 32) = ns := by
    apply List.rdropWhile_eq_self_iff.mpr
    intro hl
    simpa using (hvalues _ (List.getLast_mem hl)).1
  have hfilter : ns.filter (· ∉ [9, 10, 13]) = ns := by
    apply List.filter_eq_self.mpr
    intro n hn
    have hlow := (hvalues n hn).1
    simp only [List.mem_cons, List.not_mem_nil, or_false, decide_eq_true_eq]
    omega
  have htake : ns.takeWhile (· ≠ 35) = ns :=
    List.takeWhile_eq_self_iff.mpr fun n hn => decide_eq_true (hvalues n hn).2
  rw [hdrop, hrdrop, hfilter, htake]

lemma percentEncode_of_isUrlUnit {u : UInt16} (h : isUrlUnit u = true) :
    (utf8Encode u.toNat).flatMap percentEncode = [u.toUInt8] := by
  obtain ⟨hlow, hhigh, hmem⟩ := isUrlUnit_iff.mp h
  have hnat : u.toUInt8.toNat = u.toNat := by
    rw [UInt16.toNat_toUInt8]
    omega
  have hencode : utf8Encode u.toNat = [u.toUInt8] := by
    rw [utf8Encode, if_pos (by omega)]
    rfl
  have hkept : percentEncode u.toUInt8 = [u.toUInt8] := by
    rw [percentEncode, if_neg]
    simp only [Bool.or_eq_true, decide_eq_true_eq, UInt8.le_iff_toNat_le, gt_iff_lt,
      UInt8.lt_iff_toNat_lt, hnat, not_or]
    exact ⟨⟨not_le.mpr hlow, not_lt.mpr (Nat.le_of_lt_succ hhigh)⟩, hmem⟩
  rw [hencode, List.flatMap_singleton, hkept]

/-- A query of such units is requested as it stands in the URL. -/
lemma requestedQuery_eq {path query : JsString} (hpath : ∀ u ∈ path, isUrlUnit u = true)
    (hmark : 63 ∉ path) (hquery : ∀ u ∈ query, isUrlUnit u = true) :
    requestedQuery (path ++ 63 :: query) = query.map UInt16.toUInt8 := by
  have hurl : ∀ u ∈ path ++ 63 :: query, isUrlUnit u = true := by
    intro u hu
    rcases List.mem_append.mp hu with hu | hu
    · exact hpath u hu
    · rcases List.mem_cons.mp hu with rfl | hu
      · decide
      · exact hquery u hu
  have hbefore : ∀ n ∈ path.map UInt16.toNat, decide (n ≠ 63) = true := by
    intro n hn
    obtain ⟨u, hu, rfl⟩ := List.mem_map.mp hn
    refine decide_eq_true fun h63 => hmark ?_
    have hu63 : u = 63 := UInt16.toNat_inj.mp h63
    rwa [hu63] at hu
  rw [requestedQuery, urlInput_eq hurl, List.map_append, List.dropWhile_append_of_pos hbefore,
    List.map_cons, List.dropWhile_cons_of_neg (by decide), List.drop_one, List.tail_cons,
    List.flatMap_map, List.map_eq_flatMap]
  exact List.flatMap_congr fun u hu => percentEncode_of_isUrlUnit (hquery u hu)

lemma percentDecode_eq_self {bs : List UInt8} (h : 37 ∉ bs) : percentDecode bs = bs := by
  induction bs using percentDecode.induct with
  | case1 b c d bs e hescaped ih =>
    have hb : b ≠ 37 := fun hb => h (hb ▸ List.mem_cons_self)
    rw [escapedByte, if_neg hb] at hescaped
    cases hescaped
  | case2 b c d bs hescaped ih =>
    rw [percentDecode, hescaped]
    exact congrArg (b :: ·) (ih fun hmem => h (List.mem_cons_of_mem b hmem))
  | case3 bs hshort => rw [percentDecode.eq_2 bs hshort]

lemma utf8Decode_of_lt {bs : List UInt8} (h : ∀ b ∈ bs, b.toNat < 0x80) :
    utf8Decode none bs = bs.map UInt8.toNat := by
  induction bs with
  | nil => rfl
  | cons b bs ih =>
    have hstep : Utf8Sequence.step b none = ([b.toNat], none) :=
      if_pos (h b List.mem_cons_self)
    rw [utf8Decode, hstep, List.map_cons, ← ih fun c hc => h c (List.mem_cons_of_mem b hc)]
    rfl

/-- Units of ASCII other than percent signs and plus signs are decoded to themselves. -/
lemma decodeComponent_map {s : JsString} (h : ∀ u ∈ s, u.toNat < 0x80 ∧ u ≠ 37 ∧ u ≠ 43) :
    decodeComponent (s.map UInt16.toUInt8) = s := by
  have hnat : ∀ u ∈ s, u.toUInt8.toNat = u.toNat := by
    intro u hu
    have hlt := (h u hu).1
    rw [UInt16.toNat_toUInt8]
    omega
  have hspaced : ((s.map UInt16.toUInt8).map fun b => if b = 43 then 32 else b) =
      s.map UInt16.toUInt8 := by
    rw [List.map_map]
    refine List.map_congr_left fun u hu => if_neg fun h43 => (h u hu).2.2 ?_
    apply UInt16.toNat_inj.mp
    rw [← hnat u hu, h43]
    rfl
  have hpercent : 37 ∉ s.map UInt16.toUInt8 := by
    intro hmem
    obtain ⟨u, hu, h37⟩ := List.mem_map.mp hmem
    apply (h u hu).2.1
    apply UInt16.toNat_inj.mp
    rw [← hnat u hu, h37]
    rfl
  have hascii : ∀ b ∈ s.map UInt16.toUInt8, b.toNat < 0x80 := by
    intro b hb
    obtain ⟨u, hu, rfl⟩ := List.mem_map.mp hb
    rw [hnat u hu]
    exact (h u hu).1
  have hunits : ∀ u ∈ s, unitsOf u.toUInt8.toNat = [u] := by
    intro u hu
    rw [hnat u hu, unitsOf, if_pos u.toNat_lt, UInt16.ofNat_toNat]
  rw [decodeComponent, hspaced, percentDecode_eq_self hpercent, utf8Decode_of_lt hascii,
    List.map_map, List.flatMap_map]
  exact (List.flatMap_congr hunits).trans (List.flatMap_singleton' s)

lemma takeWhile_dropWhile_of_notMem {name : List UInt8} (h : 61 ∉ name) (value : List UInt8) :
    (name ++ 61 :: value).takeWhile (· ≠ 61) = name ∧
      ((name ++ 61 :: value).dropWhile (· ≠ 61)).drop 1 = value := by
  have hne : ∀ b ∈ name, decide (b ≠ 61) = true :=
    fun b hb => decide_eq_true fun h61 => h (h61 ▸ hb)
  constructor
  · rw [List.takeWhile_append_of_pos hne, List.takeWhile_cons_of_neg (by decide), List.append_nil]
  · rw [List.dropWhile_append_of_pos hne, List.dropWhile_cons_of_neg (by decide), List.drop_one,
      List.tail_cons]

/-- A query with two parameters. -/
lemma searchParams_pair {name value name' value' : List UInt8}
    (hname : 38 ∉ name ∧ 61 ∉ name) (hvalue : 38 ∉ value)
    (hname' : 38 ∉ name' ∧ 61 ∉ name') (hvalue' : 38 ∉ value') :
    searchParams ((name ++ 61 :: value) ++ 38 :: (name' ++ 61 :: value')) =
      [(decodeComponent name, decodeComponent value),
        (decodeComponent name', decodeComponent value')] := by
  have hfirst : 38 ∉ name ++ 61 :: value := by simp [hname.1, hvalue]
  have hsecond : 38 ∉ name' ++ 61 :: value' := by simp [hname'.1, hvalue']
  have hsplit : ((name ++ 61 :: value) ++ 38 :: (name' ++ 61 :: value')).splitOn 38 =
      [name ++ 61 :: value, name' ++ 61 :: value'] := by
    rw [List.splitOn_append_cons_self, List.splitOn_eq_singleton hfirst,
      List.splitOn_eq_singleton hsecond, List.singleton_append]
  have hkept : [name ++ 61 :: value, name' ++ 61 :: value'].filter (· ≠ []) =
      [name ++ 61 :: value, name' ++ 61 :: value'] :=
    List.filter_eq_self.mpr (by simp)
  obtain ⟨htake, hdrop⟩ := takeWhile_dropWhile_of_notMem hname.2 value
  obtain ⟨htake', hdrop'⟩ := takeWhile_dropWhile_of_notMem hname'.2 value'
  rw [searchParams, hsplit, hkept, List.map_cons, List.map_singleton, htake, hdrop, htake', hdrop']

/-- Whether a unit is a digit or a letter of ASCII. -/
def isAlphanumeric (u : UInt16) : Bool :=
  (48 ≤ u && u ≤ 57) || (65 ≤ u && u ≤ 90) || (97 ≤ u && u ≤ 122)

lemma isAlphanumeric_iff {u : UInt16} :
    isAlphanumeric u = true ↔ (48 ≤ u.toNat ∧ u.toNat ≤ 57) ∨ (65 ≤ u.toNat ∧ u.toNat ≤ 90) ∨
      (97 ≤ u.toNat ∧ u.toNat ≤ 122) := by
  simp [isAlphanumeric, UInt16.le_iff_toNat_le, or_assoc]

lemma isUrlUnit_of_isAlphanumeric {u : UInt16} (h : isAlphanumeric u = true) :
    isUrlUnit u = true := by
  rw [isAlphanumeric_iff] at h
  rw [isUrlUnit_iff]
  simp only [List.mem_cons, List.not_mem_nil, or_false]
  omega

lemma decodeComponent_of_isAlphanumeric {s : JsString} (h : ∀ u ∈ s, isAlphanumeric u = true) :
    decodeComponent (s.map UInt16.toUInt8) = s := by
  apply decodeComponent_map
  intro u hu
  have hu' := isAlphanumeric_iff.mp (h u hu)
  refine ⟨by omega, ?_, ?_⟩
  · rintro rfl
    exact absurd hu' (by decide)
  · rintro rfl
    exact absurd hu' (by decide)

/-- Neither of the separators is a letter or a digit. -/
lemma notMem_map_of_isAlphanumeric {s : JsString} (h : ∀ u ∈ s, isAlphanumeric u = true)
    {b : UInt8} (hb : b = 38 ∨ b = 61) : b ∉ s.map UInt16.toUInt8 := by
  intro hmem
  obtain ⟨u, hu, rfl⟩ := List.mem_map.mp hmem
  have hu' := isAlphanumeric_iff.mp (h u hu)
  have hnat : u.toUInt8.toNat = u.toNat := by
    rw [UInt16.toNat_toUInt8]
    omega
  rcases hb with hb | hb
  · rw [hb] at hnat
    have h38 : u.toNat = 38 := hnat.symm
    omega
  · rw [hb] at hnat
    have h61 : u.toNat = 61 := hnat.symm
    omega

/-- Two parameters of letters and digits are read back from the URL that they are put into. -/
theorem searchParams_requestedQuery {path name value name' value' : JsString}
    (hpath : ∀ u ∈ path, isUrlUnit u = true) (hmark : 63 ∉ path)
    (hname : ∀ u ∈ name, isAlphanumeric u = true) (hvalue : ∀ u ∈ value, isAlphanumeric u = true)
    (hname' : ∀ u ∈ name', isAlphanumeric u = true)
    (hvalue' : ∀ u ∈ value', isAlphanumeric u = true) :
    searchParams (requestedQuery
      (path ++ 63 :: ((name ++ 61 :: value) ++ 38 :: (name' ++ 61 :: value')))) =
      [(name, value), (name', value')] := by
  have hquery : ∀ u ∈ (name ++ 61 :: value) ++ 38 :: (name' ++ 61 :: value'),
      isUrlUnit u = true := by
    intro u hu
    simp only [List.mem_append, List.mem_cons] at hu
    rcases hu with (hu | rfl | hu) | rfl | hu | rfl | hu
    · exact isUrlUnit_of_isAlphanumeric (hname u hu)
    · decide
    · exact isUrlUnit_of_isAlphanumeric (hvalue u hu)
    · decide
    · exact isUrlUnit_of_isAlphanumeric (hname' u hu)
    · decide
    · exact isUrlUnit_of_isAlphanumeric (hvalue' u hu)
  rw [requestedQuery_eq hpath hmark hquery]
  simp only [List.map_append, List.map_cons]
  rw [show UInt16.toUInt8 61 = 61 from rfl, show UInt16.toUInt8 38 = 38 from rfl,
    searchParams_pair
      ⟨notMem_map_of_isAlphanumeric hname (.inl rfl), notMem_map_of_isAlphanumeric hname (.inr rfl)⟩
      (notMem_map_of_isAlphanumeric hvalue (.inl rfl))
      ⟨notMem_map_of_isAlphanumeric hname' (.inl rfl),
        notMem_map_of_isAlphanumeric hname' (.inr rfl)⟩
      (notMem_map_of_isAlphanumeric hvalue' (.inl rfl)),
    decodeComponent_of_isAlphanumeric hname, decodeComponent_of_isAlphanumeric hvalue,
    decodeComponent_of_isAlphanumeric hname', decodeComponent_of_isAlphanumeric hvalue']

end Js
