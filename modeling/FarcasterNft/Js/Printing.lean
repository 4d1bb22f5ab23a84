import FarcasterNft.Js.Json

/-!
# What is printed is parsed

`JSON.parse` takes the text that `JSON.stringify` makes of an object of strings back to the object,
whatever code units the strings have. The scanner is followed piece by piece: `Scans` says which
tokens a piece of text yields, and pieces are put together. The escapes leave no surrogate without
a partner in the text, and of texts whose code units fit in a byte they leave only such units.
-/

namespace Js

/-! ### Scanning piece by piece -/

/-- Reading `us` from `st` yields the tokens and leads to `st'`, whatever follows. -/
def Scans (st : Scanner) (us : JsString) (tokens : List Token) (st' : Scanner) : Prop :=
  ∀ rest, scan st (us ++ rest) = (scan st' rest).map (tokens ++ ·)

lemma scan_cons (st : Scanner) (u : UInt16) (us : JsString) :
    scan st (u :: us) = (st.step u).bind fun p => (scan p.2 us).map (p.1 ++ ·) := by
  have heq : scan st (u :: us) =
      (st.step u >>= fun p => scan p.2 us >>= fun more => some (p.1 ++ more)) := by
    cases st <;> rw [scan] <;> rfl
  rw [heq]
  cases st.step u with
  | none => rfl
  | some p =>
    show (scan p.2 us >>= fun more => some (p.1 ++ more)) = (scan p.2 us).map (p.1 ++ ·)
    cases scan p.2 us <;> rfl

namespace Scans

variable {st st' st'' : Scanner} {us us' : JsString} {tokens tokens' : List Token}

lemma of_step {u : UInt16} (h : st.step u = some (tokens, st')) : Scans st [u] tokens st' := by
  intro rest
  rw [List.singleton_append, scan_cons, h]
  rfl

lemma nil (st : Scanner) : Scans st [] [] st := by
  intro rest
  cases h : scan st rest <;> simp [h]

lemma append (h : Scans st us tokens st') (h' : Scans st' us' tokens' st'') :
    Scans st (us ++ us') (tokens ++ tokens') st'' := by
  intro rest
  rw [List.append_assoc, h, h']
  cases scan st'' rest <;> simp

/-- A text that has been read to its end. -/
lemma scan_eq (h : Scans st us tokens .between) : scan st us = some tokens := by
  have hend := h []
  rw [List.append_nil] at hend
  rw [hend]
  simp [scan]

end Scans

/-! ### Strings -/

lemma flatten_codePoints (s : JsString) : (codePoints s).flatten = s := by
  induction s using codePoints.induct with
  | case1 => rfl
  | case2 u => rfl
  | case3 u v us hpair ih =>
    rw [codePoints, if_pos hpair]
    simp [ih]
  | case4 u v us hpair ih =>
    rw [codePoints, if_neg hpair]
    simp [ih]

lemma digitValue_hexDigit : ∀ n < 16, digitValue 16 (hexDigit n) = some n := by decide

section

variable (read : JsString)

/-- A unit that stands for itself. -/
lemma scans_unit {u : UInt16} (hquote : u ≠ 34) (hbackslash : u ≠ 92) (hcontrol : ¬ u < 32) :
    Scans (.string read) [u] [] (.string (read ++ [u])) := by
  apply Scans.of_step
  simp [Scanner.step, hquote, hbackslash, hcontrol]

/-- A backslash and a letter. -/
lemma scans_escape {u v : UInt16} (hu : u ≠ 117) (h : unescape u = some v) :
    Scans (.string read) [92, u] [] (.string (read ++ [v])) := by
  have hbackslash : Scans (.string read) [92] [] (.escape read) := Scans.of_step rfl
  refine hbackslash.append (Scans.of_step ?_)
  simp [Scanner.step, hu, h]

/-- The four digits of a unit. -/
lemma scans_unicodeEscape (u : UInt16) :
    Scans (.string read) (unicodeEscape u) [] (.string (read ++ [u])) := by
  have hu : u.toNat < 65536 := u.toNat_lt
  have hstart : Scans (.string read) (js "\\u") [] (.code read 0 0) := by
    have hjs : js "\\u" = [92] ++ [117] := by decide
    rw [hjs]
    have hbackslash : Scans (.string read) [92] [] (.escape read) := Scans.of_step rfl
    exact hbackslash.append (Scans.of_step rfl)
  have hdigit : ∀ n < 16, ∀ k < 3, ∀ value,
      Scans (.code read k value) [hexDigit n] [] (.code read (k + 1) (16 * value + n)) := by
    intro n hn k hk value
    apply Scans.of_step
    simp [Scanner.step, digitValue_hexDigit n hn, Nat.ne_of_lt hk]
  have hlast : ∀ n < 16, ∀ value,
      Scans (.code read 3 value) [hexDigit n] []
        (.string (read ++ [UInt16.ofNat (16 * value + n)])) := by
    intro n hn value
    apply Scans.of_step
    simp [Scanner.step, digitValue_hexDigit n hn]
  -- the four digits, from the first on
  have hfour := (((hdigit (u.toNat / 4096) (by omega) 0 (by omega) 0).append
    (hdigit (u.toNat / 256 % 16) (by omega) 1 (by omega) _)).append
    (hdigit (u.toNat / 16 % 16) (by omega) 2 (by omega) _)).append
    (hlast (u.toNat % 16) (by omega) _)
  have hvalue : 16 * (16 * (16 * (16 * 0 + u.toNat / 4096) + u.toNat / 256 % 16) +
      u.toNat / 16 % 16) + u.toNat % 16 = u.toNat := by
    omega
  rw [hvalue, UInt16.ofNat_toNat] at hfour
  exact hstart.append hfour

/-- A code point is read as it was printed. -/
lemma scans_quoteCodePoint {s c : JsString} (hc : c ∈ codePoints s) :
    Scans (.string read) (quoteCodePoint c) [] (.string (read ++ c)) := by
  obtain ⟨u, -, rfl⟩ | ⟨u, v, rfl, hu, hv⟩ := eq_of_mem_codePoints hc
  · have hescape : ∀ w v : UInt16, u.toNat = v.toNat → w ≠ 117 → unescape w = some v →
        Scans (.string read) [92, w] [] (.string (read ++ [u])) := by
      intro w v hu hw hv
      obtain rfl := UInt16.toNat_inj.mp hu
      exact scans_escape read hw hv
    rw [quoteCodePoint]
    split
    · next h => exact hescape 98 8 h (by decide) rfl
    · next h => exact hescape 116 9 h (by decide) rfl
    · next h => exact hescape 110 10 h (by decide) rfl
    · next h => exact hescape 102 12 h (by decide) rfl
    · next h => exact hescape 114 13 h (by decide) rfl
    · next h => exact hescape 34 34 h (by decide) rfl
    · next h => exact hescape 92 92 h (by decide) rfl
    · next hquote hbackslash =>
      split_ifs with hu
      · exact scans_unicodeEscape read u
      · simp only [Bool.or_eq_true, decide_eq_true_eq, not_or] at hu
        refine scans_unit read ?_ ?_ hu.1.1
        · rintro rfl
          exact hquote rfl
        · rintro rfl
          exact hbackslash rfl
  · -- a pair of surrogates is printed as it is
    have hsurrogate : ∀ w : UInt16, 0xD800 ≤ w → w ≠ 34 ∧ w ≠ 92 ∧ ¬ w < 32 := by
      intro w hw
      have hge := UInt16.le_iff_toNat_le.mp hw
      refine ⟨?_, ?_, fun hlt => ?_⟩
      · rintro rfl
        exact absurd hw (by decide)
      · rintro rfl
        exact absurd hw (by decide)
      · exact absurd (UInt16.le_trans hw (UInt16.le_of_lt hlt)) (by decide)
    simp only [isHighSurrogate, isLowSurrogate, Bool.and_eq_true, decide_eq_true_eq] at hu hv
    obtain ⟨huq, hub, huc⟩ := hsurrogate u hu.1
    obtain ⟨hvq, hvb, hvc⟩ := hsurrogate v (UInt16.le_trans (by decide) hv.1)
    have hpair := (scans_unit read huq hub huc).append (scans_unit (read ++ [u]) hvq hvb hvc)
    rw [List.append_assoc] at hpair
    exact hpair

lemma scans_flatMap_quoteCodePoint {s : JsString} {cs : List JsString}
    (h : ∀ c ∈ cs, c ∈ codePoints s) :
    Scans (.string read) (cs.flatMap quoteCodePoint) [] (.string (read ++ cs.flatten)) := by
  induction cs generalizing read with
  | nil =>
    rw [List.flatten_nil, List.append_nil]
    exact Scans.nil _
  | cons c cs ih =>
    have hrest := ih (read ++ c) fun c' hc' => h c' (List.mem_cons_of_mem c hc')
    rw [List.append_assoc] at hrest
    exact (scans_quoteCodePoint read (h c List.mem_cons_self)).append hrest

end

/-- A printed string is one token. -/
lemma scans_quote (s : JsString) : Scans .between (quote s) [.string s] .between := by
  have hopen : Scans .between [34] [] (.string []) := Scans.of_step rfl
  have hbody := @scans_flatMap_quoteCodePoint [] s (codePoints s) fun _ hc => hc
  have hclose : Scans (.string s) [34] [.string s] .between := Scans.of_step rfl
  rw [flatten_codePoints, List.nil_append] at hbody
  exact (hopen.append hbody).append hclose

/-! ### Objects -/

/-- The tokens of a member. -/
def memberTokens (m : JsString × JsString) : List Token := [.string m.1, .colon, .string m.2]

lemma scans_member (m : JsString × JsString) :
    Scans .between (quote m.1 ++ [58] ++ quote m.2) (memberTokens m) .between := by
  have hcolon : Scans .between [58] [.colon] .between := Scans.of_step rfl
  exact ((scans_quote m.1).append hcolon).append (scans_quote m.2)

lemma scans_members (members : List (JsString × JsString)) :
    Scans .between
      ([(44 : UInt16)].intercalate (members.map fun m => quote m.1 ++ [58] ++ quote m.2))
      ([Token.comma].intercalate (members.map memberTokens)) .between := by
  have hcomma : Scans .between [44] [.comma] .between := Scans.of_step rfl
  induction members with
  | nil => exact Scans.nil _
  | cons m members ih =>
    cases members with
    | nil =>
      simp only [List.map_cons, List.map_nil, List.intercalate_singleton]
      exact scans_member m
    | cons m' members =>
      simp only [List.map_cons, List.intercalate_cons_cons] at ih ⊢
      exact ((scans_member m).append hcomma).append ih

/-- The tokens of a printed object. -/
lemma scan_stringifyMembers (members : List (JsString × JsString)) :
    scan .between (stringifyMembers members) =
      some (.openBrace :: ([Token.comma].intercalate (members.map memberTokens) ++
        [.closeBrace])) := by
  have hopen : Scans .between [123] [.openBrace] .between := Scans.of_step rfl
  have hclose : Scans .between [125] [.closeBrace] .between := Scans.of_step rfl
  exact ((hopen.append (scans_members members)).append hclose).scan_eq

/-! ### Parsing -/

/-- A member as a value. -/
def memberValue (m : JsString × JsString) : JsString × Json := (m.1, .string m.2)

section

variable {p : Parser} {acc : List (JsString × Json)} {m : JsString × JsString}

/-- The parser reads a member, where it reads a name. -/
lemma foldlM_memberTokens (hp : p.step (.string m.1) = some ⟨.colon acc m.1, []⟩)
    (rest : List Token) :
    (memberTokens m ++ rest).foldlM Parser.step p =
      rest.foldlM Parser.step ⟨.afterValue (.string m.2), [.object acc m.1]⟩ := by
  rw [memberTokens, List.cons_append, List.foldlM_cons, hp]
  rfl

/-- The parser reads the members of an object to its end. -/
lemma foldlM_members (members : List (JsString × JsString))
    (hp : p.step (.string m.1) = some ⟨.colon acc m.1, []⟩) :
    ([Token.comma].intercalate ((m :: members).map memberTokens) ++ [Token.closeBrace]).foldlM
      Parser.step p =
      some ⟨.afterValue (.object (acc ++ (m :: members).map memberValue)), []⟩ := by
  induction members generalizing p acc m with
  | nil =>
    simp only [List.map_cons, List.map_nil, List.intercalate_singleton]
    exact foldlM_memberTokens hp _
  | cons m' members ih =>
    have hnext := @ih ⟨.key (acc ++ [memberValue m]), []⟩ (acc ++ [memberValue m]) m' rfl
    simp only [List.map_cons, List.intercalate_cons_cons, List.append_assoc] at hnext ⊢
    rw [foldlM_memberTokens hp]
    exact hnext

end

/-- Parsing what was printed of an object of strings gives back the object. -/
theorem parse_stringifyMembers (members : List (JsString × JsString)) :
    Json.parse (stringifyMembers members) = some (.object (members.map memberValue)) := by
  have hparse : (Token.openBrace :: ([Token.comma].intercalate (members.map memberTokens) ++
      [Token.closeBrace])).foldlM Parser.step ⟨.value, []⟩ =
      some ⟨.afterValue (.object (members.map memberValue)), []⟩ := by
    rw [List.foldlM_cons]
    cases members with
    | nil => rfl
    | cons m members => exact @foldlM_members ⟨.member, []⟩ [] m members rfl
  rw [Json.parse, scan_stringifyMembers]
  show (List.foldlM Parser.step ⟨.value, []⟩ _ >>= fun p => _) = _
  rw [hparse]
  rfl

/-! ### Texts of small units -/

lemma hexDigit_lt : ∀ n < 16, hexDigit n < 256 := by decide

lemma lt_of_mem_unicodeEscape {u v : UInt16} (hv : v ∈ unicodeEscape u) : v < 256 := by
  have hu : u.toNat < 65536 := u.toNat_lt
  rw [unicodeEscape, List.mem_append] at hv
  rcases hv with hstart | hdigits
  · have hall : (js "\\u").all (fun v => decide (v < 256)) = true := by decide
    exact of_decide_eq_true (List.all_eq_true.mp hall v hstart)
  · simp only [List.mem_cons, List.not_mem_nil, or_false] at hdigits
    rcases hdigits with rfl | rfl | rfl | rfl <;> exact hexDigit_lt _ (by omega)

/-- A unit that fits in a byte is printed in such units. -/
lemma lt_of_mem_quoteCodePoint {u v : UInt16} (hu : u < 256) (hv : v ∈ quoteCodePoint [u]) :
    v < 256 := by
  have hletter : ∀ w : UInt16, w < 256 → v ∈ [(92 : UInt16), w] → v < 256 := by
    intro w hw hv
    rcases List.mem_pair.mp hv with rfl | rfl
    · decide
    · exact hw
  rw [quoteCodePoint] at hv
  split at hv
  · exact hletter 98 (by decide) hv
  · exact hletter 116 (by decide) hv
  · exact hletter 110 (by decide) hv
  · exact hletter 102 (by decide) hv
  · exact hletter 114 (by decide) hv
  · exact hletter 34 (by decide) hv
  · exact hletter 92 (by decide) hv
  · split_ifs at hv
    · exact lt_of_mem_unicodeEscape hv
    · rw [List.mem_singleton.mp hv]
      exact hu

lemma lt_of_mem_quote {s : JsString} (h : ∀ u ∈ s, u < 256) {v : UInt16} (hv : v ∈ quote s) :
    v < 256 := by
  have hsmall : ∀ u ∈ s, u < 0xD800 := fun u hu => UInt16.lt_trans (h u hu) (by decide)
  simp only [quote, codePoints_eq_map hsmall, List.mem_append, List.mem_singleton,
    List.mem_flatMap, List.mem_map] at hv
  obtain (rfl | ⟨c, ⟨u, hu, rfl⟩, hv⟩) | rfl := hv
  · decide
  · exact lt_of_mem_quoteCodePoint (h u hu) hv
  · decide

/-- An object of strings whose units fit in a byte is printed in such units. -/
theorem lt_of_mem_stringifyMembers {members : List (JsString × JsString)}
    (h : ∀ m ∈ members, (∀ u ∈ m.1, u < 256) ∧ ∀ u ∈ m.2, u < 256) {v : UInt16}
    (hv : v ∈ stringifyMembers members) : v < 256 := by
  simp only [stringifyMembers, List.mem_append, List.mem_singleton] at hv
  obtain (rfl | hparts) | rfl := hv
  · decide
  · obtain hsep | ⟨part, hpart, hv⟩ := mem_of_mem_intercalate hparts
    · rw [List.mem_singleton.mp hsep]
      decide
    · obtain ⟨m, hm, rfl⟩ := List.mem_map.mp hpart
      simp only [List.mem_append, List.mem_singleton] at hv
      obtain (hkey | rfl) | hvalue := hv
      · exact lt_of_mem_quote (h m hm).1 hkey
      · decide
      · exact lt_of_mem_quote (h m hm).2 hvalue
  · decide

end Js
