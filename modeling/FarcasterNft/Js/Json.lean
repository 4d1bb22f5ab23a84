import FarcasterNft.Js.Async
import FarcasterNft.Js.Number

/-!
# JSON

`JSON.parse` as a scanner for tokens and a machine that reads them with a stack of the arrays
and objects begun so far; both go through their input once. A number keeps its text, since
nothing here depends on its value. `JSON.stringify` is given for objects of strings.
-/

namespace Js

/-! ### Values -/

inductive Json where
  | null
  | bool (b : Bool)
  | number (text : JsString)
  | string (s : JsString)
  | array (elements : List Json)
  | object (members : List (JsString × Json))

/-- The value of a member of an object. Of several members with one name the last counts. -/
def Json.lookup (members : List (JsString × Json)) (key : JsString) : Option Json :=
  (members.reverse.find? (·.1 = key)).map (·.2)

/-- Read a property that only objects of the program's own have: `null` has no properties at
all, and other values have no such property. -/
def Json.property (key : JsString) : Json → Except Thrown (Option Json)
  | .null => .error (.error (js "Cannot read properties of null"))
  | .object members => .ok (lookup members key)
  | _ => .ok none

/-- `value === s` for a string `s`, where a missing value is `undefined`. -/
def Json.isString (s : JsString) : Option Json → Bool
  | some (.string t) => t = s
  | _ => false

/-! ### Tokens -/

inductive Token where
  | openBrace
  | closeBrace
  | openBracket
  | closeBracket
  | colon
  | comma
  | string (s : JsString)
  | scalar (v : Json)

def isDigit (u : UInt16) : Bool := 48 ≤ u && u ≤ 57

/-- One digit or more, and nothing else. -/
def isDigits (s : JsString) : Bool := !s.isEmpty && s.all isDigit

/-- The exponent of a number, from the `e` on, if there is one. -/
def isExponent : JsString → Bool
  | [] => true
  | e :: sign :: ds =>
    (e = 101 || e = 69) &&
      if sign = 43 || sign = 45 then isDigits ds else isDigits (sign :: ds)
  | _ => false

/-- What follows the integer part of a number. -/
def isFraction : JsString → Bool
  | 46 :: us => isDigits (us.takeWhile isDigit) && isExponent (us.dropWhile isDigit)
  | us => isExponent us

/-- A number of JSON: no leading zeros, and digits on both sides of a point. -/
def isNumber (s : JsString) : Bool :=
  let us := match s with
    | 45 :: us => us
    | us => us
  let int := us.takeWhile isDigit
  isDigits int && (int.length = 1 || int.head? ≠ some 48) && isFraction (us.dropWhile isDigit)

/-- A word outside of strings is a literal or a number. -/
def scalarOfWord (word : JsString) : Option Json :=
  if word = js "null" then some .null
  else if word = js "true" then some (.bool true)
  else if word = js "false" then some (.bool false)
  else if isNumber word then some (.number word)
  else none

/-- Where the scanner is: between tokens, in a word, in a string, after a backslash in a
string, or in the four digits of a code. -/
inductive Scanner where
  | between
  | word (read : JsString)
  | string (read : JsString)
  | escape (read : JsString)
  | code (read : JsString) (digits : ℕ) (value : ℕ)

/-- A unit that no word contains: white space, a punctuation mark or a quotation mark. -/
def isDelimiter (u : UInt16) : Bool :=
  u.toNat ∈ [9, 10, 13, 32, 34, 44, 58, 91, 93, 123, 125]

/-- Start reading between two tokens. -/
def Scanner.start (u : UInt16) : List Token × Scanner :=
  match u.toNat with
  | 9 | 10 | 13 | 32 => ([], .between)
  | 34 => ([], .string [])
  | 44 => ([.comma], .between)
  | 58 => ([.colon], .between)
  | 91 => ([.openBracket], .between)
  | 93 => ([.closeBracket], .between)
  | 123 => ([.openBrace], .between)
  | 125 => ([.closeBrace], .between)
  | _ => ([], .word [u])

/-- The unit that a backslash and a letter stand for. -/
def unescape (u : UInt16) : Option UInt16 :=
  match u.toNat with
  | 34 => some 34
  | 92 => some 92
  | 47 => some 47
  | 98 => some 8
  | 102 => some 12
  | 110 => some 10
  | 114 => some 13
  | 116 => some 9
  | _ => none

/-- Read one unit: the tokens that end with it, and where the scanner is then. -/
def Scanner.step (u : UInt16) : Scanner → Option (List Token × Scanner)
  | .between => some (start u)
  | .word read =>
    if isDelimiter u then do
      let v ← scalarOfWord read
      let (tokens, st) := start u
      return (.scalar v :: tokens, st)
    else some ([], .word (read ++ [u]))
  | .string read =>
    if u = 34 then some ([.string read], .between)
    else if u = 92 then some ([], .escape read)
    else if u < 32 then none
    else some ([], .string (read ++ [u]))
  | .escape read =>
    if u = 117 then some ([], .code read 0 0)
    else (unescape u).map fun v => ([], .string (read ++ [v]))
  | .code read digits value => do
    let d ← digitValue 16 u
    let value := 16 * value + d
    if digits = 3 then return ([], .string (read ++ [UInt16.ofNat value]))
    else return ([], .code read (digits + 1) value)

/-- The tokens of a text. -/
def scan : Scanner → JsString → Option (List Token)
  | .between, [] => some []
  | .word read, [] => (scalarOfWord read).map fun v => [.scalar v]
  | _, [] => none
  | st, u :: us => do
    let (tokens, st) ← st.step u
    return tokens ++ (← scan st us)

/-! ### Parsing -/

/-- An array or object that a value is read for. -/
inductive Enclosing where
  | array (elements : List Json)
  | object (members : List (JsString × Json)) (key : JsString)

/-- What the parser reads next: a value, a value or the end of an array, a name or the end of
an object, a name, a colon, or what follows a value. -/
inductive Expecting where
  | value
  | element
  | member
  | key (members : List (JsString × Json))
  | colon (members : List (JsString × Json)) (key : JsString)
  | afterValue (v : Json)

structure Parser where
  expecting : Expecting
  stack : List Enclosing

/-- Begin a value. -/
def Parser.begin (stack : List Enclosing) : Token → Option Parser
  | .scalar v => some ⟨.afterValue v, stack⟩
  | .string s => some ⟨.afterValue (.string s), stack⟩
  | .openBracket => some ⟨.element, stack⟩
  | .openBrace => some ⟨.member, stack⟩
  | _ => none

/-- Go on after a value, in the innermost array or object. -/
def Parser.afterValue (v : Json) : List Enclosing → Token → Option Parser
  | .array vs :: stack, .comma => some ⟨.value, .array (vs ++ [v]) :: stack⟩
  | .array vs :: stack, .closeBracket => some ⟨.afterValue (.array (vs ++ [v])), stack⟩
  | .object ms key :: stack, .comma => some ⟨.key (ms ++ [(key, v)]), stack⟩
  | .object ms key :: stack, .closeBrace => some ⟨.afterValue (.object (ms ++ [(key, v)])), stack⟩
  | _, _ => none

def Parser.step (p : Parser) (t : Token) : Option Parser :=
  match p.expecting, t with
  | .value, t => begin p.stack t
  | .element, .closeBracket => some ⟨.afterValue (.array []), p.stack⟩
  | .element, t => begin (.array [] :: p.stack) t
  | .member, .closeBrace => some ⟨.afterValue (.object []), p.stack⟩
  | .member, .string key => some ⟨.colon [] key, p.stack⟩
  | .key members, .string key => some ⟨.colon members key, p.stack⟩
  | .colon members key, .colon => some ⟨.value, .object members key :: p.stack⟩
  | .afterValue v, t => afterValue v p.stack t
  | _, _ => none

/-- `JSON.parse(s)`: the value of a JSON text, or `none` where it throws. -/
def Json.parse (s : JsString) : Option Json := do
  let tokens ← scan .between s
  match ← tokens.foldlM Parser.step ⟨.value, []⟩ with
  | ⟨.afterValue v, []⟩ => return v
  | _ => none

/-! ### Printing -/

/-- `\u` and the four digits of a code unit. -/
def unicodeEscape (u : UInt16) : JsString :=
  js "\\u" ++ [hexDigit (u.toNat / 4096), hexDigit (u.toNat / 256 % 16),
    hexDigit (u.toNat / 16 % 16), hexDigit (u.toNat % 16)]

/-- A code point inside a quoted string. A surrogate without a partner is escaped. -/
def quoteCodePoint : JsString → JsString
  | [u] =>
    match u.toNat with
    | 8 => js "\\b"
    | 9 => js "\\t"
    | 10 => js "\\n"
    | 12 => js "\\f"
    | 13 => js "\\r"
    | 34 => js "\\\""
    | 92 => js "\\\\"
    | _ => if u < 32 || isHighSurrogate u || isLowSurrogate u then unicodeEscape u else [u]
  | us => us

/-- `JSON.stringify` of a string. -/
def quote (s : JsString) : JsString := [34] ++ (codePoints s).flatMap quoteCodePoint ++ [34]

/-- `JSON.stringify` of an object whose members are strings. -/
def stringifyMembers (members : List (JsString × JsString)) : JsString :=
  let parts := members.map fun m => quote m.1 ++ [58] ++ quote m.2
  [123] ++ [(44 : UInt16)].intercalate parts ++ [125]

/-! ### The unit zero is always escaped -/

lemma hexDigit_ne_zero : ∀ n < 16, hexDigit n ≠ 0 := by decide

lemma zero_notMem_unicodeEscape (u : UInt16) : 0 ∉ unicodeEscape u := by
  have hu : u.toNat < 65536 := u.toNat_lt
  rw [unicodeEscape, List.mem_append, not_or]
  refine ⟨by decide, ?_⟩
  simp only [List.mem_cons, List.not_mem_nil, or_false, not_or]
  refine ⟨?_, ?_, ?_, ?_⟩ <;> exact (hexDigit_ne_zero _ (by omega)).symm

lemma zero_notMem_quoteCodePoint {s c : JsString} (hc : c ∈ codePoints s) :
    0 ∉ quoteCodePoint c := by
  obtain ⟨u, -, rfl⟩ | ⟨u, v, rfl, hu, hv⟩ := eq_of_mem_codePoints hc
  · rw [quoteCodePoint]
    split
    all_goals try decide
    split_ifs with hescape
    · exact zero_notMem_unicodeEscape u
    · simp only [Bool.or_eq_true, decide_eq_true_eq, not_or] at hescape
      rw [List.mem_singleton]
      rintro rfl
      exact hescape.1.1 (by decide)
  · rw [quoteCodePoint, List.mem_cons, List.mem_singleton, not_or]
    constructor
    · rintro rfl
      exact absurd hu (by decide)
    · rintro rfl
      exact absurd hv (by decide)
    · intro w hw
      cases hw

lemma zero_notMem_quote (s : JsString) : 0 ∉ quote s := by
  simp only [quote, List.mem_append, List.mem_singleton, List.mem_flatMap, not_or]
  refine ⟨⟨by decide, ?_⟩, by decide⟩
  rintro ⟨c, hc, hzero⟩
  exact zero_notMem_quoteCodePoint hc hzero

/-- What stands in a joined text stands in one of the parts or in the separator. -/
lemma mem_of_mem_intercalate {sep : JsString} {parts : List JsString} {u : UInt16}
    (h : u ∈ sep.intercalate parts) : u ∈ sep ∨ ∃ part ∈ parts, u ∈ part := by
  induction parts with
  | nil => cases h
  | cons part parts ih =>
    by_cases hnil : parts = []
    · subst hnil
      rw [List.intercalate_singleton] at h
      exact Or.inr ⟨part, List.mem_singleton_self part, h⟩
    · rw [List.intercalate_cons_of_ne_nil hnil, List.append_assoc, List.mem_append,
        List.mem_append] at h
      rcases h with h | h | h
      · exact Or.inr ⟨part, List.mem_cons_self, h⟩
      · exact Or.inl h
      · obtain hsep | ⟨p, hp, hu⟩ := ih h
        · exact Or.inl hsep
        · exact Or.inr ⟨p, List.mem_cons_of_mem _ hp, hu⟩

/-- No printed text contains the unit zero. -/
theorem zero_notMem_stringifyMembers (members : List (JsString × JsString)) :
    0 ∉ stringifyMembers members := by
  intro hzero
  simp only [stringifyMembers, List.mem_append, List.mem_singleton] at hzero
  obtain (hopen | hparts) | hclose := hzero
  · exact absurd hopen (by decide)
  · obtain hsep | ⟨part, hpart, hu⟩ := mem_of_mem_intercalate hparts
    · exact absurd hsep (by decide)
    · obtain ⟨⟨key, value⟩, -, rfl⟩ := List.mem_map.mp hpart
      simp only [List.mem_append, List.mem_singleton] at hu
      obtain (hkey | hcolon) | hvalue := hu
      · exact zero_notMem_quote key hkey
      · exact absurd hcolon (by decide)
      · exact zero_notMem_quote value hvalue
  · exact absurd hclose (by decide)

end Js
