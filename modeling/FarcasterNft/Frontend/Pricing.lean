import FarcasterNft.Frontend.Metadata
import FarcasterNft.Js.Log
import FarcasterNft.Js.Numeral
import FarcasterNft.Pallet.Lifecycle

/-!
# The price of a new NFT

`CreateNFTModal` takes the price from a number input and passes `parseInt(price) || 0` on, so
what follows a point or an exponent is lost, and a price such as `.5` or `0.5` becomes zero. What
it passes on is what the pallet stores and what the buyer is charged.
-/

namespace FarcasterNft

open Frame Js

variable {AccountId Ledger : Type}

/-! ### The form -/

/-- What is done in the course of a creation: a price is passed to `createNft`, or a transaction
is handed over to be signed. -/
inductive ModalAction where
  | passed (price : IntegerNumber)
  | submitted (collectionId : CollectionId) (metadata : List UInt8) (price : ℕ)

/-- How the calls end that a creation makes. No transaction can be created for a price that is
not an integer from `0` to `2 ^ 53 - 1`. -/
structure CreateReplies where
  createType : Option Thrown
  createTx : IntegerNumber → Except Thrown ℕ
  signAndSend : Option Thrown
  of_createTx_eq_ok : ∀ {price amount},
    createTx price = .ok amount → price = .finite amount ∧ amount < 2 ^ 53

namespace CreateNFTModal

/-- The props of the component. -/
structure Props where
  api : Bool
  address : Option JsString
  signer : Bool
  collectionId : CollectionId

/-- The state variables of the component. -/
structure Form where
  title : JsString
  description : JsString
  imageUrl : JsString
  price : JsString
  isLoading : Bool

/-- Whether the button is disabled. -/
def Form.disabled (form : Form) : Bool :=
  form.isLoading || form.title.isEmpty || form.description.isEmpty || form.imageUrl.isEmpty ||
    form.price.isEmpty

/-- `parseInt(price) || 0` -/
def priceValue (price : JsString) : IntegerNumber := toNumber ((parseInt price none).getD 0)

/-- Create the transaction and have it signed. -/
def sendTx (props : Props) (form : Form) (out : CreateReplies) (price : IntegerNumber) :
    Async (List ModalAction) Unit := do
  let encodedBytes := charCodes (metadata form.title form.description form.imageUrl)
  note (.passed price)
  let amount ← lift (out.createTx price)
  note (.submitted props.collectionId (toBytes encodedBytes) amount)
  external out.signAndSend

def createNFT (props : Props) (form : Form) (out : CreateReplies) :
    Async (List ModalAction) Unit :=
  match props.api, props.address, props.signer with
  | true, some (_ :: _), true =>
    tryCatch
      (do
        external out.createType
        sendTx props form out (priceValue form.price))
      fun _ => pure ()
  | _, _, _ => pure ()

/-! ### What is passed and submitted -/

variable {props : Props} {form : Form} {out : CreateReplies}

/-- What is submitted if a transaction can be created. -/
def submission (props : Props) (form : Form) (amount : Except Thrown ℕ) : List ModalAction :=
  match amount with
  | .ok amount =>
    [.submitted props.collectionId
      (toBytes (charCodes (metadata form.title form.description form.imageUrl))) amount]
  | .error _ => []

lemma exists_logs_sendTx (price : IntegerNumber) :
    ∃ r, Logs (sendTx props form out price) r
      (.passed price :: submission props form (out.createTx price)) := by
  rw [sendTx]
  cases htx : out.createTx price with
  | error e => exact ⟨.error e, (logs_note _).bind (logs_lift _).bind_error⟩
  | ok amount =>
    cases hsign : out.signAndSend with
    | none =>
      refine ⟨.ok (), (logs_note _).bind ?_⟩
      apply (logs_lift _).bind
      exact (logs_note _).bind logs_external_none
    | some e =>
      refine ⟨.error e, (logs_note _).bind ?_⟩
      apply (logs_lift _).bind
      exact (logs_note _).bind (logs_external_some e)

/-- All that is ever done: nothing, or the price is passed on and what this creates is
submitted. -/
theorem logs_createNFT (props : Props) (form : Form) (out : CreateReplies) :
    Logs (createNFT props form out) (.ok ())
      (if props.api && truthy props.address && props.signer && out.createType.isNone then
        .passed (priceValue form.price) ::
          submission props form (out.createTx (priceValue form.price))
      else []) := by
  obtain ⟨r, hsend⟩ := @exists_logs_sendTx props form out (priceValue form.price)
  obtain ⟨api, address, signer, collectionId⟩ := props
  match api, address, signer with
  | false, _, _ => exact logs_pure ()
  | true, none, _ => exact logs_pure ()
  | true, some [], _ => exact logs_pure ()
  | true, some (_ :: _), false => exact logs_pure ()
  | true, some (_ :: _), true =>
    cases htype : out.createType with
    | none =>
      show Logs (tryCatch _ fun _ => pure ()) _ _
      apply Logs.tryCatch_unit
      rw [htype]
      exact logs_external_none.bind hsend
    | some e =>
      show Logs (tryCatch _ fun _ => pure ()) _ _
      apply Logs.tryCatch_unit
      rw [htype]
      exact (logs_external_some e).bind_error

lemma mem_createNFT {e : ModalAction} (h : e ∈ noted (createNFT props form out)) :
    e = .passed (priceValue form.price) ∨
      e ∈ submission props form (out.createTx (priceValue form.price)) := by
  rw [(logs_createNFT props form out).noted_eq] at h
  split_ifs at h
  · exact List.mem_cons.mp h
  · cases h

end CreateNFTModal

/-! ### What the pallet makes of the price -/

/-- A call with a price that succeeds stores `k`, and whoever buys the NFT later pays `k` to the
one who has created it. -/
structure SellsFor [DecidableEq AccountId] (T : Config AccountId Ledger) (l : Ledger)
    (c : CollectionId) (metadata : List UInt8) (price k : ℕ) : Prop where
  stored : ∀ σ s, succeeds T σ ⟨s, .createNft c metadata price⟩ = true →
    ∃ n, (step T σ ⟨s, .createNft c metadata price⟩).nfts (c, σ.itemCounter c) = some n ∧
      n.owner = s ∧ n.isSold = false ∧ n.price = k
  charged : ∀ past later s b,
    WithinBudget T l (past ++ [⟨s, .createNft c metadata price⟩] ++ later) →
    succeeds T (after T l past) ⟨s, .createNft c metadata price⟩ = true →
    let i := (after T l past).itemCounter c
    let σ := after T l (past ++ [⟨s, .createNft c metadata price⟩] ++ later)
    succeeds T σ ⟨b, .mintNft c i⟩ = true →
    T.currency.Moved σ.ledger (step T σ ⟨b, .mintNft c i⟩).ledger b s k

section

variable [DecidableEq AccountId] {T : Config AccountId Ledger} {l : Ledger} {c : CollectionId}
  {md : List UInt8} {p : ℕ}

lemma createNft_stores {σ : State AccountId Ledger} {s : AccountId}
    (hok : succeeds T σ ⟨s, .createNft c md p⟩ = true) :
    ∃ n, (step T σ ⟨s, .createNft c md p⟩).nfts (c, σ.itemCounter c) = some n ∧
      n.owner = s ∧ n.isSold = false ∧ n.price = p := by
  have hrule := callRule_of_succeeds hok
  generalize step T _ _ = τ at hrule ⊢
  cases hrule with
  | createNft _ _ _ col md' nfts hcol hmd hpush =>
    exact ⟨_, StorageMap.insert_self _ _ _, rfl, rfl, rfl⟩

/-- The pallet sells an NFT for the price it was created with. -/
theorem sellsFor_self (hT : T.currency.Exact) : SellsFor T l c md p p where
  stored _ _ hok := createNft_stores hok
  charged := by
    intro past later s b hbudget hcreate i σ hbuy
    obtain ⟨n, hn, howner, -, hprice⟩ := createNft_stores hcreate
    rw [← after_concat] at hn
    obtain ⟨m, hm, hunsold, -, -, hmoved⟩ := mintNft_spec hT hbuy
    obtain rfl := eq_of_unsold hbudget hn hm hunsold
    rw [howner, hprice] at hmoved
    exact hmoved

end

/-! ### Which prices are kept -/

namespace CreateNFTModal

variable {props : Props} {form : Form} {out : CreateReplies} {x : Numeral}

lemma mem_submission {c : CollectionId} {md : List UInt8} {p : ℕ} {amount : Except Thrown ℕ}
    (h : .submitted c md p ∈ submission props form amount) : amount = .ok p := by
  cases amount with
  | error e => cases h
  | ok amount =>
    rw [submission, List.mem_singleton, ModalAction.submitted.injEq] at h
    rw [h.2.2]

lemma passed_notMem_submission {price : IntegerNumber} {amount : Except Thrown ℕ} :
    .passed price ∉ submission props form amount := by
  intro h
  cases amount with
  | error e => cases h
  | ok amount =>
    rw [submission, List.mem_singleton] at h
    cases h

/-- Of a numeral that is not negative, the digits before the point are passed on. -/
lemma priceValue_text (h : 0 ≤ x.value) :
    priceValue x.text = toNumber (decimalValue x.whole) := by
  rw [priceValue, x.getD_parseInt_text h]

/-- They are submitted only if they are a safe integer. -/
lemma whole_eq_of_createTx (h : 0 ≤ x.value) {amount : ℕ}
    (hok : out.createTx (priceValue x.text) = .ok amount) :
    decimalValue x.whole = amount ∧ amount < 2 ^ 53 := by
  obtain ⟨hprice, hsafe⟩ := out.of_createTx_eq_ok hok
  rw [priceValue_text h] at hprice
  exact ⟨(toNumber_eq_finite_iff hsafe).mp hprice, hsafe⟩

end CreateNFTModal

open CreateNFTModal

/-- The amount of a transaction that is created whenever there can be one. -/
def safeAmount : IntegerNumber → Except Thrown ℕ
  | .finite n => if 0 ≤ n ∧ n < 2 ^ 53 then .ok n.toNat else .error .other
  | .infinite _ => .error .other

lemma safeAmount_eq_ok {price : IntegerNumber} {amount : ℕ} (h : safeAmount price = .ok amount) :
    price = .finite amount ∧ amount < 2 ^ 53 := by
  cases price with
  | finite n =>
    rw [safeAmount] at h
    split_ifs at h with hn
    · obtain rfl := Except.ok.inj h
      rw [Int.toNat_of_nonneg hn.1]
      exact ⟨rfl, by omega⟩
  | infinite negative => cases h

lemma safeAmount_toNumber {k : ℕ} (h : k < 2 ^ 53) : safeAmount (toNumber k) = .ok k := by
  rw [(toNumber_eq_finite_iff h).mpr rfl, safeAmount, if_pos ⟨Int.natCast_nonneg k, by omega⟩]
  rfl

/-- Replies that refuse only what has to be refused. -/
def CreateReplies.willing : CreateReplies where
  createType := none
  createTx := safeAmount
  signAndSend := none
  of_createTx_eq_ok := safeAmount_eq_ok

/-- What is done with a price of value `v`: an integer below `2 ^ 53` is passed on and is the
price of the sale, nothing is submitted for what is not an integer, and no positive price is
submitted as zero. -/
structure PriceKept [DecidableEq AccountId] (T : Config AccountId Ledger) (l : Ledger) (v : ℚ)
    (log : List ModalAction) : Prop where
  passed : ∀ k : ℕ, v = k → k < 2 ^ 53 → ∀ p, .passed p ∈ log → p = .finite k
  sold : ∀ k : ℕ, v = k → k < 2 ^ 53 →
    ∀ c md p, .submitted c md p ∈ log → SellsFor T l c md p k
  fractional : (∀ k : ℕ, v ≠ k) → ∀ c md p, .submitted c md p ∉ log
  positive : 0 < v → ∀ c md p, .submitted c md p ∈ log → p ≠ 0

/-- The numeral is zero or has no digits other than zeros after the point and in the exponent,
if its value is an integer below `2 ^ 53`. Otherwise the digits before the point are too large a
number for a transaction, or just not zero if the value is an integer. -/
structure KeepsPrice (x : Numeral) : Prop where
  small : ∀ k : ℕ, x.value = k → k < 2 ^ 53 →
    x.value = 0 ∨ decimalValue x.fraction = 0 ∧ x.exponentValue = 0
  fractional : (∀ k : ℕ, x.value ≠ k) → 2 ^ 53 ≤ decimalValue x.whole
  large : ∀ k : ℕ, x.value = k → 2 ^ 53 ≤ k → decimalValue x.whole ≠ 0

lemma value_eq_whole_iff {x : Numeral} (h : 0 ≤ x.value) :
    x.value = decimalValue x.whole ↔
      x.value = 0 ∨ decimalValue x.fraction = 0 ∧ x.exponentValue = 0 := by
  rw [x.value_eq_magnitude h]
  exact x.magnitude_eq_whole_iff

/-- A form that is filled in with a price, and props with which it can be sent. -/
def formWithPrice (price : JsString) : Form := ⟨js "a", js "b", js "c", price, false⟩

def readyProps : Props := ⟨true, some (js "d"), true, 0⟩

lemma disabled_formWithPrice {price : JsString} (h : price ≠ []) :
    (formWithPrice price).disabled = false := by
  have hfilled : (false || (js "a").isEmpty || (js "b").isEmpty || (js "c").isEmpty) = false := by
    decide
  show (false || (js "a").isEmpty || (js "b").isEmpty || (js "c").isEmpty || price.isEmpty) = false
  rw [hfilled, List.isEmpty_eq_false_iff.mpr h]
  rfl

lemma noted_createNFT_willing {x : Numeral} (h : 0 ≤ x.value) :
    noted (createNFT readyProps (formWithPrice x.text) .willing) =
      .passed (toNumber (decimalValue x.whole)) ::
        submission readyProps (formWithPrice x.text)
          (safeAmount (toNumber (decimalValue x.whole))) := by
  have hready : (readyProps.api && truthy readyProps.address && readyProps.signer &&
      CreateReplies.willing.createType.isNone) = true := by
    decide
  have hprice : priceValue (formWithPrice x.text).price = toNumber (decimalValue x.whole) :=
    priceValue_text h
  have htx : CreateReplies.willing.createTx = safeAmount := rfl
  rw [(logs_createNFT _ _ _).noted_eq, if_pos hready, hprice, htx]

section

variable [DecidableEq AccountId] {T : Config AccountId Ledger} {l : Ledger} {x : Numeral}

/-- If the price of a form is kept that nobody refuses, the numeral is one of those described. -/
lemma keepsPrice_of_priceKept (h : 0 ≤ x.value)
    (hkept : PriceKept T l x.value
      (noted (createNFT readyProps (formWithPrice x.text) .willing))) : KeepsPrice x := by
  rw [noted_createNFT_willing h] at hkept
  have hsubmitted : decimalValue x.whole < 2 ^ 53 → ∃ md, .submitted 0 md (decimalValue x.whole) ∈
      ModalAction.passed (toNumber (decimalValue x.whole)) ::
        submission readyProps (formWithPrice x.text)
          (safeAmount (toNumber (decimalValue x.whole))) := by
    intro hsafe
    rw [safeAmount_toNumber hsafe]
    exact ⟨_, List.mem_cons_of_mem _ List.mem_cons_self⟩
  constructor
  · intro k hk hsmall
    have hpassed := hkept.passed k hk hsmall _ List.mem_cons_self
    rw [toNumber_eq_finite_iff hsmall] at hpassed
    rw [← value_eq_whole_iff h, hk, hpassed]
  · intro hfractional
    by_contra hsafe
    obtain ⟨md, hmem⟩ := hsubmitted (Nat.lt_of_not_le hsafe)
    exact hkept.fractional hfractional 0 md _ hmem
  · intro k hk hlarge hzero
    obtain ⟨md, hmem⟩ := hsubmitted (hzero ▸ Nat.two_pow_pos 53)
    refine hkept.positive ?_ 0 md _ hmem hzero
    rw [hk]
    exact Nat.cast_pos.mpr ((Nat.two_pow_pos 53).trans_le hlarge)

/-- The price of one of the numerals described is kept, whatever is refused. -/
lemma priceKept_of_keepsPrice (hT : T.currency.Exact) (h : 0 ≤ x.value) (hkeeps : KeepsPrice x)
    {props : Props} {form : Form} {out : CreateReplies} (hprice : form.price = x.text) :
    PriceKept T l x.value (noted (createNFT props form out)) := by
  have hwhole : ∀ k : ℕ, x.value = k → k < 2 ^ 53 → decimalValue x.whole = k := by
    intro k hk hsmall
    have hvalue := (value_eq_whole_iff h).mpr (hkeeps.small k hk hsmall)
    exact Nat.cast_injective (hvalue.symm.trans hk)
  have hsubmitted : ∀ c md p, .submitted c md p ∈ noted (createNFT props form out) →
      decimalValue x.whole = p ∧ p < 2 ^ 53 := by
    intro c md p hmem
    rcases mem_createNFT hmem with hpassed | hsubmission
    · cases hpassed
    · have hok := mem_submission hsubmission
      rw [hprice] at hok
      exact whole_eq_of_createTx h hok
  constructor
  · intro k hk hsmall p hmem
    rcases mem_createNFT hmem with hpassed | hsubmission
    · rw [ModalAction.passed.injEq, hprice, priceValue_text h, hwhole k hk hsmall] at hpassed
      rw [hpassed, toNumber_eq_finite_iff hsmall]
    · exact absurd hsubmission passed_notMem_submission
  · intro k hk hsmall c md p hmem
    obtain rfl := (hsubmitted c md p hmem).1.symm.trans (hwhole k hk hsmall)
    exact sellsFor_self hT
  · intro hfractional c md p hmem
    obtain ⟨rfl, hsafe⟩ := hsubmitted c md p hmem
    exact absurd (hkeeps.fractional hfractional) (Nat.not_le.mpr hsafe)
  · intro hpositive c md p hmem hzero
    obtain ⟨hp, hsafe⟩ := hsubmitted c md p hmem
    rw [hzero] at hp
    by_cases hinteger : ∃ k : ℕ, x.value = k
    · obtain ⟨k, hk⟩ := hinteger
      rcases Nat.lt_or_ge k (2 ^ 53) with hsmall | hlarge
      · rw [hk, ← hwhole k hk hsmall, hp] at hpositive
        exact lt_irrefl _ hpositive
      · exact hkeeps.large k hk hlarge hp
    · have hlarge := hkeeps.fractional (not_exists.mp hinteger)
      rw [hp] at hlarge
      exact absurd hlarge (by decide)

/-- For every numeral that is not negative: the price is kept in every form with it that can be
sent, exactly if the numeral is one of those described. -/
theorem price_kept_iff (hT : T.currency.Exact) (h : 0 ≤ x.value) :
    (∀ props form out, form.price = x.text → form.disabled = false →
      PriceKept T l x.value (noted (createNFT props form out))) ↔ KeepsPrice x := by
  constructor
  · intro hkept
    exact keepsPrice_of_priceKept h (hkept readyProps (formWithPrice x.text) .willing rfl
      (disabled_formWithPrice x.text_ne_nil))
  · intro hkeeps props form out hprice _
    exact priceKept_of_keepsPrice hT h hkeeps hprice

end

/-- The price `5`. -/
def five : Numeral where
  negative := false
  whole := js "5"
  fraction := []
  exponent := none
  isDigit_whole := List.all_eq_true.mp (by decide)
  isDigit_fraction := List.all_eq_true.mp (by decide)
  ne_nil := Or.inl (by decide)

/-- A price of five is kept. -/
theorem price_kept_iff_demo :
    PriceKept demoRuntime demoLedger 5
      (noted (createNFT readyProps (formWithPrice (js "5")) .willing)) := by
  have htext : five.text = js "5" := by decide
  have hvalue : five.value = 5 := by
    have hdigits : decimalValue (five.whole ++ five.fraction) = 5 := by decide
    have hexponent : five.exponentValue - five.fraction.length = 0 := by decide
    show five.magnitude = 5
    rw [Numeral.magnitude, hdigits, hexponent]
    norm_num
  have hkeeps : KeepsPrice five := by
    constructor
    · intro _ _ _
      exact Or.inr ⟨rfl, rfl⟩
    · intro hfractional
      exact absurd hvalue (hfractional 5)
    · intro _ _ _
      decide
  have hkept := (price_kept_iff (T := demoRuntime) (l := demoLedger) (x := five)
    (Currency.balances_exact 1) (by rw [hvalue]; norm_num)).mpr hkeeps
  rw [htext, hvalue] at hkept
  exact hkept readyProps _ .willing rfl (disabled_formWithPrice (by decide))

/-- The price `1e3`. -/
def thousand : Numeral where
  negative := false
  whole := js "1"
  fraction := []
  exponent := some ⟨101, [], js "3", Or.inl rfl, Or.inl rfl, by decide⟩
  isDigit_whole := List.all_eq_true.mp (by decide)
  isDigit_fraction := List.all_eq_true.mp (by decide)
  ne_nil := Or.inl (by decide)

example : thousand.text = js "1e3" := by decide

lemma value_thousand : thousand.value = 1000 := by
  have hdigits : decimalValue (thousand.whole ++ thousand.fraction) = 1 := by decide
  have hexponent : thousand.exponentValue - thousand.fraction.length = 3 := by decide
  show thousand.magnitude = 1000
  rw [Numeral.magnitude, hdigits, hexponent]
  norm_num

/-- A price of a thousand that is written with an exponent is passed on as one. -/
theorem price_kept_fails :
    ¬ ∀ props form out, form.price = thousand.text → form.disabled = false →
      PriceKept demoRuntime demoLedger thousand.value (noted (createNFT props form out)) := by
  intro h
  have hkept := h readyProps (formWithPrice thousand.text) .willing rfl
    (disabled_formWithPrice thousand.text_ne_nil)
  have hnonneg : 0 ≤ thousand.value := by
    rw [value_thousand]
    norm_num
  have hone : decimalValue thousand.whole = 1 := by decide
  rw [noted_createNFT_willing hnonneg, hone] at hkept
  have hpassed := hkept.passed 1000 value_thousand (by decide) _ List.mem_cons_self
  rw [toNumber_eq_finite_iff (by decide)] at hpassed
  cases hpassed

end FarcasterNft
