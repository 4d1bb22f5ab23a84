import FarcasterNft.Js.Async
import FarcasterNft.Js.Url

/-!
# The social gate of the marketplace

A purchase in the marketplace asks the route `check-engagement` whether the user has liked and
recasted the cast, and the route asks the Farcaster service. The question is skipped where no
`fid` is given, and the `fid` and the hash of the cast are written into the URL of the route as
they are. So the gate holds for a given `fid` and hash exactly if there is a `fid` and the route
reads both of them back, where it accepts what it reads at all.
-/

namespace FarcasterNft

open Js

/-- A cast, as the ids of those who have liked and recasted it. -/
structure Cast (N : Type) where
  likes : List N
  recasts : List N

structure Engagement where
  hasLiked : Bool
  hasRecasted : Bool

/-- The JSON that a route answers. -/
inductive Reply (α : Type) where
  | success (data : α)
  | failure (error : JsString)

/-- How the calls end that a purchase makes. -/
structure Replies (N : Type) where
  verifyUser : JsString → Except Thrown (Reply Unit)
  /-- What the Farcaster service returns for the hash of a cast, which need not be a cast. -/
  service : JsString → Except Thrown (Option (Cast N))
  /-- A throw on the way to the route, and one on the way back. -/
  request : Option Thrown
  response : Option Thrown
  createTx : Option Thrown
  signAndSend : Option Thrown

/-- What is done in the course of a purchase: the route has been asked about a `fid` and a hash
and has found a cast, or a transaction is handed over to be signed. -/
inductive Action (N : Type) where
  | asked (fid castHash : JsString) (cast : Cast N)
  | signAndSend (address : JsString) (collectionId itemId : ℕ)

/-- The props of `NFTMarketplace`. -/
structure MarketplaceProps where
  api : Bool
  address : Option JsString
  signer : Bool
  castHash : Option JsString
  fid : Option JsString

abbrev GateAction (N α : Type) := Async (List (Action N)) α

variable {N : Type} [DecidableEq N]

/-! ### The route -/

section

variable (toNumber : JsString → Option N) (out : Replies N)

/-- Ask the service about the cast. The conversion of the `fid` may be `NaN`, which is equal to
no number. -/
def askService (fid castHash : JsString) : GateAction N (Reply Engagement) :=
  tryCatch
    (do
      match ← lift (out.service castHash) with
      | none => throw .other
      | some cast =>
        modify fun log => log ++ [.asked fid castHash cast]
        return .success
          { hasLiked := cast.likes.any fun like => some like = toNumber fid
            hasRecasted := cast.recasts.any fun recast => some recast = toNumber fid })
    fun _ => return .failure (js "Server error")

/-- The parameters of a request. -/
def requestParams (url : JsString) : Option JsString × Option JsString :=
  let query := requestedQuery url
  (searchParam query (js "fid"), searchParam query (js "castHash"))

/-- `GET` of the route `check-engagement`. -/
def GET (url : JsString) : GateAction N (Reply Engagement) :=
  match requestParams url with
  | (some (u :: us), some (v :: vs)) => askService toNumber out (u :: us) (v :: vs)
  | _ => return .failure (js "FID and castHash parameters are required")

/-! ### Calls of the API -/

def engagementUrl (fid castHash : JsString) : JsString :=
  js "/api/check-engagement?fid=" ++ fid ++ js "&castHash=" ++ castHash

def verifyUser (fid : JsString) : GateAction N Unit := do
  match ← lift (out.verifyUser fid) with
  | .failure error => throw (.error error)
  | .success () => pure ()

def checkUserEngagement (fid castHash : JsString) : GateAction N Engagement := do
  external out.request
  let data ← GET toNumber out (engagementUrl fid castHash)
  external out.response
  match data with
  | .failure error => throw (.error error)
  | .success engagement => return engagement

/-! ### The marketplace -/

namespace NFTMarketplace

/-- Whether the user is engaged. Whatever goes wrong counts as a no. -/
def checkEngagement (castHash fid : Option JsString) : GateAction N Bool :=
  match castHash, fid with
  | some (v :: vs), some (u :: us) =>
    tryCatch
      (do
        let engagement ← checkUserEngagement toNumber out (u :: us) (v :: vs)
        return engagement.hasLiked && engagement.hasRecasted)
      fun _ => return false
  | _, _ => return false

/-- Whether the purchase goes on. Without a `fid` nothing is checked. -/
def mayMint (props : MarketplaceProps) : GateAction N Bool :=
  match props.fid with
  | some (u :: us) => do
    verifyUser out (u :: us)
    checkEngagement toNumber out props.castHash props.fid
  | _ => return true

def signMint (address : JsString) (collectionId itemId : ℕ) : GateAction N Unit := do
  external out.createTx
  modify fun log => log ++ [.signAndSend address collectionId itemId]
  external out.signAndSend

/-- Buy an NFT. -/
def mintNft (props : MarketplaceProps) (collectionId itemId : ℕ) : GateAction N Unit :=
  match props.api, props.address, props.signer with
  | true, some (u :: us), true =>
    tryCatch
      (do
        if ← mayMint toNumber out props then
          signMint out (u :: us) collectionId itemId)
      fun _ => pure ()
  | _, _, _ => pure ()

end NFTMarketplace

end

/-! ### What the gate promises -/

variable (toNumber : JsString → Option N)

/-- The route was asked about a `fid` and a hash, and found the `fid` in the likes and in the
recasts of the cast. -/
def FoundEngaged (fid castHash : JsString) (log : List (Action N)) : Prop :=
  ∃ cast n, .asked fid castHash cast ∈ log ∧ toNumber fid = some n ∧ n ∈ cast.likes ∧
    n ∈ cast.recasts

/-- A transaction was handed over only if the user was found engaged. -/
def Gated (props : MarketplaceProps) (log : List (Action N)) : Prop :=
  (∃ address collectionId itemId, .signAndSend address collectionId itemId ∈ log) →
    ∃ fid castHash, props.fid = some fid ∧ props.castHash = some castHash ∧
      FoundEngaged toNumber fid castHash log

/-- The props that a purchase cannot do without are there. -/
def MarketplaceProps.Ready (props : MarketplaceProps) : Prop :=
  props.api = true ∧ truthy props.address = true ∧ props.signer = true

/-- If a `fid` that is a number and a hash are read at all, they are the ones that were written. -/
def ReadsBack (fid castHash : JsString) : Prop :=
  ∀ f h, requestParams (engagementUrl fid castHash) = (some f, some h) → f ≠ [] → h ≠ [] →
    (toNumber f).isSome → f = fid ∧ h = castHash

/-! ### What a purchase does -/

section

variable (out : Replies N) {props : MarketplaceProps} {f h : JsString}

/-- The route finds what the service returns. -/
lemma perform_askService (log : List (Action N)) :
    perform (askService toNumber out f h) log = match out.service h with
      | .ok (some cast) =>
        (.ok (.success
          { hasLiked := cast.likes.any fun like => some like = toNumber f
            hasRecasted := cast.recasts.any fun recast => some recast = toNumber f }),
          log ++ [.asked f h cast])
      | _ => (.ok (.failure (js "Server error")), log) := by
  rw [askService, perform_tryCatch, perform_bind, perform_lift]
  rcases out.service h with e | _ | cast <;> rfl

lemma any_some_eq_iff {ns : List N} {m : Option N} :
    (ns.any fun n => some n = m) = true ↔ ∃ n, m = some n ∧ n ∈ ns := by
  rw [List.any_eq_true]
  constructor
  · rintro ⟨n, hn, heq⟩
    exact ⟨n, (of_decide_eq_true heq).symm, hn⟩
  · rintro ⟨n, rfl, hn⟩
    exact ⟨n, hn, decide_eq_true rfl⟩

/-- No transaction is handed over. -/
def Unsigned (log : List (Action N)) : Prop :=
  ∀ address collectionId itemId, .signAndSend address collectionId itemId ∉ log

/-- The route has read a `fid` and a hash from its URL and found the user engaged. -/
def Accepted (toNumber : JsString → Option N) (fid castHash : JsString) (log : List (Action N)) :
    Prop :=
  ∃ f h, requestParams (engagementUrl fid castHash) = (some f, some h) ∧ f ≠ [] ∧ h ≠ [] ∧
    FoundEngaged toNumber f h log

omit [DecidableEq N] in
lemma unsigned_nil : Unsigned ([] : List (Action N)) := fun _ _ _ => List.not_mem_nil

omit [DecidableEq N] in
lemma unsigned_asked (cast : Cast N) : Unsigned [.asked f h cast] := by
  intro address collectionId itemId hmem
  cases List.mem_singleton.mp hmem

/-- The route answers that the user is engaged only if it has found so. -/
lemma perform_GET (fid castHash : JsString) :
    ∃ r log, perform (GET toNumber out (engagementUrl fid castHash)) [] = (.ok r, log) ∧
      Unsigned log ∧ ∀ e, r = .success e → e.hasLiked = true → e.hasRecasted = true →
        Accepted toNumber fid castHash log := by
  rw [GET]
  cases hparams : requestParams (engagementUrl fid castHash) with
  | mk f h =>
    match f, h with
    | none, _ | some [], _ | some (_ :: _), none | some (_ :: _), some [] =>
      exact ⟨_, [], rfl, unsigned_nil, fun e he => by cases he⟩
    | some (u :: us), some (v :: vs) =>
      rw [perform_askService]
      cases hservice : out.service (v :: vs) with
      | error e => exact ⟨_, [], rfl, unsigned_nil, fun e he => by cases he⟩
      | ok cast =>
        cases cast with
        | none => exact ⟨_, [], rfl, unsigned_nil, fun e he => by cases he⟩
        | some cast =>
          refine ⟨_, _, rfl, unsigned_asked cast, ?_⟩
          rintro e ⟨⟩ hliked hrecasted
          obtain ⟨n, hn, hlike⟩ := any_some_eq_iff.mp hliked
          obtain ⟨m, hm, hrecast⟩ := any_some_eq_iff.mp hrecasted
          rw [hn, Option.some.injEq] at hm
          refine ⟨u :: us, v :: vs, hparams, List.cons_ne_nil _ _, List.cons_ne_nil _ _, cast, n,
            List.mem_singleton_self _, hn, hlike, ?_⟩
          rw [hm]
          exact hrecast

/-- What the client gets of the route's answer. -/
lemma perform_checkUserEngagement (fid castHash : JsString) :
    ∃ r log, perform (checkUserEngagement toNumber out fid castHash) [] = (r, log) ∧
      Unsigned log ∧ ∀ e, r = .ok e → e.hasLiked = true → e.hasRecasted = true →
        Accepted toNumber fid castHash log := by
  obtain ⟨reply, log, hget, hunsigned, haccepted⟩ :=
    perform_GET toNumber out fid castHash
  rw [checkUserEngagement, perform_bind]
  cases out.request with
  | some e => exact ⟨.error e, [], rfl, unsigned_nil, fun e he => by cases he⟩
  | none =>
    rw [perform_external_none]
    simp only [perform_bind, hget]
    cases out.response with
    | some e => exact ⟨.error e, log, rfl, hunsigned, fun e he => by cases he⟩
    | none =>
      rw [perform_external_none]
      cases reply with
      | failure e => exact ⟨.error (.error e), log, rfl, hunsigned, fun e he => by cases he⟩
      | success e =>
        refine ⟨.ok e, log, rfl, hunsigned, ?_⟩
        rintro e ⟨⟩
        exact haccepted e rfl

variable {toNumber out} in
lemma perform_checkUserEngagement_of_success {fid castHash : JsString} {e : Engagement}
    {log : List (Action N)} (hrequest : out.request = none) (hresponse : out.response = none)
    (hget : perform (GET toNumber out (engagementUrl fid castHash)) [] =
      (.ok (.success e), log)) :
    perform (checkUserEngagement toNumber out fid castHash) [] = (.ok e, log) := by
  rw [checkUserEngagement, hrequest, hresponse, perform_bind, perform_external_none]
  simp only [perform_bind, hget]
  rfl

namespace NFTMarketplace

/-- A check never throws, and a yes is one that the route has accepted. -/
lemma perform_checkEngagement (castHash : Option JsString) (fid : JsString) :
    ∃ b log, perform (checkEngagement toNumber out castHash (some fid)) [] = (.ok b, log) ∧
      Unsigned log ∧
      (b = true → ∃ h, castHash = some h ∧ h ≠ [] ∧ Accepted toNumber fid h log) := by
  match castHash, fid with
  | none, _ | some [], _ | some (_ :: _), [] =>
    exact ⟨false, [], rfl, unsigned_nil, fun h => by cases h⟩
  | some (v :: vs), u :: us =>
    obtain ⟨r, log, hcheck, hunsigned, haccepted⟩ :=
      perform_checkUserEngagement toNumber out (u :: us) (v :: vs)
    simp only [checkEngagement, perform_tryCatch, perform_bind, hcheck]
    cases r with
    | error e => exact ⟨false, log, rfl, hunsigned, fun h => by cases h⟩
    | ok e =>
      refine ⟨e.hasLiked && e.hasRecasted, log, rfl, hunsigned, fun hyes => ?_⟩
      rw [Bool.and_eq_true] at hyes
      exact ⟨v :: vs, rfl, List.cons_ne_nil v vs, haccepted e rfl hyes.1 hyes.2⟩

/-- Where there is a `fid`, a purchase goes on only after a yes. -/
lemma perform_mayMint (u : UInt16) (us : JsString) (hfid : props.fid = some (u :: us)) :
    ∃ r log, perform (mayMint toNumber out props) [] = (r, log) ∧ Unsigned log ∧
      (r = .ok true → ∃ h, props.castHash = some h ∧ h ≠ [] ∧
        Accepted toNumber (u :: us) h log) := by
  obtain ⟨b, log, hcheck, hunsigned, hyes⟩ :=
    perform_checkEngagement toNumber out props.castHash (u :: us)
  simp only [mayMint, hfid, verifyUser, perform_bind, perform_lift]
  rcases out.verifyUser (u :: us) with e | ⟨⟨⟩ | e⟩
  · exact ⟨.error e, [], rfl, unsigned_nil, fun h => by cases h⟩
  · refine ⟨.ok b, log, hcheck, hunsigned, ?_⟩
    rintro ⟨⟩
    exact hyes rfl
  · exact ⟨.error (.error e), [], rfl, unsigned_nil, fun h => by cases h⟩

omit [DecidableEq N] in
/-- What is handed over is added to what was done before. -/
lemma perform_signMint (address : JsString) (collectionId itemId : ℕ) (log : List (Action N)) :
    ∃ r signed, perform (signMint out address collectionId itemId) log = (r, log ++ signed) := by
  rw [signMint, perform_bind]
  cases out.createTx with
  | some e => exact ⟨.error e, [], by simp⟩
  | none =>
    rw [perform_external_none]
    cases hsign : out.signAndSend with
    | some e => exact ⟨.error e, [.signAndSend address collectionId itemId], rfl⟩
    | none => exact ⟨.ok (), [.signAndSend address collectionId itemId], rfl⟩

lemma perform_mintNft (hready : props.Ready) (collectionId itemId : ℕ) :
    ∃ address, (perform (mintNft toNumber out props collectionId itemId) []).2 =
      match perform (mayMint toNumber out props) [] with
      | (.ok true, log) => (perform (signMint out address collectionId itemId) log).2
      | (_, log) => log := by
  obtain ⟨hapi, haddress, hsigner⟩ := hready
  cases haddr : props.address with
  | none =>
    rw [haddr] at haddress
    cases haddress
  | some address =>
    rw [haddr, truthy_some] at haddress
    obtain ⟨u, us, rfl⟩ := List.exists_cons_of_ne_nil haddress
    refine ⟨u :: us, ?_⟩
    simp only [mintNft, hapi, haddr, hsigner, perform_tryCatch, perform_bind]
    rcases perform (mayMint toNumber out props) [] with ⟨e | _ | _, log⟩
    · rfl
    · rfl
    · simp only [if_true]
      rcases perform (signMint out (u :: us) collectionId itemId) log with ⟨e | _, t⟩ <;> rfl

lemma perform_mintNft_of_not_ready (hready : ¬ props.Ready) (collectionId itemId : ℕ) :
    (perform (mintNft toNumber out props collectionId itemId) []).2 = [] := by
  rw [mintNft]
  split
  · next hapi haddress hsigner =>
    refine absurd ⟨hapi, ?_, hsigner⟩ hready
    rw [haddress]
    rfl
  · rfl

/-- A purchase with a `fid` that is read back, wherever it is read at all, is gated. -/
lemma gated_mintNft (collectionId itemId : ℕ) (hready : props.Ready) (hfid : props.fid = some f)
    (hf : f ≠ [])
    (hback : ∀ h, props.castHash = some h → h ≠ [] → ReadsBack toNumber f h) :
    Gated toNumber props (perform (mintNft toNumber out props collectionId itemId) []).2 := by
  obtain ⟨u, us, rfl⟩ := List.exists_cons_of_ne_nil hf
  obtain ⟨r, log, hmay, hunsigned, hyes⟩ := perform_mayMint toNumber out u us hfid
  obtain ⟨address, hlog⟩ := perform_mintNft toNumber out hready collectionId itemId
  rw [hlog, hmay]
  match r with
  | .error e | .ok false =>
    rintro ⟨address', c, i, hsigned⟩
    exact absurd hsigned (hunsigned address' c i)
  | .ok true =>
    intro _
    obtain ⟨h, hcast, hne, f', h', hparams, hf', hh', cast, n, hasked, hnumber, hlike, hrecast⟩ :=
      hyes rfl
    have hisSome : (toNumber f').isSome := by
      rw [hnumber]
      rfl
    -- what the route has read is what the props say
    obtain ⟨rfl, rfl⟩ := hback h hcast hne f' h' hparams hf' hh' hisSome
    obtain ⟨r', signed, hsign⟩ := perform_signMint out address collectionId itemId log
    refine ⟨u :: us, h', hfid, hcast, cast, n, ?_, hnumber, hlike, hrecast⟩
    show .asked _ _ _ ∈ (perform (signMint out address collectionId itemId) log).2
    rw [hsign]
    exact List.mem_append_left signed hasked

end NFTMarketplace

/-- All calls succeed, and the service returns one cast for whatever it is asked. -/
def Replies.obliging (cast : Cast N) : Replies N where
  verifyUser _ := .ok (.success ())
  service _ := .ok (some cast)
  request := none
  response := none
  createTx := none
  signAndSend := none

namespace NFTMarketplace

/-- Without a `fid` a transaction is handed over, and nobody has been asked. -/
lemma not_gated_of_no_fid (hready : props.Ready) (hfid : truthy props.fid = false) :
    ¬ ∀ out collectionId itemId,
      Gated toNumber props (perform (mintNft toNumber out props collectionId itemId) []).2 := by
  intro hgated
  have hmay : perform (mayMint toNumber (.obliging ⟨[], []⟩) props) [] = (.ok true, []) := by
    rw [mayMint]
    split
    · next u us heq =>
      rw [heq] at hfid
      cases hfid
    · rfl
  obtain ⟨address, hlog⟩ := perform_mintNft toNumber (.obliging ⟨[], []⟩) hready 0 0
  have hzero := hgated (.obliging ⟨[], []⟩) 0 0
  rw [hlog, hmay] at hzero
  obtain ⟨fid, castHash, -, -, cast, n, hasked, -⟩ :=
    hzero ⟨address, 0, 0, List.mem_singleton_self _⟩
  cases List.mem_singleton.mp hasked

/-- Asked about parameters that it accepts, the route finds everybody engaged that the service
lists. -/
lemma perform_mayMint_obliging {fid castHash : JsString} {n : N} (hfid : props.fid = some fid)
    (hcast : props.castHash = some castHash) (hne : fid ≠ []) (hne' : castHash ≠ [])
    (hparams : requestParams (engagementUrl fid castHash) = (some f, some h)) (hf : f ≠ [])
    (hh : h ≠ []) (hnumber : toNumber f = some n) :
    perform (mayMint toNumber (.obliging ⟨[n], [n]⟩) props) [] =
      (.ok true, [.asked f h ⟨[n], [n]⟩]) := by
  obtain ⟨u, us, rfl⟩ := List.exists_cons_of_ne_nil hne
  obtain ⟨v, vs, rfl⟩ := List.exists_cons_of_ne_nil hne'
  obtain ⟨x, xs, rfl⟩ := List.exists_cons_of_ne_nil hf
  obtain ⟨y, ys, rfl⟩ := List.exists_cons_of_ne_nil hh
  have hget : perform (GET toNumber (.obliging ⟨[n], [n]⟩) (engagementUrl (u :: us) (v :: vs))) [] =
      (.ok (.success ⟨true, true⟩), [.asked (x :: xs) (y :: ys) ⟨[n], [n]⟩]) := by
    rw [GET, hparams]
    simp [perform_askService, Replies.obliging, hnumber]
  have hcheck : perform (checkUserEngagement toNumber (.obliging ⟨[n], [n]⟩) (u :: us) (v :: vs))
      [] = (.ok ⟨true, true⟩, [.asked (x :: xs) (y :: ys) ⟨[n], [n]⟩]) :=
    perform_checkUserEngagement_of_success rfl rfl hget
  have hengaged : perform
      (checkEngagement toNumber (.obliging ⟨[n], [n]⟩) (some (v :: vs)) (some (u :: us))) [] =
      (.ok true, [.asked (x :: xs) (y :: ys) ⟨[n], [n]⟩]) := by
    rw [checkEngagement, perform_tryCatch, perform_bind, hcheck]
    rfl
  simp only [mayMint, hfid, hcast, verifyUser, perform_bind, perform_lift]
  exact hengaged

/-- Where purchases are gated, what the route accepts is what was written into its URL. -/
lemma readsBack_of_gated {fid castHash : JsString} (hready : props.Ready)
    (hfid : props.fid = some fid) (hcast : props.castHash = some castHash) (hne : fid ≠ [])
    (hne' : castHash ≠ [])
    (hgated : ∀ out collectionId itemId,
      Gated toNumber props (perform (mintNft toNumber out props collectionId itemId) []).2) :
    ReadsBack toNumber fid castHash := by
  intro f h hparams hf hh hsome
  obtain ⟨n, hnumber⟩ := Option.isSome_iff_exists.mp hsome
  have hmay := perform_mayMint_obliging toNumber hfid hcast hne hne' hparams hf hh hnumber
  obtain ⟨address, hlog⟩ := perform_mintNft toNumber (.obliging ⟨[n], [n]⟩) hready 0 0
  have hzero := hgated (.obliging ⟨[n], [n]⟩) 0 0
  rw [hlog, hmay] at hzero
  have hsigned : .signAndSend address 0 0 ∈ ([.asked f h ⟨[n], [n]⟩, .signAndSend address 0 0] :
      List (Action N)) := by simp
  obtain ⟨fid', castHash', hfid', hcast', cast, m, hasked, -⟩ := hzero ⟨address, 0, 0, hsigned⟩
  rw [hfid, Option.some.injEq] at hfid'
  rw [hcast, Option.some.injEq] at hcast'
  subst hfid' hcast'
  rcases List.mem_cons.mp hasked with heq | hlast
  · cases heq
    exact ⟨rfl, rfl⟩
  · cases List.mem_singleton.mp hlast

end NFTMarketplace

end

open NFTMarketplace

omit [DecidableEq N] in
/-- A `fid` and a hash of letters and digits are always read back. -/
theorem readsBack_of_isAlphanumeric {fid castHash : JsString}
    (hfid : ∀ u ∈ fid, isAlphanumeric u = true)
    (hcast : ∀ u ∈ castHash, isAlphanumeric u = true) : ReadsBack toNumber fid castHash := by
  have hurl : engagementUrl fid castHash = js "/api/check-engagement" ++
      63 :: ((js "fid" ++ 61 :: fid) ++ 38 :: (js "castHash" ++ 61 :: castHash)) := by
    have hstart : js "/api/check-engagement?fid=" =
        js "/api/check-engagement" ++ 63 :: (js "fid" ++ [61]) := by decide
    have hmiddle : js "&castHash=" = 38 :: (js "castHash" ++ [61]) := by decide
    simp [engagementUrl, hstart, hmiddle]
  have hparams : searchParams (requestedQuery (engagementUrl fid castHash)) =
      [(js "fid", fid), (js "castHash", castHash)] := by
    rw [hurl]
    apply searchParams_requestedQuery
    · exact List.all_eq_true.mp (by decide)
    · decide
    · exact List.all_eq_true.mp (by decide)
    · exact hfid
    · exact List.all_eq_true.mp (by decide)
    · exact hcast
  have hread : requestParams (engagementUrl fid castHash) = (some fid, some castHash) := by
    rw [requestParams]
    simp only [searchParam, hparams]
    rfl
  intro f h hfh _ _ _
  rw [hread, Prod.mk.injEq, Option.some.injEq, Option.some.injEq] at hfh
  exact ⟨hfh.1.symm, hfh.2.symm⟩

/-- A hash inside of the `fid` takes the place of the hash. -/
example : requestParams (engagementUrl (js "3&castHash=0xcd") (js "0xab")) =
    (some (js "3"), some (js "0xcd")) := by
  decide +kernel

/-- With given props, purchases are gated exactly if none can be made, or there is a `fid` and,
if there is a hash as well, the route reads both back. -/
theorem social_gate_iff (props : MarketplaceProps) :
    (∀ out collectionId itemId,
      Gated toNumber props (perform (mintNft toNumber out props collectionId itemId) []).2) ↔
      (props.Ready → ∃ fid, props.fid = some fid ∧ fid ≠ [] ∧
        ∀ castHash, props.castHash = some castHash → castHash ≠ [] →
          ReadsBack toNumber fid castHash) := by
  constructor
  · intro hgated hready
    cases hfid : truthy props.fid with
    | false => exact absurd hgated (not_gated_of_no_fid toNumber hready hfid)
    | true =>
      cases hfid' : props.fid with
      | none =>
        rw [hfid'] at hfid
        cases hfid
      | some fid =>
        rw [hfid', truthy_some] at hfid
        refine ⟨fid, rfl, hfid, fun castHash hcast hne => ?_⟩
        exact readsBack_of_gated toNumber hready hfid' hcast hfid hne hgated
  · intro h out collectionId itemId
    by_cases hready : props.Ready
    · obtain ⟨fid, hfid, hne, hback⟩ := h hready
      exact gated_mintNft toNumber out collectionId itemId hready hfid hne hback
    · rintro ⟨address, c, i, hsigned⟩
      rw [perform_mintNft_of_not_ready toNumber out hready] at hsigned
      cases hsigned

/-- Numbers in decimal digits. -/
def demoNumber (s : JsString) : Option ℕ :=
  if s.all fun u => 48 ≤ u && u ≤ 57 then some (decimalValue s) else none

/-- Outside of a frame the `fid` is empty, and an NFT is bought without anyone being asked. -/
theorem social_gate_fails :
    ¬ ∀ out collectionId itemId,
      Gated demoNumber ⟨true, some (js "5F"), true, some (js "0xab"), some []⟩
        (perform (mintNft demoNumber out
          ⟨true, some (js "5F"), true, some (js "0xab"), some []⟩ collectionId itemId) []).2 :=
  not_gated_of_no_fid demoNumber ⟨rfl, rfl, rfl⟩ rfl

end FarcasterNft
