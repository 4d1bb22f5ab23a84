import FarcasterNft.Frame.Run
import FarcasterNft.Js.Async

/-!
# The wallet session

The state and the operations of `frontend/src/contexts/WalletContext.tsx`. An operation reads
the state variables as they were when it was called (`render`), and writes them one by one.
Wallets are foreign code: each call into one completes or throws.

The operations are written for any monad that has their effects. Here they are programs, each of
which runs to completion before the next one is called.
-/

namespace FarcasterNft

open Frame Js

/-! ### Accounts and wallets -/

/-- An account as a wallet lists it. -/
structure WalletAccount where
  address : JsString
  name : Option JsString
  type : Option JsString
  deriving DecidableEq

structure AccountMeta where
  name : Option JsString
  source : JsString
  genesisHash : Option JsString
  walletId : Option JsString
  deriving DecidableEq

/-- An account as the session keeps it. -/
structure ExtendedInjectedAccountWithMeta where
  address : JsString
  info : AccountMeta
  type : Option JsString
  deriving DecidableEq

structure WalletMetadata where
  id : JsString
  title : JsString

/-- A wallet extension with a fixed list of accounts and a fixed signer. -/
structure BaseWallet (Signer : Type) where
  metadata : WalletMetadata
  accounts : List WalletAccount
  signer : Option Signer

/-- The state variables of `WalletProvider`. -/
structure Session (Signer : Type) where
  accounts : List ExtendedInjectedAccountWithMeta
  selectedAccount : Option ExtendedInjectedAccountWithMeta
  signer : Option Signer
  isConnecting : Bool
  error : Option JsString
  selectedWallet : Option (BaseWallet Signer)
  connectedWallets : List (BaseWallet Signer)

variable {Signer : Type}

/-- The state variables at first. -/
def Session.initial : Session Signer where
  accounts := []
  selectedAccount := none
  signer := none
  isConnecting := false
  error := none
  selectedWallet := none
  connectedWallets := []

/-! ### The operations -/

/-- The calls into a wallet. -/
inductive Foreign where
  | connect
  | getAccounts
  | disconnect

/-- What an operation does besides computing: it updates the state variables, calls into a wallet,
and awaits another operation. -/
structure Effects (Signer : Type) (m : Type → Type) where
  update : (Session Signer → Session Signer) → m Unit
  call : Foreign → m Unit
  awaited : {α : Type} → m α → m α

/-- An account of a wallet in the format of the session. -/
def BaseWallet.formatAccount (w : BaseWallet Signer) (a : WalletAccount) :
    ExtendedInjectedAccountWithMeta where
  address := a.address
  info :=
    { name := some (orElse a.name (js "Unknown"))
      source := orElse (some w.metadata.title) (js "polkadot-js")
      genesisHash := none
      walletId := some w.metadata.id }
  type := some (orElse a.type (js "sr25519"))

section

variable {m : Type → Type} (effects : Effects Signer m)

def setIsConnecting (b : Bool) : m Unit :=
  effects.update fun s => { s with isConnecting := b }

def setError (e : Option JsString) : m Unit :=
  effects.update fun s => { s with error := e }

def setConnectedWallets (f : List (BaseWallet Signer) → List (BaseWallet Signer)) : m Unit :=
  effects.update fun s => { s with connectedWallets := f s.connectedWallets }

def setSelectedWallet (w : Option (BaseWallet Signer)) : m Unit :=
  effects.update fun s => { s with selectedWallet := w }

def setSelectedAccount (a : Option ExtendedInjectedAccountWithMeta) : m Unit :=
  effects.update fun s => { s with selectedAccount := a }

def setSigner (signer : Option Signer) : m Unit :=
  effects.update fun s => { s with signer }

def setAccounts (accounts : List ExtendedInjectedAccountWithMeta) : m Unit :=
  effects.update fun s => { s with accounts }

variable [Monad m]

/-- The accounts of a wallet, or whatever it throws. -/
def BaseWallet.getAccounts (w : BaseWallet Signer) : m (List WalletAccount) := do
  effects.call .getAccounts
  return w.accounts

/-- Clean up the state after a disconnection. -/
def cleanUp : m Unit := do
  setConnectedWallets effects fun _ => []
  setSelectedWallet effects none
  setSelectedAccount effects none
  setSigner effects none
  setAccounts effects []

variable (render : Session Signer)

/-- The selected wallet, if it has the address. -/
def getWalletForAccount (address : JsString) : m (Option (BaseWallet Signer)) :=
  match render.selectedWallet with
  | none => return none
  | some wallet => do
    let walletAccounts ← wallet.getAccounts effects
    return if walletAccounts.any (·.address = address) then some wallet else none

/-- Disconnect the wallet with the given id and clean up, if it is connected, or whichever is
connected if there is no id. -/
def disconnectBody (walletId : Option JsString) : m Unit :=
  if truthy walletId then
    match render.connectedWallets.find? fun w => some w.metadata.id = walletId with
    | some _ => do
      effects.call .disconnect
      cleanUp effects
    | none => pure ()
  else do
    if render.connectedWallets.length > 0 then effects.call .disconnect else pure ()
    cleanUp effects

variable [MonadExcept Thrown m]

def disconnectWallet (walletId : Option JsString) : m Unit :=
  tryCatch
    (do
      disconnectBody effects render walletId
      setError effects none)
    fun error => setError effects (some (error.message (js "Failed to disconnect wallet")))

/-- The body of an operation between `setIsConnecting(true)` and `setIsConnecting(false)`. -/
def whileConnecting (body : m Unit) (onError : Thrown → m Unit) : m Unit := do
  tryCatch
    (do
      setIsConnecting effects true
      setError effects none
      body)
    onError
  setIsConnecting effects false

/-- Disconnect any previously connected wallet. -/
def disconnectPrevious : m Unit :=
  match render.connectedWallets with
  | previous :: _ =>
    effects.awaited (disconnectWallet effects render (some previous.metadata.id))
  | [] => pure ()

/-- Set a wallet that is connected, if it has accounts. -/
def setConnected (wallet : BaseWallet Signer) (walletAccounts : List WalletAccount) : m Unit :=
  if walletAccounts.length = 0 then
    throw (.error (js "No accounts found in the selected wallet"))
  else do
    setConnectedWallets effects fun prev => prev ++ [wallet]
    setSelectedWallet effects (some wallet)
    setAccounts effects (walletAccounts.map wallet.formatAccount)

/-- Connect a wallet in place of the one connected so far. -/
def connectSpecificWallet (wallet : BaseWallet Signer) : m Unit :=
  whileConnecting effects
    (do
      disconnectPrevious effects render
      effects.call .connect
      let walletAccounts ← wallet.getAccounts effects
      setConnected effects wallet walletAccounts)
    fun err => setError effects (some (err.message (js "Failed to connect wallet")))

def selectWallet (wallet : BaseWallet Signer) : m Unit :=
  whileConnecting effects (effects.awaited (connectSpecificWallet effects render wallet))
    fun err => setError effects (some (err.message (js "Failed to select wallet")))

/-- Connect the first available wallet. -/
def connectWallet (availableWallets : List (BaseWallet Signer)) : m Unit :=
  whileConnecting effects
    (match availableWallets with
      | [] => throw (.error (js "No wallets available. Please install a Polkadot wallet."))
      | wallet :: _ => effects.awaited (connectSpecificWallet effects render wallet))
    fun err => setError effects (some (err.message (js "Failed to connect wallet")))

/-- Set the account, with the signer of the wallet that has been found for it. -/
def setSelected (account : ExtendedInjectedAccountWithMeta) : Option (BaseWallet Signer) → m Unit
  | none => throw (.error (js "No wallet found for this account"))
  | some wallet => do
    setSelectedAccount effects (some account)
    setSigner effects wallet.signer

def selectAccount (account : ExtendedInjectedAccountWithMeta) : m Unit :=
  whileConnecting effects
    (do
      let wallet ← effects.awaited (getWalletForAccount effects render account.address)
      setSelected effects account wallet)
    fun err => do
      setError effects (some (err.message (js "Failed to select account")))
      setSelectedAccount effects none
      setSigner effects none

end

inductive WalletCall (Signer : Type) where
  | connectWallet (availableWallets : List (BaseWallet Signer))
  | connectSpecificWallet (wallet : BaseWallet Signer)
  | selectWallet (wallet : BaseWallet Signer)
  | selectAccount (account : ExtendedInjectedAccountWithMeta)
  | disconnectWallet (walletId : Option JsString)

/-- The operation that is called. -/
def WalletCall.apply {m : Type → Type} [Monad m] [MonadExcept Thrown m]
    (effects : Effects Signer m) (render : Session Signer) : WalletCall Signer → m Unit
  | .connectWallet availableWallets => FarcasterNft.connectWallet effects render availableWallets
  | .connectSpecificWallet wallet => FarcasterNft.connectSpecificWallet effects render wallet
  | .selectWallet wallet => FarcasterNft.selectWallet effects render wallet
  | .selectAccount account => FarcasterNft.selectAccount effects render account
  | .disconnectWallet walletId => FarcasterNft.disconnectWallet effects render walletId

/-! ### Steps -/

/-- How the calls into the wallet end that one operation makes. Each is made at most once. -/
structure Outcomes where
  connect : Option Thrown
  getAccounts : Option Thrown
  disconnect : Option Thrown

/-- How a call into a wallet ends. -/
def Outcomes.answer (out : Outcomes) : Foreign → Option Thrown
  | .connect => out.connect
  | .getAccounts => out.getAccounts
  | .disconnect => out.disconnect

abbrev WalletAction (Signer α : Type) := Async (Session Signer) α

/-- The effects of a program that nothing interrupts. -/
def Outcomes.effects (out : Outcomes) : Effects Signer (Async (Session Signer)) where
  update f := modify f
  call k := external (out.answer k)
  awaited x := x

/-- A call, and how the calls into the wallets end that it makes. -/
structure WalletStep (Signer : Type) where
  call : WalletCall Signer
  out : Outcomes

/-- Run a call to completion on the state the previous one left. -/
def walletStep (s : Session Signer) (x : WalletStep Signer) : Session Signer :=
  (perform (x.call.apply x.out.effects s) s).2

/-! ### What a step does to the link with the wallet -/

/-- The part of the session that decides which key signs. -/
structure Link (Signer : Type) where
  connectedWallets : List (BaseWallet Signer)
  selectedWallet : Option (BaseWallet Signer)
  selectedAccount : Option ExtendedInjectedAccountWithMeta
  signer : Option Signer

def Session.link (s : Session Signer) : Link Signer :=
  ⟨s.connectedWallets, s.selectedWallet, s.selectedAccount, s.signer⟩

/-- No wallet is connected. -/
def Link.none : Link Signer := ⟨[], .none, .none, .none⟩

/-- Whether a wallet can be connected and lists an account. -/
def Connects (out : Outcomes) (w : BaseWallet Signer) : Prop :=
  out.connect = none ∧ out.getAccounts = none ∧ w.accounts ≠ []

instance (out : Outcomes) (w : BaseWallet Signer) : Decidable (Connects out w) :=
  inferInstanceAs (Decidable (_ ∧ _ ∧ _))

namespace Link

variable (out : Outcomes) (l : Link Signer)

/-- Disconnecting succeeds, or leaves the link as it is. -/
def disconnect (walletId : Option JsString) : Link Signer :=
  if truthy walletId then
    if (l.connectedWallets.any fun w => some w.metadata.id = walletId) ∧ out.disconnect = .none then
      .none
    else l
  else if l.connectedWallets = [] ∨ out.disconnect = .none then .none else l

/-- The link that a new wallet is added to: an attempt to cut the old one comes first, and
what becomes of it is not looked at. -/
def cut : Link Signer :=
  if l.connectedWallets ≠ [] ∧ out.disconnect = .none then .none else l

def connect (w : BaseWallet Signer) : Link Signer :=
  if Connects out w then
    { l.cut out with
      connectedWallets := (l.cut out).connectedWallets ++ [w]
      selectedWallet := some w }
  else l.cut out

/-- The selected wallet, if it can be asked and lists the address. -/
def walletFor (address : JsString) : Except Thrown (Option (BaseWallet Signer)) :=
  match l.selectedWallet, out.getAccounts with
  | .none, _ => .ok .none
  | some _, some e => .error e
  | some w, .none => .ok (if w.accounts.any (·.address = address) then some w else .none)

/-- The account is selected if there is a wallet for it, and otherwise none is. -/
def select (a : ExtendedInjectedAccountWithMeta) : Link Signer :=
  match l.walletFor out a.address with
  | .ok (some w) => { l with selectedAccount := some a, signer := w.signer }
  | _ => { l with selectedAccount := .none, signer := .none }

/-- The effect of a call on the link. -/
def step (x : WalletStep Signer) : Link Signer :=
  match x.call with
  | .connectWallet [] => l
  | .connectWallet (w :: _) | .connectSpecificWallet w | .selectWallet w => l.connect x.out w
  | .selectAccount a => l.select x.out a
  | .disconnectWallet walletId => l.disconnect x.out walletId

end Link

section

variable (out : Outcomes) (s t : Session Signer)

@[simp] lemma effects_call (k : Foreign) :
    (out.effects : Effects Signer _).call k = external (out.answer k) := rfl

@[simp] lemma effects_awaited {α : Type} (x : WalletAction Signer α) :
    out.effects.awaited x = x := rfl

@[simp] lemma answer_connect : out.answer .connect = out.connect := rfl

@[simp] lemma answer_getAccounts : out.answer .getAccounts = out.getAccounts := rfl

@[simp] lemma answer_disconnect : out.answer .disconnect = out.disconnect := rfl

@[simp] lemma perform_setIsConnecting (b : Bool) :
    perform (setIsConnecting out.effects b) s = (.ok (), { s with isConnecting := b }) := rfl

@[simp] lemma perform_setError (e : Option JsString) :
    perform (setError out.effects e) s = (.ok (), { s with error := e }) := rfl

@[simp] lemma perform_setConnectedWallets
    (f : List (BaseWallet Signer) → List (BaseWallet Signer)) :
    perform (setConnectedWallets out.effects f) s =
      (.ok (), { s with connectedWallets := f s.connectedWallets }) := rfl

@[simp] lemma perform_setSelectedWallet (w : Option (BaseWallet Signer)) :
    perform (setSelectedWallet out.effects w) s = (.ok (), { s with selectedWallet := w }) := rfl

@[simp] lemma perform_setSelectedAccount (a : Option ExtendedInjectedAccountWithMeta) :
    perform (setSelectedAccount out.effects a) s = (.ok (), { s with selectedAccount := a }) := rfl

@[simp] lemma perform_setSigner (signer : Option Signer) :
    perform (setSigner out.effects signer) s = (.ok (), { s with signer }) := rfl

@[simp] lemma perform_setAccounts (accounts : List ExtendedInjectedAccountWithMeta) :
    perform (setAccounts out.effects accounts) s = (.ok (), { s with accounts }) := rfl

@[simp] lemma perform_cleanUp :
    perform (cleanUp out.effects) s =
      (.ok (), { s with
        connectedWallets := [], selectedWallet := none, selectedAccount := none
        signer := none, accounts := [] }) := rfl

/-- A program that ends without throwing, with the given link. -/
def EndsWith (x : WalletAction Signer Unit) (s : Session Signer) (l : Link Signer) : Prop :=
  ∃ t, perform x s = (.ok (), t) ∧ t.link = l

variable {out s t} {body : WalletAction Signer Unit} {onError : Thrown → WalletAction Signer Unit}
variable {l : Link Signer}

/-- An operation whose body returns leaves the link of the body. -/
lemma endsWith_whileConnecting_ok
    (h : EndsWith body { s with isConnecting := true, error := none } l) :
    EndsWith (whileConnecting out.effects body onError) s l := by
  obtain ⟨t, hbody, hlink⟩ := h
  refine ⟨{ t with isConnecting := false }, ?_, hlink⟩
  simp [whileConnecting, perform_bind, perform_tryCatch, hbody]

/-- An operation whose body throws leaves the link of its handler. -/
lemma endsWith_whileConnecting_error {e : Thrown}
    (hbody : perform body { s with isConnecting := true, error := none } = (.error e, t))
    (h : EndsWith (onError e) t l) : EndsWith (whileConnecting out.effects body onError) s l := by
  obtain ⟨u, herr, hlink⟩ := h
  refine ⟨{ u with isConnecting := false }, ?_, hlink⟩
  simp [whileConnecting, perform_bind, perform_tryCatch, hbody, herr]

end

section

variable (out : Outcomes) {render s : Session Signer}

/-- Disconnecting swallows whatever the wallet throws. -/
lemma endsWith_disconnectWallet (hrender : render.connectedWallets = s.connectedWallets)
    (walletId : Option JsString) :
    EndsWith (disconnectWallet out.effects render walletId) s (s.link.disconnect out walletId) := by
  rw [EndsWith, disconnectWallet, perform_tryCatch, perform_bind, disconnectBody, hrender,
    Link.disconnect]
  cases hid : truthy walletId with
  | true =>
    cases hfind : s.connectedWallets.find? (fun w => some w.metadata.id = walletId) with
    | none =>
      have habsent : ∀ w ∈ s.connectedWallets, ¬some w.metadata.id = walletId := by
        simpa using hfind
      simp [Session.link]
      exact fun w hw hwid => absurd hwid (habsent w hw)
    | some w =>
      have hpresent : ∃ w ∈ s.connectedWallets, some w.metadata.id = walletId :=
        ⟨w, List.mem_of_find?_eq_some hfind, by simpa using List.find?_some hfind⟩
      cases hdis : out.disconnect with
      | none => simp [Session.link, perform_bind, Link.none, hpresent, hdis]
      | some e => simp [Session.link, perform_bind, hdis]
  | false =>
    cases hconn : s.connectedWallets with
    | nil => simp [Session.link, Link.none, hconn]
    | cons w ws =>
      cases hdis : out.disconnect with
      | none => simp [Session.link, perform_bind, Link.none, hdis]
      | some e => simp [Session.link, perform_bind, hconn, hdis]

/-- Disconnecting the first connected wallet under its id is cutting the link. -/
lemma Link.disconnect_first {l : Link Signer} {previous : BaseWallet Signer}
    {ws : List (BaseWallet Signer)} (h : l.connectedWallets = previous :: ws) :
    l.disconnect out (some previous.metadata.id) = l.cut out := by
  simp [Link.disconnect, Link.cut, h]

/-- Whatever becomes of the old wallet, the operation goes on. -/
lemma endsWith_disconnectPrevious (hrender : render.connectedWallets = s.connectedWallets) :
    EndsWith (disconnectPrevious out.effects render) s (s.link.cut out) := by
  rw [disconnectPrevious]
  cases hconn : render.connectedWallets with
  | nil =>
    refine ⟨s, rfl, ?_⟩
    simp [Link.cut, Session.link, ← hrender, hconn]
  | cons previous ws =>
    have hfirst : s.link.connectedWallets = previous :: ws := hrender.symm.trans hconn
    rw [← Link.disconnect_first out hfirst]
    exact endsWith_disconnectWallet out hrender _

lemma endsWith_connectSpecificWallet (hrender : render.connectedWallets = s.connectedWallets)
    (wallet : BaseWallet Signer) :
    EndsWith (connectSpecificWallet out.effects render wallet) s (s.link.connect out wallet) := by
  let s₀ : Session Signer := { s with isConnecting := true, error := none }
  obtain ⟨t, hcut, hlink⟩ : EndsWith (disconnectPrevious out.effects render) s₀ (s.link.cut out) :=
    endsWith_disconnectPrevious out (s := s₀) hrender
  rw [Link.connect, ← hlink]
  cases hc : out.connect with
  | some e =>
    refine endsWith_whileConnecting_error (e := e) (t := t) ?_ ⟨_, rfl, ?_⟩
    · simp [perform_bind, hcut, hc, s₀]
    · simp [Connects, hc, Session.link]
  | none =>
    cases hg : out.getAccounts with
    | some e =>
      refine endsWith_whileConnecting_error (e := e) (t := t) ?_ ⟨_, rfl, ?_⟩
      · simp [perform_bind, hcut, hc, BaseWallet.getAccounts, hg, s₀]
      · simp [Connects, hg, Session.link]
    | none =>
      by_cases ha : wallet.accounts = []
      · refine endsWith_whileConnecting_error
          (e := .error (js "No accounts found in the selected wallet")) (t := t) ?_ ⟨_, rfl, ?_⟩
        · simp [perform_bind, hcut, hc, BaseWallet.getAccounts, hg, setConnected, ha, s₀]
        · simp [Connects, ha, Session.link]
      · refine endsWith_whileConnecting_ok ⟨{ t with
          connectedWallets := t.connectedWallets ++ [wallet]
          selectedWallet := some wallet
          accounts := wallet.accounts.map wallet.formatAccount }, ?_, ?_⟩
        · simp [perform_bind, hcut, hc, BaseWallet.getAccounts, hg, setConnected, ha, s₀]
        · simp [Connects, hc, hg, ha, Session.link]

lemma endsWith_selectWallet (hrender : render.connectedWallets = s.connectedWallets)
    (wallet : BaseWallet Signer) :
    EndsWith (selectWallet out.effects render wallet) s (s.link.connect out wallet) :=
  endsWith_whileConnecting_ok (endsWith_connectSpecificWallet out hrender wallet)

lemma perform_getWalletForAccount (hrender : render.selectedWallet = s.link.selectedWallet)
    (address : JsString) (t : Session Signer) :
    perform (getWalletForAccount out.effects render address) t =
      (s.link.walletFor out address, t) := by
  rw [getWalletForAccount, hrender, Link.walletFor]
  cases s.link.selectedWallet with
  | none => rfl
  | some w =>
    rw [perform_bind, BaseWallet.getAccounts, perform_bind, effects_call, answer_getAccounts]
    cases out.getAccounts <;> rfl

lemma endsWith_selectAccount (hrender : render.selectedWallet = s.link.selectedWallet)
    (account : ExtendedInjectedAccountWithMeta) :
    EndsWith (selectAccount out.effects render account) s (s.link.select out account) := by
  let s₀ : Session Signer := { s with isConnecting := true, error := none }
  have hget := perform_getWalletForAccount out hrender account.address s₀
  rw [Link.select]
  rcases hfor : s.link.walletFor out account.address with e | _ | w
  · refine endsWith_whileConnecting_error (e := e) (t := s₀) ?_ ⟨_, rfl, rfl⟩
    simp [perform_bind, hget, hfor, setSelected, s₀]
  · refine endsWith_whileConnecting_error
      (e := .error (js "No wallet found for this account")) (t := s₀) ?_ ⟨_, rfl, rfl⟩
    simp [perform_bind, hget, hfor, setSelected, s₀]
  · refine endsWith_whileConnecting_ok
      ⟨{ s₀ with selectedAccount := some account, signer := w.signer }, ?_, rfl⟩
    simp [perform_bind, hget, hfor, setSelected, s₀]

end

/-- A step never throws, and acts on the link as `Link.step` says. -/
theorem link_walletStep (s : Session Signer) (x : WalletStep Signer) :
    (walletStep s x).link = s.link.step x := by
  obtain ⟨call, out⟩ := x
  suffices h : EndsWith (call.apply out.effects s) s (s.link.step ⟨call, out⟩) by
    obtain ⟨t, ht, hlink⟩ := h
    rw [walletStep, ht, hlink]
  cases call with
  | connectWallet availableWallets =>
    cases availableWallets with
    | nil => exact ⟨_, rfl, rfl⟩
    | cons wallet ws =>
      exact endsWith_whileConnecting_ok (endsWith_connectSpecificWallet out rfl wallet)
  | connectSpecificWallet wallet => exact endsWith_connectSpecificWallet out rfl wallet
  | selectWallet wallet => exact endsWith_selectWallet out rfl wallet
  | selectAccount account => exact endsWith_selectAccount out rfl account
  | disconnectWallet walletId => exact endsWith_disconnectWallet out rfl walletId

/-! ### The session invariant -/

/-- At most one wallet is connected, it is the selected one, and a selected account is one of
its accounts and signs with its signer. -/
structure SessionInvariant (l : Link Signer) : Prop where
  atMostOne : l.connectedWallets.length ≤ 1
  selected_eq_none_iff : l.selectedWallet = none ↔ l.connectedWallets = []
  selected_mem : ∀ w, l.selectedWallet = some w → l.connectedWallets = [w]
  account : ∀ a, l.selectedAccount = some a → ∃ w, l.selectedWallet = some w ∧
    a.address ∈ w.accounts.map (·.address) ∧ l.signer = w.signer

/-- The wallet that a call tries to connect. -/
def WalletCall.target : WalletCall Signer → Option (BaseWallet Signer)
  | .connectWallet availableWallets => availableWallets.head?
  | .connectSpecificWallet w | .selectWallet w => some w
  | _ => none

/-- A step does not connect a wallet while another one refuses to be disconnected. -/
def ReplacesCleanly (l : Link Signer) (x : WalletStep Signer) : Prop :=
  ∀ w, x.call.target = some w → l.connectedWallets ≠ [] → Connects x.out w →
    x.out.disconnect = none

section

variable {out : Outcomes} {l : Link Signer} {w : BaseWallet Signer}

lemma sessionInvariant_none : SessionInvariant (Link.none : Link Signer) where
  atMostOne := Nat.zero_le 1
  selected_eq_none_iff := by simp [Link.none]
  selected_mem w h := by cases h
  account a h := by cases h

/-- Without a selected account, all that matters is that the connected wallet is selected. -/
lemma sessionInvariant_of_account_eq_none (haccount : l.selectedAccount = none)
    (h : l.connectedWallets = l.selectedWallet.toList) : SessionInvariant l where
  atMostOne := by
    rw [h]
    cases l.selectedWallet <;> simp
  selected_eq_none_iff := by
    rw [h]
    cases l.selectedWallet <;> simp
  selected_mem w hw := by rw [h, hw, Option.toList_some]
  account a ha := by
    rw [haccount] at ha
    cases ha

lemma SessionInvariant.connected_eq (h : SessionInvariant l) :
    l.connectedWallets = l.selectedWallet.toList := by
  cases hw : l.selectedWallet with
  | none => exact h.selected_eq_none_iff.mp hw
  | some w => exact h.selected_mem w hw

/-- Nothing is selected as long as no wallet is connected. -/
lemma SessionInvariant.selected_eq_none (h : SessionInvariant l) (hnil : l.connectedWallets = []) :
    l.selectedWallet = none ∧ l.selectedAccount = none := by
  have hwallet := h.selected_eq_none_iff.mpr hnil
  refine ⟨hwallet, ?_⟩
  by_contra hne
  obtain ⟨a, ha⟩ := Option.ne_none_iff_exists'.mp hne
  obtain ⟨w, hw, -⟩ := h.account a ha
  rw [hwallet] at hw
  cases hw

lemma SessionInvariant.disconnect (h : SessionInvariant l) (walletId : Option JsString) :
    SessionInvariant (l.disconnect out walletId) := by
  rw [Link.disconnect]
  split_ifs
  · exact sessionInvariant_none
  · exact h
  · exact sessionInvariant_none
  · exact h

lemma SessionInvariant.cut (h : SessionInvariant l) : SessionInvariant (l.cut out) := by
  rw [Link.cut]
  split_ifs
  · exact sessionInvariant_none
  · exact h

lemma walletFor_eq_some_iff {address : JsString} :
    l.walletFor out address = .ok (some w) ↔
      l.selectedWallet = some w ∧ out.getAccounts = none ∧
        address ∈ w.accounts.map (·.address) := by
  rw [Link.walletFor]
  cases l.selectedWallet with
  | none => simp
  | some v =>
    cases out.getAccounts with
    | some e => simp
    | none =>
      constructor
      · intro h
        simp only [Except.ok.injEq, Option.ite_none_right_eq_some, Option.some.injEq] at h
        obtain ⟨hany, rfl⟩ := h
        simpa using hany
      · rintro ⟨hv, -, hmem⟩
        obtain rfl := Option.some.inj hv
        simpa using hmem

lemma SessionInvariant.select (h : SessionInvariant l) (a : ExtendedInjectedAccountWithMeta) :
    SessionInvariant (l.select out a) := by
  rw [Link.select]
  split
  next w hw =>
    obtain ⟨hselected, -, hmem⟩ := walletFor_eq_some_iff.mp hw
    refine ⟨h.atMostOne, h.selected_eq_none_iff, h.selected_mem, fun b hb => ?_⟩
    obtain rfl := Option.some.inj hb
    exact ⟨w, hselected, hmem, rfl⟩
  next => exact sessionInvariant_of_account_eq_none rfl h.connected_eq

/-- Connecting a wallet keeps the invariant exactly if nothing was connected, or it could be
disconnected, or the new wallet cannot be connected anyway. -/
lemma sessionInvariant_connect_iff (h : SessionInvariant l) :
    SessionInvariant (l.connect out w) ↔
      (l.connectedWallets ≠ [] → Connects out w → out.disconnect = none) := by
  rw [Link.connect]
  split_ifs with hconnects
  · constructor
    · intro hnew hne _
      by_contra hthrows
      -- the old wallet is still there, so the new one is the second
      have hcut : l.cut out = l := by simp [Link.cut, hthrows]
      have hlen := hnew.atMostOne
      rw [hcut, List.length_append, List.length_singleton] at hlen
      have hpos := List.length_pos_iff.mpr hne
      omega
    · intro hclean
      have hnil : (l.cut out).connectedWallets = [] := by
        rw [Link.cut]
        split_ifs with hcut
        · rfl
        · by_contra hne
          exact hcut ⟨hne, hclean hne hconnects⟩
      refine sessionInvariant_of_account_eq_none (h.cut.selected_eq_none hnil).2 ?_
      simp [hnil]
  · exact iff_of_true h.cut fun _ hc => absurd hc hconnects

lemma replacesCleanly_iff_of_target {x : WalletStep Signer}
    (h : x.call.target = some w) :
    ReplacesCleanly l x ↔
      (l.connectedWallets ≠ [] → Connects x.out w → x.out.disconnect = none) := by
  rw [ReplacesCleanly, h]
  simp only [Option.some.injEq, forall_eq']

/-- A step keeps the invariant exactly if it replaces wallets cleanly. -/
lemma sessionInvariant_step_iff (h : SessionInvariant l) (x : WalletStep Signer) :
    SessionInvariant (l.step x) ↔ ReplacesCleanly l x := by
  obtain ⟨call, out⟩ := x
  cases call with
  | connectWallet availableWallets =>
    cases availableWallets with
    | nil => exact iff_of_true h fun w hw => by cases hw
    | cons w ws =>
      exact (sessionInvariant_connect_iff h).trans (replacesCleanly_iff_of_target rfl).symm
  | connectSpecificWallet w | selectWallet w =>
    exact (sessionInvariant_connect_iff h).trans (replacesCleanly_iff_of_target rfl).symm
  | selectAccount a => exact iff_of_true (h.select a) fun w hw => by cases hw
  | disconnectWallet walletId => exact iff_of_true (h.disconnect walletId) fun w hw => by cases hw

end

/-- The session invariant holds after every call of a sequence exactly if no call connects a
wallet while another one refuses to be disconnected. -/
theorem wallet_session_iff (xs : List (WalletStep Signer)) :
    (∀ pre, pre <+: xs → SessionInvariant (run walletStep Session.initial pre).link) ↔
      ∀ o ∈ occurrences xs,
        ReplacesCleanly (run walletStep Session.initial o.past).link o.input := by
  have hinit : SessionInvariant (Session.initial : Session Signer).link := sessionInvariant_none
  refine run_invariant_iff (P := fun s : Session Signer => SessionInvariant s.link)
    (C := fun s x => ReplacesCleanly s.link x) hinit (fun s x h => ?_) xs
  rw [link_walletStep]
  exact sessionInvariant_step_iff h x

/-- A wallet with one account, named by a letter. -/
def demoWallet (letter : UInt16) : BaseWallet ℕ where
  metadata := ⟨[letter], [letter]⟩
  accounts := [⟨[letter], none, none⟩]
  signer := some letter.toNat

/-- The first wallet refuses to be disconnected, and ends up connected beside the second. -/
theorem wallet_session_fails :
    ¬ SessionInvariant (run walletStep Session.initial
      [⟨.selectWallet (demoWallet 97), ⟨none, none, none⟩⟩,
        ⟨.selectWallet (demoWallet 98), ⟨none, none, some .other⟩⟩]).link := by
  intro h
  have hlen := h.atMostOne
  revert hlen
  decide +kernel

end FarcasterNft
