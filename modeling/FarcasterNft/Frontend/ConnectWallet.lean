import FarcasterNft.Frontend.Interleaving
import FarcasterNft.Js.Distinct

/-!
# Connecting a wallet on the page

The dialog `frontend/src/components/ui/modals/ConnectWalletModal.tsx` on the page
(`frontend/src/app/page.tsx` and `frontend/src/components/Demo.tsx`), where the wallet session is
not used otherwise. While a wallet is asked, the user can go on to click on what the page shows of
the dialog, and on the buttons that open it. The other buttons of the page, those that choose a view
and those of the views, change none of the variables here and are left out.
-/

namespace FarcasterNft

open Frame Js Js.Coroutine

variable {Signer : Type}

/-- The state variables of the page, of the dialog and of the session, and the error messages that
the dialog has shown. -/
structure Home (Signer : Type) where
  session : Session Signer
  isConnectModalOpen : Bool
  selectedWallet : Option JsString
  selectedAccountAddress : Option JsString
  toasts : List JsString

def Home.initial : Home Signer where
  session := .initial
  isConnectModalOpen := false
  selectedWallet := none
  selectedAccountAddress := none
  toasts := []

/-- The accounts that the dialog lists: for each address, the first one. -/
def Session.listed (s : Session Signer) : List ExtendedInjectedAccountWithMeta :=
  distinctBy (·.address) s.accounts

/-- What `Demo` passes to the view that it shows, if it shows one. -/
def Session.mounted (api : Bool) (s : Session Signer) :
    Option (ExtendedInjectedAccountWithMeta × Signer) :=
  match s.selectedWallet, s.selectedAccount, s.signer with
  | some _, some account, some signer => if api then some (account, signer) else none
  | _, _, _ => none

/-! ### The dialog -/

namespace ConnectWalletModal

abbrev HomeAction (Signer α : Type) := Coroutine Foreign (Home Signer) α

def setIsConnectModalOpen (b : Bool) : HomeAction Signer Unit :=
  write fun h => { h with isConnectModalOpen := b }

def onClose : HomeAction Signer Unit := setIsConnectModalOpen false

def setSelectedWallet (walletId : Option JsString) : HomeAction Signer Unit :=
  write fun h => { h with selectedWallet := walletId }

def setSelectedAccountAddress (address : Option JsString) : HomeAction Signer Unit :=
  write fun h => { h with selectedAccountAddress := address }

def toastError (message : JsString) : HomeAction Signer Unit :=
  write fun h => { h with toasts := h.toasts ++ [message] }

/-- Update the session. -/
def onSession (f : Session Signer → Session Signer) (h : Home Signer) : Home Signer :=
  { h with session := f h.session }

/-- Await an operation of the session. -/
def useWallet (x : Interleaved.WalletAction Signer Unit) : HomeAction Signer Unit :=
  awaited (x.zoom onSession)

section

variable (render : Home Signer)

def handleConnect (availableWallets : List (BaseWallet Signer)) (walletId : JsString) :
    HomeAction Signer Unit :=
  if walletId = [] then toastError (js "Please select a wallet")
  else
    match availableWallets.find? fun w => w.metadata.id = walletId with
    | none => toastError (js "Selected wallet not found")
    | some wallet =>
      tryCatch
        (do
          useWallet (connectSpecificWallet Interleaved.effects render.session wallet)
          setSelectedWallet (some walletId))
        fun _ => toastError (js "Failed to connect wallet")

/-- `string` is what `String` makes of something thrown that is no `Error`. -/
def handleAccountSelect (string : JsString) : HomeAction Signer Unit :=
  if truthy render.selectedAccountAddress then
    match render.session.accounts.find? fun acc =>
      some acc.address = render.selectedAccountAddress with
    | none => toastError (js "Selected account not found")
    | some account =>
      tryCatch
        (do
          useWallet (selectAccount Interleaved.effects render.session account)
          onClose)
        fun error => toastError (js "Failed to select account: " ++ error.message string)
  else toastError (js "Please select an account")

end

end ConnectWalletModal

/-! ### The page -/

/-- The user clicks on `Connect Wallet` or `Cancel`, on a wallet that is available, on an account,
or on `Select Account`. -/
inductive Click (Signer : Type) where
  | connectWallet
  | cancel
  | wallet (availableWallets : List (BaseWallet Signer)) (walletId : JsString)
  | account (address : JsString)
  | selectAccount (string : JsString)

/-- Whether the page shows what is clicked on. The page has a button `Connect Wallet` as long as
no account is selected, and `Demo` as long as no wallet is. -/
def Home.shows (h : Home Signer) : Click Signer → Bool
  | .connectWallet => h.session.selectedAccount.isNone || h.session.selectedWallet.isNone
  | .cancel => h.isConnectModalOpen
  | .wallet availableWallets walletId =>
    h.isConnectModalOpen && availableWallets.any (·.metadata.id = walletId)
  | .account address => h.isConnectModalOpen && h.session.listed.any (·.address = address)
  | .selectAccount _ =>
    h.isConnectModalOpen && !h.session.accounts.isEmpty && truthy h.selectedAccountAddress &&
      !h.session.isConnecting

open ConnectWalletModal in
/-- What a click starts. -/
def Click.handler (render : Home Signer) : Click Signer → HomeAction Signer Unit
  | .connectWallet => setIsConnectModalOpen true
  | .cancel => onClose
  | .wallet availableWallets walletId => handleConnect render availableWallets walletId
  | .account address => setSelectedAccountAddress (some address)
  | .selectAccount string => handleAccountSelect render string

/-- A click on something that is not there starts nothing. -/
def Click.start (c : Click Signer) (render : Home Signer) :
    ConnectWalletModal.HomeAction Signer Unit :=
  if render.shows c then c.handler render else pure ()

/-- The page after a run of clicks and answers. -/
def homeRun (is : List (Pool.Input (Click Signer))) : Pool Foreign (Home Signer) :=
  run (Pool.step Click.start) (Pool.idle Home.initial) is

/-! ### The account that signs -/

/-- On the page `h`, the dialog is open and `a` is highlighted in it, an account of the selected
wallet, which has the signer. -/
structure Picked (h : Home Signer) (a : ExtendedInjectedAccountWithMeta)
    (signer : Option Signer) : Prop where
  isOpen : h.isConnectModalOpen = true
  highlighted : h.session.listed.filter (fun b => some b.address = h.selectedAccountAddress) = [a]
  wallet : ∃ w, h.session.selectedWallet = some w ∧ a ∈ w.accounts.map w.formatAccount ∧
    signer = w.signer

/-- At some point of the run, the user has picked `a` and clicked on `Select Account`. -/
def PickedIn (is : List (Pool.Input (Click Signer))) (a : ExtendedInjectedAccountWithMeta)
    (signer : Option Signer) : Prop :=
  ∃ o ∈ occurrences is, (∃ string, o.input = .call (.selectAccount string)) ∧
    Picked (homeRun o.past).state a signer

/-- The messages that the dialog shows. -/
def Reported (message : JsString) : Prop :=
  message = js "Please select a wallet" ∨ message = js "Selected account not found"

/-- What holds on the page at any time. -/
def HomeInvariant (Match : ExtendedInjectedAccountWithMeta → Option Signer → Prop)
    (h : Home Signer) : Prop :=
  Interleaved.Tied (fun _ => True) Match h.session ∧ ∀ message ∈ h.toasts, Reported message

section

variable {Match : ExtendedInjectedAccountWithMeta → Option Signer → Prop} {render : Home Signer}

open ConnectWalletModal

lemma keeps_toastError {message : JsString} (h : Reported message) :
    (toastError message : HomeAction Signer Unit).Keeps (HomeInvariant Match) fun _ => True := by
  refine keeps_write (fun s hs => ⟨hs.1, fun m hm => ?_⟩) trivial
  rcases List.mem_append.mp hm with hm | hm
  · exact hs.2 m hm
  · rwa [List.mem_singleton.mp hm]

/-- The operations of the session keep the invariant of the page, and never throw. -/
lemma keeps_useWallet {x : Interleaved.WalletAction Signer Unit}
    (hx : x.Keeps (Interleaved.Tied (fun _ => True) Match) fun r => r = .ok ()) :
    (useWallet x).Keeps (HomeInvariant Match) fun r => r = .ok () :=
  (hx.zoom fun _ hf h hh => ⟨hf h.session hh.1, hh.2⟩).awaited

/-- A handler that awaits an operation of the session never gets to its own messages. -/
lemma keeps_afterWallet {x : Interleaved.WalletAction Signer Unit} {next : HomeAction Signer Unit}
    {handler : Thrown → HomeAction Signer Unit}
    (hx : x.Keeps (Interleaved.Tied (fun _ => True) Match) fun r => r = .ok ())
    (hnext : next.Keeps (HomeInvariant Match) fun r => r = .ok ()) :
    (tryCatch (do useWallet x; next) handler : HomeAction Signer Unit).Keeps
      (HomeInvariant Match) fun _ => True := by
  have hbody : (do useWallet x; next : HomeAction Signer Unit).Keeps
      (HomeInvariant Match) fun r => r = .ok () := by
    refine (keeps_useWallet hx).bind (fun _ _ => hnext) fun e he => ?_
    cases he
  refine hbody.tryCatch (fun _ _ => trivial) fun e he => ?_
  cases he

lemma keeps_handleConnect {availableWallets : List (BaseWallet Signer)} {walletId : JsString}
    (h : availableWallets.any (·.metadata.id = walletId) = true) :
    (handleConnect render availableWallets walletId).Keeps (HomeInvariant Match)
      fun _ => True := by
  rw [handleConnect]
  split_ifs
  · exact keeps_toastError (Or.inl rfl)
  · cases hfind : availableWallets.find? fun w => w.metadata.id = walletId with
    | none =>
      rw [List.find?_eq_none] at hfind
      rw [List.any_eq_true] at h
      obtain ⟨w, hw, hid⟩ := h
      exact absurd hid (hfind w hw)
    | some wallet =>
      exact keeps_afterWallet (Interleaved.keeps_connectSpecificWallet trivial)
        (keeps_write (fun _ hs => hs) rfl)

lemma keeps_handleAccountSelect {string : JsString}
    (htruthy : truthy render.selectedAccountAddress = true)
    (h : ∀ account w, render.session.accounts.find? (fun acc =>
        some acc.address = render.selectedAccountAddress) = some account →
      render.session.selectedWallet = some w → Match account w.signer) :
    (handleAccountSelect render string).Keeps (HomeInvariant Match) fun _ => True := by
  rw [handleAccountSelect, if_pos htruthy]
  cases hfind : render.session.accounts.find? fun acc =>
    some acc.address = render.selectedAccountAddress with
  | none => exact keeps_toastError (Or.inr rfl)
  | some account =>
    refine keeps_afterWallet (Interleaved.keeps_selectAccount fun w hw _ => ?_)
      (keeps_write (fun _ hs => hs) rfl)
    exact h account w hfind hw

end

/-- What is found for the highlighted address is the one account that is highlighted. -/
lemma listed_filter_eq {h : Home Signer} {account : ExtendedInjectedAccountWithMeta}
    (hfind : h.session.accounts.find? (fun acc => some acc.address = h.selectedAccountAddress) =
      some account) :
    h.session.listed.filter (fun b => some b.address = h.selectedAccountAddress) = [account] := by
  cases haddress : h.selectedAccountAddress with
  | none => exact absurd (List.find?_some hfind) (by simp [haddress])
  | some address =>
    simp only [haddress, Option.some.injEq] at hfind ⊢
    exact filter_distinctBy hfind

/-- Whatever is clicked on and however the wallets answer, an account and its signer are only set
if they have been picked, and the dialog shows two messages at most. -/
theorem homeInvariant_run (is : List (Pool.Input (Click Signer))) :
    HomeInvariant (PickedIn is) (homeRun is).state := by
  have init : HomeInvariant (PickedIn is) Home.initial :=
    ⟨⟨rfl, by rintro w ⟨⟩, by rintro a ⟨⟩⟩, by rintro m ⟨⟩⟩
  refine (Pool.safe_run init fun o ho c hinput hs => ?_).1
  rw [← homeRun] at hs ⊢
  rw [Click.start]
  split_ifs with hshows
  · cases c with
    | connectWallet | cancel | account => exact keeps_write (fun _ hh => hh) trivial
    | wallet availableWallets walletId =>
      simp only [Home.shows, Bool.and_eq_true] at hshows
      exact keeps_handleConnect hshows.2
    | selectAccount string =>
      simp only [Home.shows, Bool.and_eq_true] at hshows
      obtain ⟨⟨⟨hopen, -⟩, htruthy⟩, -⟩ := hshows
      refine keeps_handleAccountSelect htruthy fun account w hfind hw => ?_
      refine ⟨o, ho, ⟨string, hinput⟩, hopen, listed_filter_eq hfind, w, hw, ?_, rfl⟩
      have hmem := List.mem_of_find?_eq_some hfind
      rw [hs.1.1, hw] at hmem
      exact hmem
  · exact keeps_stop trivial

/-- The dialog lists every account of the selected wallet, and none twice. -/
theorem accounts_are_listed (is : List (Pool.Input (Click Signer))) {w : BaseWallet Signer}
    (hw : (homeRun is).state.session.selectedWallet = some w) {x : WalletAccount}
    (hx : x ∈ w.accounts) :
    ∃ a, (homeRun is).state.session.listed.filter (fun b => b.address = x.address) = [a] := by
  have hacc := (homeInvariant_run is).1.1
  rw [hw] at hacc
  have hmem : w.formatAccount x ∈ (homeRun is).state.session.accounts := by
    rw [hacc]
    exact List.mem_map_of_mem hx
  exact exists_filter_distinctBy hmem

/-- The account and the signer that a view is given have been picked together: at some point of
the run, the account was highlighted in the dialog, as the only one, when the user clicked on
`Select Account`, and the signer is that of the wallet which was selected then and listed it. -/
theorem signing_account_was_picked (is : List (Pool.Input (Click Signer))) {api : Bool}
    {account : ExtendedInjectedAccountWithMeta} {signer : Signer}
    (h : (homeRun is).state.session.mounted api = some (account, signer)) :
    ∃ o ∈ occurrences is, (∃ string, o.input = .call (.selectAccount string)) ∧
      Picked (homeRun o.past).state account (some signer) := by
  obtain ⟨⟨-, -, haccount⟩, -⟩ := homeInvariant_run is
  revert h haccount
  rw [Session.mounted]
  split
  · next w a s hw ha hs =>
    intro h haccount
    split_ifs at h with hapi
    cases h
    have hpicked := haccount account ha
    rw [hs] at hpicked
    exact hpicked
  · rintro ⟨⟩

/-- The user connects a wallet with one account, and selects it. -/
def demoClicks : List (Pool.Input (Click ℕ)) :=
  [.call .connectWallet, .call (.wallet [demoWallet 97] [97]), .settle 0 none, .settle 0 none,
    .settle 0 none, .call (.account [97]), .call (.selectAccount []), .settle 0 none,
    .settle 0 none, .settle 0 none]

theorem signing_account_was_picked_demo :
    ∃ o ∈ occurrences demoClicks, (∃ string, o.input = .call (.selectAccount string)) ∧
      Picked (homeRun o.past).state ((demoWallet 97).formatAccount ⟨[97], none, none⟩) (some 97) :=
  have hmounted : (homeRun demoClicks).state.session.mounted true =
      some ((demoWallet 97).formatAccount ⟨[97], none, none⟩, 97) := by decide +kernel
  signing_account_was_picked demoClicks hmounted

/-- The dialog has no message for a wallet that fails: all it ever says is that a wallet without
an id cannot be selected, or that a highlighted account is not there any more. -/
theorem failures_are_not_reported (is : List (Pool.Input (Click Signer))) :
    (homeRun is).state.toasts ⊆ [js "Please select a wallet", js "Selected account not found"] := by
  intro message hmessage
  rcases (homeInvariant_run is).2 message hmessage with rfl | rfl
  · exact List.mem_cons_self
  · exact List.mem_cons_of_mem _ List.mem_cons_self

/-! ### Clicks one after the other -/

/-- As long as the dialog is open, no account is selected, and none without a wallet. -/
def Consistent (h : Home Signer) : Prop :=
  Interleaved.Tied (fun _ => True) (fun _ _ => True) h.session ∧
    (h.session.selectedAccount ≠ none →
      h.isConnectModalOpen = false ∧ h.session.selectedWallet ≠ none)

section

open ConnectWalletModal

variable {h : Home Signer}

lemma Consistent.of_none (htied : Interleaved.Tied (fun _ => True) (fun _ _ => True) h.session)
    (hnone : h.session.selectedAccount = none) : Consistent h :=
  ⟨htied, fun hsome => absurd hnone hsome⟩

lemma Consistent.selectedAccount_eq_none (hh : Consistent h) (hopen : h.isConnectModalOpen = true) :
    h.session.selectedAccount = none := by
  by_contra hsome
  have hclosed := (hh.2 hsome).1
  rw [hopen] at hclosed
  cases hclosed

/-- What the session ends in does not depend on the page around it. -/
lemma ends_useWallet {x : Interleaved.WalletAction Signer Unit}
    {Q : Except Thrown Unit → Session Signer → Prop} (hx : x.Ends Q h.session) :
    (useWallet x).Ends (fun r h => Q r h.session) h :=
  ends_awaited.mpr (hx.zoom fun _ _ => rfl)

/-- Connecting a wallet selects no account. -/
lemma ends_handleConnect (hh : Consistent h) (hopen : h.isConnectModalOpen = true)
    (availableWallets : List (BaseWallet Signer)) (walletId : JsString) :
    (handleConnect h availableWallets walletId).Ends (fun _ => Consistent) h := by
  have hnone := hh.selectedAccount_eq_none hopen
  rw [handleConnect]
  split_ifs
  · exact Consistent.of_none hh.1 hnone
  · cases availableWallets.find? fun w => w.metadata.id = walletId with
    | none => exact Consistent.of_none hh.1 hnone
    | some wallet =>
      have hunselected : Interleaved.Tied (fun _ => True) (fun _ _ => False) h.session := by
        refine ⟨hh.1.1, hh.1.2.1, fun a ha => ?_⟩
        rw [hnone] at ha
        cases ha
      have hkeeps : (connectSpecificWallet Interleaved.effects h.session wallet).Keeps
          (Interleaved.Tied (fun _ => True) fun _ _ => False) fun r => r = .ok () :=
        Interleaved.keeps_connectSpecificWallet trivial
      rw [ends_tryCatch, ends_bind]
      refine (ends_useWallet (hkeeps.ends hunselected)).mono fun r t ht => ?_
      obtain ⟨rfl, hacc, hknown, hsome⟩ := ht
      refine Consistent.of_none ⟨hacc, hknown, fun _ _ => trivial⟩ ?_
      rw [Option.eq_none_iff_forall_ne_some]
      exact fun a ha => hsome a ha

/-- Selecting an account closes the dialog. -/
lemma ends_handleAccountSelect (hh : Consistent h) (hopen : h.isConnectModalOpen = true)
    (string : JsString) : (handleAccountSelect h string).Ends (fun _ => Consistent) h := by
  have hnone := hh.selectedAccount_eq_none hopen
  rw [handleAccountSelect]
  split_ifs
  · cases h.session.accounts.find? fun acc => some acc.address = h.selectedAccountAddress with
    | none => exact Consistent.of_none hh.1 hnone
    | some account =>
      have hkeeps : (selectAccount Interleaved.effects h.session account).Keeps
          (Interleaved.Tied (fun _ => True) fun _ _ => True) fun r => r = .ok () :=
        Interleaved.keeps_selectAccount fun _ _ _ => trivial
      have hends := (hkeeps.ends hh.1).and (Interleaved.ends_selectAccount h.session account)
      rw [ends_tryCatch, ends_bind]
      refine (ends_useWallet hends).mono fun r t ht => ?_
      obtain ⟨⟨rfl, htied⟩, hselected⟩ := ht
      exact ⟨htied, fun hsome => ⟨rfl, hselected hsome⟩⟩
  · exact Consistent.of_none hh.1 hnone

lemma ends_start (c : Click Signer) (hh : Consistent h) :
    (c.start h).Ends (fun _ => Consistent) h := by
  rw [Click.start]
  split_ifs with hshows
  · cases c with
    | connectWallet =>
      refine ⟨hh.1, fun hsome => ?_⟩
      obtain ⟨-, hwallet⟩ := hh.2 hsome
      simp only [Home.shows, Bool.or_eq_true, Option.isNone_iff_eq_none] at hshows
      rcases hshows with hnone | hnone
      · exact absurd hnone hsome
      · exact absurd hnone hwallet
    | cancel => exact ⟨hh.1, fun hsome => ⟨rfl, (hh.2 hsome).2⟩⟩
    | wallet availableWallets walletId =>
      simp only [Home.shows, Bool.and_eq_true] at hshows
      exact ends_handleConnect hh hshows.1 availableWallets walletId
    | account address => exact hh
    | selectAccount string =>
      simp only [Home.shows, Bool.and_eq_true] at hshows
      exact ends_handleAccountSelect hh hshows.1.1.1 string
  · exact hh

/-- With an account selected, neither the dialog nor a button that opens it is there any more. -/
lemma Consistent.start_eq (hh : Consistent h) (hsome : h.session.selectedAccount ≠ none)
    (c : Click Signer) : c.start h = pure () := by
  obtain ⟨hclosed, hwallet⟩ := hh.2 hsome
  rw [Click.start, if_neg]
  cases c <;> simp [Home.shows, hclosed, hsome, hwallet]

end

/-- Where the user clicks on nothing while a wallet is asked, the account is final: once one is
selected and nothing is going on any more, no click on the dialog or on a button that opens it
changes the dialog or the session afterwards. -/
theorem account_is_final (is later : List (Pool.Input (Click Signer)))
    (horderly : Pool.Orderly Click.start Home.initial is)
    (hidle : (homeRun is).pending = [])
    (hsome : (homeRun is).state.session.selectedAccount ≠ none) :
    homeRun (is ++ later) = homeRun is := by
  have init : Consistent (Home.initial : Home Signer) :=
    Consistent.of_none ⟨rfl, by rintro w ⟨⟩, fun _ _ => trivial⟩ rfl
  have hconsistent : Consistent (homeRun is).state := by
    rcases Pool.heading_run init (fun c h hh => ends_start c hh) horderly with
      ⟨-, h⟩ | ⟨resume, hone, -⟩
    · exact h
    · rw [← homeRun, hidle] at hone
      cases hone
  induction later using List.reverseRecOn with
  | nil => rw [List.append_nil]
  | append_singleton later i ih =>
    rw [← List.append_assoc, homeRun, run_concat, ← homeRun, ih]
    cases i with
    | call c =>
      rw [Pool.step, hconsistent.start_eq hsome c]
      rfl
    | settle i o =>
      rw [Pool.step, hidle]
      rfl

theorem account_is_final_demo :
    homeRun (demoClicks ++ [.call .connectWallet]) = homeRun demoClicks :=
  have hidle : (homeRun demoClicks).pending = [] :=
    List.isEmpty_iff.mp (by decide +kernel)
  account_is_final demoClicks [.call .connectWallet] (Pool.orderly_iff_all.mpr (by decide +kernel))
    hidle (by decide +kernel)

end FarcasterNft
