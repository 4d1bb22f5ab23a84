import FarcasterNft.Frontend.Wallet
import FarcasterNft.Js.Coroutines

/-!
# The wallet session where operations overlap

The operations of `frontend/src/contexts/WalletContext.tsx` as coroutines: while one of them awaits
a wallet or another operation, others run. An operation reads the state variables as they were when
it was called (`render`) also after it has been resumed. Run alone, each does what it does as a
program.
-/

namespace FarcasterNft

open Frame Js Js.Coroutine

namespace Interleaved

variable {Signer : Type}

abbrev WalletAction (Signer α : Type) := Coroutine Foreign (Session Signer) α

/-- The effects of an operation that is interrupted wherever it awaits something. -/
def effects : Effects Signer (Coroutine Foreign (Session Signer)) where
  update := write
  call := call
  awaited := awaited

@[simp] lemma effects_update (f : Session Signer → Session Signer) :
    (effects.update f : WalletAction Signer Unit) = write f := rfl

@[simp] lemma effects_call (k : Foreign) :
    (effects.call k : WalletAction Signer Unit) = call k := rfl

@[simp] lemma effects_awaited {α : Type} (x : WalletAction Signer α) :
    effects.awaited x = awaited x := rfl

/-- The coroutine of a call. -/
def apply (render : Session Signer) (c : WalletCall Signer) : WalletAction Signer Unit :=
  c.apply effects render

/-- One step of the session where operations overlap. -/
abbrev sessionStep : Pool Foreign (Session Signer) → Pool.Input (WalletCall Signer) →
    Pool Foreign (Session Signer) :=
  Pool.step fun c render => apply render c

/-! ### Alone, the operations are those of the session -/

section

variable (out : Outcomes) (render : Session Signer)

lemma implements_update (f : Session Signer → Session Signer) :
    Implements out.answer (effects.update f) (out.effects.update f) := implements_write f

lemma implements_effects_call (k : Foreign) :
    Implements out.answer (effects.call k : WalletAction Signer Unit) (out.effects.call k) :=
  implements_call k

lemma implements_awaited {α : Type} {x : WalletAction Signer α}
    {p : FarcasterNft.WalletAction Signer α} (h : Implements out.answer x p) :
    Implements out.answer (effects.awaited x) (out.effects.awaited p) := h.awaited

lemma implements_getAccounts (w : BaseWallet Signer) :
    Implements out.answer (w.getAccounts effects) (w.getAccounts out.effects) :=
  (implements_effects_call out .getAccounts).bind fun _ => implements_pure _

lemma implements_cleanUp :
    Implements out.answer (cleanUp effects : WalletAction Signer Unit) (cleanUp out.effects) :=
  fun _ => rfl

lemma implements_getWalletForAccount (address : JsString) :
    Implements out.answer (getWalletForAccount effects render address)
      (getWalletForAccount out.effects render address) := by
  rw [getWalletForAccount, getWalletForAccount]
  cases render.selectedWallet with
  | none => exact implements_pure none
  | some wallet => exact (implements_getAccounts out wallet).bind fun _ => implements_pure _

lemma implements_disconnectBody (walletId : Option JsString) :
    Implements out.answer (disconnectBody effects render walletId)
      (disconnectBody out.effects render walletId) := by
  have hcut : Implements out.answer
      (do effects.call .disconnect; cleanUp effects : WalletAction Signer Unit)
      (do out.effects.call .disconnect; cleanUp out.effects) :=
    (implements_effects_call out .disconnect).bind fun _ => implements_cleanUp out
  rw [disconnectBody, disconnectBody]
  split_ifs
  · cases render.connectedWallets.find? fun w => some w.metadata.id = walletId with
    | none => exact implements_pure ()
    | some _ => exact hcut
  · exact hcut
  · exact (implements_pure ()).bind fun _ => implements_cleanUp out

lemma implements_disconnectWallet (walletId : Option JsString) :
    Implements out.answer (disconnectWallet effects render walletId)
      (disconnectWallet out.effects render walletId) := by
  refine Implements.tryCatch ?_ fun _ => implements_update out _
  exact (implements_disconnectBody out render walletId).bind fun _ => implements_update out _

lemma implements_whileConnecting {body : WalletAction Signer Unit}
    {onError : Thrown → WalletAction Signer Unit} {body' : FarcasterNft.WalletAction Signer Unit}
    {onError' : Thrown → FarcasterNft.WalletAction Signer Unit}
    (hbody : Implements out.answer body body')
    (hError : ∀ e, Implements out.answer (onError e) (onError' e)) :
    Implements out.answer (whileConnecting effects body onError)
      (whileConnecting out.effects body' onError') := by
  refine Implements.bind (Implements.tryCatch ?_ hError) fun _ => implements_update out _
  exact (implements_update out _).bind fun _ => (implements_update out _).bind fun _ => hbody

lemma implements_disconnectPrevious :
    Implements out.answer (disconnectPrevious effects render)
      (disconnectPrevious out.effects render) := by
  rw [disconnectPrevious, disconnectPrevious]
  cases render.connectedWallets with
  | nil => exact implements_pure ()
  | cons previous ws => exact implements_awaited out (implements_disconnectWallet out render _)

lemma implements_setConnected (wallet : BaseWallet Signer) (walletAccounts : List WalletAccount) :
    Implements out.answer (setConnected effects wallet walletAccounts)
      (setConnected out.effects wallet walletAccounts) := by
  rw [setConnected, setConnected]
  split_ifs
  · exact implements_throw _
  · exact fun _ => rfl

lemma implements_connectSpecificWallet (wallet : BaseWallet Signer) :
    Implements out.answer (connectSpecificWallet effects render wallet)
      (connectSpecificWallet out.effects render wallet) := by
  refine implements_whileConnecting out ?_ fun _ => implements_update out _
  refine (implements_disconnectPrevious out render).bind fun _ => ?_
  refine (implements_effects_call out .connect).bind fun _ => ?_
  refine (implements_getAccounts out wallet).bind fun walletAccounts => ?_
  exact implements_setConnected out wallet walletAccounts

lemma implements_selectAccount (account : ExtendedInjectedAccountWithMeta) :
    Implements out.answer (selectAccount effects render account)
      (selectAccount out.effects render account) := by
  refine implements_whileConnecting out ?_ fun _ _ => rfl
  have hfound := implements_getWalletForAccount out render account.address
  refine (implements_awaited out hfound).bind fun wallet => ?_
  cases wallet with
  | none => exact implements_throw _
  | some wallet => exact fun _ => rfl

end

/-- Alone, every call does what it does as a program. -/
theorem implements_apply (out : Outcomes) (render : Session Signer) (c : WalletCall Signer) :
    Implements out.answer (apply render c) (c.apply out.effects render) := by
  cases c with
  | connectWallet availableWallets =>
    refine implements_whileConnecting out ?_ fun _ => implements_update out _
    cases availableWallets with
    | nil => exact implements_throw _
    | cons wallet ws =>
      exact implements_awaited out (implements_connectSpecificWallet out render wallet)
  | connectSpecificWallet wallet => exact implements_connectSpecificWallet out render wallet
  | selectWallet wallet =>
    refine implements_whileConnecting out ?_ fun _ => implements_update out _
    exact implements_awaited out (implements_connectSpecificWallet out render wallet)
  | selectAccount account => exact implements_selectAccount out render account
  | disconnectWallet walletId => exact implements_disconnectWallet out render walletId

/-- The run makes the calls of the session in their order, and after each there are only answers,
which are as the step has them. -/
inductive Follows : List (WalletStep Signer) → List (Pool.Input (WalletCall Signer)) → Prop where
  | nil : Follows [] []
  | step {xs : List (WalletStep Signer)} {is js : List (Pool.Input (WalletCall Signer))}
      (x : WalletStep Signer) (h : Follows xs is)
      (hanswers : ∀ j ∈ js, ∃ k : Option Foreign, j = .settle 0 (k.bind x.out.answer)) :
      Follows (xs ++ [x]) (is ++ [.call x.call] ++ js)

lemma Follows.calls_eq {xs : List (WalletStep Signer)}
    {is : List (Pool.Input (WalletCall Signer))} (h : Follows xs is) :
    Pool.calls is = xs.map (·.call) := by
  induction h with
  | nil => rfl
  | @step xs is js x h hanswers ih =>
    have hnone : Pool.calls js = [] := by
      refine Pool.calls_eq_nil fun j hj => ?_
      obtain ⟨k, rfl⟩ := hanswers j hj
      exact ⟨_, _, rfl⟩
    simp [Pool.calls, ih, hnone]

/-- Where no two calls overlap, the pool goes through the states of the session: the same calls with
the same answers lead to the same state. -/
theorem session_is_orderly_run (xs : List (WalletStep Signer)) :
    ∃ is : List (Pool.Input (WalletCall Signer)),
      Follows xs is ∧ Pool.calls is = xs.map (·.call) ∧
      Pool.Orderly (fun c render => apply render c) Session.initial is ∧
      run sessionStep (Pool.idle Session.initial) is =
        Pool.idle (run walletStep Session.initial xs) := by
  suffices h : ∃ is, Follows xs is ∧
      Pool.Orderly (fun c render => apply render c) Session.initial is ∧
      run sessionStep (Pool.idle Session.initial) is =
        Pool.idle (run walletStep Session.initial xs) by
    obtain ⟨is, hfollows, h⟩ := h
    exact ⟨is, hfollows, hfollows.calls_eq, h⟩
  induction xs using List.reverseRecOn with
  | nil => exact ⟨[], .nil, Pool.orderly_nil, rfl⟩
  | append_singleton xs x ih =>
    obtain ⟨is, hfollows, horderly, hrun⟩ := ih
    obtain ⟨js, hjs, halone⟩ := Pool.run_alone
      (fun (c : WalletCall Signer) render => apply render c) x.out.answer
      (apply (run walletStep Session.initial xs) x.call) (run walletStep Session.initial xs)
    refine ⟨is ++ [.call x.call] ++ js, hfollows.step x hjs, Pool.Orderly.append_settles ?_ ?_, ?_⟩
    · refine Pool.orderly_concat.mpr ⟨horderly, fun _ _ => ?_⟩
      exact congrArg Pool.pending hrun
    · intro j hj
      obtain ⟨k, rfl⟩ := hjs j hj
      exact ⟨_, _, rfl⟩
    · rw [run, List.foldl_append, ← run, ← run, run_concat, hrun, run_concat, walletStep,
        ← implements_apply x.out _ x.call]
      exact halone

/-! ### What every segment keeps -/

/-- The accounts that are offered if `w` is the selected wallet. -/
def offeredBy (w : Option (BaseWallet Signer)) : List ExtendedInjectedAccountWithMeta :=
  w.elim [] fun w => w.accounts.map w.formatAccount

/-- The accounts are those of the selected wallet, which is a `Known` one, and a selected account
and the signer are a `Match`. -/
def Tied (Known : BaseWallet Signer → Prop)
    (Match : ExtendedInjectedAccountWithMeta → Option Signer → Prop) (s : Session Signer) : Prop :=
  s.accounts = offeredBy s.selectedWallet ∧ (∀ w, s.selectedWallet = some w → Known w) ∧
    ∀ a, s.selectedAccount = some a → Match a s.signer

section

variable {Known : BaseWallet Signer → Prop}
  {Match : ExtendedInjectedAccountWithMeta → Option Signer → Prop} {render : Session Signer}

/-- The state variables that the invariant does not read can be set to anything. -/
lemma keeps_setIsConnecting (b : Bool) :
    (setIsConnecting effects b : WalletAction Signer Unit).Keeps (Tied Known Match)
      fun r => r = .ok () :=
  keeps_write (fun _ hs => hs) rfl

lemma keeps_setError (e : Option JsString) :
    (setError effects e : WalletAction Signer Unit).Keeps (Tied Known Match) fun r => r = .ok () :=
  keeps_write (fun _ hs => hs) rfl

lemma keeps_cleanUp :
    (cleanUp effects : WalletAction Signer Unit).Keeps (Tied Known Match) fun r => r = .ok () := by
  refine ⟨fun s _ => ⟨rfl, ?_, ?_⟩, rfl⟩
  · rintro w ⟨⟩
  · rintro a ⟨⟩

lemma keeps_getAccounts (w : BaseWallet Signer) :
    (w.getAccounts effects).Keeps (Tied Known Match)
      fun r => ∀ as, r = .ok as → as = w.accounts := by
  refine (keeps_call _).bind (fun _ _ => keeps_stop ?_) fun e _ as h => ?_
  · rintro as ⟨⟩
    rfl
  · cases h

/-- A wallet that is found for an account is the selected one, and lists the address. -/
lemma keeps_getWalletForAccount (address : JsString) :
    (getWalletForAccount effects render address).Keeps (Tied Known Match) fun r =>
      ∀ w, r = .ok (some w) →
        render.selectedWallet = some w ∧ address ∈ w.accounts.map (·.address) := by
  rw [getWalletForAccount]
  cases render.selectedWallet with
  | none =>
    refine keeps_stop ?_
    rintro w ⟨⟩
  | some wallet =>
    refine (keeps_getAccounts wallet).bind (fun as has => keeps_stop ?_) fun e _ w h => ?_
    · obtain rfl := has as rfl
      intro w hw
      split_ifs at hw with hany
      · cases hw
        exact ⟨rfl, by simpa using hany⟩
      · cases hw
    · cases h

/-- Between `setIsConnecting(true)` and `setIsConnecting(false)`, whatever is thrown is caught. -/
lemma keeps_whileConnecting {body : WalletAction Signer Unit}
    {onError : Thrown → WalletAction Signer Unit}
    (hbody : body.Keeps (Tied Known Match) fun _ => True)
    (hError : ∀ e, (onError e).Keeps (Tied Known Match) fun r => r = .ok ()) :
    (whileConnecting effects body onError).Keeps (Tied Known Match) fun r => r = .ok () := by
  have htry : (tryCatch (do setIsConnecting effects true; setError effects none; body) onError :
      WalletAction Signer Unit).Keeps (Tied Known Match) fun r => r = .ok () := by
    refine Keeps.tryCatch (R := fun _ => True) ?_ (fun _ _ => rfl) fun e _ => hError e
    refine (keeps_setIsConnecting true).bind (fun _ _ => ?_) fun _ _ => trivial
    exact (keeps_setError none).bind (fun _ _ => hbody) fun _ _ => trivial
  refine htry.bind (fun _ _ => keeps_setIsConnecting false) fun e he => ?_
  cases he

lemma keeps_disconnectBody (walletId : Option JsString) :
    (disconnectBody effects render walletId).Keeps (Tied Known Match) fun _ => True := by
  have hclean : (cleanUp effects : WalletAction Signer Unit).Keeps (Tied Known Match)
      fun _ => True :=
    keeps_cleanUp.mono fun _ _ => trivial
  have hcut : (do effects.call .disconnect; cleanUp effects : WalletAction Signer Unit).Keeps
      (Tied Known Match) fun _ => True :=
    (keeps_call _).bind (fun _ _ => hclean) fun _ _ => trivial
  rw [disconnectBody]
  split_ifs
  · split
    · exact hcut
    · exact keeps_stop trivial
  · exact hcut
  · exact hclean

lemma keeps_disconnectWallet (walletId : Option JsString) :
    (disconnectWallet effects render walletId).Keeps (Tied Known Match) fun r => r = .ok () := by
  refine Keeps.tryCatch (R := fun _ => True) ?_ (fun _ _ => rfl) fun e _ => keeps_setError _
  refine (keeps_disconnectBody walletId).bind (fun _ _ => ?_) fun _ _ => trivial
  exact (keeps_setError none).mono fun _ _ => trivial

lemma keeps_disconnectPrevious :
    (disconnectPrevious effects render).Keeps (Tied Known Match) fun r => r = .ok () := by
  rw [disconnectPrevious]
  split
  · exact (keeps_disconnectWallet _).awaited
  · exact keeps_stop rfl

lemma keeps_setConnected {wallet : BaseWallet Signer} (h : Known wallet) :
    (setConnected effects wallet wallet.accounts).Keeps (Tied Known Match) fun _ => True := by
  rw [setConnected]
  split_ifs
  · exact keeps_stop trivial
  · refine ⟨fun s hs => ⟨rfl, ?_, hs.2.2⟩, trivial⟩
    rintro w ⟨⟩
    exact h

lemma keeps_connectSpecificWallet {wallet : BaseWallet Signer} (h : Known wallet) :
    (connectSpecificWallet effects render wallet).Keeps (Tied Known Match) fun r => r = .ok () := by
  refine keeps_whileConnecting ?_ fun e => keeps_setError _
  refine keeps_disconnectPrevious.bind (fun _ _ => ?_) fun _ _ => trivial
  refine (keeps_call _).bind (fun _ _ => ?_) fun _ _ => trivial
  refine (keeps_getAccounts wallet).bind (fun as has => ?_) fun _ _ => trivial
  obtain rfl := has as rfl
  exact keeps_setConnected h

/-- The account and the signer are set in one segment. -/
lemma keeps_selectAccount {account : ExtendedInjectedAccountWithMeta}
    (h : ∀ w, render.selectedWallet = some w →
      account.address ∈ w.accounts.map (·.address) → Match account w.signer) :
    (selectAccount effects render account).Keeps (Tied Known Match) fun r => r = .ok () := by
  refine keeps_whileConnecting ?_ fun e => ⟨fun s hs => ⟨hs.1, hs.2.1, ?_⟩, rfl⟩
  · refine (keeps_getWalletForAccount account.address).awaited.bind (fun wallet hwallet => ?_)
      fun _ _ => trivial
    cases wallet with
    | none => exact keeps_stop trivial
    | some w =>
      obtain ⟨hselected, hlists⟩ := hwallet w rfl
      refine ⟨fun s hs => ⟨hs.1, hs.2.1, ?_⟩, trivial⟩
      rintro a ⟨⟩
      exact h w hselected hlists
  · rintro a ⟨⟩

lemma keeps_apply {c : WalletCall Signer} (htarget : ∀ w, c.target = some w → Known w)
    (hselect : ∀ account w, c = .selectAccount account → render.selectedWallet = some w →
      account.address ∈ w.accounts.map (·.address) → Match account w.signer) :
    (apply render c).Keeps (Tied Known Match) fun r => r = .ok () := by
  cases c with
  | connectWallet availableWallets =>
    refine keeps_whileConnecting ?_ fun e => keeps_setError _
    cases availableWallets with
    | nil => exact keeps_stop trivial
    | cons wallet ws =>
      exact (keeps_connectSpecificWallet (htarget wallet rfl)).awaited.mono fun _ _ => trivial
  | connectSpecificWallet wallet => exact keeps_connectSpecificWallet (htarget wallet rfl)
  | selectWallet wallet =>
    refine keeps_whileConnecting ?_ fun e => keeps_setError _
    exact (keeps_connectSpecificWallet (htarget wallet rfl)).awaited.mono fun _ _ => trivial
  | selectAccount account => exact keeps_selectAccount fun w => hselect account w rfl
  | disconnectWallet walletId => exact keeps_disconnectWallet walletId

end

/-- Alone, what is found for an account is the selected wallet or nothing. -/
lemma ends_getWalletForAccount {render s : Session Signer} {address : JsString}
    {Q : Except Thrown (Option (BaseWallet Signer)) → Session Signer → Prop}
    (hnone : Q (.ok none) s)
    (hsome : ∀ w, render.selectedWallet = some w → Q (.ok (some w)) s)
    (herror : ∀ e, Q (.error e) s) : (getWalletForAccount effects render address).Ends Q s := by
  rw [getWalletForAccount]
  cases hw : render.selectedWallet with
  | none => exact hnone
  | some w =>
    simp only [BaseWallet.getAccounts, effects_call, ends_bind, ends_call]
    intro o
    cases o with
    | none =>
      simp only [returned_none, onValue_ok, ends_pure]
      split_ifs
      · exact hsome w hw
      · exact hnone
    | some e => exact herror e

/-- Alone, an account is only selected if a wallet is, which stays selected. -/
lemma ends_selectAccount (s : Session Signer) (account : ExtendedInjectedAccountWithMeta) :
    (selectAccount effects s account).Ends
      (fun _ t => t.selectedAccount ≠ none → t.selectedWallet ≠ none) s := by
  rw [selectAccount, whileConnecting]
  simp only [setIsConnecting, setError, effects_update, effects_awaited, ends_bind, ends_tryCatch,
    ends_write, onValue_ok, ends_awaited]
  refine ends_getWalletForAccount ?_ (fun w hw => ?_) fun e => ?_
  · simp [setSelected, setSelectedAccount, setSigner]
  · simp [setSelected, setSelectedAccount, setSigner, hw]
  · simp [setSelectedAccount, setSigner]

/-- Some call of the run is to connect the wallet. -/
def Targeted (is : List (Pool.Input (WalletCall Signer))) (w : BaseWallet Signer) : Prop :=
  ∃ c, .call c ∈ is ∧ c.target = some w

/-- Some call of the run is to select the account, and the signer is that of a wallet of the run
which lists the address. -/
def Matches (is : List (Pool.Input (WalletCall Signer))) (a : ExtendedInjectedAccountWithMeta)
    (signer : Option Signer) : Prop :=
  .call (.selectAccount a) ∈ is ∧
    ∃ w, Targeted is w ∧ a.address ∈ w.accounts.map (·.address) ∧ signer = w.signer

/-- However the calls of a run overlap, and whatever becomes of the calls into the wallets, which
have a fixed list of accounts each: the accounts are always those of the selected wallet, and the
signer is always that of a wallet which lists the selected account. -/
theorem signer_matches_account (is : List (Pool.Input (WalletCall Signer))) :
    Tied (Targeted is) (Matches is) (run sessionStep (Pool.idle Session.initial) is).state := by
  have init : Tied (Targeted is) (Matches is) Session.initial :=
    ⟨rfl, by rintro w ⟨⟩, by rintro a ⟨⟩⟩
  refine (Pool.safe_run init fun o ho c hinput hs => ?_).1
  have hmem : .call c ∈ is := by
    obtain ⟨later, hlater⟩ := mem_occurrences.mp ho
    rw [hlater, hinput]
    simp
  refine Keeps.mono (keeps_apply (fun w hw => ⟨c, hmem, hw⟩) fun a w hc hw hlists => ?_)
    fun _ _ => trivial
  obtain rfl := hc
  exact ⟨hmem, w, hs.2.1 w hw, hlists, rfl⟩

/-- The wallet need not be the selected one: here it is disconnected while it is asked. -/
example :
    let s := (run sessionStep (Pool.idle (Session.initial : Session ℕ))
      [.call (.connectSpecificWallet (demoWallet 97)), .settle 0 none, .settle 0 none,
        .call (.selectAccount ((demoWallet 97).formatAccount ⟨[97], none, none⟩)),
        .call (.disconnectWallet none), .settle 1 none, .settle 0 none, .settle 0 none]).state
    s.selectedWallet.isNone ∧ s.selectedAccount.isSome ∧ s.signer = some 97 := by
  decide +kernel

end Interleaved

end FarcasterNft
