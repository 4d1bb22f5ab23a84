import FarcasterNft.Frontend.Sessions
import FarcasterNft.Pallet.Money

/-!
# Components of the selected account

The dashboard of NFTs and the dashboard of the artist load anew whenever another account is
selected, and loads for the accounts that were selected before may still end. So what is shown is
what a load for some account has returned, and this is the selected one when no load for another
was left and one for it has ended normally since: then the dashboard misses none of its NFTs, and
whoever is shown as an artist can create collections for good.
-/

namespace FarcasterNft

open Frame Js

variable {AccountId Ledger : Type} [DecidableEq AccountId]
variable {T : Config AccountId Ledger} {l : Ledger} {fmt : AddressFormat AccountId}

/-! ### The dashboard -/

namespace UserDashboard

/-- What a load for an account makes of the list. -/
def load (fmt : AddressFormat AccountId) (a : AccountId) (answers : Answers AccountId Ledger)
    (prev : List ShownNFT) : List ShownNFT :=
  (perform (loadUserNFTsAsking fmt answers (some (fmt.print a))) prev).2

/-- What a load for an account that ends normally shows. -/
def result (fmt : AddressFormat AccountId) (a : AccountId) (answers : Answers AccountId Ledger) :
    Option (List ShownNFT) :=
  (perform (allUserNFTsAsking fmt answers (fmt.print a)) 0).1.toOption

omit [DecidableEq AccountId] in
lemma load_eq (fmt : AddressFormat AccountId) (a : AccountId) (answers : Answers AccountId Ledger)
    (prev : List ShownNFT) : load fmt a answers prev = (result fmt a answers).getD prev := by
  obtain ⟨u, us, hprint⟩ := List.exists_cons_of_ne_nil (fmt.print_ne_nil a)
  rw [load, result, hprint, loadUserNFTsAsking, perform_loadState]
  cases (perform (allUserNFTsAsking fmt answers (u :: us)) 0).1 with
  | error e => rfl
  | ok userNFTs => rfl

/-- The queries of a load are answered while it is going on, and ids have not run out. -/
structure Ends (T : Config AccountId Ledger) (l : Ledger) (_ : AccountId)
    (start now : List (Extrinsic AccountId)) (answers : Answers AccountId Ledger) : Prop where
  answered : AnsweredBetween T l start now answers
  limit : BelowLimit T l now

section

variable {a : AccountId} {start now : List (Extrinsic AccountId)}
  {answers : Answers AccountId Ledger} {list : List ShownNFT}

omit [DecidableEq AccountId] in
lemma result_eq_some_iff : result fmt a answers = some list ↔
    (perform (allUserNFTsAsking fmt answers (fmt.print a)) 0).1 = .ok list := by
  rw [result]
  cases (perform (allUserNFTsAsking fmt answers (fmt.print a)) 0).1 with
  | error e => simp [Except.toOption]
  | ok userNFTs => simp [Except.toOption]

/-- A load that ends normally has ended after it was begun. -/
lemma Ends.isPrefix (h : Ends T l a start now answers)
    (hresult : result fmt a answers = some list) : start <+: now := by
  obtain ⟨q, hq, -⟩ := exists_found_of_eq_ok (result_eq_some_iff.mp hresult)
  obtain ⟨p, hstart, hnow, -⟩ := h.answered 0 q hq
  exact hstart.trans hnow

lemma Ends.showsDuring (h : Ends T l a start now answers)
    (hresult : result fmt a answers = some list) : ShowsDuring fmt T l start now a list :=
  UserDashboard.showsDuring h.answered h.limit (result_eq_some_iff.mp hresult)

end

/-- The list is what a load for the account has returned that ended in the course of a run, and it
shows the NFTs of the account as they were from the beginning of this load to its end. -/
def Loaded (fmt : AddressFormat AccountId) (T : Config AccountId Ledger) (l : Ledger)
    (tab : Reloading AccountId (List (Extrinsic AccountId)) (List ShownNFT))
    (is : List (Reloading.Input AccountId (List (Extrinsic AccountId)) (Answers AccountId Ledger)))
    (a : AccountId) (list : List ShownNFT) : Prop :=
  ∃ start ended answers, Reloading.Ended (load fmt) tab is a start ended answers ∧
    start <+: ended ∧ result fmt a answers = some list ∧ ShowsDuring fmt T l start ended a list

/-- What a load has returned that ended in a run in which all is allowed is right for it. -/
lemma loaded {tab : Reloading AccountId (List (Extrinsic AccountId)) (List ShownNFT)}
    {is : List (Reloading.Input AccountId (List (Extrinsic AccountId)) (Answers AccountId Ledger))}
    (his : Reloading.AllAllowed (· <+: ·) (Ends T l) (load fmt) tab is) {a : AccountId}
    {start ended : List (Extrinsic AccountId)} {answers : Answers AccountId Ledger}
    {list : List ShownNFT} (h : Reloading.Ended (load fmt) tab is a start ended answers)
    (hresult : result fmt a answers = some list) : Loaded fmt T l tab is a list := by
  have hends : Ends T l a start ended answers := h.can_end his
  exact ⟨start, ended, answers, h, hends.isPrefix hresult, hresult, hends.showsDuring hresult⟩

end UserDashboard

/-- However the loads of a dashboard overlap, a list that was empty at first is empty or shows the
NFTs of one account as they were during one load for it. And from a time on at which no load was
left but for the selected account, and until another is selected, this account is the selected one
as soon as a load for it has ended normally. -/
theorem dashboard_shows_one_account
    {tab : Reloading AccountId (List (Extrinsic AccountId)) (List ShownNFT)}
    {is : List (Reloading.Input AccountId (List (Extrinsic AccountId)) (Answers AccountId Ledger))}
    (his : Reloading.AllAllowed (· <+: ·) (UserDashboard.Ends T l) (UserDashboard.load fmt)
      tab is) :
    let now := run (Reloading.step (UserDashboard.load fmt)) tab is
    (tab.shown = [] → now.shown = [] ∨ ∃ a, UserDashboard.Loaded fmt T l tab is a now.shown) ∧
      ((∀ p ∈ tab.loads, p.1 = tab.key) → (∀ i ∈ is, ∀ k, i.begins = some k → k = tab.key) →
        (∃ start ended answers,
          Reloading.Ended (UserDashboard.load fmt) tab is tab.key start ended answers ∧
            UserDashboard.result fmt tab.key answers ≠ none) →
        now.key = tab.key ∧ UserDashboard.Loaded fmt T l tab is now.key now.shown) := by
  intro now
  have hshown := Reloading.run_shown (UserDashboard.load_eq fmt) tab is
  constructor
  · intro hempty
    obtain ⟨a, start, ended, answers, hended, hresult⟩ | ⟨hstays, -⟩ := hshown
    · exact Or.inr ⟨a, UserDashboard.loaded his hended hresult⟩
    · exact Or.inl (hstays.trans hempty)
  · rintro hloads hkey ⟨start, ended, answers, hended, hnormal⟩
    have hsame : now.key = tab.key :=
      (Reloading.run_loads (UserDashboard.load fmt) hkey hloads).2
    refine ⟨hsame, ?_⟩
    obtain ⟨a, start, ended, answers, hlast, hresult⟩ | ⟨-, hnone⟩ := hshown
    · rw [hsame, ← hlast.key_eq hkey hloads]
      exact UserDashboard.loaded his hlast hresult
    · exact absurd (hnone _ _ _ _ hended) hnormal

/-- The dashboard of an artist, where the first load has just ended. -/
theorem dashboard_shows_one_account_demo :
    let tab : Reloading ℕ (List (Extrinsic ℕ)) (List ShownNFT) := ⟨1, demoRun, [], [(1, demoRun)]⟩
    ∃ is, let now := run (Reloading.step (UserDashboard.load demoFormat)) tab is
      now.shown ≠ [] ∧ now.key = 1 ∧
        UserDashboard.Loaded demoFormat demoRuntime demoLedger tab is now.key now.shown := by
  obtain ⟨L⟩ := @exists_listing _ _ _ demoRuntime demoLedger demoRun
  have hn : (after demoRuntime demoLedger demoRun).nfts (0, 0) = some ⟨1, .new, false, 7⟩ := by
    decide +kernel
  have hallowed : Reloading.AllAllowed (· <+: ·) (UserDashboard.Ends demoRuntime demoLedger)
      (UserDashboard.load demoFormat) ⟨1, demoRun, [], [(1, demoRun)]⟩
      [.finish 0 fun _ => .ok ⟨_, L⟩] := by
    rw [Reloading.allAllowed_cons]
    refine ⟨fun k w hw => ⟨?_, .of_length_lt (by decide)⟩, Reloading.allAllowed_nil⟩
    exact allowed_loaded L 1 ([] : List ShownNFT) k w hw
  have hshown : UserDashboard.entry demoFormat (0 : UInt32).toNat (0 : UInt32).toNat
      ⟨1, .new, false, 7⟩ ∈ UserDashboard.load demoFormat 1 (fun _ => .ok ⟨_, L⟩) [] := by
    rw [UserDashboard.load, UserDashboard.loadUserNFTsAsking_const]
    refine UserDashboard.mem_loadUserNFTs [] hn ?_ ?_
    · show (0 : UInt32) < (after demoRuntime demoLedger demoRun).nextCollectionId
      decide +kernel
    · show (0 : UInt32) < (after demoRuntime demoLedger demoRun).itemCounter 0
      decide +kernel
  -- a load that fails would have left the list empty
  have hnormal : UserDashboard.result demoFormat 1 (fun _ => .ok ⟨_, L⟩) ≠ none := by
    intro hnone
    rw [UserDashboard.load_eq, hnone] at hshown
    cases hshown
  have hone := (dashboard_shows_one_account hallowed).2
    (fun p hp => by rw [List.mem_singleton.mp hp])
    (fun i hi k hbegins => by
      rw [List.mem_singleton.mp hi] at hbegins
      cases hbegins)
    ⟨demoRun, demoRun, _, ⟨⟨[], _⟩, List.mem_singleton_self _, 0, rfl, rfl, rfl⟩, hnormal⟩
  exact ⟨_, List.ne_nil_of_mem hshown, hone⟩

/-! ### The artist's dashboard -/

namespace ArtistDashboard

/-- How something ends that can change `isRegistered`: the query for the status is answered or
fails, or a registration is in a block and has not failed. -/
inductive Outcome (AccountId Ledger : Type) where
  | status (answer : Except Thrown (State AccountId Ledger))
  | inBlock

def checkArtistStatus (account : AccountId) (answer : Except Thrown (State AccountId Ledger)) :
    Async Bool Unit :=
  tryCatch
    (do
      let σ ← lift answer
      modify fun _ => (σ.artists account).getD false)
    fun _ => pure ()

/-- The callback of a registration. It does not ask which account is selected. -/
def registered : Async Bool Unit := modify fun _ => true

/-- What an outcome for an account makes of `isRegistered`. -/
def load (account : AccountId) (r : Outcome AccountId Ledger) (isRegistered : Bool) : Bool :=
  match r with
  | .status answer => (perform (checkArtistStatus account answer) isRegistered).2
  | .inBlock => (perform registered isRegistered).2

/-- What an outcome that sets `isRegistered` sets it to. -/
def result (account : AccountId) : Outcome AccountId Ledger → Option Bool
  | .status answer => answer.toOption.map fun σ => (σ.artists account).getD false
  | .inBlock => some true

omit [DecidableEq AccountId] in
lemma load_eq (account : AccountId) (r : Outcome AccountId Ledger) (isRegistered : Bool) :
    load account r isRegistered = (result account r).getD isRegistered := by
  cases r with
  | status answer =>
    cases answer with
    | error e => rfl
    | ok σ => rfl
  | inBlock => rfl

/-- A query is answered while it is going on, and a registration in a block that has not failed is
one of the calls that the chain has executed. -/
def Ends (T : Config AccountId Ledger) (l : Ledger) (account : AccountId)
    (start now : List (Extrinsic AccountId)) : Outcome AccountId Ledger → Prop
  | .status answer => ∀ q, answer = .ok q → Sometime T l start now fun σ => q = σ
  | .inBlock => ∃ past, past ++ [⟨account, .registerArtist⟩] <+: now ∧
      succeeds T (after T l past) ⟨account, .registerArtist⟩ = true

end ArtistDashboard

lemma isArtist_iff {xs : List (Extrinsic AccountId)} {a : AccountId} :
    ((after T l xs).artists a).getD false = true ↔ a ∈ registrants T l xs := by
  rw [artists_eq]
  split_ifs with h <;> simp [h]

/-- Once an artist, always an artist. -/
lemma isArtist_mono {past now : List (Extrinsic AccountId)} (h : past <+: now) {a : AccountId}
    (ha : ((after T l past).artists a).getD false = true) :
    ((after T l now).artists a).getD false = true := by
  rw [isArtist_iff] at ha ⊢
  exact ((occurrences_isPrefix h).filterMap _).subset ha

lemma isArtist_of_succeeds {past : List (Extrinsic AccountId)} {a : AccountId}
    (h : succeeds T (after T l past) ⟨a, .registerArtist⟩ = true) :
    ((after T l (past ++ [⟨a, .registerArtist⟩])).artists a).getD false = true := by
  have hrule := callRule_of_succeeds h
  rw [after_concat]
  generalize step T _ _ = τ at hrule ⊢
  cases hrule with
  | registerArtist => simp

namespace ArtistDashboard

/-- Whoever an outcome shows as an artist is one. -/
lemma Ends.isArtist {a : AccountId} {start now : List (Extrinsic AccountId)}
    {r : Outcome AccountId Ledger} (h : Ends T l a start now r) (hresult : result a r = some true) :
    ((after T l now).artists a).getD false = true := by
  cases r with
  | status answer =>
    cases answer with
    | error e => cases hresult
    | ok q =>
      obtain ⟨p, -, hp, rfl⟩ := h q rfl
      exact isArtist_mono hp (Option.some.inj hresult)
  | inBlock =>
    obtain ⟨past, hpast, hok⟩ := h
    exact isArtist_mono hpast (isArtist_of_succeeds hok)

end ArtistDashboard

/-- From a time on at which nothing was left that was for another account, and until another is
selected: if the artist's tools were not shown at that time, or as soon as the status of the
account has been answered or a registration of it is in a block, whoever is shown the tools is
registered, and creates a collection from then on whenever the metadata has at most 256 bytes. -/
theorem artist_tools_for_artists {tab : Reloading AccountId (List (Extrinsic AccountId)) Bool}
    {is : List (Reloading.Input AccountId (List (Extrinsic AccountId))
      (ArtistDashboard.Outcome AccountId Ledger))}
    (hloads : ∀ p ∈ tab.loads, p.1 = tab.key)
    (his : Reloading.AllAllowed (· <+: ·) (ArtistDashboard.Ends T l) ArtistDashboard.load tab is)
    (hkey : ∀ i ∈ is, ∀ k, i.begins = some k → k = tab.key)
    (hfresh : tab.shown = false ∨ ∃ start ended r,
      Reloading.Ended ArtistDashboard.load tab is tab.key start ended r ∧
        ArtistDashboard.result tab.key r ≠ none) :
    let now := run (Reloading.step ArtistDashboard.load) tab is
    now.shown = true → ((after T l now.world).artists now.key).getD false = true ∧
      ∀ later metadata, metadata.length ≤ 256 →
        succeeds T (after T l (now.world ++ later)) ⟨now.key, .createCollection metadata⟩ =
          true := by
  intro now hshown
  have hsame : now.key = tab.key := (Reloading.run_loads ArtistDashboard.load hkey hloads).2
  have hartist : ((after T l now.world).artists now.key).getD false = true := by
    obtain ⟨a, start, ended, r, hended, hresult⟩ | ⟨hstays, hnone⟩ :=
      Reloading.run_shown ArtistDashboard.load_eq tab is
    · have hworld : ended <+: now.world :=
        hended.world_later (fun _ => List.prefix_rfl) List.IsPrefix.trans his
      rw [hsame, ← hended.key_eq hkey hloads]
      exact isArtist_mono hworld ((hended.can_end his).isArtist (hresult.trans (by rw [hshown])))
    · -- nothing has set the flag, which is then what it was
      obtain hfalse | ⟨start, ended, r, hended, hset⟩ := hfresh
      · rw [hstays.trans hfalse] at hshown
        cases hshown
      · exact absurd (hnone _ _ _ _ hended) hset
  refine ⟨hartist, fun later metadata hlen => ?_⟩
  exact succeeds_createCollection_iff.mpr ⟨isArtist_mono (List.prefix_append _ _) hartist, hlen⟩

/-- Another account was shown as an artist. A registration of the selected one is in a block before
the query for its status has been answered. -/
theorem artist_tools_for_artists_demo :
    ((after demoRuntime demoLedger [⟨1, .registerArtist⟩]).artists 1).getD false = true ∧
      succeeds demoRuntime
        (after demoRuntime demoLedger ([⟨1, .registerArtist⟩] ++ [⟨1, .createCollection []⟩]))
        ⟨1, .createCollection [1, 2]⟩ = true := by
  let tab : Reloading ℕ (List (Extrinsic ℕ)) Bool := ⟨1, [], true, [(1, []), (1, [])]⟩
  let is : List (Reloading.Input ℕ (List (Extrinsic ℕ))
      (ArtistDashboard.Outcome ℕ (ℕ → ℕ))) :=
    [.world [⟨1, .registerArtist⟩], .finish 1 .inBlock]
  have hallowed : Reloading.AllAllowed (· <+: ·) (ArtistDashboard.Ends demoRuntime demoLedger)
      ArtistDashboard.load tab is := by
    rw [Reloading.allAllowed_cons, Reloading.allAllowed_cons]
    refine ⟨List.nil_prefix, fun k w hw => ?_, Reloading.allAllowed_nil⟩
    obtain ⟨rfl, -⟩ := Prod.mk.inj (Option.some.inj hw)
    exact ⟨[], List.prefix_rfl, by decide +kernel⟩
  have hended : Reloading.Ended ArtistDashboard.load tab is 1 [] [⟨1, .registerArtist⟩] .inBlock :=
    ⟨⟨[.world [⟨1, .registerArtist⟩]], .finish 1 .inBlock⟩, mem_occurrences.mpr ⟨[], rfl⟩, 1, rfl,
      rfl, rfl⟩
  have htools := artist_tools_for_artists (fun p hp => by simp_all [tab]) hallowed
    (fun i hi k hbegins => by
      obtain rfl | rfl := List.mem_pair.mp hi
      · cases hbegins
      · cases hbegins)
    (Or.inr ⟨_, _, _, hended, Option.some_ne_none _⟩) rfl
  exact ⟨htools.1, htools.2 [⟨1, .createCollection []⟩] [1, 2] (by decide)⟩

end FarcasterNft
