import CqrsDdd.Identity.SessionSafety

/-! Interleaved callers of one OAuth2 state, and of one refresh token. Both read the
store and delete what they found in separate operations. -/
namespace CqrsDdd.Identity

open StorePrograms

namespace OAuthStateManager

variable {Object : Type}

def Validated (result : Except String (Option (OAuthStateData Object))) : Prop := ∃ data, result = .ok (some data)

theorem validateState_consumer (state : String) :
    (validateState state : Call Object _).Consumer (stateKey state) Validated := by
  apply Program.Consumer.read
  case missed =>
    intro now
    apply Program.Quiet.done
    rintro ⟨data,same⟩
    cases same
  case found =>
    intro now stored
    change Program.Holding _ _ (Program.bind _ (.done ((OAuthStateData.fromDict now stored).map some)))
    rw [Program.bind]
    split
    next =>
      apply Program.Holding.done
      rintro ⟨data,same⟩
      cases same
    next =>
      apply Program.Holding.done
      rintro ⟨data,same⟩
      cases same
    next => exact .consume _ fun _ => .done _ trivial

end OAuthStateManager

namespace DatabaseIdentityProvider

variable {Repo Lockouts : Type}

def Issued (result : Except AuthenticationError TokenResponse) : Prop := ∃ response, result = .ok response

theorem not_issued (error : AuthenticationError) : ¬Issued (.error error) := by
  rintro ⟨response,same⟩
  cases same

theorem createSession_quiet (provider : DatabaseIdentityProvider Repo Lockouts) {drawn : String × String}
    {refreshToken : String} (fresh : drawn.2 ≠ refreshToken) (now : Int) (user : UserCredentials) :
    ((provider.createSession drawn.1 drawn.2 now user).bind fun response =>
      .done (.ok response : Except AuthenticationError TokenResponse)).Quiet (refreshKey refreshToken) fun _ => True := by
  apply Program.Quiet.put _ _ _ _ (sessionKey_ne_refreshKey drawn.1 refreshToken).symm
  intro stored
  apply Program.Quiet.put _ _ _ _ fun same => fresh (refreshKey_inj same).symm
  intro linked
  exact .done _ trivial

theorem cleanupSession_holding {Result : Type} {Success : Result → Prop} (accessToken : Option String)
    (refreshToken : String) (rest : Int → Call Result)
    (later : ∀ now, (rest now).Quiet (refreshKey refreshToken) fun _ => True) :
    ((cleanupSession accessToken refreshToken).bind rest).Holding (refreshKey refreshToken) Success := by
  have last : (Program.delete (refreshKey refreshToken) rest).Holding (refreshKey refreshToken) Success :=
    .consume rest later
  unfold cleanupSession
  split
  next token =>
    split
    next => exact last
    next => exact .delete _ _ (sessionKey_ne_refreshKey token refreshToken).symm fun _ => last
  next => exact last

theorem renew_holding (provider : DatabaseIdentityProvider Repo Lockouts) {drawn : String × String} {refreshToken : String}
    (fresh : drawn.2 ≠ refreshToken) (data : SessionData) (user : UserCredentials) :
    (provider.renew drawn refreshToken data user).Holding (refreshKey refreshToken) Issued := by
  apply cleanupSession_holding
  intro now
  split
  next => exact createSession_quiet provider fresh now user
  next => exact .done _ trivial

theorem refresh_consumer (provider : DatabaseIdentityProvider Repo Lockouts) (repo : Repo) {drawn : String × String}
    {refreshToken : String} (fresh : drawn.2 ≠ refreshToken) :
    (provider.refresh repo drawn refreshToken).Consumer (refreshKey refreshToken) Issued := by
  unfold refresh
  split
  next => exact .refuse _ (not_issued _)
  next =>
    apply Program.Consumer.read
    case missed => exact fun _ => .done _ (not_issued _)
    case found =>
      intro now data
      dsimp only
      split
      next => exact cleanupSession_holding data.accessToken refreshToken _ fun _ => .done _ trivial
      next =>
        split
        next => exact .done _ (not_issued _)
        next =>
          split
          next user _ => exact renew_holding provider fresh data user
          next =>
            apply Program.Holding.get _ _ (sessionKey_ne_refreshKey _ refreshToken).symm
            intro moment old
            split
            next => exact .done _ (not_issued _)
            next =>
              split
              next => exact .done _ (not_issued _)
              next user _ => exact renew_holding provider fresh data user

end DatabaseIdentityProvider

open OAuthStateManager DatabaseIdentityProvider

section Interleaved

variable {States Sessions Object Repo Lockouts : Type}

def validations (start : States) (state : String) (count : Nat) :
    Pool States Int String (OAuthStateDict Object) (Except String (Option (OAuthStateData Object))) :=
  ⟨start,List.replicate count (validateState state),∅,∅⟩

/-- A caller of `refresh`: the repository as it is when the user is looked up, and the tokens that are drawn. -/
structure Refresher (Repo : Type) where
  repo : Repo
  drawn : String × String

def refreshes (provider : DatabaseIdentityProvider Repo Lockouts) (start : Sessions) (refreshToken : String)
    (callers : List (Refresher Repo)) : Pool Sessions Int String SessionData (Except AuthenticationError TokenResponse) :=
  ⟨start,callers.map fun caller => provider.refresh caller.repo caller.drawn refreshToken,∅,∅⟩

theorem single_use (states : AtomicStore States Int String (OAuthStateDict Object))
    (sessions : AtomicStore Sessions Int String SessionData) (provider : DatabaseIdentityProvider Repo Lockouts)
    (opened : States) (kept : Sessions) (state refreshToken : String) (count : Nat) (callers : List (Refresher Repo))
    (fresh : ∀ caller ∈ callers, caller.drawn.2 ≠ refreshToken) (validating refreshing : List (Nat × Int))
    (validatesAlone : Transition.Meets (Pool.step states (stateKey state)) (Pool.Alone states (stateKey state))
      (validations opened state count) validating)
    (refreshesAlone : Transition.Meets (Pool.step sessions (refreshKey refreshToken))
      (Pool.Alone sessions (refreshKey refreshToken)) (refreshes provider kept refreshToken callers) refreshing) :
    (Transition.run (Pool.step states (stateKey state)) (validations opened state count) validating).AtMostOne Validated ∧
    (Transition.run (Pool.step sessions (refreshKey refreshToken)) (refreshes provider kept refreshToken callers)
      refreshing).AtMostOne Issued := by
  constructor
  · apply Pool.run_atMostOne Validated opened _ _ validating validatesAlone
    intro program member
    rw [List.eq_of_mem_replicate member]
    exact validateState_consumer state
  · apply Pool.run_atMostOne Issued kept _ _ refreshing refreshesAlone
    intro program member
    obtain ⟨caller,called,rfl⟩ := List.mem_map.mp member
    exact refresh_consumer provider caller.repo (fresh caller called)

end Interleaved

def openedStates : InMemorySessionStore (OAuthStateDict Empty) :=
  Dict.empty.set "oauth_state:s" ⟨{state := some "s", createdAt := some 0},some 600⟩

def keptSessions : InMemorySessionStore SessionData :=
  SessionWorld.listed.created "t" "tt" 0 (SessionWorld.alice "alice") Dict.empty

def refreshers : List (Refresher InMemoryUserCredentialsRepository) :=
  [⟨SessionWorld.users [SessionWorld.alice "alice"],("ttt","tttt")⟩,
    ⟨SessionWorld.users [SessionWorld.alice "alice"],("ttttt","tttttt")⟩]

/-- The second caller refreshes while the first one, which has deleted the token, is still to store its session. -/
theorem single_use_overlapping :
    (Transition.run (Pool.step InMemorySessionStore.atomic (stateKey "s"))
      (validations openedStates "s" 3) [(1,1),(1,1),(0,2),(2,2)]).AtMostOne Validated ∧
    (Transition.run (Pool.step InMemorySessionStore.atomic (refreshKey "tt"))
      (refreshes SessionWorld.listed keptSessions "tt" refreshers)
      [(0,1),(0,1),(0,1),(1,2),(0,2),(0,2)]).AtMostOne Issued := by
  apply single_use InMemorySessionStore.atomic InMemorySessionStore.atomic SessionWorld.listed openedStates keptSessions
    "s" "tt" 3 refreshers
  case fresh => decide
  case validatesAlone =>
    refine ⟨?_,?_,?_,?_,trivial⟩
    · exact fun _ _ _ other held => absurd held (Finset.notMem_empty other)
    · intro next there
      cases there
    · intro next there found
      cases found
    · intro next there found
      cases found
  case refreshesAlone =>
    refine ⟨?_,?_,?_,?_,?_,?_,trivial⟩
    · exact fun _ _ _ other held => absurd held (Finset.notMem_empty other)
    · intro next there
      cases there
    · intro next there
      cases there
    · intro next there found
      cases found
    · intro next there
      cases there
    · intro next there
      cases there

/-- Two callers read before either deletes. -/
theorem single_use_interleaved :
    ¬(Transition.run (Pool.step InMemorySessionStore.atomic (stateKey "s"))
      (validations openedStates "s" 2) [(0,1),(1,1),(0,1),(1,1)]).AtMostOne Validated ∧
    ¬(Transition.run (Pool.step InMemorySessionStore.atomic (refreshKey "tt"))
      (refreshes SessionWorld.listed keptSessions "tt" refreshers)
      [(0,1),(1,1),(0,1),(0,1),(0,1),(0,1),(1,1),(1,1),(1,1),(1,1)]).AtMostOne Issued := by
  constructor
  · intro once
    exact absurd (once 0 1 _ _ rfl rfl ⟨_,rfl⟩ ⟨_,rfl⟩) (by decide)
  · intro once
    exact absurd (once 0 1 _ _ rfl rfl ⟨_,rfl⟩ ⟨_,rfl⟩) (by decide)

end CqrsDdd.Identity
