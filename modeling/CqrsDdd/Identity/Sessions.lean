import CqrsDdd.Identity.Database
import CqrsDdd.Transition

/-! Runs of the database identity provider over the in-memory session store: whom
an access token resolves to, whom a refresh issues a session for, and what a logout
leaves behind. -/
namespace CqrsDdd.Identity

open Expiring StorePrograms DatabaseIdentityProvider

/-- The tokens in the order in which they are drawn, all different and none of them empty. -/
structure TokenSupply where
  token : Nat → String
  distinct : Function.Injective token
  named : ∀ number, token number ≠ ""

/-- A pair of tokens that was issued, with the user whose credentials started the session. -/
structure Issue where
  accessToken : String
  refreshToken : String
  owner : String
  deriving DecidableEq

/-- `issued`, `reissued`, the users that a refresh issued a session for with the repository of that moment, and
`loggedOut`, the issues whose access token was logged out, are history. -/
structure SessionWorld (Repo Lockouts : Type) where
  accounts : Accounts Repo Lockouts
  sessions : InMemorySessionStore SessionData
  clock : Int
  drawn : Nat
  issued : List Issue := []
  reissued : List (String × Repo) := []
  loggedOut : List Issue := []

/-- `wait` lets time pass, `change` puts another repository in place. -/
inductive SessionStep (Repo : Type)
  | authenticate (username password : String) (requireMfa : Bool)
  | resolve (token : String)
  | refresh (refreshToken : String)
  | logout (token : String)
  | wait (seconds : Nat)
  | change (repo : Repo)

namespace SessionWorld

variable {Repo Lockouts : Type}

def initial (repo : Repo) (lockouts : Lockouts) (clock : Int) : SessionWorld Repo Lockouts where
  accounts := ⟨repo,lockouts⟩
  sessions := Dict.empty
  clock := clock
  drawn := 0

def exec {Result : Type} (world : SessionWorld Repo Lockouts) (call : Call Result) :
    Result × InMemorySessionStore SessionData :=
  call.run InMemorySessionStore.atomic world.clock world.sessions

def tokens (supply : TokenSupply) (world : SessionWorld Repo Lockouts) : String × String :=
  (supply.token world.drawn,supply.token (world.drawn + 1))

def ownerOf (world : SessionWorld Repo Lockouts) (refreshToken : String) : Option String :=
  (world.issued.find? fun issue => issue.refreshToken = refreshToken).map Issue.owner

/-- Whom the session of an access token is for. -/
def userOf (sessions : InMemorySessionStore SessionData) (clock : Int) (accessToken : String) : Option String :=
  (look sessions clock (sessionKey accessToken)).bind SessionData.userId

def step (provider : DatabaseIdentityProvider Repo Lockouts) (supply : TokenSupply)
    (world : SessionWorld Repo Lockouts) : SessionStep Repo → SessionWorld Repo Lockouts
  | .authenticate username password requireMfa =>
    let checked := provider.checkCredentials world.clock world.drawn username password requireMfa world.accounts
    match checked.2 with
    | .error _ => {world with accounts := checked.1, drawn := world.drawn + 2}
    | .ok user =>
      let drawn := world.tokens supply
      let left := world.exec (provider.createSession drawn.1 drawn.2 world.clock user)
      {world with
        accounts := checked.1
        sessions := left.2
        drawn := world.drawn + 2
        issued := world.issued ++ [⟨drawn.1,drawn.2,user.userId⟩]}
  | .resolve token =>
    let resolving : Call (Except AuthenticationError (Principal Empty)) := resolve token
    {world with sessions := (world.exec resolving).2}
  | .refresh refreshToken =>
    let drawn := world.tokens supply
    let left := world.exec (provider.refresh world.accounts.repo drawn refreshToken)
    let after := {world with sessions := left.2, drawn := world.drawn + 2}
    match left.1 with
    | .error _ => after
    | .ok _ => {after with
        issued := world.issued ++ [⟨drawn.1,drawn.2,(world.ownerOf refreshToken).getD ""⟩]
        reissued := world.reissued ++ ((userOf left.2 world.clock drawn.1).map (·,world.accounts.repo)).toList}
  | .logout token => {world with
      sessions := (world.exec (logout token)).2
      loggedOut := world.loggedOut ++ world.issued.filter fun issue => issue.accessToken = token}
  | .wait seconds => {world with clock := world.clock + seconds}
  | .change repo => {world with accounts := {world.accounts with repo := repo}}

end SessionWorld

/-- Some entry of the repository says of the user that the account is inactive or locked. -/
def UserCredentialsRepository.Marks {Repo : Type} (repository : UserCredentialsRepository Repo) (repo : Repo)
    (userId : String) : Prop :=
  ∃ name user, (repository.getByUsername repo name = some user ∨ repository.getByEmail repo name = some user) ∧
    user.userId = userId ∧ (user.isActive = false ∨ user.isLocked = true)

namespace SessionWorld

variable {Repo Lockouts : Type}

structure Sound (provider : DatabaseIdentityProvider Repo Lockouts) (world : SessionWorld Repo Lockouts) : Prop where
  resolves : ∀ token (principal : Principal Empty), (world.exec (resolve token)).1 = .ok principal →
    ∃ issue ∈ world.issued, issue.accessToken = token ∧ issue.owner = principal.userId
  reissued : ∀ entry ∈ world.reissued, ¬provider.userRepository.Marks entry.2 entry.1
  loggedOut : ∀ issue ∈ world.loggedOut,
    (∀ principal : Principal Empty, (world.exec (resolve issue.accessToken)).1 ≠ .ok principal) ∧
    ∀ drawn response, (world.exec (provider.refresh world.accounts.repo drawn issue.refreshToken)).1 ≠ .ok response

/-- A refresh that finds an account for its token finds the one that the token was issued for, and the repository marks
it neither inactive nor locked; a logout finds the session, or a refresh token that expired. -/
def Allowed (provider : DatabaseIdentityProvider Repo Lockouts) (world : SessionWorld Repo Lockouts) :
    SessionStep Repo → Prop
  | .refresh refreshToken => ∀ data userId, look world.sessions world.clock (refreshKey refreshToken) = some data →
    data.expired world.clock = false → data.userId = some userId →
    match provider.userRepository.getByUsername world.accounts.repo userId with
    | some user => user.isActive = true →
      user.userId = userId ∧ ¬provider.userRepository.Marks world.accounts.repo userId
    | none => (look world.sessions world.clock (sessionKey (data.accessToken.getD "None"))).isSome →
      ¬provider.userRepository.Marks world.accounts.repo userId
  | .logout token => ∀ issue ∈ world.issued, issue.accessToken = token →
    (look world.sessions world.clock (sessionKey token)).isSome ∨
      ∀ data, look world.sessions world.clock (refreshKey issue.refreshToken) = some data →
        data.expired world.clock = true
  | _ => True

end SessionWorld

namespace DatabaseIdentityProvider

variable {Repo Lockouts Object : Type}

theorem sessionKey_inj {first second : String} (same : sessionKey first = sessionKey second) : first = second := by
  have lists := congrArg String.toList same
  simp only [sessionKey,String.toList_append] at lists
  exact String.toList_inj.mp (List.append_cancel_left lists)

theorem refreshKey_inj {first second : String} (same : refreshKey first = refreshKey second) : first = second := by
  have lists := congrArg String.toList same
  simp only [refreshKey,String.toList_append] at lists
  exact String.toList_inj.mp (List.append_cancel_left lists)

theorem sessionKey_ne_refreshKey (first second : String) : sessionKey first ≠ refreshKey second := by
  intro same
  have heads := congrArg (fun key => key.toList.head?) same
  simp [sessionKey,refreshKey] at heads

end DatabaseIdentityProvider
end CqrsDdd.Identity
