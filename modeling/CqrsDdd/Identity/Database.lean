import CqrsDdd.Identity.Principal
import CqrsDdd.Identity.Session

/-! The identity provider over a user database, a session store and a lockout store.
The tokens of `secrets.token_urlsafe` are drawn from a supply. -/
namespace CqrsDdd.Identity

open Specifications StorePrograms

structure UserCredentials where
  userId : String
  username : String
  email : Option String := none
  passwordHash : Option String := none
  roles : Finset String := ∅
  permissions : Finset String := ∅
  isActive : Bool := true
  isLocked : Bool := false
  tenantId : Option String := none
  mfaEnabled : Bool := false
  deriving DecidableEq

structure UserCredentialsRepository (Repo : Type) where
  getByUsername : Repo → String → Option UserCredentials
  getByEmail : Repo → String → Option UserCredentials
  updatePasswordHash : Repo → String → String → Repo
  updateLastLogin : Repo → String → Repo

/-- `hash` salts with what it draws. -/
structure PasswordHasher where
  verify : String → String → Bool
  needsRehash : String → Bool
  hash : Nat → String → String

/-- The lockout store counts failures for each identifier. -/
structure LockoutStore (Store : Type) where
  recordFailure : Int → String → Store → Nat × Store
  isLocked : Int → String → Store → Bool
  clear : Int → String → Store → Store
  setLockout : Int → String → Int → Store → Store

inductive AuthenticationError
  | invalidToken (message : String)
  | expiredToken (message : String)
  | invalidCredentials (message : String)
  | accountLocked (lockoutDuration failedAttempts : Int)
  | mfaRequired (pendingToken : String) (availableMethods : List String)
  | keyError (key : String)
  deriving DecidableEq, Repr

structure TokenResponse where
  accessToken : String
  refreshToken : Option String := none
  tokenType : String := "Bearer"
  expiresIn : Int := 3600
  idToken : Option String := none
  scope : Option String := none
  expiresAt : Option Int := none
  deriving DecidableEq, Repr

/-- The dicts that the provider stores: of a session, or of a refresh token. -/
structure SessionData where
  userId : Option String := none
  username : Option String := none
  roles : Finset String := ∅
  permissions : Finset String := ∅
  email : Option String := none
  tenantId : Option String := none
  mfaVerified : Bool := false
  expiresAt : Option Int := none
  accessToken : Option String := none
  refreshToken : Option String := none
  deriving DecidableEq

namespace SessionData

def expired (data : SessionData) (now : Int) : Bool :=
  match data.expiresAt with
  | some deadline => decide (deadline < now)
  | none => false

end SessionData

structure DatabaseIdentityProvider (Repo Lockouts : Type) where
  userRepository : UserCredentialsRepository Repo
  passwordHasher : PasswordHasher
  lockoutStore : Option (LockoutStore Lockouts) := none
  maxFailedAttempts : Int := 5
  lockoutDurationSeconds : Int := 900
  sessionTtlSeconds : Int := 3600
  refreshTokenTtlSeconds : Int := 604800

namespace DatabaseIdentityProvider

variable {Repo Lockouts Object : Type}

abbrev Call (Result : Type) := Program Int String SessionData Result

def sessionKey (token : String) : String := "session:" ++ token

def refreshKey (token : String) : String := "refresh:" ++ token

def principalOf (token : String) (data : SessionData) : Except AuthenticationError (Principal Object) :=
  match data.userId,data.username with
  | none,_ => .error (.keyError "user_id")
  | some _,none => .error (.keyError "username")
  | some userId,some username => .ok {
      userId
      username
      roles := data.roles
      permissions := data.permissions
      claims := (data.email.map fun email => ("email",.text email)).toList
      tenantId := data.tenantId
      mfaVerified := data.mfaVerified
      authMethod := .db
      sessionId := some token
      expiresAt := data.expiresAt.map Int.toNat }

def resolve (token : String) : Call (Except AuthenticationError (Principal Object)) :=
  if token = "" then .done (.error (.invalidToken "Session token is required"))
  else
    .get (sessionKey token) fun now found => match found with
      | none => .done (.error (.invalidToken "Invalid or expired session token"))
      | some data =>
        if data.expired now then
          .delete (sessionKey token) fun _ => .done (.error (.expiredToken "Session has expired"))
        else .done (principalOf token data)

def createSession (provider : DatabaseIdentityProvider Repo Lockouts) (accessToken refreshToken : String) (now : Int)
    (user : UserCredentials) : Call TokenResponse :=
  .put (sessionKey accessToken) {
      userId := some user.userId
      username := some user.username
      roles := user.roles
      permissions := user.permissions
      email := user.email.filter (· ≠ "")
      tenantId := user.tenantId
      mfaVerified := false
      expiresAt := some (now + provider.sessionTtlSeconds)
      refreshToken := some refreshToken } (some provider.sessionTtlSeconds) fun _ =>
  .put (refreshKey refreshToken) {
      userId := some user.userId
      accessToken := some accessToken
      expiresAt := some (now + provider.refreshTokenTtlSeconds) } (some provider.refreshTokenTtlSeconds) fun _ =>
  .done {
      accessToken
      refreshToken := some refreshToken
      expiresIn := provider.sessionTtlSeconds
      expiresAt := some (now + provider.sessionTtlSeconds) }

/-- Returns the moment at which the refresh token was deleted. -/
def cleanupSession (accessToken : Option String) (refreshToken : String) : Call Int :=
  let rest : Call Int := .delete (refreshKey refreshToken) fun now => .done now
  match accessToken with
  | some token => if token = "" then rest else .delete (sessionKey token) fun _ => rest
  | none => rest

def sessionUser (session : SessionData) : Except AuthenticationError UserCredentials :=
  match session.userId,session.username with
  | none,_ => .error (.keyError "user_id")
  | some _,none => .error (.keyError "username")
  | some userId,some username => .ok {
      userId
      username
      roles := session.roles
      permissions := session.permissions
      email := session.email
      tenantId := session.tenantId }

/-- `refresh` from the check of the account on; its old session is cleaned up whatever the check says. -/
def renew (provider : DatabaseIdentityProvider Repo Lockouts) (drawn : String × String) (refreshToken : String)
    (refreshData : SessionData) (user : UserCredentials) : Call (Except AuthenticationError TokenResponse) :=
  (cleanupSession refreshData.accessToken refreshToken).bind fun now =>
    if user.isActive then (provider.createSession drawn.1 drawn.2 now user).bind fun response => .done (.ok response)
    else .done (.error (.invalidToken "Account is disabled"))

def refresh (provider : DatabaseIdentityProvider Repo Lockouts) (repo : Repo) (drawn : String × String)
    (refreshToken : String) : Call (Except AuthenticationError TokenResponse) :=
  if refreshToken = "" then .done (.error (.invalidToken "Refresh token is required"))
  else
    .get (refreshKey refreshToken) fun now found => match found with
      | none => .done (.error (.invalidToken "Invalid refresh token"))
      | some refreshData =>
        if refreshData.expired now then
          (cleanupSession refreshData.accessToken refreshToken).bind fun _ =>
            .done (.error (.expiredToken "Refresh token has expired"))
        else
          match refreshData.userId with
          | none => .done (.error (.keyError "user_id"))
          | some userId =>
            match provider.userRepository.getByUsername repo userId with
            | some user => provider.renew drawn refreshToken refreshData user
            | none =>
              .get (sessionKey (refreshData.accessToken.getD "None")) fun _ old => match old with
                | none => .done (.error (.invalidToken "User not found"))
                | some session =>
                  match sessionUser session with
                  | .error error => .done (.error error)
                  | .ok user => provider.renew drawn refreshToken refreshData user

def logout (token : String) : Call Unit :=
  if token = "" then .done ()
  else
    let last : Call Unit := .delete (sessionKey token) fun _ => .done ()
    .get (sessionKey token) fun _ found => match found.bind SessionData.refreshToken with
      | some refreshToken => if refreshToken = "" then last else .delete (refreshKey refreshToken) fun _ => last
      | none => last

/-- What `authenticate` reads and writes, without the sessions. -/
structure Accounts (Repo Lockouts : Type) where
  repo : Repo
  lockouts : Lockouts

def findUser (provider : DatabaseIdentityProvider Repo Lockouts) (repo : Repo) (username : String) :
    Option UserCredentials :=
  (provider.userRepository.getByUsername repo username).or (provider.userRepository.getByEmail repo username)

def recordFailure (provider : DatabaseIdentityProvider Repo Lockouts) (now : Int) (identifier : String)
    (lockouts : Lockouts) : Lockouts :=
  match provider.lockoutStore with
  | none => lockouts
  | some store =>
    let recorded := store.recordFailure now identifier lockouts
    if provider.maxFailedAttempts ≤ recorded.1 then
      store.setLockout now identifier provider.lockoutDurationSeconds recorded.2
    else recorded.2

def isLocked (provider : DatabaseIdentityProvider Repo Lockouts) (now : Int) (identifier : String)
    (lockouts : Lockouts) : Bool :=
  match provider.lockoutStore with
  | none => false
  | some store => store.isLocked now identifier lockouts

def clear (provider : DatabaseIdentityProvider Repo Lockouts) (now : Int) (identifier : String) (lockouts : Lockouts) :
    Lockouts :=
  match provider.lockoutStore with
  | none => lockouts
  | some store => store.clear now identifier lockouts

/-- A user without a hash, or with an empty one, has no password. -/
def verifies (provider : DatabaseIdentityProvider Repo Lockouts) (user : UserCredentials) (password : String) : Bool :=
  match user.passwordHash with
  | none => false
  | some hash => hash ≠ "" && provider.passwordHasher.verify hash password

def rehash (provider : DatabaseIdentityProvider Repo Lockouts) (salt : Nat) (user : UserCredentials) (password : String)
    (repo : Repo) : Repo :=
  match user.passwordHash with
  | none => repo
  | some hash =>
    if hash ≠ "" && provider.passwordHasher.needsRehash hash then
      provider.userRepository.updatePasswordHash repo user.userId (provider.passwordHasher.hash salt password)
    else repo

/-- `authenticate` without the session that it creates in the end. -/
def checkCredentials (provider : DatabaseIdentityProvider Repo Lockouts) (now : Int) (salt : Nat)
    (username password : String) (requireMfa : Bool) (accounts : Accounts Repo Lockouts) :
    Accounts Repo Lockouts × Except AuthenticationError UserCredentials :=
  if provider.isLocked now username accounts.lockouts then
    (accounts,.error (.accountLocked provider.lockoutDurationSeconds provider.maxFailedAttempts))
  else
    let failed := {accounts with lockouts := provider.recordFailure now username accounts.lockouts}
    match provider.findUser accounts.repo username with
    | none => (failed,.error (.invalidCredentials "Invalid username or password"))
    | some user =>
      if !user.isActive || user.isLocked then
        (accounts,.error (.invalidCredentials "Account is disabled or locked"))
      else if !provider.verifies user password then
        (failed,.error (.invalidCredentials "Invalid username or password"))
      else
        let rehashed := provider.rehash salt user password accounts.repo
        let passed := {
          repo := provider.userRepository.updateLastLogin rehashed user.userId
          lockouts := provider.clear now username accounts.lockouts }
        if requireMfa && user.mfaEnabled then (passed,.error (.mfaRequired user.userId ["totp","backup"]))
        else (passed,.ok user)

end DatabaseIdentityProvider

/-- The repository of the tests: the users under their names and their addresses. -/
abbrev InMemoryUserCredentialsRepository := Dict String UserCredentials

namespace InMemoryUserCredentialsRepository

def add (user : UserCredentials) (users : InMemoryUserCredentialsRepository) : InMemoryUserCredentialsRepository :=
  let named := users.set user.username user
  match user.email with
  | some email => if email = "" then named else named.set email user
  | none => named

/-- Only the first entry of a user is given the new hash. -/
def repository : UserCredentialsRepository InMemoryUserCredentialsRepository where
  getByUsername users name := Dict.get users name
  getByEmail users email := Dict.get users email
  updatePasswordHash users userId hash :=
    match users.entries.find? fun entry => entry.2.userId = userId with
    | some entry => users.set entry.1 {entry.2 with passwordHash := some hash}
    | none => users
  updateLastLogin users _ := users

end InMemoryUserCredentialsRepository

/-- The lockout store of the tests, whose lockouts end when they are cleared. -/
structure InMemoryLockoutStore where
  failures : Dict String Nat := Dict.empty
  locked : Dict String Int := Dict.empty

namespace InMemoryLockoutStore

def getFailureCount (identifier : String) (lockouts : InMemoryLockoutStore) : Nat :=
  (lockouts.failures.get identifier).getD 0

def store : LockoutStore InMemoryLockoutStore where
  recordFailure _ identifier lockouts :=
    let count := lockouts.getFailureCount identifier + 1
    (count,{lockouts with failures := lockouts.failures.set identifier count})
  isLocked _ identifier lockouts := (lockouts.locked.get identifier).isSome
  clear _ identifier lockouts := ⟨lockouts.failures.erase identifier,lockouts.locked.erase identifier⟩
  setLockout _ identifier seconds lockouts := {lockouts with locked := lockouts.locked.set identifier seconds}

end InMemoryLockoutStore
end CqrsDdd.Identity
