import CqrsDdd.Multitenancy.Middleware

/-! The search path of a connection around a block of code that runs for one tenant. The path
is set to a text and read as one; what the server makes of texts is left open. -/
namespace CqrsDdd.Multitenancy

/-- `default_search_path` is the one given to the router, or the default schema. -/
structure SchemaRouter where
  schemaPrefix : String
  defaultSchema : String
  defaultSearchPath : String
  deriving DecidableEq, Repr

inductive SchemaError (ServerError Raised : Type)
  | isolation (message : String)
  | server (error : ServerError)
  | unboundLocal (name : String)
  | body (raised : Raised)
  deriving DecidableEq, Repr

/-- A server, with the path in force on a connection, the path that a text stands for, and the answers to `SHOW` and to
`SET` with the text as its parameter. A `SET` that raises changes nothing. -/
structure Server (State Path ServerError : Type) where
  inForce : State → Path
  denotes : String → Path
  shown : State → Except ServerError (Option String)
  set : State → String → Except ServerError State

abbrev Body (State Raised Result : Type) := State → Except Raised Result × State

/-- What became of the block: the connection that it started with, if it did, the result and the connection afterwards. -/
structure Outcome (State ServerError Raised Result : Type) where
  ran : Option State
  result : Except (SchemaError ServerError Raised) Result
  after : State

namespace SchemaRouter
open TenantMiddleware (asciiTexts)

variable {State Path ServerError Raised Result : Type}

def create (schemaPrefix defaultSchema : String) (defaultSearchPath : Option String) : SchemaRouter :=
  ⟨schemaPrefix,defaultSchema,match defaultSearchPath with
    | some path => if path = "" then defaultSchema else path
    | none => defaultSchema⟩

def getSchemaName (router : SchemaRouter) (tenantId : String) : String := router.schemaPrefix ++ tenantId

def getSearchPath (router : SchemaRouter) (tenantId : String) : String :=
  router.getSchemaName tenantId ++ ", " ++ router.defaultSchema

def valid (texts : Texts) (path : String) : Bool :=
  path.toList.all fun char => texts.isalnum char || char = '_' || char = ',' || char = ' '

def invalid (path : String) : SchemaError ServerError Raised :=
  .isolation ("Invalid schema name format: " ++ path ++
    ". Schema names must contain only alphanumeric characters, underscores, and commas.")

/-- `str(previous_path or self._default_search_path)`. -/
def previous (router : SchemaRouter) : Option String → String
  | some path => if path = "" then router.defaultSearchPath else path
  | none => router.defaultSearchPath

def setSearchPath (texts : Texts) (router : SchemaRouter) (server : Server State Path ServerError) (tenantId : String)
    (connection : State) : Except (SchemaError ServerError Raised) (String × State) :=
  let searchPath := router.getSearchPath tenantId
  if valid texts searchPath then do
    let shown ← (server.shown connection).mapError .server
    let switched ← (server.set connection searchPath).mapError .server
    return (router.previous shown,switched)
  else .error (invalid searchPath)

def resetSearchPath (texts : Texts) (router : SchemaRouter) (server : Server State Path ServerError)
    (previousPath : Option String) (connection : State) : Except (SchemaError ServerError Raised) State :=
  let path := router.previous previousPath
  if valid texts path then (server.set connection path).mapError .server else .error (invalid path)

/-- `tenant_id or get_current_tenant_or_none()`. -/
def effectiveTenant (tenantId context : Option String) : Option String :=
  match tenantId with
  | some tenant => if tenant = "" then context else some tenant
  | none => context

/-- The block in `with_schema`. The name `previous_path` is bound only when the path was set, and is read either way. -/
def withSchema (texts : Texts) (router : SchemaRouter) (server : Server State Path ServerError)
    (tenantId context : Option String) (body : Body State Raised Result) (connection : State) :
    Outcome State ServerError Raised Result :=
  match effectiveTenant tenantId context with
  | none =>
    if isSystemTenant context then
      let (result,after) := body connection
      ⟨some connection,result.mapError .body,after⟩
    else ⟨none,.error (.isolation "Cannot set schema: no tenant in context"),connection⟩
  | some tenant =>
    match (setSearchPath texts router server tenant connection :
        Except (SchemaError ServerError Raised) (String × State)) with
    | .error _ => ⟨none,.error (.unboundLocal "previous_path"),connection⟩
    | .ok (previousPath,switched) =>
      let (result,left) := body switched
      match resetSearchPath texts router server (some previousPath) left with
      | .error failure => ⟨some switched,.error failure,left⟩
      | .ok restored => ⟨some switched,result.mapError .body,restored⟩

def ownPath (router : SchemaRouter) (tenantId : String) : String :=
  if tenantId = systemTenant then router.defaultSearchPath else router.getSearchPath tenantId

/-- The block runs with the path of the tenant and leaves the connection with the path that it had; where the path cannot
be set it does not run, the error is that of setting the path, and the path is the same. -/
def Scoped (texts : Texts) (router : SchemaRouter) (server : Server State Path ServerError) (tenantId : String)
    (connection : State) (outcome : Outcome State ServerError Raised Result) : Prop :=
  match setSearchPath texts router server tenantId connection with
  | .error failure =>
    outcome.ran = none ∧ outcome.result = .error failure ∧
      server.inForce outcome.after = server.inForce connection
  | .ok _ =>
    (∃ started, outcome.ran = some started ∧ server.inForce started = server.denotes (router.ownPath tenantId)) ∧
      server.inForce outcome.after = server.inForce connection

/-- Resetting the path on a connection brings the path back: its text is valid and the server takes it for that path,
or nothing is set and the path is that one already. -/
def Returns (texts : Texts) (server : Server State Path ServerError) (text : String) (left connection : State) : Prop :=
  if valid texts text then
    match server.set left text with
    | .ok restored => server.inForce restored = server.inForce connection
    | .error _ => server.inForce left = server.inForce connection
  else server.inForce left = server.inForce connection

/-- The text of the tenant's path is valid, the server shows its path and takes that text for the tenant's own path, and
the text that it showed brings the path back after the block. -/
def Fits (texts : Texts) (router : SchemaRouter) (server : Server State Path ServerError) (tenantId : String)
    (body : Body State Raised Result) (connection : State) : Prop :=
  valid texts (router.getSearchPath tenantId) = true ∧
    ∃ shown switched, server.shown connection = .ok shown ∧
      server.set connection (router.getSearchPath tenantId) = .ok switched ∧
        server.inForce switched = server.denotes (router.ownPath tenantId) ∧
          Returns texts server (router.previous shown) (body switched).2 connection

variable {texts : Texts} {router : SchemaRouter} {server : Server State Path ServerError} {tenant : String}
  {connection : State}

theorem previous_previous (router : SchemaRouter) (shown : Option String) :
    router.previous (some (router.previous shown)) = router.previous shown := by
  cases shown with
  | none =>
    change (if router.defaultSearchPath = "" then router.defaultSearchPath else router.defaultSearchPath) = _
    exact ite_self router.defaultSearchPath
  | some text =>
    by_cases empty : text = ""
    · simp only [previous,if_pos empty,ite_self]
    · simp only [previous,if_neg empty]

theorem setSearchPath_ok {previousPath : String} {switched : State} :
    (setSearchPath texts router server tenant connection : Except (SchemaError ServerError Raised) (String × State)) =
        .ok (previousPath,switched) ↔
      valid texts (router.getSearchPath tenant) = true ∧
        ∃ shown, server.shown connection = .ok shown ∧
          server.set connection (router.getSearchPath tenant) = .ok switched ∧ router.previous shown = previousPath := by
  unfold setSearchPath
  by_cases allowed : valid texts (router.getSearchPath tenant) = true
  · simp only [if_pos allowed]
    cases shows : server.shown connection with
    | error failure => simp [Except.mapError,bind,Except.bind]
    | ok shown =>
      cases sets : server.set connection (router.getSearchPath tenant) with
      | error failure => simp [Except.mapError,bind,Except.bind]
      | ok next =>
        simp only [Except.mapError,bind,Except.bind,pure,Except.pure,Except.ok.injEq,Prod.mk.injEq,exists_eq_left',
          allowed,true_and]
        exact and_comm
  · simp [allowed]

theorem setSearchPath_error {failure : SchemaError ServerError Raised}
    (failed : setSearchPath texts router server tenant connection = .error failure) :
    failure = invalid (router.getSearchPath tenant) ∨ ∃ error, failure = .server error := by
  unfold setSearchPath at failed
  by_cases allowed : valid texts (router.getSearchPath tenant) = true
  · simp only [if_pos allowed] at failed
    cases shows : server.shown connection with
    | error error =>
      simp only [shows,Except.mapError,bind,Except.bind] at failed
      exact .inr ⟨error,(Except.error.inj failed).symm⟩
    | ok shown =>
      cases sets : server.set connection (router.getSearchPath tenant) with
      | error error =>
        simp only [shows,sets,Except.mapError,bind,Except.bind] at failed
        exact .inr ⟨error,(Except.error.inj failed).symm⟩
      | ok next =>
        simp only [shows,sets,Except.mapError,bind,Except.bind] at failed
        cases failed
  · simp only [if_neg allowed] at failed
    exact .inl (Except.error.inj failed).symm

theorem withSchema_unbound {tenantId context : Option String} (effective : effectiveTenant tenantId context = some tenant)
    {failure : SchemaError ServerError Raised}
    (failed : setSearchPath texts router server tenant connection = .error failure)
    (body : Body State Raised Result) :
    withSchema texts router server tenantId context body connection =
      ⟨none,.error (.unboundLocal "previous_path"),connection⟩ := by
  simp only [withSchema,effective,failed]

theorem withSchema_ran {tenantId context : Option String} (effective : effectiveTenant tenantId context = some tenant)
    {previousPath : String} {switched : State}
    (set : (setSearchPath texts router server tenant connection :
      Except (SchemaError ServerError Raised) (String × State)) = .ok (previousPath,switched))
    (body : Body State Raised Result) :
    (withSchema texts router server tenantId context body connection).ran = some switched := by
  simp only [withSchema,effective,set]
  split
  next => rfl
  next => rfl

theorem withSchema_after {tenantId context : Option String} (effective : effectiveTenant tenantId context = some tenant)
    {shown : Option String} {switched : State}
    (set : (setSearchPath texts router server tenant connection :
      Except (SchemaError ServerError Raised) (String × State)) = .ok (router.previous shown,switched))
    (body : Body State Raised Result) :
    server.inForce (withSchema texts router server tenantId context body connection).after =
        server.inForce connection ↔
      Returns texts server (router.previous shown) (body switched).2 connection := by
  simp only [withSchema,effective,set,resetSearchPath,previous_previous,Returns]
  by_cases allowed : valid texts (router.previous shown) = true
  · simp only [if_pos allowed]
    cases server.set (body switched).2 (router.previous shown) with
    | error failure => exact Iff.rfl
    | ok restored => exact Iff.rfl
  · simp only [if_neg allowed]

/-- A server that takes every text and shows it again. -/
def keeping (ServerError : Type) : Server String String ServerError where
  inForce := id
  denotes := id
  shown path := .ok (some path)
  set _ path := .ok path

theorem fits_keeping_iff (texts : Texts) (router : SchemaRouter) (tenant : String)
    (body : Body String Raised Result) (before : String) :
    Fits texts router (keeping ServerError) tenant body before ↔
      valid texts (router.getSearchPath tenant) = true ∧ router.getSearchPath tenant = router.ownPath tenant ∧
        if valid texts (router.previous (some before)) then router.previous (some before) = before
        else (body (router.getSearchPath tenant)).2 = before := by
  refine and_congr_right fun allowed => ⟨?_,?_⟩
  · rintro ⟨shown,switched,shows,sets,own,returns⟩
    cases shows
    cases sets
    exact ⟨own,returns⟩
  · rintro ⟨own,returns⟩
    exact ⟨some before,router.getSearchPath tenant,rfl,rfl,own,returns⟩

/-- A path that cannot be set is reported as an unbound name; one that can be set is the tenant's own and is brought
back exactly where the texts are taken both ways. -/
theorem scoped_iff {tenantId context : Option String} (effective : effectiveTenant tenantId context = some tenant)
    (body : Body State Raised Result) :
    Scoped texts router server tenant connection (withSchema texts router server tenantId context body connection) ↔
      Fits texts router server tenant body connection := by
  unfold Scoped Fits
  cases set : (setSearchPath texts router server tenant connection :
      Except (SchemaError ServerError Raised) (String × State)) with
  | error failure =>
    refine iff_of_false ?_ ?_
    · rintro ⟨_,raised,_⟩
      rw [withSchema_unbound effective set] at raised
      rcases setSearchPath_error set with isolation | ⟨error,server⟩
      · rw [isolation] at raised
        cases raised
      · rw [server] at raised
        cases raised
    · rintro ⟨allowed,shown,switched,shows,sets,_⟩
      rw [setSearchPath_ok.mpr ⟨allowed,shown,shows,sets,rfl⟩] at set
      cases set
  | ok pair =>
    obtain ⟨previousPath,switched⟩ := pair
    obtain ⟨allowed,shown,shows,sets,rfl⟩ := setSearchPath_ok.mp set
    simp only [withSchema_ran effective set,withSchema_after effective set]
    constructor
    · rintro ⟨⟨started,same,own⟩,returns⟩
      cases same
      exact ⟨allowed,shown,switched,shows,sets,own,returns⟩
    · rintro ⟨_,shownToo,switchedToo,showsToo,setsToo,own,returns⟩
      cases shows.symm.trans showsToo
      cases sets.symm.trans setsToo
      exact ⟨⟨switched,rfl,own⟩,returns⟩

def documented : SchemaRouter := create "tenant_" "public" none

def untouched : Body String Unit Unit := fun connection => (.ok (),connection)

theorem scoped_iff_kept :
    Scoped asciiTexts documented (keeping Unit) "acme" "public"
      (withSchema asciiTexts documented (keeping Unit) none (some "acme") untouched "public") := by
  have allowed : valid asciiTexts (documented.getSearchPath "acme") = true := rfl
  have returned : valid asciiTexts (documented.previous (some "public")) = true := rfl
  have fits : Fits asciiTexts documented (keeping Unit) "acme" untouched "public" := by
    rw [fits_keeping_iff,if_pos returned]
    exact ⟨allowed,rfl,rfl⟩
  have effective : effectiveTenant none (some "acme") = some "acme" := rfl
  rw [scoped_iff effective untouched]
  exact fits

/-- `set_tenant` takes the tenant of the documentation, whose path is refused: the name that is not bound is reported in
place of that. The default path of the server does not come back after a block for a tenant that is taken. -/
theorem hyphen_and_quotes :
    (setTenant asciiTexts "tenant-123" : Except (Failure Unit) (Option String)) = .ok (some "tenant-123") ∧
      (withSchema asciiTexts documented (keeping Unit) (some "tenant-123") none untouched "public").result =
        .error (.unboundLocal "previous_path") ∧
      ¬Scoped asciiTexts documented (keeping Unit) "tenant-123" "public"
        (withSchema asciiTexts documented (keeping Unit) (some "tenant-123") none untouched "public") ∧
      (setTenant asciiTexts "acme" : Except (Failure Unit) (Option String)) = .ok (some "acme") ∧
      (withSchema asciiTexts documented (keeping Unit) (some "acme") none untouched "\"$user\", public").after =
        "tenant_acme, public" ∧
      ¬Scoped asciiTexts documented (keeping Unit) "acme" "\"$user\", public"
        (withSchema asciiTexts documented (keeping Unit) (some "acme") none untouched "\"$user\", public") := by
  refine ⟨rfl,rfl,?_,rfl,rfl,?_⟩
  · rintro ⟨_,raised,_⟩
    cases raised
  · rintro ⟨_,left⟩
    exact absurd left (by decide)

end SchemaRouter

end CqrsDdd.Multitenancy
