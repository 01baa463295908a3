import CqrsDdd.Multitenancy.Resolvers

/-! The context that a handler runs in behind the tenant middleware. The context
variable holds tenant ids and the system tenant alike. -/
namespace CqrsDdd.Multitenancy

variable {Object Result : Type}

/-- What `set_tenant` leaves in the context variable. -/
def setTenant (texts : Texts) (tenantId : String) : Except (Failure Object) (Option String) :=
  if tenantId = "" then .error (.raised .valueError) else
  if tenantId ≠ systemTenant ∧ tenantId.toList.any (fun char => !(texts.isalnum char || char = '-' || char = '_')) then
    .error (.raised .valueError)
  else if tenantId ≠ systemTenant ∧ tenantId.length > 128 then .error (.raised .valueError)
  else .ok (some tenantId)

abbrev Handler (Object Result : Type) := Message → Option String → Except (Failure Object) Result × Option String

/-- `copy` is the copy with a tenant id that the class of a message makes, if it can make one. -/
structure TenantMiddleware where
  resolver : TenantResolver
  allowAnonymous : Bool := false
  injectIntoMessage : Bool := false
  copy : Message → String → Option Message := fun _ _ => none

namespace TenantMiddleware

/-- The message and the context for the next handler, and whether the context has been set. -/
structure Entry where
  message : Message
  context : Option String
  token : Bool

def resolveTenant (texts : Texts) (middleware : TenantMiddleware) (message : Message) : Option String :=
  resolved (middleware.resolver.resolve texts message)

def injectTenant (middleware : TenantMiddleware) (message : Message) : Option String → Message
  | none => message
  | some tenantId => if middleware.injectIntoMessage then (middleware.copy message tenantId).getD message else message

def enter (texts : Texts) (middleware : TenantMiddleware) (message : Message) (context : Option String) :
    Except (Failure Object) Entry :=
  match middleware.resolveTenant texts message with
  | none =>
    if middleware.allowAnonymous then .ok ⟨middleware.injectTenant message none,context,false⟩
    else .error .tenantContextMissing
  | some tenantId => do
    let set ← setTenant texts tenantId
    return ⟨middleware.injectTenant message (some tenantId),set,true⟩

def call (texts : Texts) (middleware : TenantMiddleware) (nextHandler : Handler Object Result) (message : Message)
    (context : Option String) : Except (Failure Object) Result × Option String :=
  match enter texts middleware message context with
  | .error failure => (.error failure,context)
  | .ok entry =>
    let (result,after) := nextHandler entry.message entry.context
    (result,if entry.token then context else after)

def reporting (Object : Type) : Handler Object (Option String) := fun _ context => (.ok context,context)

theorem setTenant_ok {texts : Texts} {tenantId : String} {context : Option String}
    (set : (setTenant texts tenantId : Except (Failure Object) (Option String)) = .ok context) :
    context = some tenantId := by
  unfold setTenant at set
  split at set
  next => cases set
  next =>
    split at set
    next => cases set
    next =>
      split at set
      next => cases set
      next => exact (Except.ok.inj set).symm

theorem setTenant_system (texts : Texts) :
    (setTenant texts systemTenant : Except (Failure Object) (Option String)) = .ok (some systemTenant) := by
  simp [setTenant,systemTenant]

theorem call_reporting {texts : Texts} {middleware : TenantMiddleware} {message : Message} {context seen : Option String}
    (ran : (call texts middleware (reporting Object) message context).1 = .ok seen) :
    seen = context ∨ ∃ tenantId, middleware.resolveTenant texts message = some tenantId ∧ seen = some tenantId := by
  unfold call enter at ran
  cases found : middleware.resolveTenant texts message with
  | none =>
    rw [found] at ran
    by_cases anonymous : middleware.allowAnonymous
    · simp only [anonymous,if_true] at ran
      exact .inl (Except.ok.inj ran).symm
    · simp only [if_neg anonymous] at ran
      cases ran
  | some tenantId =>
    rw [found] at ran
    cases set : (setTenant texts tenantId : Except (Failure Object) (Option String)) with
    | error failure =>
      simp only [set,bind,Except.bind] at ran
      cases ran
    | ok left =>
      simp only [set,bind,Except.bind,pure,Except.pure] at ran
      exact .inr ⟨tenantId,rfl,(Except.ok.inj ran).symm.trans (setTenant_ok set)⟩

/-- No handler is put into the context of the system exactly when the message does not name the system. -/
theorem call_system_iff (texts : Texts) (middleware : TenantMiddleware) (message : Message) :
    (∀ context seen, isSystemTenant context = false →
      (call texts middleware (reporting Object) message context).1 = .ok seen →
      isSystemTenant seen = false) ↔ named texts message middleware.resolver.sources ≠ some systemTenant := by
  rw [← resolve_named]
  constructor
  · intro shut system
    have entered : (enter texts middleware message none : Except (Failure Object) Entry) =
        .ok ⟨middleware.injectTenant message (some systemTenant),some systemTenant,true⟩ := by
      unfold enter resolveTenant
      rw [system]
      simp only [setTenant_system]
      rfl
    have ran : (call texts middleware (reporting Object) message none).1 = .ok (some systemTenant) := by
      unfold call
      rw [entered]
      rfl
    exact absurd (shut none _ rfl ran) (by decide)
  · intro foreign context seen ordinary ran
    rcases call_reporting ran with rfl | ⟨tenantId,found,rfl⟩
    · exact ordinary
    · exact decide_eq_false fun system => foreign (found.trans system)

def asciiTexts : Texts where
  lower text := String.ofList (text.toList.map Char.toLower)
  strip text := String.ofList (((text.toList.dropWhile Char.isWhitespace).reverse.dropWhile Char.isWhitespace).reverse)
  isalnum := Char.isAlphanum
  shown _ := ""

def headerMiddleware : TenantMiddleware where
  resolver := .source (.header "X-Tenant-ID")

theorem call_header_system : ¬ ∀ (texts : Texts) (middleware : TenantMiddleware) (message : Message)
    (context seen : Option String), isSystemTenant context = false →
    (call texts middleware (reporting Empty) message context).1 = .ok seen →
    isSystemTenant seen = false := by
  intro shut
  have reported := shut asciiTexts headerMiddleware (.dict [("headers",.dict [("X-Tenant-ID",.text "__system__")])]) none
    (some "__system__") rfl rfl
  exact absurd reported (by decide)

end TenantMiddleware
end CqrsDdd.Multitenancy
