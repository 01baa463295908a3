import CqrsDdd.Multitenancy.Guards

/-! The middleware that takes the tenant from the message, and the resolvers it asks.
A failing resolver counts as one that found nothing, in a chain as well. -/
namespace CqrsDdd.Multitenancy

/-- A message, and the values reached from one. `get` is the method of an object that has it,
the headers of a request for instance. -/
inductive Message
  | none
  | text (content : String)
  | scalar (shown : String) (truthy : Bool)
  | dict (entries : List (String × Message))
  | object (shown : String) (attributes : List (String × Message)) (get : Option (String → Option Message))

/-- The operations of the interpreter on texts and characters, and `str` of a dict. -/
structure Texts where
  lower : String → String
  strip : String → String
  isalnum : Char → Bool
  shown : List (String × Message) → String

namespace Message

def isNone : Message → Bool
  | .none => true
  | _ => false

/-- `None` as a missing value. -/
def present (value : Message) : Option Message := if value.isNone then Option.none else some value

def str (texts : Texts) : Message → String
  | .none => "None"
  | .text content => content
  | .scalar shown _ => shown
  | .dict entries => texts.shown entries
  | .object shown _ _ => shown

def isTruthy : Message → Bool
  | .none => false
  | .text content => content ≠ ""
  | .scalar _ truthy => truthy
  | .dict entries => !entries.isEmpty
  | .object _ _ _ => true

/-- `getattr`; the built-in kinds have none of the names that are asked for. -/
def getattr (name : String) : Message → Option Message
  | .object _ attributes _ => attributes.lookup name
  | _ => Option.none

end Message

namespace HeaderResolver

def extractHeaders (message : Message) : Option Message :=
  match message.getattr "headers" with
  | some headers => headers.present
  | none =>
    match message with
    | .dict entries => some (((entries.lookup "headers").bind Message.present).getD message)
    | _ =>
      match message.getattr "metadata" with
      | some (.dict metadata) => some (.dict metadata)
      | _ => none

def getHeaderValue (texts : Texts) (headers : Message) (name : String) : Option String :=
  let get : Option (String → Option Message) := match headers with
    | .dict entries => some fun key => entries.lookup key
    | .object _ _ get => get
    | _ => none
  get.bind fun get =>
    (((get name).bind Message.present).orElse fun _ => (get (texts.lower name)).bind Message.present).map (Message.str texts)

def resolve (texts : Texts) (headerName : String) (message : Message) : Option String :=
  (extractHeaders message).bind fun headers =>
    ((getHeaderValue texts headers headerName).filter fun tenant => tenant ≠ "").map texts.strip

end HeaderResolver

namespace JwtClaimResolver

def getPrincipal (principalAttribute : String) (message : Message) : Option Message :=
  if (message.getattr principalAttribute).isSome then some message else
  match message.getattr "principal",message with
  | some principal,_ => principal.present
  | none,.dict entries => (entries.lookup "principal").bind Message.present
  | none,_ => none

def typicalClaimKeys : List String := ["sub","iss","aud","tenant_id"]

def getClaims (claimName : String) (message : Message) : Option (List (String × Message)) :=
  match message with
  | .dict entries =>
    if typicalClaimKeys.any (fun key => (entries.lookup key).isSome) || (entries.lookup claimName).isSome then some entries
    else none
  | _ =>
    match message.getattr "claims" with
    | some (.dict claims) => some claims
    | _ => none

/-- `claims.get(claim_name) or claims.get("tenant")`. -/
def claimed (claimName : String) (claims : List (String × Message)) : Option Message :=
  match (claims.lookup claimName).filter Message.isTruthy with
  | some tenant => some tenant
  | none => (claims.lookup "tenant").bind Message.present

def resolve (texts : Texts) (claimName principalAttribute : String) (message : Message) : Option String :=
  let tenantId := (getPrincipal principalAttribute message).bind fun principal =>
    (principal.getattr principalAttribute).bind Message.present
  match tenantId with
  | some tenant => some (tenant.str texts)
  | none => ((getClaims claimName message).bind (claimed claimName)).map (Message.str texts)

end JwtClaimResolver

/-- A compiled pattern: `search(path)` and `group(1)` of what it finds. -/
abbrev Pattern := String → Except Specifications.Failure (Option String)

namespace PathResolver

/-- The pattern of a prefix: the first place where the prefix has a character other than a slash behind it. -/
def findSegment (start : List Char) : List Char → Option String
  | [] => none
  | path@(_::rest) =>
    let segment := (path.drop start.length).takeWhile fun char => char ≠ '/'
    if start.isPrefixOf path && !segment.isEmpty then some (String.ofList segment) else findSegment start rest

def defaultPattern (start : String) : Pattern := fun path => .ok (findSegment start.toList path.toList)

def extractPath (message : Message) : Except Specifications.Failure (Option Message) :=
  match message.getattr "url",message.getattr "path",message with
  | some url,_,_ =>
    match url.getattr "path" with
    | some path => .ok path.present
    | none => .error .attributeError
  | none,some path,_ => .ok path.present
  | none,none,.dict entries => .ok ((entries.lookup "path").bind Message.present)
  | none,none,_ => .ok none

def resolve (pattern : Pattern) (message : Message) : Except Specifications.Failure (Option String) := do
  match ← extractPath message with
  | none => return none
  | some (.text path) => pattern path
  | some _ => throw .typeError

end PathResolver

/-- A resolver that reads one place of the message. -/
inductive Source
  | header (headerName : String)
  | jwtClaim (claimName principalAttribute : String)
  | path (pattern : Pattern)

def Source.resolve (texts : Texts) : Source → Message → Except Specifications.Failure (Option String)
  | .header headerName,message => .ok (HeaderResolver.resolve texts headerName message)
  | .jwtClaim claimName principalAttribute,message =>
    .ok (JwtClaimResolver.resolve texts claimName principalAttribute message)
  | .path pattern,message => PathResolver.resolve pattern message

/-- A composite resolver has at least one resolver. -/
inductive TenantResolver
  | source (source : Source)
  | composite (first : TenantResolver) (rest : List TenantResolver)

namespace TenantResolver

mutual
def resolve (texts : Texts) (message : Message) : TenantResolver → Except Specifications.Failure (Option String)
  | .source place => place.resolve texts message
  | .composite first rest =>
    match resolve texts message first with
    | .ok (some tenant) => .ok (some tenant)
    | _ => resolveAny texts message rest

def resolveAny (texts : Texts) (message : Message) : List TenantResolver → Except Specifications.Failure (Option String)
  | [] => .ok none
  | resolver::rest =>
    match resolve texts message resolver with
    | .ok (some tenant) => .ok (some tenant)
    | _ => resolveAny texts message rest
end

mutual
def sources : TenantResolver → List Source
  | .source place => [place]
  | .composite first rest => sources first ++ sourcesOfAll rest

def sourcesOfAll : List TenantResolver → List Source
  | [] => []
  | resolver::rest => sources resolver ++ sourcesOfAll rest
end

end TenantResolver

def resolved : Except Specifications.Failure (Option String) → Option String
  | .ok tenant => tenant
  | .error _ => none

def Source.supplied (texts : Texts) (message : Message) (source : Source) : Option String :=
  resolved (source.resolve texts message)

/-- The tenant that a message names: what the first source that finds something reads. -/
def named (texts : Texts) (message : Message) (sources : List Source) : Option String :=
  sources.findSome? (Source.supplied texts message)

theorem named_append (texts : Texts) (message : Message) (first second : List Source) :
    named texts message (first ++ second) = (named texts message first).orElse fun _ => named texts message second := by
  unfold named
  rw [List.findSome?_append]
  cases first.findSome? (Source.supplied texts message) <;> rfl

theorem resolved_step (outcome later : Except Specifications.Failure (Option String)) :
    resolved (match outcome with | .ok (some tenant) => .ok (some tenant) | _ => later) =
      (resolved outcome).orElse fun _ => resolved later := by
  match outcome with
  | .ok (some tenant) => rfl
  | .ok none => rfl
  | .error failure => rfl

mutual
theorem resolve_named (texts : Texts) (message : Message) :
    ∀ resolver : TenantResolver, resolved (resolver.resolve texts message) = named texts message resolver.sources
  | .source place => by
    simp only [TenantResolver.resolve,TenantResolver.sources,named,List.findSome?_cons,List.findSome?_nil]
    cases supplied : place.supplied texts message with
    | none => exact supplied
    | some tenant => exact supplied
  | .composite first rest => by
    simp only [TenantResolver.resolve,TenantResolver.sources]
    rw [resolved_step,named_append,resolve_named texts message first,resolveAny_named texts message rest]

theorem resolveAny_named (texts : Texts) (message : Message) :
    ∀ resolvers : List TenantResolver, resolved (TenantResolver.resolveAny texts message resolvers) =
      named texts message (TenantResolver.sourcesOfAll resolvers)
  | [] => rfl
  | resolver::rest => by
    simp only [TenantResolver.resolveAny,TenantResolver.sourcesOfAll]
    rw [resolved_step,named_append,resolve_named texts message resolver,resolveAny_named texts message rest]
end

end CqrsDdd.Multitenancy
