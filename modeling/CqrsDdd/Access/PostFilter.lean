import CqrsDdd.Access.Authorization

/-! What the check behind the handler leaves of its result, compared with what the
engine authorized. -/
namespace CqrsDdd.Access

open Identity Specifications Attempts

variable {Object Entity Raised : Type}

def AccessResponse.authorizes (response : AccessResponse) (resourceType resourceId action : String) : Bool :=
  response.resourceTypeName = resourceType && response.actionName = action &&
    match response.answer with
    | .flag granted => granted
    | .ids resourceIds => resourceIds.contains resourceId
    | .other => false

/-- The response makes the adapter count the action for the resource: a flag does it for every type. -/
def AccessResponse.counts (response : AccessResponse) (resourceType resourceId action : String) : Bool :=
  response.actionName = action &&
    match response.answer with
    | .flag granted => granted
    | .ids resourceIds => response.resourceTypeName = resourceType && resourceIds.contains resourceId
    | .other => false

namespace StatefulABACAdapter

def actionsOf (result : CheckAccessBatchResult) (resourceType resourceId : String) : Finset String :=
  (result.accessMap.get (resourceType,resourceId)).getD ∅ ∪ result.globalPermissions

theorem mem_listed (resourceTypeName actionName : String) (resourceIds : List String)
    (accessMap : Dict (String × String) (Finset String)) (key : String × String) (action : String) :
    action ∈ ((resourceIds.foldl (fun accessMap rid =>
        accessMap.set (resourceTypeName,rid) (insert actionName ((accessMap.get (resourceTypeName,rid)).getD ∅)))
        accessMap).get key).getD ∅ ↔
      action ∈ (accessMap.get key).getD ∅ ∨ actionName = action ∧ resourceTypeName = key.1 ∧ key.2 ∈ resourceIds := by
  induction resourceIds generalizing accessMap with
  | nil => simp
  | cons rid rest ih =>
    rw [List.foldl_cons,ih,Dict.get_set]
    by_cases same : key = (resourceTypeName,rid)
    · subst same
      simp [eq_comm,or_assoc]
      tauto
    · have other : ¬(resourceTypeName = key.1 ∧ key.2 = rid) := fun both =>
        same (Prod.ext both.1.symm both.2)
      rw [if_neg same,List.mem_cons]
      tauto

theorem mem_record (result : CheckAccessBatchResult) (response : AccessResponse) (resourceType resourceId action : String) :
    action ∈ actionsOf (record result response) resourceType resourceId ↔
      action ∈ actionsOf result resourceType resourceId ∨ response.counts resourceType resourceId action := by
  unfold actionsOf record AccessResponse.counts
  cases response.answer with
  | flag granted =>
    cases granted with
    | false => simp
    | true =>
      simp only [Finset.mem_union,Finset.mem_insert,Bool.and_true,decide_eq_true_eq]
      tauto
  | ids resourceIds =>
    simp only [Finset.mem_union,mem_listed,Bool.and_eq_true,decide_eq_true_eq,List.contains_iff_mem]
    tauto
  | other => simp

theorem mem_collect (responses : List AccessResponse) (resourceType resourceId action : String) :
    action ∈ actionsOf (collect responses) resourceType resourceId ↔
      ∃ response ∈ responses, response.counts resourceType resourceId action := by
  have folded : ∀ result : CheckAccessBatchResult,
      action ∈ actionsOf (responses.foldl record result) resourceType resourceId ↔
        action ∈ actionsOf result resourceType resourceId ∨
          ∃ response ∈ responses, response.counts resourceType resourceId action := by
    induction responses with
    | nil => simp
    | cons response rest ih =>
      intro result
      rw [List.foldl_cons,ih,mem_record]
      simp only [List.exists_mem_cons_iff,or_assoc]
  rw [collect,folded]
  simp [actionsOf]

end StatefulABACAdapter

theorem collect_isAllowed (responses : List AccessResponse) (resourceType resourceId : String) (actions : List String)
    (quantifier : Quantifier) :
    (StatefulABACAdapter.collect responses).isAllowed resourceType resourceId actions quantifier =
      quantifier.holds (fun action => responses.any fun response => response.counts resourceType resourceId action)
        actions := by
  change quantifier.holds (fun action => action ∈ StatefulABACAdapter.actionsOf _ resourceType resourceId) actions = _
  refine congrArg (fun allowed => quantifier.holds allowed actions) (funext fun action => ?_)
  rw [Bool.eq_iff_iff,decide_eq_true_eq,List.any_eq_true]
  exact StatefulABACAdapter.mem_collect responses resourceType resourceId action

namespace Node

def assignable : List String → Node Entity → Bool
  | [_],.object assignment _ => assignment ≠ .frozen
  | part::rest,.object assignment attributes =>
    assignment ≠ .frozen && (attributes.lookup part).any fun child => assignable rest child
  | _,_ => false

theorem assign_ok {assignment : Assignment} {attributes : List (String × Node Entity)} {part : String}
    {child updated : Node Entity} : assign assignment attributes part child = .ok updated ↔
      assignment ≠ .frozen ∧ updated = .object assignment (Dict.put part child attributes) := by
  cases assignment with
  | modelCopy => simp [assign,eq_comm]
  | setattr => simp [assign,eq_comm]
  | frozen => simp [assign]

theorem getattrDotted_put (assignment : Assignment) (attributes : List (String × Node Entity)) (part : String)
    (child : Node Entity) (rest : List String) :
    getattrDotted (part::rest) (.object assignment (Dict.put part child attributes)) = child.getattrDotted rest := by
  rw [getattrDotted,Dict.lookup_put,if_pos rfl]

theorem setattrDotted_iff {parts : List String} {node old : Node Entity} (child : Node Entity) (named : parts ≠ [])
    (held : node.getattrDotted parts = .ok old) :
    (∃ updated, setattrDotted child parts node = .ok updated) ↔ node.assignable parts = true := by
  induction parts generalizing node with
  | nil => exact absurd rfl named
  | cons part rest ih =>
    cases node with
    | entities items => cases held
    | anything => cases held
    | object assignment attributes =>
      unfold getattrDotted at held
      cases found : attributes.lookup part with
      | none =>
        rw [found] at held
        cases held
      | some inner =>
        rw [found] at held
        cases rest with
        | nil => simp [setattrDotted,assign_ok,assignable]
        | cons next rest =>
          have deeper := ih (by simp) held
          simp only [setattrDotted,found,assignable,bind_ok,assign_ok,Bool.and_eq_true,decide_eq_true_eq,
            Option.any_some,← deeper]
          constructor
          · rintro ⟨updated,value,set,writable,_⟩
            exact ⟨writable,value,set⟩
          · rintro ⟨writable,value,set⟩
            exact ⟨_,value,set,writable,rfl⟩

theorem getattr_setattrDotted {parts : List String} {node child updated : Node Entity}
    (set : setattrDotted child parts node = .ok updated) : updated.getattrDotted parts = .ok child := by
  induction parts generalizing node updated with
  | nil => simp [setattrDotted] at set
  | cons part rest ih =>
    cases node with
    | entities items => simp [setattrDotted] at set
    | anything => simp [setattrDotted] at set
    | object assignment attributes =>
      cases rest with
      | nil =>
        obtain ⟨_,rfl⟩ := assign_ok.mp set
        exact getattrDotted_put assignment attributes part child []
      | cons next rest =>
        simp only [setattrDotted] at set
        split at set
        next inner found =>
          obtain ⟨value,deeper,assigned⟩ := bind_ok.mp set
          obtain ⟨_,rfl⟩ := assign_ok.mp assigned
          rw [getattrDotted_put]
          exact ih deeper
        next => cases set

end Node

namespace AuthorizationMiddleware

def authorized (config : AuthorizationConfig Object) (responses : List AccessResponse) (resourceType resourceId : String) :
    Bool :=
  config.actionQuantifier.holds (fun action => responses.any fun response =>
    response.authorizes resourceType resourceId action) config.requiredActions

def counted (config : AuthorizationConfig Object) (responses : List AccessResponse) (resourceType resourceId : String) :
    Bool :=
  config.actionQuantifier.holds (fun action => responses.any fun response =>
    response.counts resourceType resourceId action) config.requiredActions

def authorizedEntities (config : AuthorizationConfig Object) (idOf : Entity → EntityId) (responses : List AccessResponse)
    (resourceType : String) (entities : List Entity) : List Entity :=
  entities.filter fun entity => (idOf entity).known?.any (authorized config responses resourceType)

/-- There is nothing to filter, or the entities can be told apart: one has an id and none lacks the attribute, the
missing value is not taken for an authorized id, and no flag of another type makes up for what an entity lacks. -/
structure Filterable (config : AuthorizationConfig Object) (idOf : Entity → EntityId) (responses : List AccessResponse)
    (resourceType : String) (parts : List String) (result : Node Entity) (entities : List Entity) : Prop where
  identified : ∃ entity ∈ entities, (idOf entity).known? ≠ none
  attributed : ∀ entity ∈ entities, idOf entity ≠ .missing
  null : ∀ entity ∈ entities, idOf entity = .null → counted config responses resourceType "None" = false
  ownType : ∀ entity ∈ entities, ∀ id, idOf entity = .known id → counted config responses resourceType id = true →
    authorized config responses resourceType id = true
  writable : result.assignable parts = true

theorem counts_of_authorizes {response : AccessResponse} {resourceType resourceId action : String}
    (authorizes : response.authorizes resourceType resourceId action = true) :
    response.counts resourceType resourceId action = true := by
  unfold AccessResponse.authorizes at authorizes
  unfold AccessResponse.counts
  cases answer : response.answer with
  | flag granted => simp_all
  | ids resourceIds => simp_all
  | other => simp_all

theorem Quantifier.holds_mono {quantifier : Quantifier} {first second : String → Bool} {actions : List String}
    (weaker : ∀ action, first action = true → second action = true) (holds : quantifier.holds first actions = true) :
    quantifier.holds second actions = true := by
  cases quantifier with
  | all =>
    refine List.all_eq_true.mpr fun action member => ?_
    exact weaker action (List.all_eq_true.mp holds action member)
  | any =>
    obtain ⟨action,member,allowed⟩ := List.any_eq_true.mp holds
    exact List.any_eq_true.mpr ⟨action,member,weaker action allowed⟩

theorem counted_of_authorized {config : AuthorizationConfig Object} {responses : List AccessResponse}
    {resourceType resourceId : String} (allowed : authorized config responses resourceType resourceId = true) :
    counted config responses resourceType resourceId = true := by
  refine Quantifier.holds_mono (fun action given => ?_) allowed
  obtain ⟨response,member,authorizes⟩ := List.any_eq_true.mp given
  exact List.any_eq_true.mpr ⟨response,member,counts_of_authorizes authorizes⟩

theorem filter_eq_iff {Item : Type} {first second : Item → Bool} {items : List Item} :
    items.filter first = items.filter second ↔ ∀ item ∈ items, first item = second item := by
  refine ⟨fun same item member => ?_,List.filter_congr⟩
  have chosen : item ∈ items.filter first ↔ item ∈ items.filter second := by rw [same]
  simpa [List.mem_filter,member,← Bool.eq_iff_iff] using chosen

def keeps (config : AuthorizationConfig Object) (idOf : Entity → EntityId) (responses : List AccessResponse)
    (resourceType : String) (entity : Entity) : Bool :=
  match idOf entity with
  | .missing => false
  | .null => counted config responses resourceType "None"
  | .known id => counted config responses resourceType id

theorem keeps_eq_iff (config : AuthorizationConfig Object) (idOf : Entity → EntityId) (responses : List AccessResponse)
    (resourceType : String) (entity : Entity) (attributed : idOf entity ≠ .missing) :
    keeps config idOf responses resourceType entity = (idOf entity).known?.any (authorized config responses resourceType) ↔
      (idOf entity = .null → counted config responses resourceType "None" = false) ∧
        ∀ id, idOf entity = .known id → counted config responses resourceType id = true →
          authorized config responses resourceType id = true := by
  unfold keeps
  cases found : idOf entity with
  | missing => exact absurd found attributed
  | null => simp [EntityId.known?]
  | known id =>
    have stronger := @counted_of_authorized _ config responses resourceType id
    simp only [EntityId.known?,Option.any_some,EntityId.known.injEq,forall_eq',reduceCtorEq,false_imp_iff,true_and]
    rw [Bool.eq_iff_iff]
    exact ⟨fun same => same.mp,fun weaker => ⟨weaker,stronger⟩⟩

def entityIds (idOf : Entity → EntityId) (entities : List Entity) : List String :=
  entities.filterMap fun entity => (idOf entity).known?

theorem entityIds_isEmpty (idOf : Entity → EntityId) (entities : List Entity) :
    (entityIds idOf entities).isEmpty = true ↔ ∀ entity ∈ entities, (idOf entity).known? = none := by
  rw [List.isEmpty_iff,entityIds,List.filterMap_eq_nil_iff]

theorem select_of_attributed (config : AuthorizationConfig Object) {idOf : Entity → EntityId}
    (responses : List AccessResponse) (resourceType : String) {entities : List Entity}
    (attributed : ∀ entity ∈ entities, idOf entity ≠ .missing) :
    Attempts.select (fun entity => do
      let id ← (idOf entity).str
      return allows config (StatefulABACAdapter.collect responses) resourceType id) entities =
        .ok (entities.filter (keeps config idOf responses resourceType)) := by
  apply select_of_answers
  intro entity member
  unfold keeps
  cases found : idOf entity with
  | missing => exact absurd found (attributed entity member)
  | null => exact congrArg Except.ok (collect_isAllowed responses resourceType "None" _ _)
  | known id => exact congrArg Except.ok (collect_isAllowed responses resourceType id _ _)

theorem select_keeps {config : AuthorizationConfig Object} {idOf : Entity → EntityId} {responses : List AccessResponse}
    {resourceType : String} {entities filtered : List Entity}
    (selected : Attempts.select (fun entity => do
      let id ← (idOf entity).str
      return allows config (StatefulABACAdapter.collect responses) resourceType id) entities = .ok filtered) :
    (∀ entity ∈ entities, idOf entity ≠ .missing) ∧
      filtered = entities.filter (keeps config idOf responses resourceType) := by
  have attributed : ∀ entity ∈ entities, idOf entity ≠ .missing := by
    intro entity member absent
    obtain ⟨chosen,answered⟩ := select_answered selected entity member
    rw [absent] at answered
    cases answered
  exact ⟨attributed,Except.ok.inj (selected.symm.trans (select_of_attributed config responses resourceType attributed))⟩

section Filtering

variable (engine : Option String → List CheckAccessItem → Option (Fields Object) → Option (Finset String) →
  List AccessResponse) (config : AuthorizationConfig Object) (bypassRoles : Finset String)
  (getId : String → Entity → EntityId)

def overEngine : AuthorizationMiddleware Object Entity :=
  ⟨StatefulABACAdapter.checkAccessBatch engine,config,bypassRoles,getId⟩

def responsesFor (caller : Caller Object) (authContext : Option (Fields Object)) (resourceType : String)
    (entities : List Entity) : List AccessResponse :=
  engine caller.accessToken (items config resourceType (entityIds (getId config.entityIdAttr) entities)) authContext
    caller.roleNames

theorem filterResult_iff {caller : Caller Object} {authContext : Option (Fields Object)} {path resourceType : String}
    {result : Node Entity} {entities : List Entity} (named : given config.resultEntitiesAttr = some path)
    (held : result.getattrDotted (splitOn '.' path) = .ok (.entities entities)) :
    let idOf := getId config.entityIdAttr
    let responses := responsesFor engine config getId caller authContext resourceType entities
    (∃ filtered, (overEngine engine config bypassRoles getId).filterResult result resourceType caller authContext =
        (.ok filtered : Except (Failure Raised) (Node Entity)) ∧
      filtered.getattrDotted (splitOn '.' path) =
        .ok (.entities (authorizedEntities config idOf responses resourceType entities))) ↔
    entities = [] ∨ Filterable config idOf responses resourceType (splitOn '.' path) result entities := by
  intro idOf responses
  have parts : splitOn '.' path ≠ [] := by simp [splitOn]
  have unfolded : (overEngine engine config bypassRoles getId).filterResult result resourceType caller authContext =
      (if (entityIds idOf entities).isEmpty then .ok result else do
        let filtered ← (Attempts.select (fun entity => do
          let id ← (idOf entity).str
          return allows config (StatefulABACAdapter.collect responses) resourceType id) entities).mapError .raised
        (Node.setattrDotted (.entities filtered) (splitOn '.' path) result).mapError .raised :
          Except (Failure Raised) (Node Entity)) := by
    simp only [filterResult,overEngine,named,held]
    rfl
  rw [unfolded]
  by_cases anonymous : (entityIds idOf entities).isEmpty
  · have unknown := (entityIds_isEmpty idOf entities).mp anonymous
    have nothing : authorizedEntities config idOf responses resourceType entities = [] := by
      refine List.filter_eq_nil_iff.mpr fun entity member => ?_
      simp [unknown entity member]
    simp only [if_pos anonymous,Except.ok.injEq,nothing]
    constructor
    · rintro ⟨_,rfl,read⟩
      rw [held] at read
      exact .inl (Node.entities.inj (Except.ok.inj read))
    · rintro (rfl | sound)
      · exact ⟨result,rfl,held⟩
      · obtain ⟨entity,member,known⟩ := sound.identified
        exact absurd (unknown entity member) known
  · have identified : ∃ entity ∈ entities, (idOf entity).known? ≠ none := by
      by_contra none
      push Not at none
      exact anonymous ((entityIds_isEmpty idOf entities).mpr none)
    simp only [if_neg anonymous,bind_ok,mapError_ok]
    constructor
    · rintro ⟨updated,⟨filtered,selected,set⟩,read⟩
      obtain ⟨attributed,rfl⟩ := select_keeps selected
      rw [Node.getattr_setattrDotted set,Except.ok.injEq,Node.entities.injEq] at read
      have alike := fun entity member => (keeps_eq_iff config idOf responses resourceType entity
        (attributed entity member)).mp (filter_eq_iff.mp read entity member)
      exact .inr ⟨identified,attributed,fun entity member => (alike entity member).1,
        fun entity member => (alike entity member).2,(Node.setattrDotted_iff _ parts held).mp ⟨updated,set⟩⟩
    · rintro (rfl | sound)
      · exact absurd rfl anonymous
      · obtain ⟨updated,set⟩ := (Node.setattrDotted_iff (.entities (entities.filter
          (keeps config idOf responses resourceType))) parts held).mpr sound.writable
        refine ⟨updated,⟨_,select_of_attributed config responses resourceType sound.attributed,set⟩,?_⟩
        rw [Node.getattr_setattrDotted set,Except.ok.injEq,Node.entities.injEq]
        refine filter_eq_iff.mpr fun entity member => ?_
        exact (keeps_eq_iff config idOf responses resourceType entity (sound.attributed entity member)).mpr
          ⟨sound.null entity member,sound.ownType entity member⟩

/-- Behind the check before the handler, the entities left are those that the engine authorized exactly when the
result can be filtered. -/
theorem call_postFilter_iff {caller : Caller Object} {message : Message}
    {nextHandler : Message → Except (Failure Raised) (Node Entity)} {authContext : Option (Fields Object)}
    {path resourceType : String} {result : Node Entity} {entities : List Entity}
    (checked : caller.bypasses bypassRoles = false) (named : given config.resultEntitiesAttr = some path)
    (typed : resourceType ≠ "")
    (admitted : (overEngine engine config bypassRoles getId).enter caller message =
      (.ok (some resourceType,authContext) : Except (Failure Raised) _))
    (handled : nextHandler message = .ok result)
    (held : result.getattrDotted (splitOn '.' path) = .ok (.entities entities)) :
    let idOf := getId config.entityIdAttr
    let responses := responsesFor engine config getId caller authContext resourceType entities
    (∃ filtered, (overEngine engine config bypassRoles getId).call nextHandler caller message = .ok filtered ∧
      filtered.getattrDotted (splitOn '.' path) =
        .ok (.entities (authorizedEntities config idOf responses resourceType entities))) ↔
    entities = [] ∨ Filterable config idOf responses resourceType (splitOn '.' path) result entities := by
  have filtering : (overEngine engine config bypassRoles getId).call nextHandler caller message =
      (overEngine engine config bypassRoles getId).filterResult result resourceType caller authContext := by
    have resolved : given (some resourceType) = some resourceType := by simp [given,typed]
    have filters : given (overEngine engine config bypassRoles getId).config.resultEntitiesAttr = some path := named
    have unbypassed : ¬caller.bypasses (overEngine engine config bypassRoles getId).bypassRoles = true := by
      simpa [overEngine] using checked
    simp only [call,if_neg unbypassed,admitted,handled,bind,Except.bind,filters,resolved]
  rw [filtering]
  exact filterResult_iff engine config bypassRoles getId named held

end Filtering

def ordersConfig : AuthorizationConfig Empty :=
  { resourceType := some "order", requiredActions := ["read"], resultEntitiesAttr := some "items" }

def orderId (_ : String) (id : Option String) : EntityId := id.elim .null .known

def orders (ids : List (Option String)) : Node (Option String) := .object .setattr [("items",.entities ids)]

def listOrders : Message := { getattr := fun _ => none, dotted := fun _ => .error .attributeError }

def readsFirst : Option String → List CheckAccessItem → Option (Fields Empty) → Option (Finset String) →
    List AccessResponse := fun _ _ _ _ => [⟨"order","read",.ids ["o1"]⟩]

theorem call_postFilter_first : ∃ filtered, (overEngine readsFirst ordersConfig ∅ orderId).call
      (fun _ => .ok (orders [some "o1",some "o2"])) {} listOrders = (.ok filtered : Except (Failure Empty) _) ∧
    filtered.getattrDotted (splitOn '.' "items") = .ok (.entities [some "o1"]) := by
  have admitted : (overEngine readsFirst ordersConfig ∅ orderId).enter {} listOrders =
      (.ok (some "order",none) : Except (Failure Empty) _) := rfl
  have held : (orders [some "o1",some "o2"]).getattrDotted (splitOn '.' "items") =
      .ok (.entities [some "o1",some "o2"]) := rfl
  refine (call_postFilter_iff readsFirst ordersConfig ∅ orderId rfl rfl (by decide) admitted rfl held).mpr (.inr ?_)
  refine ⟨⟨some "o1",by simp,by simp [orderId,EntityId.known?]⟩,?_,?_,?_,rfl⟩
  · simp [orderId]
  · simp [orderId]
  · intro entity member id known granted
    have given : (if id = "o1" then true else false) = true := by
      simpa [counted,ordersConfig,Quantifier.holds,responsesFor,readsFirst,AccessResponse.counts] using granted
    obtain rfl : id = "o1" := by simpa using given
    decide

/-- An order without an id is handed on though the engine authorizes nothing. -/
theorem call_postFilter_unidentified : ¬ ∀ (engine : Option String → List CheckAccessItem → Option (Fields Empty) →
      Option (Finset String) → List AccessResponse) (entities : List (Option String)),
    ∃ filtered, (overEngine engine ordersConfig ∅ orderId).call (fun _ => .ok (orders entities)) {} listOrders =
        (.ok filtered : Except (Failure Empty) _) ∧
      filtered.getattrDotted ["items"] = .ok (.entities (authorizedEntities ordersConfig (orderId "id")
        (responsesFor engine ordersConfig orderId {} none "order" entities) "order" entities)) := by
  intro exact_
  obtain ⟨filtered,called,read⟩ := exact_ (fun _ _ _ _ => []) [none]
  have unfiltered : (overEngine (fun _ _ _ _ => []) ordersConfig ∅ orderId).call (fun _ => .ok (orders [none])) {}
      listOrders = (.ok (orders [none]) : Except (Failure Empty) _) := rfl
  obtain rfl := Except.ok.inj (unfiltered.symm.trans called)
  cases read

end AuthorizationMiddleware
end CqrsDdd.Access
