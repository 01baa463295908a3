import CqrsDdd.Identity.Sessions

/-! What each call of the database identity provider does to the session store, and
the invariant of its runs. -/
namespace CqrsDdd.Identity

open Expiring StorePrograms InMemorySessionStore

namespace DatabaseIdentityProvider

variable {Repo Lockouts Object : Type}

theorem resolve_reads (token : String) :
    (resolve token : Call (Except AuthenticationError (Principal Object))).Reads := by
  unfold resolve
  split
  next => exact .done _
  next =>
    refine .get _ _ fun moment found => ?_
    split
    next => exact .done _
    next =>
      split
      next => exact .delete _ _ fun _ => .done _
      next => exact .done _

theorem cleanupSession_reads (accessToken : Option String) (refreshToken : String) :
    (cleanupSession accessToken refreshToken).Reads := by
  have rest : (Program.delete (refreshKey refreshToken) fun now => .done now : Call Int).Reads :=
    .delete _ _ fun _ => .done _
  unfold cleanupSession
  split
  next =>
    split
    next => exact rest
    next => exact .delete _ _ fun _ => rest
  next => exact rest

theorem logout_reads (token : String) : (logout token).Reads := by
  have last : (Program.delete (sessionKey token) fun _ => .done () : Call Unit).Reads := .delete _ _ fun _ => .done _
  unfold logout
  split
  next => exact .done _
  next =>
    refine .get _ _ fun moment found => ?_
    split
    next =>
      split
      next => exact last
      next => exact .delete _ _ fun _ => last
    next => exact last

theorem cleanupSession_moment (accessToken : Option String) (refreshToken : String) (now : Int)
    (sessions : InMemorySessionStore SessionData) :
    ((cleanupSession accessToken refreshToken).run atomic now sessions).1 = now := by
  unfold cleanupSession
  split
  next =>
    split
    next => rfl
    next => rfl
  next => rfl

theorem resolve_ok {token : String} {now : Int} {sessions : InMemorySessionStore SessionData} {principal : Principal Object}
    (resolves : ((resolve token : Call (Except AuthenticationError (Principal Object))).run atomic now sessions).1 =
      .ok principal) :
    ∃ data, look sessions now (sessionKey token) = some data ∧ data.userId = some principal.userId := by
  unfold resolve at resolves
  split at resolves
  next => cases resolves
  next =>
    rw [run_get] at resolves
    cases found : look sessions now (sessionKey token) with
    | none =>
      rw [found] at resolves
      cases resolves
    | some data =>
      rw [found] at resolves
      refine ⟨data,rfl,?_⟩
      dsimp only at resolves
      split at resolves
      next => cases resolves
      next =>
        change principalOf token data = .ok principal at resolves
        unfold principalOf at resolves
        split at resolves
        next => cases resolves
        next => cases resolves
        next userId username named _ =>
          cases resolves
          exact named

theorem logout_gone {token : String} (named : token ≠ "") (now : Int) (sessions : InMemorySessionStore SessionData) :
    look ((logout token).run atomic now sessions).2 now (sessionKey token) = none ∧
      ∀ data refreshToken, look sessions now (sessionKey token) = some data → data.refreshToken = some refreshToken →
        refreshToken ≠ "" → look ((logout token).run atomic now sessions).2 now (refreshKey refreshToken) = none := by
  have last (left : InMemorySessionStore SessionData) :
      look (left.erase (sessionKey token)) now (sessionKey token) = none := look_erase_self left now _
  unfold logout
  rw [if_neg named,run_get]
  constructor
  · split
    next =>
      split
      next => exact last _
      next => exact last _
    next => exact last _
  · intro data refreshToken found linked given
    rw [found,Option.bind_some,linked]
    dsimp only
    rw [if_neg given]
    change look (((prune sessions now (sessionKey token)).erase (refreshKey refreshToken)).erase (sessionKey token)) now
      (refreshKey refreshToken) = none
    rw [look_erase_other _ now (sessionKey_ne_refreshKey token refreshToken).symm]
    exact look_erase_self _ now _

section Creating

variable (provider : DatabaseIdentityProvider Repo Lockouts) (accessToken refreshToken : String) (now : Int)
  (user : UserCredentials) (sessions : InMemorySessionStore SessionData)

/-- The store in which a session was created. -/
def created : InMemorySessionStore SessionData :=
  ((provider.createSession accessToken refreshToken now user).run atomic now sessions).2

variable {provider accessToken refreshToken now user sessions}

theorem created_session {data : SessionData}
    (found : look (provider.created accessToken refreshToken now user sessions) now (sessionKey accessToken) = some data) :
    data.userId = some user.userId ∧ data.refreshToken = some refreshToken := by
  change look ((Dict.set sessions _ _).set (refreshKey refreshToken) _) now _ = _ at found
  rw [look_set_other _ now _ (sessionKey_ne_refreshKey accessToken refreshToken)] at found
  have same := look_set_self found
  exact ⟨same ▸ rfl,same ▸ rfl⟩

theorem created_refresh {data : SessionData}
    (found : look (provider.created accessToken refreshToken now user sessions) now (refreshKey refreshToken) = some data) :
    data.userId = some user.userId ∧ data.accessToken = some accessToken := by
  change look ((Dict.set sessions _ _).set (refreshKey refreshToken) _) now _ = _ at found
  have same := look_set_self found
  exact ⟨same ▸ rfl,same ▸ rfl⟩

theorem created_other (key : String) (session : key ≠ sessionKey accessToken) (refresh : key ≠ refreshKey refreshToken) :
    look (provider.created accessToken refreshToken now user sessions) now key = look sessions now key := by
  change look ((Dict.set sessions _ _).set (refreshKey refreshToken) _) now key = _
  rw [look_set_other _ now _ refresh,look_set_other _ now _ session]

end Creating

/-- The user that a refresh issues a session for. -/
def Renews (provider : DatabaseIdentityProvider Repo Lockouts) (repo : Repo) (now : Int)
    (sessions : InMemorySessionStore SessionData) (data : SessionData) (userId : String) (user : UserCredentials) : Prop :=
  match provider.userRepository.getByUsername repo userId with
  | some found => found = user ∧ user.isActive = true
  | none => ∃ session, look sessions now (sessionKey (data.accessToken.getD "None")) = some session ∧
      sessionUser session = .ok user

/-- What a refresh does: it is refused and stores nothing, or it finds its token and creates a session. -/
inductive Refreshed (provider : DatabaseIdentityProvider Repo Lockouts) (repo : Repo) (drawn : String × String)
    (now : Int) (sessions : InMemorySessionStore SessionData) (refreshToken : String) :
    Except AuthenticationError TokenResponse × InMemorySessionStore SessionData → Prop
  | refused (error : AuthenticationError) (left : InMemorySessionStore SessionData) (fades : Fades now sessions left) :
      Refreshed provider repo drawn now sessions refreshToken (.error error,left)
  | renewed (response : TokenResponse) (data : SessionData) (userId : String) (user : UserCredentials)
      (faded : InMemorySessionStore SessionData) (found : look sessions now (refreshKey refreshToken) = some data)
      (fresh : data.expired now = false) (named : data.userId = some userId)
      (renews : provider.Renews repo now sessions data userId user) (fades : Fades now sessions faded) :
      Refreshed provider repo drawn now sessions refreshToken (.ok response,provider.created drawn.1 drawn.2 now user faded)

variable {provider : DatabaseIdentityProvider Repo Lockouts} {repo : Repo} {drawn : String × String} {now : Int}
  {sessions : InMemorySessionStore SessionData} {refreshToken : String}

theorem renew_refreshed {data : SessionData} {userId : String} {user : UserCredentials}
    {left : InMemorySessionStore SessionData} (found : look sessions now (refreshKey refreshToken) = some data)
    (fresh : data.expired now = false) (named : data.userId = some userId)
    (renews : user.isActive = true → provider.Renews repo now sessions data userId user) (fades : Fades now sessions left) :
    provider.Refreshed repo drawn now sessions refreshToken
      ((provider.renew drawn refreshToken data user).run atomic now left) := by
  have cleaned := fades.trans (reads_fades (cleanupSession_reads data.accessToken refreshToken) now left)
  unfold renew
  rw [Program.run_bind,cleanupSession_moment]
  split
  next active => exact .renewed _ data userId user _ found fresh named (renews active) cleaned
  next => exact .refused _ _ cleaned

theorem refresh_refreshed (provider : DatabaseIdentityProvider Repo Lockouts) (repo : Repo) (drawn : String × String)
    (now : Int) (sessions : InMemorySessionStore SessionData) (refreshToken : String) :
    provider.Refreshed repo drawn now sessions refreshToken
      ((provider.refresh repo drawn refreshToken).run atomic now sessions) := by
  have pruned := prune_fades now sessions (refreshKey refreshToken)
  unfold refresh
  split
  next => exact .refused _ _ (Fades.refl now sessions)
  next =>
    rw [run_get]
    split
    next => exact .refused _ _ pruned
    next data found =>
      split
      next =>
        rw [Program.run_bind]
        exact .refused _ _ (pruned.trans (reads_fades (cleanupSession_reads data.accessToken refreshToken) now _))
      next fresh =>
        split
        next => exact .refused _ _ pruned
        next userId named =>
          split
          next user account =>
            refine renew_refreshed found (Bool.not_eq_true _ ▸ fresh) named (fun active => ?_) pruned
            unfold Renews
            rw [account]
            exact ⟨rfl,active⟩
          next account =>
            rw [run_get]
            have twice := pruned.trans (prune_fades now _ (sessionKey (data.accessToken.getD "None")))
            split
            next => exact .refused _ _ twice
            next session old =>
              split
              next => exact .refused _ _ twice
              next user read =>
                refine renew_refreshed found (Bool.not_eq_true _ ▸ fresh) named (fun _ => ?_) twice
                unfold Renews
                rw [account]
                exact ⟨session,pruned now le_rfl _ _ old,read⟩

end DatabaseIdentityProvider

namespace SessionWorld

open DatabaseIdentityProvider

variable {Repo Lockouts : Type} {provider : DatabaseIdentityProvider Repo Lockouts} {supply : TokenSupply}
  {world : SessionWorld Repo Lockouts}

/-- Neither token of the issue is accepted. -/
structure Closed (world : SessionWorld Repo Lockouts) (issue : Issue) : Prop where
  session : look world.sessions world.clock (sessionKey issue.accessToken) = none
  refresh : ∀ data, look world.sessions world.clock (refreshKey issue.refreshToken) = some data →
    data.expired world.clock = true

structure Inv (provider : DatabaseIdentityProvider Repo Lockouts) (supply : TokenSupply)
    (world : SessionWorld Repo Lockouts) : Prop where
  session : ∀ token data, look world.sessions world.clock (sessionKey token) = some data → ∃ issue ∈ world.issued,
    issue.accessToken = token ∧ data.userId = some issue.owner ∧ data.refreshToken = some issue.refreshToken
  refresh : ∀ token data, look world.sessions world.clock (refreshKey token) = some data → ∃ issue ∈ world.issued,
    issue.refreshToken = token ∧ data.userId = some issue.owner ∧ data.accessToken = some issue.accessToken
  drawn : ∀ issue ∈ world.issued, (∃ number < world.drawn, issue.accessToken = supply.token number) ∧
    ∃ number < world.drawn, issue.refreshToken = supply.token number
  access : ∀ first ∈ world.issued, ∀ second ∈ world.issued, first.accessToken = second.accessToken → first = second
  single : ∀ first ∈ world.issued, ∀ second ∈ world.issued, first.refreshToken = second.refreshToken → first = second
  reissued : ∀ entry ∈ world.reissued, ¬provider.userRepository.Marks entry.2 entry.1
  loggedOut : ∀ issue ∈ world.loggedOut, issue ∈ world.issued ∧ world.Closed issue

theorem Closed.fade {issue : Issue} (closed : world.Closed issue) {left : InMemorySessionStore SessionData}
    (fades : Fades world.clock world.sessions left) : Closed {world with sessions := left} issue where
  session := fades.none closed.session
  refresh data found := closed.refresh data (fades world.clock le_rfl _ data found)

theorem Inv.fade (inv : world.Inv provider supply) {left : InMemorySessionStore SessionData}
    (fades : Fades world.clock world.sessions left) : Inv provider supply {world with sessions := left} where
  session token data found := inv.session token data (fades world.clock le_rfl _ data found)
  refresh token data found := inv.refresh token data (fades world.clock le_rfl _ data found)
  drawn := inv.drawn
  access := inv.access
  single := inv.single
  reissued := inv.reissued
  loggedOut issue member := ⟨(inv.loggedOut issue member).1,(inv.loggedOut issue member).2.fade fades⟩

theorem Inv.wait (inv : world.Inv provider supply) (seconds : Nat) :
    Inv provider supply {world with clock := world.clock + seconds} := by
  have passed : world.clock ≤ world.clock + seconds := by omega
  refine ⟨fun token data found => ?_,fun token data found => ?_,inv.drawn,inv.access,inv.single,inv.reissued,?_⟩
  · exact inv.session token data (look_later passed found)
  · exact inv.refresh token data (look_later passed found)
  · intro issue member
    obtain ⟨issued,closed⟩ := inv.loggedOut issue member
    refine ⟨issued,?_,fun data found => ?_⟩
    · cases found : look world.sessions (world.clock + seconds) (sessionKey issue.accessToken) with
      | none => rfl
      | some data => cases closed.session.symm.trans (look_later passed found)
    · have expired := closed.refresh data (look_later passed found)
      unfold SessionData.expired at expired ⊢
      split at expired
      next deadline _ => exact decide_eq_true (lt_of_lt_of_le (of_decide_eq_true expired) passed)
      next => cases expired

theorem Inv.draw (inv : world.Inv provider supply) (accounts : Accounts Repo Lockouts) (more : Nat) :
    Inv provider supply {world with accounts := accounts, drawn := world.drawn + more} where
  session := inv.session
  refresh := inv.refresh
  drawn issue member := by
    obtain ⟨⟨access,before,drewAccess⟩,single,earlier,drewSingle⟩ := inv.drawn issue member
    exact ⟨⟨access,Nat.lt_add_right more before,drewAccess⟩,single,Nat.lt_add_right more earlier,drewSingle⟩
  access := inv.access
  single := inv.single
  reissued := inv.reissued
  loggedOut issue member := ⟨(inv.loggedOut issue member).1,(inv.loggedOut issue member).2.session,
    (inv.loggedOut issue member).2.refresh⟩

theorem Inv.reissue (inv : world.Inv provider supply) (more : List (String × Repo))
    (unmarked : ∀ entry ∈ more, ¬provider.userRepository.Marks entry.2 entry.1) :
    Inv provider supply {world with reissued := world.reissued ++ more} where
  session := inv.session
  refresh := inv.refresh
  drawn := inv.drawn
  access := inv.access
  single := inv.single
  reissued entry member := (List.mem_append.mp member).elim (inv.reissued entry) (unmarked entry)
  loggedOut issue member := ⟨(inv.loggedOut issue member).1,(inv.loggedOut issue member).2.session,
    (inv.loggedOut issue member).2.refresh⟩

theorem Inv.logOut (inv : world.Inv provider supply) (more : List Issue)
    (closed : ∀ issue ∈ more, issue ∈ world.issued ∧ world.Closed issue) :
    Inv provider supply {world with loggedOut := world.loggedOut ++ more} where
  session := inv.session
  refresh := inv.refresh
  drawn := inv.drawn
  access := inv.access
  single := inv.single
  reissued := inv.reissued
  loggedOut issue member := by
    obtain ⟨issued,shut⟩ := (List.mem_append.mp member).elim (inv.loggedOut issue) (closed issue)
    exact ⟨issued,shut.session,shut.refresh⟩

theorem Inv.fresh (inv : world.Inv provider supply) {issue : Issue} (issued : issue ∈ world.issued) (ahead : Nat) :
    issue.accessToken ≠ supply.token (world.drawn + ahead) ∧ issue.refreshToken ≠ supply.token (world.drawn + ahead) := by
  obtain ⟨⟨access,before,drewAccess⟩,single,earlier,drewSingle⟩ := inv.drawn issue issued
  constructor
  · intro same
    have := supply.distinct (drewAccess.symm.trans same)
    omega
  · intro same
    have := supply.distinct (drewSingle.symm.trans same)
    omega

theorem Inv.issue (inv : world.Inv provider supply) (user : UserCredentials)
    {faded : InMemorySessionStore SessionData} (fades : Fades world.clock world.sessions faded) :
    Inv provider supply {world with
      sessions := provider.created (world.tokens supply).1 (world.tokens supply).2 world.clock user faded
      drawn := world.drawn + 2
      issued := world.issued ++ [⟨(world.tokens supply).1,(world.tokens supply).2,user.userId⟩]} := by
  have fresh {issue : Issue} (issued : issue ∈ world.issued) :
      issue.accessToken ≠ (world.tokens supply).1 ∧ issue.refreshToken ≠ (world.tokens supply).2 :=
    ⟨(inv.fresh issued 0).1,(inv.fresh issued 1).2⟩
  have earlier {issue : Issue} (issued : issue ∈ world.issued) :
      issue ∈ world.issued ++ [⟨(world.tokens supply).1,(world.tokens supply).2,user.userId⟩] :=
    List.mem_append_left _ issued
  have last : (⟨(world.tokens supply).1,(world.tokens supply).2,user.userId⟩ : Issue) ∈
      world.issued ++ [⟨(world.tokens supply).1,(world.tokens supply).2,user.userId⟩] :=
    List.mem_append_right _ List.mem_cons_self
  constructor
  case session =>
    intro token data found
    by_cases new : token = (world.tokens supply).1
    · cases new
      exact ⟨_,last,rfl,created_session found⟩
    · dsimp only at found
      rw [created_other _ (fun same => new (sessionKey_inj same)) (sessionKey_ne_refreshKey _ _)] at found
      obtain ⟨issue,issued,rest⟩ := inv.session token data (fades world.clock le_rfl _ data found)
      exact ⟨issue,earlier issued,rest⟩
  case refresh =>
    intro token data found
    by_cases new : token = (world.tokens supply).2
    · cases new
      exact ⟨_,last,rfl,created_refresh found⟩
    · dsimp only at found
      rw [created_other _ (sessionKey_ne_refreshKey _ _).symm (fun same => new (refreshKey_inj same))] at found
      obtain ⟨issue,issued,rest⟩ := inv.refresh token data (fades world.clock le_rfl _ data found)
      exact ⟨issue,earlier issued,rest⟩
  case drawn =>
    intro issue member
    rcases List.mem_append.mp member with issued | new
    · exact (inv.draw world.accounts 2).drawn issue issued
    · rw [List.mem_singleton.mp new]
      exact ⟨⟨world.drawn,Nat.lt_add_of_pos_right Nat.two_pos,rfl⟩,world.drawn + 1,Nat.lt_succ_self _,rfl⟩
  case access =>
    intro first one second two same
    rcases List.mem_append.mp one with one | one <;> rcases List.mem_append.mp two with two | two
    · exact inv.access first one second two same
    · rw [List.mem_singleton.mp two] at same
      exact absurd same (fresh one).1
    · rw [List.mem_singleton.mp one] at same
      exact absurd same.symm (fresh two).1
    · rw [List.mem_singleton.mp one,List.mem_singleton.mp two]
  case single =>
    intro first one second two same
    rcases List.mem_append.mp one with one | one <;> rcases List.mem_append.mp two with two | two
    · exact inv.single first one second two same
    · rw [List.mem_singleton.mp two] at same
      exact absurd same (fresh one).2
    · rw [List.mem_singleton.mp one] at same
      exact absurd same.symm (fresh two).2
    · rw [List.mem_singleton.mp one,List.mem_singleton.mp two]
  case reissued => exact inv.reissued
  case loggedOut =>
    intro issue member
    obtain ⟨issued,closed⟩ := inv.loggedOut issue member
    refine ⟨earlier issued,?_,fun data found => ?_⟩
    · dsimp only
      rw [created_other _ (fun same => (fresh issued).1 (sessionKey_inj same)) (sessionKey_ne_refreshKey _ _)]
      exact fades.none closed.session
    · dsimp only at found
      rw [created_other _ (sessionKey_ne_refreshKey _ _).symm (fun same => (fresh issued).2 (refreshKey_inj same))] at found
      exact closed.refresh data (fades world.clock le_rfl _ data found)

theorem Inv.ownerOf (inv : world.Inv provider supply) {issue : Issue} (issued : issue ∈ world.issued) :
    world.ownerOf issue.refreshToken = some issue.owner := by
  unfold SessionWorld.ownerOf
  cases found : world.issued.find? fun other => other.refreshToken = issue.refreshToken with
  | none => exact absurd rfl (of_decide_eq_false (Bool.not_eq_true _ ▸ List.find?_eq_none.mp found issue issued))
  | some other =>
    have matched := List.find?_some found
    rw [inv.single other (List.mem_of_find?_eq_some found) issue issued (of_decide_eq_true matched)]
    rfl

theorem Inv.sound (inv : world.Inv provider supply) : world.Sound provider where
  resolves token principal resolved := by
    obtain ⟨data,found,named⟩ := resolve_ok resolved
    obtain ⟨issue,issued,same,owner,_⟩ := inv.session token data found
    exact ⟨issue,issued,same,Option.some.inj (owner.symm.trans named)⟩
  reissued := inv.reissued
  loggedOut issue member := by
    obtain ⟨issued,closed⟩ := inv.loggedOut issue member
    constructor
    · intro principal resolved
      obtain ⟨data,found,_⟩ := resolve_ok resolved
      cases closed.session.symm.trans found
    · intro drawn response accepted
      have refreshed := refresh_refreshed provider world.accounts.repo drawn world.clock world.sessions issue.refreshToken
      unfold exec at accepted
      generalize (provider.refresh world.accounts.repo drawn issue.refreshToken).run atomic world.clock world.sessions = left
        at refreshed accepted
      cases refreshed with
      | refused => cases accepted
      | renewed _ data _ _ _ found fresh => exact Bool.false_ne_true (fresh.symm.trans (closed.refresh data found))

theorem inv_initial (provider : DatabaseIdentityProvider Repo Lockouts) (supply : TokenSupply) (repo : Repo)
    (lockouts : Lockouts) (clock : Int) : (initial repo lockouts clock).Inv provider supply where
  session token data found := by cases found
  refresh token data found := by cases found
  drawn issue member := by cases member
  access first member := by cases member
  single first member := by cases member
  reissued entry member := by cases member
  loggedOut issue member := by cases member

theorem Allowed.renews {data : SessionData} {userId : String} {user : UserCredentials} {refreshToken : String}
    (inv : world.Inv provider supply) (allowed : world.Allowed provider (.refresh refreshToken))
    (found : look world.sessions world.clock (refreshKey refreshToken) = some data)
    (fresh : data.expired world.clock = false) (named : data.userId = some userId)
    (renews : provider.Renews world.accounts.repo world.clock world.sessions data userId user) :
    user.userId = userId ∧ ¬provider.userRepository.Marks world.accounts.repo userId := by
  have asked := allowed data userId found fresh named
  unfold Renews at renews
  split at renews
  next stored account =>
    obtain ⟨rfl,active⟩ := renews
    rw [account] at asked
    exact asked active
  next account =>
    obtain ⟨session,old,read⟩ := renews
    rw [account] at asked
    refine ⟨?_,asked (old ▸ rfl)⟩
    obtain ⟨issue,issued,_,owner,linked⟩ := inv.refresh refreshToken data found
    rw [linked] at old
    obtain ⟨other,member,same,holder,_⟩ := inv.session issue.accessToken session old
    rw [inv.access other member issue issued same,← owner,named] at holder
    unfold sessionUser at read
    split at read
    next => cases read
    next => cases read
    next userId username known _ =>
      cases read
      exact Option.some.inj (known.symm.trans holder)

theorem Inv.step (inv : world.Inv provider supply) (action : SessionStep Repo) (allowed : world.Allowed provider action) :
    (world.step provider supply action).Inv provider supply := by
  cases action with
  | authenticate username password requireMfa =>
    dsimp only [SessionWorld.step]
    split
    next => exact inv.draw _ 2
    next user _ => exact (inv.issue user (Fades.refl world.clock world.sessions)).draw _ 0
  | resolve token => exact inv.fade (reads_fades (resolve_reads token) world.clock world.sessions)
  | refresh refreshToken =>
    have refreshed := refresh_refreshed provider world.accounts.repo (world.tokens supply) world.clock world.sessions
      refreshToken
    dsimp only [SessionWorld.step,exec]
    generalize (provider.refresh world.accounts.repo (world.tokens supply) refreshToken).run atomic world.clock
      world.sessions = left at refreshed
    cases refreshed with
    | refused error faded fades => exact (inv.fade fades).draw world.accounts 2
    | renewed response data userId user faded found fresh named renews fades =>
      obtain ⟨same,unmarked⟩ := allowed.renews inv found fresh named renews
      obtain ⟨issue,issued,token,owner,_⟩ := inv.refresh refreshToken data found
      have started : (world.ownerOf refreshToken).getD "" = user.userId := by
        rw [← token,inv.ownerOf issued,same]
        exact (Option.some.inj (named.symm.trans owner)).symm
      dsimp only
      rw [started]
      apply (inv.issue user fades).reissue
      intro entry member
      obtain ⟨id,read,rfl⟩ := Option.map_eq_some_iff.mp (Option.mem_toList.mp member)
      obtain ⟨session,seen,holder⟩ := Option.bind_eq_some_iff.mp read
      rw [(created_session seen).1] at holder
      rw [← Option.some.inj holder,same]
      exact unmarked
  | logout token =>
    have fades := reads_fades (logout_reads token) world.clock world.sessions
    apply (inv.fade fades).logOut
    intro issue member
    obtain ⟨issued,same⟩ := List.mem_filter.mp member
    have same := of_decide_eq_true same
    refine ⟨issued,?_⟩
    have given : token ≠ "" := by
      obtain ⟨⟨number,_,drew⟩,_⟩ := inv.drawn issue issued
      rw [← same,drew]
      exact supply.named number
    obtain ⟨session,linked⟩ := logout_gone given world.clock world.sessions
    refine ⟨same ▸ session,fun data found => ?_⟩
    rcases allowed issue issued same with present | gone
    · obtain ⟨old,seen⟩ := Option.isSome_iff_exists.mp present
      obtain ⟨other,member,access,_,named⟩ := inv.session token old seen
      rw [inv.access other member issue issued (access.trans same.symm)] at named
      have absent := linked old issue.refreshToken seen named (by
        obtain ⟨_,number,_,drew⟩ := inv.drawn issue issued
        rw [drew]
        exact supply.named number)
      cases absent.symm.trans found
    · exact gone data (fades world.clock le_rfl _ data found)
  | wait seconds => exact inv.wait seconds
  | change repo => exact inv.draw _ 0

theorem run_sound (provider : DatabaseIdentityProvider Repo Lockouts) (supply : TokenSupply) (repo : Repo)
    (lockouts : Lockouts) (clock : Int) (actions : List (SessionStep Repo))
    (allowed : Transition.Meets (SessionWorld.step provider supply) (Allowed provider) (initial repo lockouts clock)
      actions) :
    ∀ earlier, earlier <+: actions →
      (Transition.run (SessionWorld.step provider supply) (initial repo lockouts clock) earlier).Sound provider := by
  intro earlier before
  have inv := Transition.run_invariant (Inv provider supply) (fun _ action inv => inv.step action) _ earlier
    (inv_initial provider supply repo lockouts clock) (allowed.earlier before)
  exact inv.sound

def tallies : TokenSupply where
  token number := String.ofList (List.replicate (number + 1) 't')
  distinct first second same := by
    have lengths := congrArg List.length (String.ofList_injective same)
    simpa using lengths
  named number same := by
    have lengths := congrArg (fun token => token.toList.length) same
    simp at lengths

def listed : DatabaseIdentityProvider InMemoryUserCredentialsRepository Unit where
  userRepository := InMemoryUserCredentialsRepository.repository
  passwordHasher := ⟨fun hash password => hash = password,fun _ => false,fun _ password => password⟩

def users (entries : List UserCredentials) : InMemoryUserCredentialsRepository :=
  entries.foldl (fun users user => users.add user) Dict.empty

def alice (userId : String) : UserCredentials where
  userId := userId
  username := "alice"
  passwordHash := some "correct-password"

def signIn : SessionStep InMemoryUserCredentialsRepository := .authenticate "alice" "correct-password" false

/-- A session that was refreshed and then logged out, of a user named by the id. -/
theorem run_sound_renewed :
    (Transition.run (SessionWorld.step listed tallies) (initial (users [alice "alice"]) () 0)
      [signIn,.wait 60,.refresh "tt",.logout "ttt"]).Sound listed := by
  have unmarked : ¬listed.userRepository.Marks (users [alice "alice"]) "alice" := by
    rintro ⟨name,user,found,_,marked⟩
    have stored : Dict.get (users [alice "alice"]) name = some user := found.elim id id
    have entry : (name,user) ∈ [("alice",alice "alice")] := (Dict.mem_iff_get _).mpr stored
    cases List.mem_singleton.mp entry
    rcases marked with inactive | locked
    · cases inactive
    · cases locked
  apply run_sound listed tallies (users [alice "alice"]) () 0 [signIn,.wait 60,.refresh "tt",.logout "ttt"] _ _
    (List.prefix_refl _)
  refine ⟨trivial,trivial,fun data userId found _ named => ?_,fun issue issued same => ?_,trivial⟩
  · have holder : data.userId = some "alice" := by
      rw [← Option.some.inj found]
      rfl
    cases Option.some.inj (named.symm.trans holder)
    exact fun _ => ⟨rfl,unmarked⟩
  · left
    decide

/-- A refresh reads neither the account of a user whose name is not the id nor `is_locked`, and takes the name of one
user for the id of another; a logout after the session expired leaves its refresh token in place. -/
theorem run_unsound :
    ¬(Transition.run (SessionWorld.step listed tallies) (initial (users [alice "user-1"]) () 0)
        [signIn,.change (users [{alice "user-1" with isActive := false}]),.refresh "tt"]).Sound listed ∧
    ¬(Transition.run (SessionWorld.step listed tallies) (initial (users [alice "alice"]) () 0)
        [signIn,.change (users [{alice "alice" with isLocked := true}]),.refresh "tt"]).Sound listed ∧
    ¬(Transition.run (SessionWorld.step listed tallies)
        (initial (users [alice "user-1",{alice "user-2" with username := "user-1"}]) () 0)
        [signIn,.refresh "tt"]).Sound listed ∧
    ¬(Transition.run (SessionWorld.step listed tallies) (initial (users [alice "alice"]) () 0)
        [signIn,.wait 3601,.logout "t"]).Sound listed := by
  refine ⟨fun sound => ?_,fun sound => ?_,fun sound => ?_,fun sound => ?_⟩
  · refine sound.reissued ("user-1",users [{alice "user-1" with isActive := false}]) (List.mem_singleton.mpr rfl) ?_
    exact ⟨"alice",{alice "user-1" with isActive := false},.inl rfl,rfl,.inl rfl⟩
  · refine sound.reissued ("alice",users [{alice "alice" with isLocked := true}]) (List.mem_singleton.mpr rfl) ?_
    exact ⟨"alice",{alice "alice" with isLocked := true},.inl rfl,rfl,.inr rfl⟩
  · obtain ⟨issue,issued,_,owner⟩ := sound.resolves "ttt" _ rfl
    have started : ∀ issue ∈ [(⟨"t","tt","user-1"⟩ : Issue),⟨"ttt","tttt","user-1"⟩], issue.owner ≠ "user-2" := by decide
    exact started issue issued owner
  · exact (sound.loggedOut ⟨"t","tt","alice"⟩ (List.mem_singleton.mpr rfl)).2 ("ttt","tttt") _ rfl

end SessionWorld
end CqrsDdd.Identity
