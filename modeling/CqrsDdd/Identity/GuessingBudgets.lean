import CqrsDdd.Identity.Otp
import CqrsDdd.Identity.SessionSafety

/-! How many wrong passwords of an account, and wrong codes of a challenge, are looked at
over whole runs. -/
namespace CqrsDdd.Identity

open Expiring DatabaseIdentityProvider

/-- A lockout store that counts the failures of each identifier apart and keeps a lockout at least for its duration. -/
structure LockoutStore.Counts {Store : Type} (store : LockoutStore Store) where
  failures : String → Store → Nat
  recorded : ∀ now identifier state, (store.recordFailure now identifier state).1 = failures identifier state + 1
  failures_recorded : ∀ now identifier other state, failures other (store.recordFailure now identifier state).2 =
    if other = identifier then failures identifier state + 1 else failures other state
  failures_locked : ∀ now identifier seconds other state,
    failures other (store.setLockout now identifier seconds state) = failures other state
  locked_recorded : ∀ now identifier moment other state, store.isLocked moment other state = true →
    store.isLocked moment other (store.recordFailure now identifier state).2 = true
  locked : ∀ now identifier seconds moment state, moment < now + seconds →
    store.isLocked moment identifier (store.setLockout now identifier seconds state) = true
  locked_other : ∀ now identifier seconds moment other state, other ≠ identifier →
    store.isLocked moment other state = true →
    store.isLocked moment other (store.setLockout now identifier seconds state) = true

namespace DatabaseIdentityProvider

variable {Repo Lockouts : Type}

/-- The user whose password `authenticate` goes on to check. -/
def tested (provider : DatabaseIdentityProvider Repo Lockouts) (now : Int) (identifier : String)
    (accounts : Accounts Repo Lockouts) : Option UserCredentials :=
  if provider.isLocked now identifier accounts.lockouts then none
  else (provider.findUser accounts.repo identifier).filter fun user => user.isActive && !user.isLocked

section Checking

variable {provider : DatabaseIdentityProvider Repo Lockouts} {now : Int} {identifier : String}
  {accounts : Accounts Repo Lockouts} {user : UserCredentials}

theorem tested_some (tested : provider.tested now identifier accounts = some user) :
    provider.isLocked now identifier accounts.lockouts = false ∧ provider.findUser accounts.repo identifier = some user ∧
      user.isActive = true ∧ user.isLocked = false := by
  unfold DatabaseIdentityProvider.tested at tested
  split at tested
  next => cases tested
  next unlocked =>
    obtain ⟨found,enabled⟩ := Option.filter_eq_some_iff.mp tested
    rw [Bool.and_eq_true,Bool.not_eq_true'] at enabled
    exact ⟨Bool.not_eq_true _ ▸ unlocked,found,enabled⟩

theorem checkCredentials_refused (untested : provider.tested now identifier accounts = none)
    (found : provider.findUser accounts.repo identifier = some user) (salt : Nat) (password : String)
    (requireMfa : Bool) : (provider.checkCredentials now salt identifier password requireMfa accounts).1 = accounts := by
  unfold DatabaseIdentityProvider.tested at untested
  unfold checkCredentials
  split
  next => rfl
  next unlocked =>
    rw [if_neg unlocked,found,Option.filter_some] at untested
    dsimp only
    rw [found]
    dsimp only
    split
    next => rfl
    next enabled =>
      cases active : user.isActive <;> cases blocked : user.isLocked <;> simp [active,blocked] at untested enabled

theorem checkCredentials_failed (tested : provider.tested now identifier accounts = some user) (salt : Nat)
    {password : String} (wrong : provider.verifies user password = false) (requireMfa : Bool) :
    (provider.checkCredentials now salt identifier password requireMfa accounts).1 =
      {accounts with lockouts := provider.recordFailure now identifier accounts.lockouts} := by
  obtain ⟨unlocked,found,active,free⟩ := tested_some tested
  unfold checkCredentials
  rw [unlocked,if_neg Bool.false_ne_true]
  dsimp only
  rw [found]
  dsimp only
  rw [active,free,wrong]
  rfl

end Checking

end DatabaseIdentityProvider

/-- `window` holds the identifiers under which wrong passwords were checked since the last success or the end of the
last lockout, `deadline` the end of the lockout that is due once they are `max_failed_attempts`, and `checked` how many
there were whenever a password was checked. -/
structure LoginWorld (Repo Lockouts : Type) where
  accounts : Accounts Repo Lockouts
  clock : Int
  window : List String := []
  deadline : Option Int := none
  checked : List Nat := []

inductive LoginStep
  | authenticate (identifier password : String) (requireMfa : Bool) (salt : Nat)
  | wait (seconds : Nat)

namespace LoginWorld

variable {Repo Lockouts : Type}

def renew (world : LoginWorld Repo Lockouts) : LoginWorld Repo Lockouts :=
  match world.deadline with
  | some moment => if moment ≤ world.clock then {world with window := [], deadline := none} else world
  | none => world

def attempt (provider : DatabaseIdentityProvider Repo Lockouts) (identifier password : String) (requireMfa : Bool)
    (salt : Nat) (world : LoginWorld Repo Lockouts) : LoginWorld Repo Lockouts :=
  let after := {world with
    accounts := (provider.checkCredentials world.clock salt identifier password requireMfa world.accounts).1}
  match provider.tested world.clock identifier world.accounts with
  | none => after
  | some user =>
    if provider.verifies user password then
      {after with window := [], deadline := none, checked := world.checked ++ [world.window.length]}
    else {after with
      window := world.window ++ [identifier]
      deadline :=
        if provider.maxFailedAttempts ≤ world.window.length + 1 then some (world.clock + provider.lockoutDurationSeconds)
        else world.deadline
      checked := world.checked ++ [world.window.length]}

def step (provider : DatabaseIdentityProvider Repo Lockouts) (world : LoginWorld Repo Lockouts) :
    LoginStep → LoginWorld Repo Lockouts
  | .authenticate identifier password requireMfa salt =>
    world.renew.attempt provider identifier password requireMfa salt
  | .wait seconds => {world with clock := world.clock + seconds}

/-- Every call names the account, and one that comes when its wrong passwords are `max_failed_attempts` uses an
identifier under which so many of them were checked, or which is locked out already. -/
def Allowed (provider : DatabaseIdentityProvider Repo Lockouts) (account : String) (world : LoginWorld Repo Lockouts) :
    LoginStep → Prop
  | .authenticate identifier _ _ _ => ∃ user, provider.findUser world.accounts.repo identifier = some user ∧
      user.userId = account ∧
      (user.isActive = true → user.isLocked = false → provider.maxFailedAttempts ≤ world.renew.window.length →
        (0 < world.renew.window.count identifier ∧
          provider.maxFailedAttempts ≤ world.renew.window.count identifier) ∨
        provider.isLocked world.clock identifier world.accounts.lockouts = true)
  | .wait _ => True

end LoginWorld

/-- `wrong` counts the wrong codes compared with the challenge of an identifier, `accepted` the times that it was
passed, and `spent` holds how many wrong ones there were whenever a code was accepted or compared in vain. -/
structure OtpWorld where
  stores : OtpStores
  clock : Int
  wrong : String → Nat := fun _ => 0
  accepted : String → Nat := fun _ => 0
  spent : List Nat := []

inductive OtpStep
  | send (identifier : String) (number : Nat)
  | resend (identifier : String) (number : Nat)
  | verify (identifier code : String)
  | wait (seconds : Nat)

namespace OtpWorld

/-- What the comparison with a live challenge says, if there is one. -/
def compares (world : OtpWorld) (identifier code : String) : Option Bool :=
  (look world.stores.challenges world.clock identifier).bind fun stored => (compareDigest stored code).toOption

def challenge (world : OtpWorld) (identifier : String) (stores : OtpStores) : OtpWorld :=
  {world with
    stores := stores
    wrong := Function.update world.wrong identifier 0
    accepted := Function.update world.accepted identifier 0}

def step (service : OtpService) (world : OtpWorld) : OtpStep → OtpWorld
  | .send identifier number =>
    world.challenge identifier (service.send world.clock number identifier world.stores).2
  | .resend identifier number =>
    let resent := service.resend world.clock number identifier world.stores
    match resent.1 with
    | .ok _ => world.challenge identifier resent.2
    | .error _ => {world with stores := resent.2}
  | .verify identifier code =>
    let left := OtpService.verify world.clock identifier code world.stores
    let after := {world with stores := left.2}
    match left.1,world.compares identifier code with
    | .ok true,_ => {after with
        accepted := Function.update world.accepted identifier (world.accepted identifier + 1)
        spent := world.spent ++ [world.wrong identifier]}
    | _,some false => {after with
        wrong := Function.update world.wrong identifier (world.wrong identifier + 1)
        spent := world.spent ++ [world.wrong identifier]}
    | _,_ => after
  | .wait seconds => {world with clock := world.clock + seconds}

/-- No code is given for a live challenge after `max_attempts` wrong ones. -/
def Allowed (service : OtpService) (world : OtpWorld) : OtpStep → Prop
  | .verify identifier code => (world.compares identifier code).isSome →
      (world.wrong identifier : Int) < service.config.maxAttempts
  | _ => True

structure Guarded (service : OtpService) (world : OtpWorld) : Prop where
  budget : ∀ spent ∈ world.spent, (spent : Int) < service.config.maxAttempts
  once : ∀ identifier, world.accepted identifier ≤ 1

end OtpWorld

namespace LoginWorld

variable {Repo Lockouts : Type} {provider : DatabaseIdentityProvider Repo Lockouts} {store : LockoutStore Lockouts}
  {counts : store.Counts} {world : LoginWorld Repo Lockouts}

/-- An identifier that used up the budget alone is locked out until its end. -/
structure Inv (provider : DatabaseIdentityProvider Repo Lockouts) {store : LockoutStore Lockouts} (counts : store.Counts)
    (world : LoginWorld Repo Lockouts) : Prop where
  counted : ∀ identifier, world.window.count identifier ≤ counts.failures identifier world.accounts.lockouts
  locked : ∀ identifier, 0 < world.window.count identifier →
    provider.maxFailedAttempts ≤ world.window.count identifier →
    ∃ moment, world.deadline = some moment ∧
      ∀ now < moment, store.isLocked now identifier world.accounts.lockouts = true
  within : ∀ spent ∈ world.checked, (spent : Int) < provider.maxFailedAttempts

@[simp] theorem renew_accounts (world : LoginWorld Repo Lockouts) : world.renew.accounts = world.accounts := by
  unfold renew
  split
  next =>
    split
    next => rfl
    next => rfl
  next => rfl

@[simp] theorem renew_clock (world : LoginWorld Repo Lockouts) : world.renew.clock = world.clock := by
  unfold renew
  split
  next =>
    split
    next => rfl
    next => rfl
  next => rfl

theorem renew_deadline {moment : Int} (due : world.renew.deadline = some moment) : world.clock < moment := by
  unfold renew at due
  split at due
  next stop set =>
    split at due
    next => cases due
    next ahead =>
      rw [set] at due
      cases due
      exact not_le.mp ahead
  next none =>
    rw [none] at due
    cases due

theorem inv_cleared (counts : store.Counts) (world : LoginWorld Repo Lockouts) (accounts : Accounts Repo Lockouts)
    {checked : List Nat} (within : ∀ spent ∈ checked, (spent : Int) < provider.maxFailedAttempts) :
    Inv provider counts {world with accounts := accounts, window := [], deadline := none, checked := checked} where
  counted _ := Nat.zero_le _
  locked _ some := absurd some (Nat.lt_irrefl 0)
  within := within

theorem Inv.tried (inv : world.Inv provider counts) (left : (world.window.length : Int) < provider.maxFailedAttempts) :
    ∀ spent ∈ world.checked ++ [world.window.length], (spent : Int) < provider.maxFailedAttempts := by
  intro spent member
  rcases List.mem_append.mp member with earlier | last
  · exact inv.within spent earlier
  · rw [List.mem_singleton.mp last]
    exact left

theorem Inv.renew (inv : world.Inv provider counts) : world.renew.Inv provider counts := by
  unfold LoginWorld.renew
  split
  next =>
    split
    next => exact inv_cleared counts world world.accounts inv.within
    next => exact inv
  next => exact inv

theorem Inv.failed (inv : world.Inv provider counts) (kept : provider.lockoutStore = some store) (identifier : String)
    (left : (world.window.length : Int) < provider.maxFailedAttempts) :
    Inv provider counts {world with
      accounts := {world.accounts with
        lockouts := provider.recordFailure world.clock identifier world.accounts.lockouts}
      window := world.window ++ [identifier]
      deadline :=
        if provider.maxFailedAttempts ≤ world.window.length + 1 then some (world.clock + provider.lockoutDurationSeconds)
        else world.deadline
      checked := world.checked ++ [world.window.length]} := by
  have recorded : provider.recordFailure world.clock identifier world.accounts.lockouts =
      if provider.maxFailedAttempts ≤ ((counts.failures identifier world.accounts.lockouts + 1 : Nat) : Int) then
        store.setLockout world.clock identifier provider.lockoutDurationSeconds
          (store.recordFailure world.clock identifier world.accounts.lockouts).2
      else (store.recordFailure world.clock identifier world.accounts.lockouts).2 := by
    unfold DatabaseIdentityProvider.recordFailure
    rw [kept]
    dsimp only
    rw [counts.recorded]
  have failures (other : String) : counts.failures other
      (provider.recordFailure world.clock identifier world.accounts.lockouts) =
        if other = identifier then counts.failures identifier world.accounts.lockouts + 1
        else counts.failures other world.accounts.lockouts := by
    rw [recorded]
    split
    next => rw [counts.failures_locked,counts.failures_recorded]
    next => rw [counts.failures_recorded]
  constructor
  case counted =>
    intro other
    dsimp only
    rw [failures,List.count_append,List.count_singleton]
    have before := inv.counted other
    by_cases same : other = identifier
    · subst same
      rw [beq_self_eq_true,if_pos rfl,if_pos rfl]
      exact Nat.add_le_add_right before 1
    · rw [beq_false_of_ne (Ne.symm same),if_neg Bool.false_ne_true,if_neg same]
      exact before
  case locked =>
    intro other _ full
    dsimp only at full ⊢
    rw [List.count_append,List.count_singleton] at full
    have most : world.window.count other ≤ world.window.length := List.count_le_length
    by_cases same : identifier = other
    · subst same
      have reached : provider.maxFailedAttempts ≤ (world.window.length : Int) + 1 := by
        rw [beq_self_eq_true,if_pos rfl] at full
        omega
      have counted : provider.maxFailedAttempts ≤
          ((counts.failures identifier world.accounts.lockouts + 1 : Nat) : Int) := by
        have before := inv.counted identifier
        rw [beq_self_eq_true,if_pos rfl] at full
        omega
      refine ⟨_,if_pos reached,fun now before => ?_⟩
      rw [recorded,if_pos counted]
      exact counts.locked world.clock identifier _ now _ before
    · rw [beq_false_of_ne same,if_neg Bool.false_ne_true] at full
      omega
  case within => exact inv.tried left

theorem Inv.step (inv : world.Inv provider counts) (kept : provider.lockoutStore = some store) {account : String}
    (action : LoginStep) (allowed : world.Allowed provider account action) :
    (world.step provider action).Inv provider counts := by
  cases action with
  | wait seconds => exact ⟨inv.counted,inv.locked,inv.within⟩
  | authenticate identifier password requireMfa salt =>
    obtain ⟨user,found,_,budget⟩ := allowed
    have renewed := inv.renew
    dsimp only [LoginWorld.step,attempt]
    split
    next untested =>
      rw [← renew_accounts world] at found
      rw [DatabaseIdentityProvider.checkCredentials_refused untested found]
      exact renewed
    next checked tested =>
      have facts := DatabaseIdentityProvider.tested_some tested
      rw [renew_accounts,renew_clock] at facts
      obtain ⟨unlocked,same,active,free⟩ := facts
      cases found.symm.trans same
      have left : (world.renew.window.length : Int) < provider.maxFailedAttempts := by
        by_contra spent
        rcases budget active free (not_lt.mp spent) with full | locked
        · obtain ⟨moment,due,shut⟩ := renewed.locked identifier full.1 full.2
          have locked := shut world.clock (renew_deadline due)
          rw [renew_accounts] at locked
          unfold DatabaseIdentityProvider.isLocked at unlocked
          rw [kept] at unlocked
          exact Bool.false_ne_true (unlocked.symm.trans locked)
        · exact Bool.false_ne_true (unlocked.symm.trans locked)
      split
      next => exact inv_cleared counts world.renew _ (renewed.tried left)
      next wrong =>
        rw [DatabaseIdentityProvider.checkCredentials_failed tested salt (Bool.not_eq_true _ ▸ wrong)]
        exact renewed.failed kept identifier left

end LoginWorld

namespace InMemoryOtpChallengeStore

variable {now : Int} {identifier code : String} {challenges : InMemoryOtpChallengeStore}

theorem verify_kept {other : String} {entry : Entry Int String}
    (kept : Dict.get (challenges.verify now identifier code).2 other = some entry) :
    Dict.get challenges other = some entry := by
  have erased (kept : Dict.get (challenges.erase identifier) other = some entry) :
      Dict.get challenges other = some entry := Dict.get_of_get_erase challenges kept
  unfold verify at kept
  split at kept
  next => exact kept
  next =>
    split at kept
    next => exact erased kept
    next =>
      split at kept
      next => exact kept
      next => exact erased kept
      next => exact kept

theorem verify_accepted (accepted : (challenges.verify now identifier code).1 = .ok true) :
    (∃ stored, look challenges now identifier = some stored ∧ compareDigest stored code = .ok true) ∧
      (∃ entry, Dict.get challenges identifier = some entry) ∧
      Dict.get (challenges.verify now identifier code).2 identifier = none := by
  unfold verify at accepted ⊢
  split at accepted
  next => cases accepted
  next entry found =>
    split at accepted
    next => cases accepted
    next fresh =>
      rw [found,if_neg fresh]
      split at accepted
      next => cases accepted
      next right =>
        refine ⟨⟨entry.value,look_of_get found (Bool.not_eq_true _ ▸ fresh),right⟩,⟨entry,rfl⟩,?_⟩
        exact Dict.get_erase_same challenges identifier
      next => cases accepted

end InMemoryOtpChallengeStore

namespace OtpWorld

variable {service : OtpService} {world : OtpWorld}

/-- A challenge that is in place was not passed yet. -/
structure Inv (service : OtpService) (world : OtpWorld) : Prop where
  guarded : world.Guarded service
  pending : ∀ identifier entry, Dict.get world.stores.challenges identifier = some entry →
    world.accepted identifier = 0

theorem Inv.challenge (inv : world.Inv service) {identifier : String} {stores : OtpStores}
    (others : ∀ other ≠ identifier, ∀ entry, Dict.get stores.challenges other = some entry →
      Dict.get world.stores.challenges other = some entry) :
    (world.challenge identifier stores).Inv service := by
  have accepted (other : String) : (world.challenge identifier stores).accepted other =
      if other = identifier then 0 else world.accepted other := Function.update_apply _ _ _ _
  refine ⟨⟨inv.guarded.budget,fun other => ?_⟩,fun other entry found => ?_⟩
  · rw [accepted]
    split
    next => exact Nat.zero_le 1
    next => exact inv.guarded.once other
  · rw [accepted]
    split
    next => rfl
    next differs => exact inv.pending other entry (others other differs entry found)

theorem send_others (service : OtpService) (now : Int) (number : Nat) {identifier : String} (stores : OtpStores)
    {other : String} (differs : other ≠ identifier) :
    Dict.get (service.send now number identifier stores).2.challenges other = Dict.get stores.challenges other :=
  Dict.get_set_other stores.challenges _ differs

theorem resend_ok {now : Int} {number : Nat} {identifier code : String} {stores : OtpStores}
    (sent : (service.resend now number identifier stores).1 = .ok code) :
    (service.resend now number identifier stores).2 =
      (service.send now number identifier {stores with challenges := stores.challenges.delete identifier}).2 := by
  unfold OtpService.resend at sent ⊢
  split
  next => rfl
  next seconds last =>
    rw [last] at sent
    dsimp only at sent ⊢
    split
    next early =>
      rw [if_pos early] at sent
      cases sent
    next => rfl

theorem resend_error {now : Int} {number : Nat} {identifier : String} {stores : OtpStores} {error : OtpError}
    (refused : (service.resend now number identifier stores).1 = .error error) :
    (service.resend now number identifier stores).2 = stores := by
  unfold OtpService.resend at refused ⊢
  split
  next none =>
    rw [none] at refused
    cases refused
  next seconds last =>
    rw [last] at refused
    dsimp only at refused ⊢
    split
    next => rfl
    next late =>
      rw [if_neg late] at refused
      cases refused

theorem verify_challenges (now : Int) (identifier code : String) (stores : OtpStores) :
    (OtpService.verify now identifier code stores).2.challenges = (stores.challenges.verify now identifier code).2 := by
  unfold OtpService.verify
  dsimp only
  split
  next => rfl
  next => rfl
  next => rfl

theorem verify_ok {now : Int} {identifier code : String} {stores : OtpStores}
    (accepted : (OtpService.verify now identifier code stores).1 = .ok true) :
    (stores.challenges.verify now identifier code).1 = .ok true := by
  unfold OtpService.verify at accepted
  dsimp only at accepted
  split at accepted
  next => cases accepted
  next right => exact right
  next => cases accepted

theorem Inv.spend (inv : world.Inv service) {identifier code : String}
    (allowed : world.Allowed service (.verify identifier code)) (compared : (world.compares identifier code).isSome) :
    ∀ spent ∈ world.spent ++ [world.wrong identifier], (spent : Int) < service.config.maxAttempts := by
  intro spent member
  rcases List.mem_append.mp member with earlier | last
  · exact inv.guarded.budget spent earlier
  · rw [List.mem_singleton.mp last]
    exact allowed compared

theorem Inv.step (inv : world.Inv service) (action : OtpStep) (allowed : world.Allowed service action) :
    (world.step service action).Inv service := by
  cases action with
  | wait seconds => exact ⟨⟨inv.guarded.budget,inv.guarded.once⟩,inv.pending⟩
  | send identifier number =>
    apply inv.challenge
    intro other differs entry found
    rwa [send_others service world.clock number world.stores differs] at found
  | resend identifier number =>
    dsimp only [OtpWorld.step]
    split
    next code sent =>
      apply inv.challenge
      intro other differs entry found
      rw [resend_ok sent,send_others service world.clock number _ differs] at found
      exact Dict.get_of_get_erase world.stores.challenges found
    next error refused =>
      rw [resend_error refused]
      exact inv
  | verify identifier code =>
    have kept (other : String) (entry : Entry Int String)
        (found : Dict.get (OtpService.verify world.clock identifier code world.stores).2.challenges other = some entry) :
        Dict.get world.stores.challenges other = some entry := by
      rw [verify_challenges] at found
      exact InMemoryOtpChallengeStore.verify_kept found
    dsimp only [OtpWorld.step]
    split
    next accepted =>
      obtain ⟨⟨stored,live,right⟩,⟨entry,present⟩,gone⟩ :=
        InMemoryOtpChallengeStore.verify_accepted (verify_ok accepted)
      have compared : (world.compares identifier code).isSome := by
        unfold compares
        rw [live,Option.bind_some,right]
        rfl
      refine ⟨⟨inv.spend allowed compared,fun other => ?_⟩,fun other entry found => ?_⟩
      · dsimp only
        rw [Function.update_apply,inv.pending identifier entry present]
        split
        next => exact Nat.le_refl 1
        next => exact inv.guarded.once other
      · dsimp only at found ⊢
        have differs : other ≠ identifier := by
          intro same
          rw [verify_challenges,same,gone] at found
          cases found
        rw [Function.update_apply,if_neg differs]
        exact inv.pending other entry (kept other entry found)
    next wrong _ =>
      refine ⟨⟨inv.spend allowed (wrong ▸ rfl),inv.guarded.once⟩,fun other entry found => ?_⟩
      exact inv.pending other entry (kept other entry found)
    next => exact ⟨⟨inv.guarded.budget,inv.guarded.once⟩,fun other entry found => inv.pending other entry (kept other entry found)⟩

end OtpWorld

def LoginWorld.initial {Repo Lockouts : Type} (accounts : Accounts Repo Lockouts) (clock : Int) :
    LoginWorld Repo Lockouts where
  accounts := accounts
  clock := clock

def OtpWorld.initial (stores : OtpStores) (clock : Int) : OtpWorld where
  stores := stores
  clock := clock

theorem guesses_bounded {Repo Lockouts : Type} (provider : DatabaseIdentityProvider Repo Lockouts)
    {store : LockoutStore Lockouts} (counts : store.Counts) (kept : provider.lockoutStore = some store)
    (account : String) (accounts : Accounts Repo Lockouts) (service : OtpService) (stores : OtpStores) (clock : Int)
    (logins : List LoginStep) (calls : List OtpStep)
    (loginsAllowed : Transition.Meets (LoginWorld.step provider) (LoginWorld.Allowed provider account)
      (LoginWorld.initial accounts clock) logins)
    (callsAllowed : Transition.Meets (OtpWorld.step service) (OtpWorld.Allowed service) (OtpWorld.initial stores clock)
      calls) :
    (∀ spent ∈ (Transition.run (LoginWorld.step provider) (LoginWorld.initial accounts clock) logins).checked,
      (spent : Int) < provider.maxFailedAttempts) ∧
    (Transition.run (OtpWorld.step service) (OtpWorld.initial stores clock) calls).Guarded service := by
  constructor
  · have start : (LoginWorld.initial accounts clock).Inv provider counts :=
      LoginWorld.inv_cleared counts (LoginWorld.initial accounts clock) accounts fun _ member => by cases member
    have inv := Transition.run_invariant (LoginWorld.Inv provider counts)
      (fun _ action inv allowed => inv.step kept action allowed) _ logins start loginsAllowed
    exact inv.within
  · have start : (OtpWorld.initial stores clock).Inv service :=
      ⟨⟨fun _ member => (by cases member),fun _ => Nat.zero_le 1⟩,fun _ _ _ => rfl⟩
    have inv := Transition.run_invariant (OtpWorld.Inv service) (fun _ action inv allowed => inv.step action allowed) _
      calls start callsAllowed
    exact inv.guarded

def InMemoryLockoutStore.counts : InMemoryLockoutStore.store.Counts where
  failures := getFailureCount
  recorded _ _ _ := rfl
  failures_recorded _ identifier other state := by
    change ((state.failures.set identifier _).get other).getD 0 = _
    rw [Dict.get_set]
    split
    next => rfl
    next => rfl
  failures_locked _ _ _ _ _ := rfl
  locked_recorded _ _ _ _ _ locked := locked
  locked _ identifier seconds _ state _ := by
    change ((state.locked.set identifier seconds).get identifier).isSome = true
    rw [Dict.get_set_same]
    rfl
  locked_other _ identifier seconds _ other state differs locked := by
    change ((state.locked.set identifier seconds).get other).isSome = true
    rw [Dict.get_set_other _ _ differs]
    exact locked

def lockedListed : DatabaseIdentityProvider InMemoryUserCredentialsRepository InMemoryLockoutStore where
  userRepository := InMemoryUserCredentialsRepository.repository
  passwordHasher := ⟨fun hash password => hash = password,fun _ => false,fun _ password => password⟩
  lockoutStore := some InMemoryLockoutStore.store
  maxFailedAttempts := 3
  lockoutDurationSeconds := 300

def aliceAccounts : Accounts InMemoryUserCredentialsRepository InMemoryLockoutStore where
  repo := SessionWorld.users [{SessionWorld.alice "user-1" with email := some "alice@example.com"}]
  lockouts := {}

def guess (identifier : String) : LoginStep := .authenticate identifier "wrong-password" false 0

theorem guesses_bounded_locked :
    (∀ spent ∈ (Transition.run (LoginWorld.step lockedListed) (LoginWorld.initial aliceAccounts 0)
        [guess "alice",guess "alice",guess "alice",guess "alice"]).checked,(spent : Int) < 3) ∧
    (Transition.run (OtpWorld.step (emailOtpService {})) (OtpWorld.initial {} 0)
      [.send "alice@example.com" 123456,.verify "alice@example.com" "000000",
        .verify "alice@example.com" "123456"]).Guarded (emailOtpService {}) := by
  apply guesses_bounded lockedListed InMemoryLockoutStore.counts rfl "user-1" aliceAccounts (emailOtpService {}) {} 0
    [guess "alice",guess "alice",guess "alice",guess "alice"]
  case loginsAllowed =>
    have early {length : Nat} {rest : Prop} (few : length < 3) : (3 : Int) ≤ length → rest := fun many => by omega
    refine ⟨⟨_,rfl,rfl,fun _ _ => early (by decide)⟩,⟨_,rfl,rfl,fun _ _ => early (by decide)⟩,
      ⟨_,rfl,rfl,fun _ _ => early (by decide)⟩,⟨_,rfl,rfl,fun _ _ _ => .inl (by decide)⟩,trivial⟩
  case callsAllowed => exact ⟨trivial,fun _ => by decide,fun _ => by decide,trivial⟩

/-- The failures of a user's two names are counted apart, and nobody counts wrong codes. -/
theorem guesses_unbounded :
    ¬(∀ spent ∈ (Transition.run (LoginWorld.step lockedListed) (LoginWorld.initial aliceAccounts 0)
        [guess "alice",guess "alice",guess "alice",guess "alice@example.com"]).checked,
      (spent : Int) < lockedListed.maxFailedAttempts) ∧
    ¬(Transition.run (OtpWorld.step (emailOtpService {})) (OtpWorld.initial {} 0)
      [.send "alice@example.com" 123456,.verify "alice@example.com" "000000",.verify "alice@example.com" "000001",
        .verify "alice@example.com" "000002",.verify "alice@example.com" "123456"]).Guarded (emailOtpService {}) := by
  constructor
  · intro bounded
    exact absurd (bounded 3 (by decide)) (by decide)
  · intro guarded
    exact absurd (guarded.budget 3 (by decide)) (by decide)

end CqrsDdd.Identity
