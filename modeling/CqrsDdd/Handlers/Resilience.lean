import CqrsDdd.Trace
import CqrsDdd.Handlers.Pipeline
import Mathlib.Tactic.Ring

/-! What becomes of exceptions and conflicts in the pipeline of `ResilientCommandHandler`, and which behaviour is the
outermost. -/
namespace CqrsDdd.Handlers

open Logged

section Nesting

variable {Name : Type}

/-- Behaviours of these names are nested with the last added outermost, whatever they do. -/
def Nested (names : List Name) : Prop :=
  ∀ (Stage : Type) (behavior : Name → Stage → Stage) (process : Stage),
    getPipeline (names.map behavior) process = lastOutermost (names.map behavior) process

theorem foldl_labels (names labels : List Name) :
    (names.map List.cons).foldl (fun pipeline behavior => behavior pipeline) labels = names.reverse ++ labels := by
  induction names generalizing labels with
  | nil => rfl
  | cons name rest ih =>
    rw [List.map_cons,List.foldl_cons,ih,List.reverse_cons,List.append_assoc]
    rfl

theorem nested_iff (names : List Name) : Nested names ↔ names.reverse = names := by
  constructor
  · intro nested
    have labels := nested (List Name) List.cons []
    rw [getPipeline,lastOutermost,← List.map_reverse,foldl_labels,foldl_labels,List.append_nil,List.append_nil,
      List.reverse_reverse] at labels
    exact labels.symm
  · intro same Stage behavior process
    rw [getPipeline,lastOutermost,← List.map_reverse,same]

end Nesting

variable {World Payload State Error Response Result : Type}

def Event.isProcess : Event State Error → Bool
  | .process => true
  | _ => false

def Event.isOther : Event State Error → Bool
  | .raised (.other _) => true
  | _ => false

def processed (events : List (Event State Error)) : Nat := events.countP Event.isProcess

def failed (events : List (Event State Error)) : Nat := events.countP Event.isOther

/-- Each retry comes right after an exception that is no conflict. -/
def Paid (events : List (Event State Error)) : Prop :=
  Trace.Chain (fun earlier event => ∀ attempt, event = .retry attempt →
    ∃ error, earlier.getLast? = some (.raised (.other error))) events

/-- Exceptions that are no conflicts end a run exactly when so many retries are used up. -/
def Retried (retries : Int) (result : Except (Raised Error) Response) (events : List (Event State Error)) : Prop :=
  (failed events : Int) ≤ retries + 1 ∧
    ((∃ error, result = .error (.other error)) ↔ (failed events : Int) = retries + 1)

/-- What a run of the pipeline of a resilient handler promises. -/
structure Resilient (retries : Int) (config : Option ConflictConfig) (result : Except (Raised Error) Response)
    (events : List (Event State Error)) : Prop where
  bounded : (processed events : Int) ≤ (retries + 1) * 5
  retried : Retried retries result events
  paid : Paid events
  incoming : ∀ given, config = some given → given.policy = .lastWins →
    ∀ existing incoming state, .merged existing incoming state ∈ events → state = incoming

def budget (maxRetries : Option Int) : Int := maxRetries.getD 0

/-- Conflicts of the command are resolved. -/
def Resolves (config : Option ConflictConfig) : Prop := ∃ given, config = some given ∧ given.policy ≠ .firstWins

/-- The strategy that the handler takes returns the incoming state when it returns. -/
def TakesIncoming (strategies : Strategies State Error) (given : ConflictConfig) : Prop :=
  ∀ strategy existing incoming state, strategies.getMergeStrategy given = .ok (some strategy) →
    strategy existing incoming = .ok state → state = incoming

theorem paid_append {events later : List (Event State Error)} (first : Paid events) (second : Paid later) :
    Paid (events ++ later) := by
  intro earlier event after split attempt same
  rcases List.append_eq_append_iff.mp split with ⟨middle,rfl,rest⟩ | ⟨middle,before,rest⟩
  · obtain ⟨error,last⟩ := second middle event after rest attempt same
    exact ⟨error,by rw [List.getLast?_append,last,Option.some_or]⟩
  · cases middle with
    | nil =>
      obtain ⟨error,last⟩ := second [] event after (by simpa using rest.symm) attempt same
      cases last
    | cons head tail =>
      obtain ⟨rfl,_⟩ := List.cons.inj rest
      exact first earlier event tail before attempt same

theorem paid_of_free {events : List (Event State Error)}
    (free : ∀ event ∈ events, ∀ attempt, event ≠ .retry attempt) : Paid events := by
  intro earlier event later split attempt same
  refine absurd same (free event ?_ attempt)
  rw [split]
  exact List.mem_append_right earlier List.mem_cons_self

theorem paid_retry {events later : List (Event State Error)} {error : Error} (attempt : Nat) (first : Paid events)
    (last : events.getLast? = some (.raised (.other error))) (second : Paid later) :
    Paid (events ++ .retry attempt::later) := by
  rw [List.append_cons]
  exact paid_append (first.snoc fun _ _ => ⟨error,last⟩) second

theorem ensures_call (code : World → Except (Raised Error) Result × World) :
    Ensures (call code : Action World (Raised Error) (Event State Error) Result) fun result events =>
      (∃ value, result = .ok value ∧ events = []) ∨
        ∃ failure, result = .error failure ∧ events = [.raised failure] := by
  intro world
  unfold call
  split
  next value after _ => exact .inl ⟨value,rfl,rfl⟩
  next failure after _ => exact .inr ⟨failure,rfl,rfl⟩

theorem ensures_process (methods : Methods World Payload State Error Response) (command : Command Payload) :
    Ensures (process methods command : Action World (Raised Error) (Event State Error) Response) fun result events =>
      (∃ value, result = .ok value ∧ events = [.process]) ∨
        ∃ failure, result = .error failure ∧ events = [.process,.raised failure] := by
  refine ensures_note ((ensures_call (methods.process command.payload)).imp ?_)
  rintro result events (⟨value,rfl,rfl⟩ | ⟨failure,rfl,rfl⟩)
  · exact .inl ⟨value,rfl,rfl⟩
  · exact .inr ⟨failure,rfl,rfl⟩

section Bounds

variable {methods : Methods World Payload State Error Response} {strategies : Strategies State Error}
  {nextFn : Stage World Payload State Error Response} {bound : Nat}

theorem atMost_call (code : World → Except (Raised Error) Result × World) :
    AtMost Event.isProcess 0 (call code : Action World (Raised Error) (Event State Error) Result) := by
  refine (ensures_call code).imp ?_
  rintro result events (⟨value,_,rfl⟩ | ⟨failure,_,rfl⟩)
  · exact Nat.le_refl 0
  · exact Nat.le_refl 0

theorem atMost_process (methods : Methods World Payload State Error Response) (command : Command Payload) :
    AtMost Event.isProcess 1 (process methods command : Action World (Raised Error) (Event State Error) Response) := by
  refine (ensures_process methods command).imp ?_
  rintro result events (⟨value,_,rfl⟩ | ⟨failure,_,rfl⟩)
  · exact Nat.le_refl 1
  · exact Nat.le_refl 1

theorem atMost_retryLoop {command : Command Payload} (once : AtMost Event.isProcess bound (nextFn command))
    (left attempt : Nat) : AtMost Event.isProcess ((left + 1) * bound) (retryLoop nextFn command left attempt) := by
  induction left generalizing attempt with
  | zero =>
    rw [Nat.zero_add,Nat.one_mul]
    exact once
  | succ left ih =>
    have both : (left + 1 + 1) * bound = bound + (left + 1) * bound := by rw [Nat.succ_mul,Nat.add_comm]
    rw [both]
    refine atMost_rescue once fun failure => ?_
    cases failure with
    | concurrency message => exact (atMost_raise _).mono (Nat.zero_le _)
    | other error =>
      rw [← Nat.zero_add ((left + 1) * bound)]
      exact atMost_chain (atMost_note rfl) fun _ => ih (attempt + 1)

theorem atMost_resolveConflict {command : Command Payload}
    (once : ∀ payload, AtMost Event.isProcess bound (nextFn ⟨command.maxRetries,command.conflictConfig,payload⟩)) :
    AtMost Event.isProcess bound (resolveConflict methods strategies nextFn command) := by
  unfold resolveConflict
  split
  next => exact once command.payload
  next given config =>
    rw [← Nat.zero_add bound]
    refine atMost_chain (atMost_call _) fun current => ?_
    cases current with
    | none => exact once command.payload
    | some currentState =>
      rw [← Nat.zero_add bound]
      refine atMost_chain (atMost_call _) fun incomingState => ?_
      rw [← Nat.zero_add bound]
      refine atMost_chain (atMost_call _) fun chosen => ?_
      cases chosen with
      | none => exact once command.payload
      | some strategy =>
        rw [← Nat.zero_add bound]
        refine atMost_chain (atMost_call _) fun mergedState => ?_
        rw [← Nat.zero_add bound]
        refine atMost_chain (atMost_note rfl) fun _ => ?_
        rw [← Nat.zero_add bound]
        exact atMost_chain (atMost_call _) once

theorem atMost_conflictLoop {command : Command Payload}
    (once : ∀ payload, AtMost Event.isProcess bound (nextFn ⟨command.maxRetries,command.conflictConfig,payload⟩))
    (left : Nat) : AtMost Event.isProcess ((2 * left + 1) * bound)
      (conflictLoop methods strategies nextFn command (left + 1)) := by
  induction left with
  | zero =>
    rw [Nat.mul_zero,Nat.zero_add,Nat.one_mul,← Nat.add_zero bound]
    refine atMost_rescue (once command.payload) fun failure => ?_
    cases failure with
    | concurrency message => exact atMost_raise _
    | other error => exact atMost_raise _
  | succ left ih =>
    have parts : (2 * (left + 1) + 1) * bound = bound + (bound + (2 * left + 1) * bound) := by ring
    rw [parts]
    refine atMost_rescue (once command.payload) fun failure => ?_
    cases failure with
    | concurrency message =>
      refine atMost_rescue (atMost_resolveConflict once) fun again => ?_
      cases again with
      | concurrency other => exact ih
      | other error => exact (atMost_raise _).mono (Nat.zero_le _)
    | other error => exact (atMost_raise _).mono (Nat.zero_le _)

end Bounds

section Paying

variable {methods : Methods World Payload State Error Response} {strategies : Strategies State Error}
  {nextFn : Stage World Payload State Error Response}

/-- An exception that is no conflict and ends a run is the last event of the log. -/
def Reports (result : Except (Raised Error) Response) (events : List (Event State Error)) : Prop :=
  ∀ error, result = .error (.other error) → events.getLast? = some (.raised (.other error))

theorem paid_call (code : World → Except (Raised Error) Result × World) :
    Ensures (call code : Action World (Raised Error) (Event State Error) Result) fun _ events => Paid events := by
  refine (ensures_call code).imp ?_
  rintro result events (⟨value,_,rfl⟩ | ⟨failure,_,rfl⟩)
  · exact paid_of_free fun event member => absurd member List.not_mem_nil
  · refine paid_of_free fun event member attempt => ?_
    rw [List.mem_singleton.mp member]
    intro same
    cases same

theorem paid_process (methods : Methods World Payload State Error Response) (command : Command Payload) :
    Ensures (process methods command : Action World (Raised Error) (Event State Error) Response) fun result events =>
      Paid events ∧ Reports result events := by
  refine (ensures_process methods command).imp ?_
  rintro result events (⟨value,rfl,rfl⟩ | ⟨failure,rfl,rfl⟩)
  · exact ⟨paid_of_free (by simp),fun error same => nomatch same⟩
  · refine ⟨paid_of_free (by simp),fun error same => ?_⟩
    cases same
    exact rfl

theorem paid_chain {Other : Type} {first : Action World (Raised Error) (Event State Error) Result}
    {next : Result → Action World (Raised Error) (Event State Error) Other}
    (before : Ensures first fun _ events => Paid events)
    (after : ∀ result, Ensures (next result) fun _ events => Paid events) :
    Ensures (chain first next) fun _ events => Paid events :=
  ensures_chain before (fun _ _ paid => paid) fun result _ paid world => paid_append paid (after result world)

theorem paid_rescue {first : Action World (Raised Error) (Event State Error) Result}
    {next : Raised Error → Action World (Raised Error) (Event State Error) Result}
    (before : Ensures first fun _ events => Paid events)
    (after : ∀ failure, Ensures (next failure) fun _ events => Paid events) :
    Ensures (rescue first next) fun _ events => Paid events :=
  ensures_rescue before (fun _ _ paid => paid) fun failure _ paid world => paid_append paid (after failure world)

theorem paid_raise (failure : Raised Error) :
    Ensures (raise failure : Action World (Raised Error) (Event State Error) Result) fun _ events => Paid events :=
  ensures_raise Trace.Chain.nil

theorem paid_retryLoop {command : Command Payload}
    (once : Ensures (nextFn command) fun result events => Paid events ∧ Reports result events) (left attempt : Nat) :
    Ensures (retryLoop nextFn command left attempt) fun _ events => Paid events := by
  induction left generalizing attempt with
  | zero => exact once.imp fun _ _ both => both.1
  | succ left ih =>
    refine ensures_rescue once (fun _ _ both => both.1) ?_
    rintro (message | error) events ⟨paid,reports⟩
    · refine ensures_raise ?_
      rwa [List.append_nil]
    · refine ensures_note ((ih (attempt + 1)).imp fun _ later others => ?_)
      exact paid_retry (attempt + 1) paid (reports error rfl) others

theorem paid_resolveConflict (once : ∀ command, Ensures (nextFn command) fun _ events => Paid events)
    (command : Command Payload) :
    Ensures (resolveConflict methods strategies nextFn command) fun _ events => Paid events := by
  unfold resolveConflict
  split
  next => exact once command
  next given config =>
    refine paid_chain (paid_call _) fun current => ?_
    cases current with
    | none => exact once command
    | some currentState =>
      refine paid_chain (paid_call _) fun incomingState => paid_chain (paid_call _) fun chosen => ?_
      cases chosen with
      | none => exact once command
      | some strategy =>
        refine paid_chain (paid_call _) fun mergedState => paid_chain ?_ fun _ =>
          paid_chain (paid_call _) fun payload => once _
        intro world
        exact paid_of_free (by simp [note])

theorem paid_conflictLoop (once : ∀ command, Ensures (nextFn command) fun _ events => Paid events)
    (command : Command Payload) (left : Nat) :
    Ensures (conflictLoop methods strategies nextFn command (left + 1)) fun _ events => Paid events := by
  induction left with
  | zero =>
    refine paid_rescue (once command) fun failure => ?_
    cases failure with
    | concurrency message => exact paid_raise _
    | other error => exact paid_raise _
  | succ left ih =>
    refine paid_rescue (once command) fun failure => ?_
    cases failure with
    | concurrency message =>
      refine paid_rescue (paid_resolveConflict once command) fun again => ?_
      cases again with
      | concurrency other => exact ih
      | other error => exact paid_raise _
    | other error => exact paid_raise _

end Paying

section Counting

variable {methods : Methods World Payload State Error Response} {strategies : Strategies State Error}
  {nextFn : Stage World Payload State Error Response} {retries : Int} {events later : List (Event State Error)}

@[simp] theorem retried_ok {value : Result} :
    Retried retries (.ok value) events ↔ (failed events : Int) < retries + 1 := by
  refine ⟨fun ⟨few,used⟩ => lt_of_le_of_ne few fun all => ?_,fun few => ⟨le_of_lt few,?_⟩⟩
  · obtain ⟨error,same⟩ := used.mpr all
    cases same
  · exact iff_of_false (fun ⟨_,same⟩ => nomatch same) (ne_of_lt few)

@[simp] theorem retried_concurrency {message : String} :
    Retried retries (.error (.concurrency message) : Except (Raised Error) Result) events ↔
      (failed events : Int) < retries + 1 := by
  refine ⟨fun ⟨few,used⟩ => lt_of_le_of_ne few fun all => ?_,fun few => ⟨le_of_lt few,?_⟩⟩
  · obtain ⟨error,same⟩ := used.mpr all
    cases same
  · exact iff_of_false (fun ⟨_,same⟩ => nomatch same) (ne_of_lt few)

@[simp] theorem retried_other {error : Error} :
    Retried retries (.error (.other error) : Except (Raised Error) Result) events ↔
      (failed events : Int) = retries + 1 :=
  ⟨fun ⟨_,used⟩ => used.mp ⟨error,rfl⟩,fun all => ⟨le_of_eq all,iff_of_true ⟨error,rfl⟩ all⟩⟩

theorem failed_append (events later : List (Event State Error)) :
    failed (events ++ later) = failed events + failed later :=
  List.countP_append

theorem retried_after {result : Except (Raised Error) Result} (before : Nat) (counted : failed events = before)
    (rest : Retried retries result later) : Retried (retries + before) result (events ++ later) := by
  have total : (failed (events ++ later) : Int) = failed later + before := by
    rw [failed_append,counted,Nat.cast_add,add_comm]
  rcases result with (message | error) | value
  · rw [retried_concurrency] at rest ⊢
    omega
  · rw [retried_other] at rest ⊢
    omega
  · rw [retried_ok] at rest ⊢
    omega

theorem retried_call (code : World → Except (Raised Error) Result × World) :
    Ensures (call code : Action World (Raised Error) (Event State Error) Result) (Retried 0) := by
  refine (ensures_call code).imp ?_
  rintro result events (⟨value,rfl,rfl⟩ | ⟨message | error,rfl,rfl⟩)
  · exact retried_ok.mpr Int.zero_lt_one
  · exact retried_concurrency.mpr Int.zero_lt_one
  · exact retried_other.mpr rfl

theorem retried_process (methods : Methods World Payload State Error Response) (command : Command Payload) :
    Ensures (process methods command : Action World (Raised Error) (Event State Error) Response) (Retried 0) := by
  refine (ensures_process methods command).imp ?_
  rintro result events (⟨value,rfl,rfl⟩ | ⟨message | error,rfl,rfl⟩)
  · exact retried_ok.mpr Int.zero_lt_one
  · exact retried_concurrency.mpr Int.zero_lt_one
  · exact retried_other.mpr rfl

theorem retried_chain {Other : Type} {first : Action World (Raised Error) (Event State Error) Result}
    {next : Result → Action World (Raised Error) (Event State Error) Other} (before : Ensures first (Retried 0))
    (after : ∀ result, Ensures (next result) (Retried 0)) : Ensures (chain first next) (Retried 0) := by
  refine ensures_chain before ?_ ?_
  · rintro (message | error) events retried
    · rw [retried_concurrency] at retried ⊢
      exact retried
    · rw [retried_other] at retried ⊢
      exact retried
  · intro result events retried world
    rw [retried_ok] at retried
    exact retried_after 0 (by omega) (after result world)

theorem retried_rescue {first : Action World (Raised Error) (Event State Error) Result}
    {next : Raised Error → Action World (Raised Error) (Event State Error) Result} (before : Ensures first (Retried 0))
    (after : ∀ message, Ensures (next (.concurrency message)) (Retried 0))
    (passed : ∀ error, next (.other error) = raise (.other error)) : Ensures (rescue first next) (Retried 0) := by
  refine ensures_rescue before (fun _ _ retried => retried) ?_
  rintro (message | error) events retried world
  · rw [retried_concurrency] at retried
    exact retried_after 0 (by omega) (after message world)
  · rw [passed]
    change Retried 0 (.error (.other error)) (events ++ [])
    rwa [List.append_nil]

theorem retried_retryLoop {command : Command Payload} (once : Ensures (nextFn command) (Retried 0)) (left attempt : Nat) :
    Ensures (retryLoop nextFn command left attempt) (Retried left) := by
  induction left generalizing attempt with
  | zero => exact once
  | succ left ih =>
    rw [Nat.cast_succ]
    refine ensures_rescue once ?_ ?_
    · intro result events retried
      rw [retried_ok] at retried ⊢
      omega
    · rintro (message | error) events retried
      · rw [retried_concurrency] at retried
        refine ensures_raise (retried_concurrency.mpr ?_)
        rw [List.append_nil]
        omega
      · rw [retried_other] at retried
        have one : failed events = 1 := by omega
        refine ensures_note ((ih (attempt + 1)).imp fun result later rest => ?_)
        have free : failed [(.retry (attempt + 1) : Event State Error)] = 0 := rfl
        exact retried_after 1 one (retried_after 0 free rest)

theorem retried_resolveConflict {command : Command Payload}
    (once : ∀ payload, Ensures (nextFn ⟨command.maxRetries,command.conflictConfig,payload⟩) (Retried 0)) :
    Ensures (resolveConflict methods strategies nextFn command) (Retried 0) := by
  unfold resolveConflict
  split
  next => exact once command.payload
  next given config =>
    refine retried_chain (retried_call _) fun current => ?_
    cases current with
    | none => exact once command.payload
    | some currentState =>
      refine retried_chain (retried_call _) fun incomingState => retried_chain (retried_call _) fun chosen => ?_
      cases chosen with
      | none => exact once command.payload
      | some strategy =>
        refine retried_chain (retried_call _) fun mergedState => retried_chain ?_ fun _ =>
          retried_chain (retried_call _) once
        exact fun _ => retried_ok.mpr Int.zero_lt_one

theorem retried_conflictLoop {command : Command Payload}
    (once : ∀ payload, Ensures (nextFn ⟨command.maxRetries,command.conflictConfig,payload⟩) (Retried 0)) (left : Nat) :
    Ensures (conflictLoop methods strategies nextFn command (left + 1)) (Retried 0) := by
  have stops (failure : String) : Ensures (raise (.concurrency failure) :
      Action World (Raised Error) (Event State Error) Response) (Retried 0) :=
    ensures_raise (retried_concurrency.mpr Int.zero_lt_one)
  induction left with
  | zero => exact retried_rescue (once command.payload) (fun _ => stops _) fun _ => rfl
  | succ left ih =>
    refine retried_rescue (once command.payload) (fun _ => ?_) fun _ => rfl
    exact retried_rescue (retried_resolveConflict once) (fun _ => ih) fun _ => rfl

end Counting

section Merging

variable {methods : Methods World Payload State Error Response} {strategies : Strategies State Error}
  {nextFn : Stage World Payload State Error Response} {config : Option ConflictConfig}

def FromStrategy (strategies : Strategies State Error) (config : Option ConflictConfig) (event : Event State Error) :
    Prop :=
  ∀ existing incoming state, event = .merged existing incoming state → ∃ given strategy, config = some given ∧
    strategies.getMergeStrategy given = .ok (some strategy) ∧ strategy existing incoming = .ok state

theorem only_call (code : World → Except (Raised Error) Result × World) :
    Only (FromStrategy strategies config) (call code : Action World (Raised Error) (Event State Error) Result) := by
  refine (ensures_call code).imp ?_
  rintro result events (⟨value,_,rfl⟩ | ⟨failure,_,rfl⟩) event member
  · exact absurd member List.not_mem_nil
  · rw [List.mem_singleton.mp member]
    exact fun _ _ _ same => nomatch same

theorem only_pureCall {Other : Type} (attempt : Except (Raised Error) Result)
    {next : Result → Action World (Raised Error) (Event State Error) Other}
    (after : ∀ value, attempt = .ok value → Only (FromStrategy strategies config) (next value)) :
    Only (FromStrategy strategies config) (chain (pureCall attempt) next) := by
  cases attempt with
  | ok value => exact fun world => after value rfl world
  | error failure =>
    intro world event member
    rw [List.mem_singleton.mp member]
    exact fun _ _ _ same => nomatch same

theorem only_process (methods : Methods World Payload State Error Response) (command : Command Payload) :
    Only (FromStrategy strategies config)
      (process methods command : Action World (Raised Error) (Event State Error) Response) :=
  only_chain (only_note fun _ _ _ same => nomatch same) fun _ => only_call _

theorem only_retryLoop {command : Command Payload} (once : Only (FromStrategy strategies config) (nextFn command))
    (left attempt : Nat) : Only (FromStrategy strategies config) (retryLoop nextFn command left attempt) := by
  induction left generalizing attempt with
  | zero => exact once
  | succ left ih =>
    refine only_rescue once fun failure => ?_
    cases failure with
    | concurrency message => exact only_raise _
    | other error => exact only_chain (only_note fun _ _ _ same => nomatch same) fun _ => ih (attempt + 1)

theorem only_resolveConflict {command : Command Payload} (own : command.conflictConfig = config)
    (once : ∀ command, Only (FromStrategy strategies config) (nextFn command)) :
    Only (FromStrategy strategies config) (resolveConflict methods strategies nextFn command) := by
  unfold resolveConflict
  split
  next => exact once command
  next _ given configured =>
    refine only_chain (only_call _) fun current => ?_
    cases current with
    | none => exact once command
    | some currentState =>
      refine only_chain (only_call _) fun incomingState => only_pureCall _ fun chosen taken => ?_
      cases chosen with
      | none => exact once command
      | some strategy =>
        refine only_pureCall _ fun mergedState merged => only_chain (only_note ?_) fun _ =>
          only_chain (only_call _) fun payload => once _
        intro existing incoming state same
        cases same
        exact ⟨given,strategy,own.symm.trans configured,taken,merged⟩

theorem only_conflictLoop {command : Command Payload} (own : command.conflictConfig = config)
    (once : ∀ command, Only (FromStrategy strategies config) (nextFn command)) (left : Nat) :
    Only (FromStrategy strategies config) (conflictLoop methods strategies nextFn command (left + 1)) := by
  induction left with
  | zero =>
    refine only_rescue (once command) fun failure => ?_
    cases failure with
    | concurrency message => exact only_raise _
    | other error => exact only_raise _
  | succ left ih =>
    refine only_rescue (once command) fun failure => ?_
    cases failure with
    | concurrency message =>
      refine only_rescue (only_resolveConflict own once) fun again => ?_
      cases again with
      | concurrency other => exact ih
      | other error => exact only_raise _
    | other error => exact only_raise _

end Merging

section Pipeline

variable (methods : Methods World Payload State Error Response) (strategies : Strategies State Error)
  (command : Command Payload)

theorem retryBehavior_eq :
    retryBehavior (process methods) command =
      (retryLoop (process methods) command (budget command.maxRetries).toNat 0 :
        Action World (Raised Error) (Event State Error) Response) := by
  unfold retryBehavior budget
  cases command.maxRetries with
  | none => rfl
  | some maxRetries => rfl

variable {command}

theorem resilientPipeline_resolves (resolves : Resolves command.conflictConfig) :
    resilientPipeline methods strategies command =
      conflictLoop methods strategies (retryBehavior (process methods)) command 3 := by
  obtain ⟨given,configured,policy⟩ := resolves
  change conflictResolutionBehavior methods strategies (retryBehavior (process methods)) command = _
  simp only [conflictResolutionBehavior,configured,if_neg policy]

theorem resilientPipeline_plain (plain : ¬Resolves command.conflictConfig) :
    resilientPipeline methods strategies command = retryBehavior (process methods) command := by
  change conflictResolutionBehavior methods strategies (retryBehavior (process methods)) command = _
  unfold conflictResolutionBehavior
  split
  next => rfl
  next given configured => exact if_pos (not_not.mp fun policy => plain ⟨given,configured,policy⟩)

variable (command)

theorem atMost_pipeline :
    AtMost Event.isProcess (((budget command.maxRetries).toNat + 1) * 5) (resilientPipeline methods strategies command) := by
  have inside (payload : Payload) : AtMost Event.isProcess ((budget command.maxRetries).toNat + 1)
      (retryBehavior (process methods) ⟨command.maxRetries,command.conflictConfig,payload⟩) := by
    rw [retryBehavior_eq,← Nat.mul_one ((budget command.maxRetries).toNat + 1)]
    exact atMost_retryLoop (atMost_process methods _) _ 0
  by_cases resolves : Resolves command.conflictConfig
  · rw [resilientPipeline_resolves methods strategies resolves,Nat.mul_comm]
    exact atMost_conflictLoop inside 2
  · rw [resilientPipeline_plain methods strategies resolves]
    exact (inside command.payload).mono (Nat.le_mul_of_pos_right _ (by decide))

theorem paid_pipeline : Ensures (resilientPipeline methods strategies command) fun _ events => Paid events := by
  have inside (command : Command Payload) :
      Ensures (retryBehavior (process methods) command) fun _ events => Paid (events : List (Event State Error)) := by
    rw [retryBehavior_eq]
    exact paid_retryLoop (paid_process methods command) _ 0
  by_cases resolves : Resolves command.conflictConfig
  · rw [resilientPipeline_resolves methods strategies resolves]
    exact paid_conflictLoop inside command 2
  · rw [resilientPipeline_plain methods strategies resolves]
    exact inside command

theorem only_pipeline :
    Only (FromStrategy strategies command.conflictConfig) (resilientPipeline methods strategies command) := by
  have inside (other : Command Payload) :
      Only (FromStrategy strategies command.conflictConfig) (retryBehavior (process methods) other) := by
    rw [retryBehavior_eq]
    exact only_retryLoop (only_process methods other) _ 0
  by_cases resolves : Resolves command.conflictConfig
  · rw [resilientPipeline_resolves methods strategies resolves]
    exact only_conflictLoop rfl inside 2
  · rw [resilientPipeline_plain methods strategies resolves]
    exact inside command

theorem retried_pipeline (enough : 0 ≤ budget command.maxRetries)
    (single : budget command.maxRetries = 0 ∨ ¬Resolves command.conflictConfig) :
    Ensures (resilientPipeline methods strategies command) (Retried (budget command.maxRetries)) := by
  have inside (payload : Payload) : Ensures
      (retryBehavior (process methods) ⟨command.maxRetries,command.conflictConfig,payload⟩ :
        Action World (Raised Error) (Event State Error) Response) (Retried (budget command.maxRetries)) := by
    rw [retryBehavior_eq]
    have counted : Ensures (retryLoop (process methods) ⟨command.maxRetries,command.conflictConfig,payload⟩
        (budget command.maxRetries).toNat 0 : Action World (Raised Error) (Event State Error) Response)
        (Retried (budget command.maxRetries).toNat) :=
      retried_retryLoop (retried_process methods _) _ 0
    rwa [Int.toNat_of_nonneg enough] at counted
  by_cases resolves : Resolves command.conflictConfig
  · have none := single.resolve_right (not_not.mpr resolves)
    rw [resilientPipeline_resolves methods strategies resolves]
    rw [none] at inside ⊢
    exact retried_conflictLoop inside 2
  · rw [resilientPipeline_plain methods strategies resolves]
    exact inside command.payload

end Pipeline

/-- The condition under which a command is handled as it should be. -/
structure Handled (strategies : Strategies State Error) (maxRetries : Option Int) (config : Option ConflictConfig) :
    Prop where
  enough : 0 ≤ budget maxRetries
  single : budget maxRetries = 0 ∨ ¬Resolves config
  incoming : ∀ given, config = some given → given.policy = .lastWins → TakesIncoming strategies given

theorem resilient_of_handled (methods : Methods World Payload State Error Response) (strategies : Strategies State Error)
    (command : Command Payload) (handled : Handled strategies command.maxRetries command.conflictConfig) :
    Ensures (resilientPipeline methods strategies command)
      (Resilient (budget command.maxRetries) command.conflictConfig) := by
  intro world
  have counted := atMost_pipeline methods strategies command world
  refine ⟨?_,retried_pipeline methods strategies command handled.enough handled.single world,
    paid_pipeline methods strategies command world,?_⟩
  · have total : (((budget command.maxRetries).toNat + 1) * 5 : Nat) = (budget command.maxRetries + 1) * 5 := by
      push_cast
      rw [Int.toNat_of_nonneg handled.enough]
    rw [← total]
    exact Nat.cast_le.mpr counted
  · intro given configured policy existing incoming state member
    obtain ⟨taken,strategy,own,chosen,merged⟩ :=
      only_pipeline methods strategies command world _ member existing incoming state rfl
    cases configured.symm.trans own
    exact handled.incoming given configured policy strategy existing incoming state chosen merged

section Patterns

def returning (State Error : Type) : Methods Unit Unit State Error Unit where
  process _ world := (.ok (),world)
  fetchLatestState _ world := (.ok none,world)
  getIncomingState _ world := (.error (.concurrency ""),world)
  updateCommand _ _ world := (.ok (),world)

/-- Methods that run into a conflict and then find these states; the command cannot be updated. -/
def conflicting (fetched : Except (Raised Error) (Option State)) (incoming : Except (Raised Error) State) :
    Methods Unit Unit State Error Unit where
  process _ world := (.error (.concurrency ""),world)
  fetchLatestState _ world := (fetched,world)
  getIncomingState _ world := (incoming,world)
  updateCommand _ _ world := (.error (.concurrency ""),world)

variable (strategies : Strategies State Error) (command : Command Unit)

theorem retryBehavior_conflicting (fetched : Except (Raised Error) (Option State)) (incoming : Except (Raised Error) State) :
    retryBehavior (process (conflicting fetched incoming)) command () =
      ⟨.error (.concurrency ""),(),[.process,.raised (.concurrency "")]⟩ := by
  rw [retryBehavior_eq]
  cases (budget command.maxRetries).toNat with
  | zero => rfl
  | succ left => rfl

theorem retryBehavior_returning :
    retryBehavior (process (returning State Error)) command () = ⟨.ok (),(),[.process]⟩ := by
  rw [retryBehavior_eq]
  cases (budget command.maxRetries).toNat with
  | zero => rfl
  | succ left => rfl

theorem returning_processed : (resilientPipeline (returning State Error) strategies command ()).events = [.process] := by
  have ran : retryBehavior (process (returning State Error)) command () = ⟨.ok (),(),[.process]⟩ :=
    retryBehavior_returning command
  by_cases resolves : Resolves command.conflictConfig
  · rw [resilientPipeline_resolves _ strategies resolves]
    simp only [conflictLoop,rescue,ran]
  · rw [resilientPipeline_plain _ strategies resolves,ran]

theorem conflicting_resolved (resolves : Resolves command.conflictConfig) {fetched : Except (Raised Error) (Option State)}
    {incoming : Except (Raised Error) State} {answer : Answer Unit (Raised Error) (Event State Error) Unit}
    (resolved : resolveConflict (conflicting fetched incoming) strategies
      (retryBehavior (process (conflicting fetched incoming))) command () = answer) :
    ∃ later, (resilientPipeline (conflicting fetched incoming) strategies command ()).events =
        [.process,.raised (.concurrency "")] ++ answer.events ++ later ∧
      ∀ error, answer.result = .error (.other error) →
        (resilientPipeline (conflicting fetched incoming) strategies command ()).result = .error (.other error) ∧
          later = [] := by
  have ran := retryBehavior_conflicting command fetched incoming
  rw [resilientPipeline_resolves _ strategies resolves]
  unfold conflictLoop
  simp only [rescue,ran,Answer.followed,resolved]
  rcases answered : answer.result with (message | error) | value
  · refine ⟨_,(List.append_assoc _ _ _).symm,fun error same => ?_⟩
    cases same
  · simp [raise]
  · refine ⟨[],(List.append_nil _).symm,fun error same => ?_⟩
    cases same

/-- Whatever the methods do, runs of the pipeline keep their promises. -/
def AlwaysResilient (strategies : Strategies State Error) (maxRetries : Option Int) (config : Option ConflictConfig) :
    Prop :=
  ∀ (World Payload Response : Type) (methods : Methods World Payload State Error Response) (payload : Payload),
    Ensures (resilientPipeline methods strategies ⟨maxRetries,config,payload⟩) (Resilient (budget maxRetries) config)

variable {strategies} {maxRetries : Option Int} {config : Option ConflictConfig}

theorem enough_of_always (always : AlwaysResilient strategies maxRetries config) : 0 ≤ budget maxRetries := by
  have bounded := (always Unit Unit Unit (returning State Error) () ()).bounded
  rw [returning_processed] at bounded
  have counted : (processed [(.process : Event State Error)] : Int) = 1 := rfl
  rw [counted] at bounded
  omega

theorem single_of_always (always : AlwaysResilient strategies maxRetries config) :
    budget maxRetries = 0 ∨ ¬Resolves config := by
  refine or_iff_not_imp_right.mpr fun resolves => ?_
  replace resolves := not_not.mp resolves
  let error := strategies.registryMissing ""
  let methods : Methods Unit Unit State Error Unit := conflicting (.error (.other error)) (.error (.other error))
  have resolved : resolveConflict methods strategies (retryBehavior (process methods)) ⟨maxRetries,config,()⟩ () =
      ⟨.error (.other error),(),[.raised (.other error)]⟩ := by
    obtain ⟨given,configured,_⟩ := resolves
    simp only [resolveConflict,configured]
    exact rfl
  obtain ⟨later,events,ended⟩ := conflicting_resolved strategies ⟨maxRetries,config,()⟩ resolves resolved
  obtain ⟨result,rfl⟩ := ended error rfl
  have retried := (always Unit Unit Unit methods () ()).retried
  rw [result,events,retried_other] at retried
  have counted : (failed ([.process,.raised (.concurrency "")] ++ [.raised (.other error)] ++ [] :
      List (Event State Error)) : Int) = 1 := rfl
  rw [counted] at retried
  omega

theorem incoming_of_always (always : AlwaysResilient strategies maxRetries config) (given : ConflictConfig)
    (configured : config = some given) (policy : given.policy = .lastWins) : TakesIncoming strategies given := by
  intro strategy existing incoming state chosen merged
  have resolves : Resolves config := ⟨given,configured,by rw [policy]; decide⟩
  let methods : Methods Unit Unit State Error Unit := conflicting (.ok (some existing)) (.ok incoming)
  have resolved : resolveConflict methods strategies (retryBehavior (process methods)) ⟨maxRetries,config,()⟩ () =
      ⟨.error (.concurrency ""),(),[.merged existing incoming state,.raised (.concurrency "")]⟩ := by
    simp only [resolveConflict,configured,pureCall,chosen]
    change chain (call fun world => (strategy existing incoming,world)) _ () = _
    simp only [merged]
    exact rfl
  obtain ⟨later,events,_⟩ := conflicting_resolved strategies ⟨maxRetries,config,()⟩ resolves resolved
  refine (always Unit Unit Unit methods () ()).incoming given configured policy existing incoming state ?_
  rw [events]
  simp

end Patterns

/-- Behaviours are nested as documented when their list reads the same both ways; the retries last where there are none or
where no conflict is resolved; and the last state wins where the strategy that is taken returns it. -/
theorem pipeline_iff {Name : Type} (names : List Name) (strategies : Strategies State Error) (maxRetries : Option Int)
    (config : Option ConflictConfig) :
    Nested names ∧ AlwaysResilient strategies maxRetries config ↔
      names.reverse = names ∧ Handled strategies maxRetries config := by
  rw [nested_iff]
  refine and_congr_right fun _ => ⟨fun always => ?_,fun handled => ?_⟩
  · exact ⟨enough_of_always always,single_of_always always,incoming_of_always always⟩
  · exact fun World Payload Response methods payload =>
      resilient_of_handled methods strategies ⟨maxRetries,config,payload⟩ handled

section Stock

open Conflict

inductive HandlerError
  | merge (error : MergeError)
  | registryMissing (message : String)
  | unavailable
  deriving DecidableEq, Repr

/-- `FieldLevelMergeStrategy`, for dicts; the merged one gets the next address. -/
def fieldLevelMerge (counter : Nat) (ignoreConflicts : Bool) (includeFields excludeFields : Option (List String)) :
    IMergeStrategy (Node Nat) HandlerError
  | .dict _ existing,.dict _ incoming => .ok (.dict counter (incoming.foldl (fun merged entry =>
      if (includeFields.getD []) ≠ [] ∧ entry.1 ∉ includeFields.getD [] then merged
      else if entry.1 ∈ excludeFields.getD [] then merged
      else if (merged.lookup entry.1).isSome ∧ ignoreConflicts then merged
      else Dict.put entry.1 entry.2 merged) existing))
  | _,_ => .error (.other (.merge (.typeError "object is not a dict")))

/-- `DeepMergeStrategy`, on states whose addresses are below the counter. -/
def deepMerge (counter : Nat) (appendLists : Bool) (listIdentityKey : IdentityKey) :
    IMergeStrategy (Node Nat) HandlerError := fun existing incoming =>
  ((DeepMergeStrategy.merge (fun _ _ => none) ⟨appendLists,listIdentityKey⟩ existing incoming counter).map
    Prod.fst).mapError fun error => .other (.merge error)

def stock : Strategies (Node Nat) HandlerError where
  mergeStrategy := none
  strategyRegistry := none
  deep := deepMerge 100
  field := fieldLevelMerge 100
  registryMissing := .registryMissing

def lastWins : ConflictConfig := {policy := .lastWins}

def saved : Node Nat := .dict 1 [("name",.scalar 2 (.text "old")),("note",.scalar 3 (.text "kept"))]

def draft : Node Nat := .dict 4 [("name",.scalar 5 (.text "new"))]

/-- A run that fetches something while it resolves a conflict. -/
def resolving (fetched : Except (Raised HandlerError) (Option (Node Nat))) :
    Answer Unit (Raised HandlerError) (Event (Node Nat) HandlerError) Unit :=
  resilientPipeline (conflicting fetched (.ok draft)) stock ⟨some 3,some lastWins,()⟩ ()

/-- Retries are added last and are inside. The latest state cannot be fetched: nothing is retried. It can be fetched: what
is resubmitted has a field that the incoming state lacks. -/
theorem unavailable_not_retried :
    ¬Nested ["conflict_resolution","retry"] ∧
      ¬Resilient 3 (some lastWins) (resolving (.error (.other .unavailable))).result
        (resolving (.error (.other .unavailable))).events ∧
      ¬Resilient 3 (some lastWins) (resolving (.ok (some saved))).result (resolving (.ok (some saved))).events := by
  refine ⟨?_,fun resilient => ?_,fun resilient => ?_⟩
  · rw [nested_iff]
    decide
  · have used := resilient.retried.2.mp ⟨.unavailable,rfl⟩
    exact absurd used (by decide)
  · have last := resilient.incoming lastWins rfl rfl saved draft
      (.dict 101 [("name",.scalar 5 (.text "new")),("note",.scalar 3 (.text "kept"))]) (.tail _ (.tail _ (.head _)))
    cases last

end Stock

end CqrsDdd.Handlers
