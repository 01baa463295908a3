import CqrsDdd.BackgroundJobs.Jobs
import Mathlib.Data.Int.Order.Basic
import Mathlib.Data.List.Count

/-! Workers that share one collection of jobs. A worker claims a job by one atomic update
and completes it or gives it back for a retry, which reads the job and writes it later;
the workers' steps come in any order. -/
namespace CqrsDdd.BackgroundJobs.Claiming

/-- The field `scheduled_at` of a document, which only some classes of jobs have. -/
inductive Schedule
  | absent
  | null
  | due (time : Int)

/-- The fields of a job's document that the queries and updates of the repository use. -/
structure JobDoc (Data : Type) where
  status : BackgroundJobStatus := .pending
  scheduledAt : Schedule := .absent
  createdAt : Int
  updatedAt : Int
  startedAt : Option Int := none
  completedAt : Option Int := none
  workerId : Option String := none
  retryCount : Int := 0
  maxRetries : Int := 3
  errorMessage : Option String := none
  resultData : Dict String Data := Dict.empty

abbrev Collection (Data : Type) := Dict String (JobDoc Data)

section Repository

variable {Data : Type}

/-- The filter of `claim_next_job`. -/
def eligible (now : Int) (job : JobDoc Data) : Bool :=
  job.status = .pending && (match job.scheduledAt with
    | .absent => true
    | .null => false
    | .due time => time ≤ now)

def earliest (docs : Collection Data) (now : Int) (job : JobDoc Data) : Bool :=
  docs.values.all fun other => !eligible now other || job.createdAt ≤ other.createdAt

/-- `find_one_and_update`, where the collection picks the document among those that the sort may put first. -/
def claimNextJob (docs : Collection Data) (workerId : String) (now : Int) (picked : String) :
    Collection Data × Option (JobDoc Data) :=
  match docs.get picked with
  | none => (docs,none)
  | some job =>
    if eligible now job && earliest docs now job then
      let claimed := {job with
        status := .running
        startedAt := some now
        workerId := some workerId
        updatedAt := now
        retryCount := job.retryCount+1 }
      (docs.set picked claimed,some claimed)
    else (docs,none)

/-- `update_one` of the document with an id, if it is there. -/
def updateOne (docs : Collection Data) (id : String) (change : JobDoc Data → JobDoc Data) : Collection Data :=
  match docs.get id with
  | none => docs
  | some job => docs.set id (change job)

/-- The write of `mark_for_retry`, with the job that it has read. -/
def markForRetry (docs : Collection Data) (id : String) (job : JobDoc Data) (errorMessage : Option String) (now : Int) :
    Collection Data × Bool :=
  if job.maxRetries ≤ job.retryCount then
    (updateOne docs id fun stored => {stored with
      status := .failed
      errorMessage := some (match errorMessage with
        | some text => if text = "" then "Max retries exceeded" else text
        | none => "Max retries exceeded")
      updatedAt := now },false)
  else
    (updateOne docs id fun stored => {stored with status := .pending, errorMessage := errorMessage, updatedAt := now },true)

/-- Without a result, or with an empty one, the stored result stays. -/
def markCompleted (docs : Collection Data) (id : String) (resultData : Option (Dict String Data)) (now : Int) :
    Collection Data :=
  updateOne docs id fun stored => {stored with
    status := .completed
    completedAt := some now
    updatedAt := now
    resultData := match resultData with
      | some result => if result.entries.isEmpty then stored.resultData else result
      | none => stored.resultData }

def purgeCompleted (docs : Collection Data) (before : Int) : Collection Data :=
  docs.filter fun job => !((job.status = .completed || job.status = .cancelled) && job.updatedAt < before)

end Repository

/-- What a worker has in its hands; a job that is given back was read before it is written. -/
inductive Stage (Data : Type)
  | idle
  | working (id : String)
  | retrying (id : String) (job : JobDoc Data)

def Stage.job {Data : Type} : Stage Data → Option String
  | .idle => none
  | .working id | .retrying id _ => some id

/-- The collection and the workers, with the ids that were used and the claims that were made. -/
structure World (Data : Type) where
  docs : Collection Data
  stage : String → Stage Data
  created : List String
  claims : List (String × String)

inductive Event (Data : Type)
  /-- A new job is stored under an id of its own. -/
  | create (id : String) (scheduledAt : Schedule) (maxRetries now : Int)
  | claim (worker : String) (now : Int) (picked : String)
  | complete (worker : String) (resultData : Option (Dict String Data)) (now : Int)
  /-- `mark_for_retry` reads the job. -/
  | readForRetry (worker : String)
  | markForRetry (worker : String) (errorMessage : Option String) (now : Int)
  | purge (before : Int)
  /-- The worker ends without another word. -/
  | crash (worker : String)

namespace World

section Runs

variable {Data : Type}

def initial : World Data := ⟨Dict.empty,fun _ => .idle,[],[]⟩

def step (world : World Data) : Event Data → World Data
  | .create id scheduledAt maxRetries now =>
    if id ∈ world.created then world
    else {world with
      docs := world.docs.set id { scheduledAt := scheduledAt, createdAt := now, updatedAt := now, maxRetries := maxRetries }
      created := id::world.created }
  | .claim worker now picked =>
    match world.stage worker,claimNextJob world.docs worker now picked with
    | .idle,(docs,some _) => {world with
      docs := docs
      stage := Function.update world.stage worker (.working picked)
      claims := world.claims ++ [(worker,picked)] }
    | _,_ => world
  | .complete worker resultData now =>
    match world.stage worker with
    | .working id => {world with
      docs := markCompleted world.docs id resultData now
      stage := Function.update world.stage worker .idle }
    | _ => world
  | .readForRetry worker =>
    match world.stage worker with
    | .working id => {world with
      stage := Function.update world.stage worker (match world.docs.get id with
        | none => .idle
        | some job => .retrying id job) }
    | _ => world
  | .markForRetry worker errorMessage now =>
    match world.stage worker with
    | .retrying id job => {world with
      docs := (Claiming.markForRetry world.docs id job errorMessage now).1
      stage := Function.update world.stage worker .idle }
    | _ => world
  | .purge before => {world with docs := purgeCompleted world.docs before }
  | .crash worker => {world with stage := Function.update world.stage worker .idle }

def claimed (world : World Data) (id : String) : Nat := world.claims.countP fun claim => claim.2 = id

inductive Moved (world : World Data) : World Data → Prop
  | stay : Moved world world
  | born (id : String) (job : JobDoc Data) (unused : id ∉ world.created) (pending : job.status = .pending)
      (unclaimed : job.retryCount = 0) :
      Moved world {world with docs := world.docs.set id job, created := id::world.created }
  | taken (worker id : String) (job after : JobDoc Data) (stored : world.docs.get id = some job)
      (pending : job.status = .pending) (running : after.status = .running) (mine : after.workerId = some worker)
      (counted : after.retryCount = job.retryCount+1) (same : after.maxRetries = job.maxRetries) :
      Moved world {world with
        docs := world.docs.set id after
        stage := Function.update world.stage worker (.working id)
        claims := world.claims ++ [(worker,id)] }
  | read (worker id : String) (job : JobDoc Data) (held : world.stage worker = .working id)
      (stored : world.docs.get id = some job) :
      Moved world {world with stage := Function.update world.stage worker (.retrying id job) }
  | finished (worker id : String) (change : JobDoc Data → JobDoc Data) (held : (world.stage worker).job = some id)
      (same : ∀ job, (change job).retryCount = job.retryCount ∧ (change job).maxRetries = job.maxRetries)
      (ends : (∀ job, (change job).status = .completed) ∨
        ∃ job, world.stage worker = .retrying id job ∧
          ((∀ stored, (change stored).status = .failed) ∧ job.maxRetries ≤ job.retryCount ∨
            (∀ stored, (change stored).status = .pending) ∧ job.retryCount < job.maxRetries)) :
      Moved world {world with
        docs := updateOne world.docs id change
        stage := Function.update world.stage worker .idle }
  | left (worker : String) : Moved world {world with stage := Function.update world.stage worker .idle }
  | purged (before : Int) : Moved world {world with docs := purgeCompleted world.docs before }

theorem moved (world : World Data) (event : Event Data) : Moved world (world.step event) := by
  cases event with
  | create id scheduledAt maxRetries now =>
    simp only [step]
    split
    next => exact .stay
    next unused => exact .born id _ unused rfl rfl
  | claim worker now picked =>
    simp only [step]
    split
    next docs after idle answer =>
      unfold claimNextJob at answer
      split at answer
      next => cases answer
      next job stored =>
        split at answer
        next fits =>
          cases answer
          have pending : job.status = .pending := by
            simp only [eligible,Bool.and_eq_true,decide_eq_true_eq] at fits
            exact fits.1.1
          exact .taken worker picked job _ stored pending rfl rfl rfl rfl
        next => cases answer
    next => exact .stay
  | complete worker resultData now =>
    simp only [step]
    split
    next id held =>
      exact .finished worker id _ (congrArg Stage.job held) (fun _ => ⟨rfl,rfl⟩) (.inl fun _ => rfl)
    next => exact .stay
  | readForRetry worker =>
    simp only [step]
    split
    next id held =>
      cases stored : world.docs.get id with
      | none => exact .left worker
      | some job => exact .read worker id job held stored
    next => exact .stay
  | markForRetry worker errorMessage now =>
    simp only [step]
    split
    next id job held =>
      have mine := congrArg Stage.job held
      unfold Claiming.markForRetry
      split
      next spent =>
        exact .finished worker id _ mine (fun _ => ⟨rfl,rfl⟩) (.inr ⟨job,held,.inl ⟨fun _ => rfl,spent⟩⟩)
      next more =>
        exact .finished worker id _ mine (fun _ => ⟨rfl,rfl⟩)
          (.inr ⟨job,held,.inr ⟨fun _ => rfl,Int.not_le.mp more⟩⟩)
    next => exact .stay
  | purge before => exact .purged before
  | crash worker => exact .left worker

theorem claimed_taken (world : World Data) (worker id other : String) (docs : Collection Data) (stage : String → Stage Data) :
    claimed {world with docs := docs, stage := stage, claims := world.claims ++ [(worker,id)] } other =
      world.claimed other + if id = other then 1 else 0 := by
  simp [claimed,List.countP_append,List.countP_singleton]

theorem get_updateOne (docs : Collection Data) (id other : String) (change : JobDoc Data → JobDoc Data) :
    (updateOne docs id change).get other = if other = id then (docs.get id).map change else docs.get other := by
  unfold updateOne
  split
  next absent =>
    split
    next same => rw [same,absent,Option.map_none]
    next => rfl
  next job stored => rw [Dict.get_set,stored,Option.map_some]

theorem job_update (stage : String → Stage Data) (worker other : String) (next : Stage Data) :
    (Function.update stage worker next other).job = if other = worker then next.job else (stage other).job := by
  rw [Function.update_apply]
  split <;> rfl

/-- What the document of a job says after a number of claims. -/
structure Tallied (count : Nat) (job : JobDoc Data) : Prop where
  counted : job.retryCount = count
  bounded : (count : Int) ≤ max 1 job.maxRetries
  spare : job.status = .pending → (count : Int) < max 1 job.maxRetries
  spent : job.status = .failed → job.maxRetries ≤ count

/-- Who holds a job is the worker that its document names, and the document counts the claims. -/
structure Sound (world : World Data) : Prop where
  held : ∀ worker id, (world.stage worker).job = some id →
    ∃ job, world.docs.get id = some job ∧ job.status = .running ∧ job.workerId = some worker
  snapshot : ∀ worker id job, world.stage worker = .retrying id job → world.docs.get id = some job
  known : ∀ id job, world.docs.get id = some job → id ∈ world.created
  unclaimed : ∀ id, id ∉ world.created → world.claimed id = 0
  tallied : ∀ id job, world.docs.get id = some job → Tallied (world.claimed id) job

theorem sound_initial : Sound (initial : World Data) where
  held _ _ holds := nomatch holds
  snapshot _ _ _ holds := nomatch holds
  known _ _ stored := nomatch stored
  unclaimed _ _ := rfl
  tallied _ _ stored := nomatch stored

theorem Sound.exclusive {world : World Data} (sound : Sound world) {first second id : String}
    (one : (world.stage first).job = some id) (two : (world.stage second).job = some id) : first = second := by
  obtain ⟨job,stored,_,mine⟩ := sound.held first id one
  obtain ⟨again,found,_,yours⟩ := sound.held second id two
  obtain rfl := Option.some.inj (stored.symm.trans found)
  exact Option.some.inj (mine.symm.trans yours)

theorem Sound.stored {world : World Data} (sound : Sound world) {id : String} {after : JobDoc Data}
    {stage : String → Stage Data} {created : List String} {claims : List (String × String)}
    (held : ∀ worker other, (stage worker).job = some other → other ≠ id ∧ (world.stage worker).job = some other ∨
      other = id ∧ after.status = .running ∧ after.workerId = some worker)
    (snapshot : ∀ worker other job, stage worker = .retrying other job →
      other ≠ id ∧ world.stage worker = .retrying other job)
    (known : id ∈ created) (more : ∀ other ∈ world.created, other ∈ created)
    (same : ∀ other, other ≠ id → claimed ⟨world.docs,stage,created,claims⟩ other = world.claimed other)
    (tallied : Tallied (claimed ⟨world.docs,stage,created,claims⟩ id) after) :
    Sound ⟨world.docs.set id after,stage,created,claims⟩ := by
  refine ⟨fun worker other holds => ?_,fun worker other job holds => ?_,fun other job found => ?_,fun other fresh => ?_,
    fun other job found => ?_⟩
  · rcases held worker other holds with ⟨differs,before⟩ | ⟨rfl,running,mine⟩
    · obtain ⟨job,found,rest⟩ := sound.held worker other before
      exact ⟨job,(Dict.get_set_other _ after differs).trans found,rest⟩
    · exact ⟨after,Dict.get_set_same _ _ _,running,mine⟩
  · obtain ⟨differs,before⟩ := snapshot worker other job holds
    exact (Dict.get_set_other _ after differs).trans (sound.snapshot worker other job before)
  · by_cases here : other = id
    · exact here ▸ known
    · exact more other (sound.known other job ((Dict.get_set_other _ after here).symm.trans found))
  · have differs : other ≠ id := fun equal => fresh (equal ▸ known)
    exact (same other differs).trans (sound.unclaimed other fun inside => fresh (more other inside))
  · by_cases here : other = id
    · subst here
      obtain rfl := Option.some.inj ((Dict.get_set_same _ _ _).symm.trans found)
      exact tallied
    · have counts := sound.tallied other job ((Dict.get_set_other _ after here).symm.trans found)
      rw [← same other here] at counts
      exact counts

theorem Sound.born {world : World Data} (sound : Sound world) {id : String} {job : JobDoc Data}
    (unused : id ∉ world.created) (pending : job.status = .pending) (unclaimed : job.retryCount = 0) :
    Sound {world with docs := world.docs.set id job, created := id::world.created } := by
  have none_yet := sound.unclaimed id unused
  have differs : ∀ other stored, world.docs.get other = some stored → other ≠ id := fun other stored found same =>
    unused (same ▸ sound.known other stored found)
  refine sound.stored (fun worker other holds => ?_) (fun worker other stored holds => ?_) List.mem_cons_self
    (fun _ inside => List.mem_cons_of_mem id inside) (fun _ _ => rfl) ?_
  · obtain ⟨stored,found,_⟩ := sound.held worker other holds
    exact .inl ⟨differs other stored found,holds⟩
  · exact ⟨differs other stored (sound.snapshot worker other stored holds),holds⟩
  · change Tallied (world.claimed id) job
    rw [none_yet]
    refine ⟨unclaimed,by omega,fun _ => by omega,fun failed => ?_⟩
    cases pending.symm.trans failed

theorem Sound.taken {world : World Data} (sound : Sound world) {worker id : String} {job after : JobDoc Data}
    (stored : world.docs.get id = some job) (pending : job.status = .pending) (running : after.status = .running)
    (mine : after.workerId = some worker) (counted : after.retryCount = job.retryCount+1)
    (same : after.maxRetries = job.maxRetries) :
    Sound {world with
      docs := world.docs.set id after
      stage := Function.update world.stage worker (.working id)
      claims := world.claims ++ [(worker,id)] } := by
  have free : ∀ other, (world.stage other).job ≠ some id := by
    intro other holds
    obtain ⟨again,found,busy,-⟩ := sound.held other id holds
    obtain rfl := Option.some.inj (stored.symm.trans found)
    cases pending.symm.trans busy
  have tallied := sound.tallied id job stored
  have spare := tallied.spare pending
  refine sound.stored (fun holder other holds => ?_) (fun holder other doc holds => ?_) (sound.known id job stored)
    (fun _ inside => inside) (fun other differs => ?_) ?_
  · rw [job_update] at holds
    split at holds
    next me => exact .inr ⟨(Option.some.inj holds).symm,running,mine.trans (congrArg some me.symm)⟩
    next => exact .inl ⟨fun equal => free holder (equal ▸ holds),holds⟩
  · simp only [Function.update_apply] at holds
    split at holds
    next => cases holds
    next => exact ⟨fun equal => free holder ((congrArg Stage.job holds).trans (congrArg some equal)),holds⟩
  · rw [claimed_taken,if_neg (Ne.symm differs)]
    rfl
  · rw [claimed_taken,if_pos rfl]
    refine ⟨?_,?_,fun waiting => ?_,fun failed => ?_⟩
    · rw [counted,tallied.counted]
      rfl
    · rw [same]
      omega
    · cases running.symm.trans waiting
    · cases running.symm.trans failed

theorem Sound.finished {world : World Data} (sound : Sound world) {worker id : String} {job : JobDoc Data}
    {change : JobDoc Data → JobDoc Data} (held : (world.stage worker).job = some id)
    (stored : world.docs.get id = some job) (tallied : Tallied (world.claimed id) (change job)) :
    Sound {world with
      docs := updateOne world.docs id change
      stage := Function.update world.stage worker .idle } := by
  have differs : ∀ holder other, (Function.update world.stage worker .idle holder).job = some other →
      other ≠ id ∧ (world.stage holder).job = some other := by
    intro holder other holds
    rw [job_update] at holds
    split at holds
    next => cases holds
    next apart => exact ⟨fun equal => apart (sound.exclusive (equal ▸ holds) held),holds⟩
  have written : updateOne world.docs id change = world.docs.set id (change job) := by rw [updateOne,stored]
  rw [written]
  refine sound.stored (fun holder other holds => .inl (differs holder other holds)) (fun holder other doc holds => ?_)
    (sound.known id job stored) (fun _ inside => inside) (fun _ _ => rfl) tallied
  refine ⟨(differs holder other (congrArg Stage.job holds)).1,?_⟩
  simp only [Function.update_apply] at holds
  split at holds
  next => cases holds
  next => exact holds

theorem Sound.restaged {world : World Data} (sound : Sound world) {worker : String} {next : Stage Data}
    (held : ∀ id, next.job = some id → (world.stage worker).job = some id)
    (snapshot : ∀ id job, next = .retrying id job → world.docs.get id = some job) :
    Sound {world with stage := Function.update world.stage worker next } := by
  refine ⟨fun holder other holds => ?_,fun holder other doc holds => ?_,sound.known,sound.unclaimed,sound.tallied⟩
  · rw [job_update] at holds
    split at holds
    next me => exact sound.held holder other (me ▸ held other holds)
    next => exact sound.held holder other holds
  · simp only [Function.update_apply] at holds
    split at holds
    next => exact snapshot other doc holds
    next => exact sound.snapshot holder other doc holds

theorem get_purgeCompleted (docs : Collection Data) (before : Int) {id : String} {job : JobDoc Data}
    (found : (purgeCompleted docs before).get id = some job) : docs.get id = some job := by
  unfold purgeCompleted at found
  rw [Dict.get_filter,Option.filter_eq_some_iff] at found
  exact found.1

theorem get_purgeCompleted_kept (docs : Collection Data) (before : Int) {id : String} {job : JobDoc Data}
    (found : docs.get id = some job) (completed : job.status ≠ .completed) (cancelled : job.status ≠ .cancelled) :
    (purgeCompleted docs before).get id = some job := by
  unfold purgeCompleted
  rw [Dict.get_filter,found]
  simp [completed,cancelled]

theorem Sound.purged {world : World Data} (sound : Sound world) (before : Int) :
    Sound {world with docs := purgeCompleted world.docs before } := by
  have kept : ∀ id job, world.docs.get id = some job → job.status = .running →
      (purgeCompleted world.docs before).get id = some job := fun id job found running =>
    get_purgeCompleted_kept _ before found (by rw [running]; decide) (by rw [running]; decide)
  refine ⟨?_,?_,?_,sound.unclaimed,?_⟩
  · intro worker id holds
    obtain ⟨job,found,running,mine⟩ := sound.held worker id holds
    exact ⟨job,kept id job found running,running,mine⟩
  · intro worker id job holds
    obtain ⟨again,found,running,-⟩ := sound.held worker id (congrArg Stage.job holds)
    have stored := sound.snapshot worker id job holds
    obtain rfl := Option.some.inj (stored.symm.trans found)
    exact kept id job stored running
  · exact fun id job found => sound.known id job (get_purgeCompleted _ before found)
  · exact fun id job found => sound.tallied id job (get_purgeCompleted _ before found)

theorem Moved.sound {world after : World Data} (moved : Moved world after) (sound : Sound world) : Sound after := by
  cases moved with
  | stay => exact sound
  | born id job unused pending unclaimed => exact sound.born unused pending unclaimed
  | taken worker id job later stored pending running mine counted same =>
    exact sound.taken stored pending running mine counted same
  | read worker id job held stored =>
    refine sound.restaged (fun other holds => (congrArg Stage.job held).trans holds) fun other doc same => ?_
    cases same
    exact stored
  | finished worker id change held same ends =>
    obtain ⟨job,stored,running,-⟩ := sound.held worker id held
    have tallied := sound.tallied id job stored
    obtain ⟨retries,limit⟩ := same job
    refine sound.finished held stored ⟨retries.trans tallied.counted,limit ▸ tallied.bounded,fun waiting => ?_,fun failed => ?_⟩
    · rcases ends with completed | ⟨seen,holds,⟨gaveUp,-⟩ | ⟨-,more⟩⟩
      · cases (completed job).symm.trans waiting
      · cases (gaveUp job).symm.trans waiting
      · -- what was read for the retry is what is still stored
        obtain rfl := Option.some.inj ((sound.snapshot worker id seen holds).symm.trans stored)
        rw [limit,← tallied.counted]
        omega
    · rcases ends with completed | ⟨seen,holds,⟨-,used⟩ | ⟨again,-⟩⟩
      · cases (completed job).symm.trans failed
      · obtain rfl := Option.some.inj ((sound.snapshot worker id seen holds).symm.trans stored)
        rw [limit,← tallied.counted]
        exact used
      · cases (again job).symm.trans failed
  | left worker => exact sound.restaged (fun _ holds => nomatch holds) fun _ _ same => nomatch same
  | purged before => exact sound.purged before

theorem sound_run (events : List (Event Data)) {world : World Data} (sound : Sound world) :
    Sound (Transition.run step world events) :=
  Transition.run_invariant Sound (fun state event sound _ => (moved state event).sound sound) world events sound
    (Transition.meets_of_forall step (fun _ _ => True) (fun _ _ => trivial) world events)

/-- The job is out of the workers' reach: nobody holds it, and it waits for nobody. -/
structure Settled (id : String) (job : JobDoc Data) (count : Nat) (world : World Data) : Prop where
  known : id ∈ world.created
  free : ∀ worker, (world.stage worker).job ≠ some id
  still : world.docs.get id = some job ∨
    (job.status = .completed ∨ job.status = .cancelled) ∧ world.docs.get id = none
  count : world.claimed id = count

theorem free_update {stage : String → Stage Data} {id : String} (free : ∀ worker, (stage worker).job ≠ some id)
    (worker : String) {next : Stage Data} (other : next.job ≠ some id) :
    ∀ holder, (Function.update stage worker next holder).job ≠ some id := by
  intro holder
  rw [job_update]
  split
  next => exact other
  next => exact free holder

theorem Moved.settled {world after : World Data} {id : String} {job : JobDoc Data} {count : Nat}
    (moved : Moved world after) (idle : job.status ≠ .pending) (settled : Settled id job count world) :
    Settled id job count after := by
  obtain ⟨known,free,still,counted⟩ := settled
  cases moved with
  | stay => exact ⟨known,free,still,counted⟩
  | born other fresh unused =>
    have differs : id ≠ other := fun same => unused (same ▸ known)
    refine ⟨List.mem_cons_of_mem other known,free,?_,counted⟩
    rw [Dict.get_set_other _ fresh differs]
    exact still
  | taken worker other stored later found pending =>
    have differs : id ≠ other := by
      rintro rfl
      rcases still with kept | ⟨-,gone⟩
      · obtain rfl := Option.some.inj (kept.symm.trans found)
        exact idle pending
      · cases gone.symm.trans found
    refine ⟨known,free_update free worker fun holds => differs (Option.some.inj holds).symm,?_,?_⟩
    · rw [Dict.get_set_other _ later differs]
      exact still
    · rw [claimed_taken,if_neg (Ne.symm differs)]
      exact counted
  | read worker other stored held =>
    exact ⟨known,free_update free worker fun holds => free worker ((congrArg Stage.job held).trans holds),still,counted⟩
  | finished worker other change held =>
    have differs : id ≠ other := fun same => free worker (same ▸ held)
    refine ⟨known,free_update free worker fun holds => (nomatch holds),?_,counted⟩
    rw [get_updateOne,if_neg differs]
    exact still
  | left worker => exact ⟨known,free_update free worker fun holds => (nomatch holds),still,counted⟩
  | purged before =>
    refine ⟨known,free,?_,counted⟩
    rcases still with kept | ⟨ended,gone⟩
    · by_cases ended : job.status = .completed ∨ job.status = .cancelled
      · cases found : (purgeCompleted world.docs before).get id with
        | none => exact .inr ⟨ended,rfl⟩
        | some left => exact .inl ((get_purgeCompleted _ before found).symm.trans kept)
      · obtain ⟨completed,cancelled⟩ := not_or.mp ended
        exact .inl (get_purgeCompleted_kept _ before kept completed cancelled)
    · refine .inr ⟨ended,?_⟩
      unfold purgeCompleted
      rw [Dict.get_filter,gone,Option.filter_none]

theorem settled_run {world : World Data} {id : String} {job : JobDoc Data} {count : Nat} (idle : job.status ≠ .pending)
    (settled : Settled id job count world) (later : List (Event Data)) :
    Settled id job count (Transition.run step world later) :=
  Transition.run_invariant (Settled id job count) (fun state event settled _ => (moved state event).settled idle settled)
    world later settled (Transition.meets_of_forall step (fun _ _ => True) (fun _ _ => trivial) world later)

/-- However the steps of the workers come, a job is in the hands of the one worker that its document names, it is
claimed as often as its document says and never more than it may be, and it stays as it is when nobody has it and
it waits for nobody. -/
theorem claims_exclusive (events : List (Event Data)) :
    let world := Transition.run step initial events
    (∀ first second id, (world.stage first).job = some id → (world.stage second).job = some id → first = second) ∧
    (∀ worker id, (world.stage worker).job = some id →
      ∃ job, world.docs.get id = some job ∧ job.status = .running ∧ job.workerId = some worker) ∧
    (∀ id job, world.docs.get id = some job → job.retryCount = world.claimed id ∧
      (world.claimed id : Int) ≤ max 1 job.maxRetries ∧ (job.status = .failed → job.maxRetries ≤ world.claimed id)) ∧
    ∀ id job, world.docs.get id = some job → job.status ≠ .pending → (∀ worker, (world.stage worker).job ≠ some id) →
      ∀ later, (Transition.run step world later).claimed id = world.claimed id ∧
        ((Transition.run step world later).docs.get id = some job ∨
          (job.status = .completed ∨ job.status = .cancelled) ∧
            (Transition.run step world later).docs.get id = none) := by
  have sound := sound_run events sound_initial
  refine ⟨fun _ _ _ one two => sound.exclusive one two,sound.held,fun id job stored => ?_,?_⟩
  · have tallied := sound.tallied id job stored
    exact ⟨tallied.counted,tallied.bounded,tallied.spent⟩
  · intro id job stored idle free later
    have settled := settled_run idle ⟨sound.known id job stored,free,.inl stored,rfl⟩ later
    exact ⟨settled.count,settled.still⟩

end Runs

end World

end CqrsDdd.BackgroundJobs.Claiming
