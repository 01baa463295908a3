import CqrsDdd.Trace
import CqrsDdd.Transactions.Mediator
import Mathlib

/-! Every run of the mediator keeps to one transaction for a root command. The log
is justified event by event by what came before; the tasks of a tree have its unit
of work in their context, and a root has one open scope until it is settled. -/
namespace CqrsDdd.Transactions.Mediator

open Trace

def Knows (log : List Event) (root : Nat) (current : Option Nat) : Prop :=
  ∃ uow, .created root uow ∈ log ∧ current = some uow

def Event.Justified (log : List Event) : Event → Prop
  | .began call _ => ∀ current, .began call current ∉ log
  | .ended call current => .began call current ∈ log
  | .started root => .started root ∉ log
  | .created _ uow => ∀ other, .created other uow ∉ log
  | .saw root current => Knows log root current
  | .dispatched _ _ => True
  | .committed root uow _ | .rolledBack root uow _ => .created root uow ∈ log
  | .hookRan root => ∃ uow, .committed root uow true ∈ log
  | .hookSent root sent => sent ≠ root ∧ ∃ uow, .created sent uow ∈ log

theorem began_unique {log : List Event} (chain : Chain Event.Justified log) {call : Nat} {before after : Option Nat}
    (first : .began call before ∈ log) (second : .began call after ∈ log) : before = after :=
  (Event.began.inj (chain.unique first second (fun _ fresh => fresh before) (fun _ fresh => fresh after))).2

theorem created_unique {log : List Event} (chain : Chain Event.Justified log) {root other uow : Nat}
    (first : .created root uow ∈ log) (second : .created other uow ∈ log) : root = other :=
  (Event.created.inj (chain.unique first second (fun _ fresh => fresh root) (fun _ fresh => fresh other))).1

def Balanced (log : List Event) : Prop :=
  ∀ root, log.countP (Event.creates root) = log.count (.started root) ∧
    log.countP (Event.commits root) = log.count (.dispatched root true) ∧
    log.countP (Event.rollsBack root) = log.count (.dispatched root false)

theorem Balanced.append {log added : List Event} (balanced : Balanced log) (more : Balanced added) :
    Balanced (log ++ added) := by
  intro root
  obtain ⟨creates,commits,rollsBack⟩ := balanced root
  obtain ⟨createsMore,commitsMore,rollsBackMore⟩ := more root
  simp only [List.countP_append,List.count_append]
  omega

def Event.Numbered (nextCall nextRoot nextUow : Nat) : Event → Prop
  | .began call _ => call < nextCall
  | .started root => root < nextRoot
  | .created root uow => root < nextRoot ∧ uow < nextUow
  | _ => True

theorem Event.Numbered.mono {event : Event} {nextCall nextRoot nextUow laterCall laterRoot laterUow : Nat}
    (numbered : event.Numbered nextCall nextRoot nextUow) (calls : nextCall ≤ laterCall) (roots : nextRoot ≤ laterRoot)
    (uows : nextUow ≤ laterUow) : event.Numbered laterCall laterRoot laterUow := by
  cases event with
  | began call current => exact numbered.trans_le calls
  | started root => exact numbered.trans_le roots
  | created root uow => exact ⟨numbered.1.trans_le roots,numbered.2.trans_le uows⟩
  | _ => trivial

def Origin.Fits (log : List Event) (current : Option Nat) : Origin → Prop
  | .outside => current = none
  | .tree root => Knows log root current
  | .hook root uow => current = none ∧ .created root uow ∈ log

def Draining (log : List Event) (current : Option Nat) (root uow : Nat) : Prop :=
  current = none ∧ .created root uow ∈ log ∧ .committed root uow true ∈ log

def Control.Fits (log : List Event) (current : Option Nat) : Control → Prop
  | .run origin _ | .send origin _ => Origin.Fits log current origin
  | .dispatchCommand root _ | .pipeline root _ _ | .dispatch root _ | .gather root _ => Knows log root current
  | .triggerCommitHooks root uow => Draining log current root uow
  | .leave _ | .finished _ => True

def Frame.Fits (log : List Event) (current : Option Nat) : Frame → Prop
  | .call number => .began number current ∈ log
  | .resume origin _ _ => Origin.Fits log current origin
  | .before root _ _ _ _ | .around root _ _ | .response root | .events root _ => Knows log root current
  | .scope root uow token => .created root uow ∈ log ∧ current = some uow ∧ token = none
  | .drain root uow => Draining log current root uow

def Frame.below (current : Option Nat) : Frame → Option Nat
  | .scope _ _ token => token
  | _ => current

def StackFits (log : List Event) : Option Nat → List Frame → Prop
  | _, [] => True
  | current, frame::rest => frame.Fits log current ∧ StackFits log (frame.below current) rest

structure Task.Fits (log : List Event) (task : Task) : Prop where
  control : task.control.Fits log task.current
  stack : StackFits log task.current task.stack

theorem Knows.mono {log later : List Event} (grows : log ⊆ later) {root : Nat} {current : Option Nat}
    (knows : Knows log root current) : Knows later root current := by
  obtain ⟨uow,created,same⟩ := knows
  exact ⟨uow,grows created,same⟩

theorem Origin.Fits.mono {log later : List Event} (grows : log ⊆ later) {current : Option Nat} {origin : Origin}
    (fits : Origin.Fits log current origin) : Origin.Fits later current origin := by
  cases origin with
  | outside => exact fits
  | tree root => exact Knows.mono grows fits
  | hook root uow => exact ⟨fits.1,grows fits.2⟩

theorem Draining.mono {log later : List Event} (grows : log ⊆ later) {current : Option Nat} {root uow : Nat}
    (draining : Draining log current root uow) : Draining later current root uow :=
  ⟨draining.1,grows draining.2.1,grows draining.2.2⟩

theorem Control.Fits.mono {log later : List Event} (grows : log ⊆ later) {current : Option Nat} {control : Control}
    (fits : control.Fits log current) : control.Fits later current := by
  cases control with
  | run origin code => exact Origin.Fits.mono grows fits
  | send origin command => exact Origin.Fits.mono grows fits
  | dispatchCommand root command => exact Knows.mono grows fits
  | pipeline root middlewares handler => exact Knows.mono grows fits
  | dispatch root events => exact Knows.mono grows fits
  | gather root children => exact Knows.mono grows fits
  | triggerCommitHooks root uow => exact Draining.mono grows fits
  | leave result => trivial
  | finished raised => trivial

theorem Frame.Fits.mono {log later : List Event} (grows : log ⊆ later) {current : Option Nat} {frame : Frame}
    (fits : frame.Fits log current) : frame.Fits later current := by
  cases frame with
  | call number => exact grows fits
  | resume origin returned raised => exact Origin.Fits.mono grows fits
  | before root after recover rest handler => exact Knows.mono grows fits
  | around root after recover => exact Knows.mono grows fits
  | response root => exact Knows.mono grows fits
  | events root rest => exact Knows.mono grows fits
  | scope root uow token => exact ⟨grows fits.1,fits.2⟩
  | drain root uow => exact Draining.mono grows fits

theorem StackFits.mono {log later : List Event} (grows : log ⊆ later) {current : Option Nat} {stack : List Frame}
    (fits : StackFits log current stack) : StackFits later current stack := by
  induction stack generalizing current with
  | nil => trivial
  | cons frame rest ih => exact ⟨Frame.Fits.mono grows fits.1,ih fits.2⟩

theorem Task.Fits.mono {log later : List Event} (grows : log ⊆ later) {task : Task} (fits : task.Fits log) :
    task.Fits later :=
  ⟨Control.Fits.mono grows fits.control,StackFits.mono grows fits.stack⟩

def Frame.opens (root : Nat) : Frame → Bool
  | .scope owner _ _ => owner = root
  | _ => false

def Task.opens (root : Nat) (task : Task) : Nat := task.stack.countP (Frame.opens root)

def settled (root : Nat) (log : List Event) : Nat :=
  log.count (.dispatched root true) + log.count (.dispatched root false)

structure Inv (state : State) : Prop where
  chain : Chain Event.Justified state.log
  balanced : Balanced state.log
  numbered : ∀ event ∈ state.log, event.Numbered state.nextCall state.nextRoot state.nextUow
  tasks : ∀ task ∈ state.tasks, task.Fits state.log
  hooks : ∀ uow, ∀ waiting ∈ state.onCommitHooks uow, .created waiting.1 uow ∈ state.log
  accounts : ∀ root, (state.tasks.map (Task.opens root)).sum + settled root state.log = state.log.count (.started root)

structure Move.Sound (state : State) (task : Task) (move : Move) : Prop where
  follows : Follows Event.Justified state.log move.added
  balanced : Balanced move.added
  numbered : ∀ event ∈ move.added, event.Numbered move.nextCall move.nextRoot move.nextUow
  counters : state.nextCall ≤ move.nextCall ∧ state.nextRoot ≤ move.nextRoot ∧ state.nextUow ≤ move.nextUow
  fits : move.task.Fits (state.log ++ move.added)
  spawned : ∀ child ∈ move.spawned, child.Fits (state.log ++ move.added) ∧ child.stack = []
  hooks : ∀ uow, ∀ waiting ∈ move.onCommitHooks uow, .created waiting.1 uow ∈ state.log ++ move.added
  accounts : ∀ root, move.task.opens root + settled root move.added = task.opens root + move.added.count (.started root)

theorem sum_set (weigh : Task → Nat) (moved : Task) {tasks : List Task} {index : Nat} {task : Task}
    (member : tasks[index]? = some task) :
    ((tasks.set index moved).map weigh).sum + weigh task = (tasks.map weigh).sum + weigh moved := by
  induction tasks generalizing index with
  | nil => simp at member
  | cons first rest ih =>
    cases index with
    | zero =>
      obtain rfl : first = task := by simpa using member
      simp only [List.set_cons_zero,List.map_cons,List.sum_cons]
      omega
    | succ index =>
      have tail := ih (by simpa using member)
      simp only [List.set_cons_succ,List.map_cons,List.sum_cons]
      omega

theorem Inv.apply {state : State} (inv : Inv state) {index : Nat} {task : Task}
    (member : state.tasks[index]? = some task)
    {move : Move} (sound : move.Sound state task) : Inv (state.apply index move) := by
  have grows : state.log ⊆ state.log ++ move.added := List.subset_append_left _ _
  constructor
  · exact inv.chain.append sound.follows
  · exact inv.balanced.append sound.balanced
  · intro event present
    rcases List.mem_append.mp present with old | new
    · exact (inv.numbered event old).mono sound.counters.1 sound.counters.2.1 sound.counters.2.2
    · exact sound.numbered event new
  · intro other present
    rcases List.mem_append.mp present with old | new
    · rcases List.mem_or_eq_of_mem_set old with kept | rfl
      · exact (inv.tasks other kept).mono grows
      · exact sound.fits
    · exact (sound.spawned other new).1
  · exact sound.hooks
  · intro root
    have before := inv.accounts root
    have change := sound.accounts root
    have children : (move.spawned.map (Task.opens root)).sum = 0 := by
      apply List.sum_eq_zero
      intro count present
      obtain ⟨child,spawned,rfl⟩ := List.mem_map.mp present
      simp [Task.opens,(sound.spawned child spawned).2]
    have pool := sum_set (Task.opens root) move.task member
    simp only [State.apply,List.map_append,List.sum_append,settled,List.count_append,children] at *
    omega

def Event.calm : Event → Bool
  | .saw _ _ | .ended _ _ | .hookRan _ | .hookSent _ _ => true
  | _ => false

theorem countP_calm {added : List Event} (calm : ∀ event ∈ added, event.calm = true) (counts : Event → Bool)
    (wild : ∀ event, counts event = true → event.calm = false) : added.countP counts = 0 := by
  rw [List.countP_eq_zero]
  intro event member counted
  simpa [wild event counted] using calm event member

theorem count_calm {added : List Event} (calm : ∀ event ∈ added, event.calm = true) (event : Event)
    (wild : event.calm = false) : added.count event = 0 := by
  rw [List.count_eq_zero]
  intro member
  simpa [wild] using calm event member

theorem balanced_calm {added : List Event} (calm : ∀ event ∈ added, event.calm = true) : Balanced added := by
  intro root
  have creates := countP_calm calm (Event.creates root) fun event counted => by
    cases event <;> simp_all [Event.creates,Event.calm]
  have commits := countP_calm calm (Event.commits root) fun event counted => by
    cases event <;> simp_all [Event.commits,Event.calm]
  have rollsBack := countP_calm calm (Event.rollsBack root) fun event counted => by
    cases event <;> simp_all [Event.rollsBack,Event.calm]
  rw [creates,commits,rollsBack,count_calm calm _ rfl,count_calm calm _ rfl,count_calm calm _ rfl]
  exact ⟨rfl,rfl,rfl⟩

theorem numbered_calm {event : Event} (calm : event.calm = true) (nextCall nextRoot nextUow : Nat) :
    event.Numbered nextCall nextRoot nextUow := by
  cases event with
  | began call current => simp [Event.calm] at calm
  | started root => simp [Event.calm] at calm
  | created root uow => simp [Event.calm] at calm
  | _ => trivial

theorem settled_calm {added : List Event} (calm : ∀ event ∈ added, event.calm = true) (root : Nat) :
    settled root added = 0 := by
  rw [settled,count_calm calm _ rfl,count_calm calm _ rfl]

theorem calm_sound {state : State} {task moved : Task} {spawned : List Task} {added : List Event}
    {hooks : Nat → List (Nat × Code)} (calm : ∀ event ∈ added, event.calm = true)
    (follows : Follows Event.Justified state.log added)
    (fits : moved.Fits state.log) (children : ∀ child ∈ spawned, child.Fits state.log ∧ child.stack = [])
    (waiting : ∀ uow, ∀ hook ∈ hooks uow, .created hook.1 uow ∈ state.log)
    (opens : ∀ root, moved.opens root = task.opens root) :
    Move.Sound state task ⟨moved,spawned,added,hooks,state.nextCall,state.nextRoot,state.nextUow⟩ := by
  have grows : state.log ⊆ state.log ++ added := List.subset_append_left _ _
  constructor
  · exact follows
  · exact balanced_calm calm
  · exact fun event member => numbered_calm (calm event member) _ _ _
  · exact ⟨le_rfl,le_rfl,le_rfl⟩
  · exact fits.mono grows
  · exact fun child member => ⟨(children child member).1.mono grows,(children child member).2⟩
  · exact fun uow hook member => grows (waiting uow hook member)
  · intro root
    rw [settled_calm calm,count_calm calm _ rfl,opens]

theorem sees_calm (current : Option Nat) (origin : Origin) : ∀ event ∈ sees current origin, event.calm = true := by
  cases origin <;> simp [sees,Event.calm]

theorem sees_follows {log : List Event} {current : Option Nat} {origin : Origin}
    (fits : Origin.Fits log current origin) :
    Follows Event.Justified log (sees current origin) := by
  cases origin with
  | tree root => exact ⟨fits,trivial⟩
  | outside => trivial
  | hook root uow => trivial

theorem target_created {log : List Event} {current : Option Nat} {origin : Origin} {root uow : Nat}
    (fits : Origin.Fits log current origin) (found : target current origin = some (root,uow)) :
    .created root uow ∈ log := by
  cases origin with
  | outside => simp [target] at found
  | tree owner =>
    obtain ⟨current,created,rfl⟩ := fits
    simp only [target,Option.map_some,Option.some.injEq,Prod.mk.injEq] at found
    obtain ⟨rfl,rfl⟩ := found
    exact created
  | hook owner registered =>
    simp only [target,Option.some.injEq,Prod.mk.injEq] at found
    obtain ⟨rfl,rfl⟩ := found
    exact fits.2

variable {state : State} {task : Task}

theorem runCode_sound (inv : Inv state) {origin : Origin} (fits : Origin.Fits state.log task.current origin)
    (stack : StackFits state.log task.current task.stack) (code : Code) :
    (runCode state task origin code).Sound state task := by
  have calm := sees_calm task.current origin
  have follows := sees_follows fits
  cases code with
  | returns events => exact calm_sound calm follows ⟨trivial,stack⟩ (by simp) inv.hooks fun _ => rfl
  | raises => exact calm_sound calm follows ⟨trivial,stack⟩ (by simp) inv.hooks fun _ => rfl
  | send command returned raised =>
    exact calm_sound calm follows ⟨fits,fits,stack⟩ (by simp) inv.hooks fun _ => rfl
  | onCommit hook rest =>
    simp only [runCode]
    split
    next => exact calm_sound calm follows ⟨fits,stack⟩ (by simp) inv.hooks fun _ => rfl
    next root uow found =>
      refine calm_sound calm follows ⟨fits,stack⟩ (fun _ none => absurd none List.not_mem_nil) ?_ fun _ => rfl
      intro other waiting member
      by_cases same : other = uow
      · subst same
        rw [Function.update_self] at member
        rcases List.mem_append.mp member with old | new
        · exact inv.hooks other waiting old
        · obtain rfl := List.mem_singleton.mp new
          exact target_created fits found
      · rw [Function.update_of_ne same] at member
        exact inv.hooks other waiting member

theorem Inv.newCall (inv : Inv state) (current : Option Nat) : .began state.nextCall current ∉ state.log :=
  fun member => (inv.numbered _ member).false

theorem sendNested_sound (inv : Inv state) {root : Nat} (fits : Origin.Fits state.log task.current (.tree root))
    (stack : StackFits state.log task.current task.stack) (command : Command) :
    (send state task (.tree root) command).Sound state task := by
  obtain ⟨uow,created,current⟩ := fits
  have grows : ∀ added, state.log ⊆ state.log ++ added := fun added => List.subset_append_left _ _
  have equation : send state task (.tree root) command =
      ⟨⟨some uow,.dispatchCommand root command,.call state.nextCall::task.stack⟩,[],
        [.began state.nextCall task.current],state.onCommitHooks,state.nextCall+1,state.nextRoot+1,
        state.nextUow⟩ := by
    simp [send,current]
  rw [equation]
  refine ⟨⟨inv.newCall,trivial⟩,?_,?_,⟨Nat.le_succ _,Nat.le_succ _,le_rfl⟩,?_,by simp,?_,fun _ => rfl⟩
  · exact fun _ => ⟨rfl,rfl,rfl⟩
  · simp [Event.Numbered]
  · refine ⟨⟨uow,grows _ created,rfl⟩,?_,?_⟩
    · simp [Frame.Fits,current]
    · exact current ▸ stack.mono (grows _)
  · exact fun uow waiting member => grows _ (inv.hooks uow waiting member)

def openingRoot (state : State) : List Event :=
  [.began state.nextCall none,.started state.nextRoot,.created state.nextRoot state.nextUow]

theorem send_opens (inv : Inv state) {origin : Origin} (fits : Origin.Fits state.log task.current origin)
    (outer : ∀ root, origin ≠ .tree root) (command : Command) :
    task.current = none ∧ ∃ sent : List Event, (∀ event ∈ sent, event.calm = true) ∧
      Follows Event.Justified (state.log ++ openingRoot state) sent ∧ send state task origin command =
        ⟨⟨some state.nextUow,.dispatchCommand state.nextRoot command,
          .scope state.nextRoot state.nextUow none::.call state.nextCall::task.stack⟩,[],openingRoot state ++ sent,
          state.onCommitHooks,state.nextCall+1,state.nextRoot+1,state.nextUow+1⟩ := by
  cases origin with
  | tree root => exact absurd rfl (outer root)
  | outside =>
    have free : task.current = none := fits
    exact ⟨free,[],by simp,trivial,by simp [send,free,openingRoot]⟩
  | hook root uow =>
    have older := (inv.numbered _ fits.2).1
    refine ⟨fits.1,[.hookSent root state.nextRoot],by simp [Event.calm],⟨⟨older.ne',state.nextUow,?_⟩,trivial⟩,?_⟩
    · simp [openingRoot]
    · simp [send,fits.1,openingRoot]

theorem sendRoot_sound (inv : Inv state) {origin : Origin} (fits : Origin.Fits state.log task.current origin)
    (outer : ∀ root, origin ≠ .tree root) (stack : StackFits state.log task.current task.stack)
    (command : Command) : (send state task origin command).Sound state task := by
  obtain ⟨free,sent,calm,justified,equation⟩ := send_opens inv fits outer command
  rw [equation]
  have grows : ∀ added, state.log ⊆ state.log ++ added := fun added => List.subset_append_left _ _
  have newRoot : .started state.nextRoot ∉ state.log := fun member => (inv.numbered _ member).false
  have newUow : ∀ other, .created other state.nextUow ∉ state.log := fun other member =>
    (inv.numbered _ member).2.false
  have follows : Follows Event.Justified state.log (openingRoot state) :=
    ⟨inv.newCall,by simpa [Event.Justified] using newRoot,by simpa [Event.Justified] using newUow,trivial⟩
  have balanced : Balanced (openingRoot state) := by
    intro root
    simp [openingRoot,List.countP_cons,Event.creates,Event.commits,Event.rollsBack,List.count_cons]
  refine ⟨follows.append justified,balanced.append (balanced_calm calm),?_,
    ⟨Nat.le_succ _,Nat.le_succ _,Nat.le_succ _⟩,?_,by simp,?_,?_⟩
  · intro event member
    rcases List.mem_append.mp member with first | last
    · simp only [openingRoot,List.mem_cons,List.not_mem_nil,or_false] at first
      rcases first with rfl | rfl | rfl <;> simp [Event.Numbered]
    · exact numbered_calm (calm event last) _ _ _
  · refine ⟨⟨state.nextUow,by simp [openingRoot],rfl⟩,⟨by simp [openingRoot],rfl,rfl⟩,?_,?_⟩
    · simp [Frame.Fits,Frame.below,openingRoot]
    · exact free ▸ stack.mono (grows _)
  · exact fun uow waiting member => grows _ (inv.hooks uow waiting member)
  · intro root
    have quiet := settled_calm calm root
    have unstarted := count_calm calm (.started root) rfl
    simp only [settled] at quiet
    simp [openingRoot,Task.opens,Frame.opens,settled,List.countP_cons,List.count_cons,unstarted]
    omega

theorem send_sound (inv : Inv state) {origin : Origin} (fits : Origin.Fits state.log task.current origin)
    (stack : StackFits state.log task.current task.stack) (command : Command) :
    (send state task origin command).Sound state task := by
  -- A nested command finds the unit of work of its root; any other finds none, and opens one.
  cases origin with
  | tree root => exact sendNested_sound inv fits stack command
  | outside => exact sendRoot_sound inv fits (by simp) stack command
  | hook root uow => exact sendRoot_sound inv fits (by simp) stack command

theorem move_sound (inv : Inv state) {moved : Task} (fits : moved.Fits state.log)
    (opens : ∀ root, moved.opens root = task.opens root) : (state.move moved []).Sound state task :=
  calm_sound (by simp) trivial fits (by simp) inv.hooks opens

theorem dispatchCommand_sound (inv : Inv state) {root : Nat} (knows : Knows state.log root task.current)
    (stack : StackFits state.log task.current task.stack) (command : Command) :
    (dispatchCommand state task root command).Sound state task := by
  obtain ⟨handled,middlewares,handler⟩ := command
  simp only [dispatchCommand]
  split
  next => exact move_sound inv ⟨knows,knows,stack⟩ fun _ => rfl
  next => exact move_sound inv ⟨trivial,stack⟩ fun _ => rfl

theorem pipeline_sound (inv : Inv state) {root : Nat} (knows : Knows state.log root task.current)
    (stack : StackFits state.log task.current task.stack) (handler : Code) (middlewares : List Middleware) :
    (pipeline state task root handler middlewares).Sound state task := by
  cases middlewares with
  | nil => exact move_sound inv ⟨knows,stack⟩ fun _ => rfl
  | cons middleware rest =>
    obtain ⟨before,after,recover⟩ := middleware
    exact move_sound inv ⟨knows,knows,stack⟩ fun _ => rfl

theorem dispatch_sound (inv : Inv state) {root : Nat} (knows : Knows state.log root task.current)
    (stack : StackFits state.log task.current task.stack) (events : List (List Code)) :
    (dispatch state task root events).Sound state task := by
  cases events with
  | nil => exact move_sound inv ⟨trivial,stack⟩ fun _ => rfl
  | cons handlers rest =>
    have silent : ∀ event ∈ ([] : List Event), event.calm = true := by simp
    refine calm_sound silent trivial ⟨knows,knows,stack⟩ ?_ inv.hooks fun _ => rfl
    intro child member
    obtain ⟨handler,_,rfl⟩ := List.mem_map.mp member
    exact ⟨⟨knows,trivial⟩,rfl⟩

theorem gather_sound (inv : Inv state) (fits : task.Fits state.log) (children : List Nat) :
    (gather state task children).Sound state task := by
  simp only [gather]
  split
  next => exact move_sound inv ⟨trivial,fits.stack⟩ fun _ => rfl
  next =>
    split
    next => exact move_sound inv ⟨trivial,fits.stack⟩ fun _ => rfl
    next => exact move_sound inv fits fun _ => rfl

theorem triggerCommitHooks_sound (inv : Inv state) {root uow : Nat}
    (draining : Draining state.log task.current root uow)
    (stack : StackFits state.log task.current task.stack) :
    (triggerCommitHooks state task root uow).Sound state task := by
  simp only [triggerCommitHooks]
  split
  next => exact move_sound inv ⟨trivial,stack⟩ fun _ => rfl
  next owner hook rest queue =>
    have registered := inv.hooks uow (owner,hook) (by simp [queue])
    obtain rfl : root = owner := created_unique inv.chain draining.2.1 registered
    have calm : ∀ event ∈ [Event.hookRan root], event.calm = true := by simp [Event.calm]
    refine calm_sound calm ⟨⟨uow,draining.2.2⟩,trivial⟩
      ⟨⟨draining.1,registered⟩,draining,stack⟩ (fun _ none => absurd none List.not_mem_nil) ?_ fun _ => rfl
    intro other waiting member
    by_cases same : other = uow
    · subst same
      rw [Function.update_self] at member
      exact inv.hooks other waiting (by simp [queue,member])
    · rw [Function.update_of_ne same] at member
      exact inv.hooks other waiting member

theorem leaveScope_sound (inv : Inv state) {root uow : Nat} {token : Option Nat} {rest : List Frame}
    (frames : task.stack = .scope root uow token::rest) (stack : StackFits state.log task.current task.stack)
    (succeeds : Bool) (result : Option (List (List Code))) : (leave state task succeeds result).Sound state task := by
  -- Leaving the scope of a root settles it; the context variable is free again.
  rw [frames] at stack
  obtain ⟨⟨created,_,free⟩,below⟩ := stack
  have grows : ∀ added, state.log ⊆ state.log ++ added := fun added => List.subset_append_left _ _
  have waiting : ∀ added uow, ∀ hook ∈ state.onCommitHooks uow, .created hook.1 uow ∈ state.log ++ added :=
    fun added uow hook member => grows added (inv.hooks uow hook member)
  simp only [leave,frames]
  split
  next =>
    refine ⟨⟨trivial,by simp [Event.Justified,created],trivial⟩,?_,by simp [State.move,Event.Numbered],
      ⟨le_rfl,le_rfl,le_rfl⟩,⟨?_,below.mono (grows _)⟩,by simp [State.move],waiting _,?_⟩
    · intro root
      simp [State.move,List.countP_cons,Event.creates,Event.commits,Event.rollsBack,List.count_cons]
    · simp only [State.move]
      split
      next succeeded => exact ⟨free,by simp [created],by simp [succeeded]⟩
      next => trivial
    · intro other
      simp [State.move,Task.opens,frames,Frame.opens,settled,List.countP_cons,List.count_cons]
  next =>
    refine ⟨⟨trivial,by simp [Event.Justified,created],trivial⟩,?_,by simp [State.move,Event.Numbered],
      ⟨le_rfl,le_rfl,le_rfl⟩,⟨trivial,below.mono (grows _)⟩,by simp [State.move],waiting _,?_⟩
    · intro root
      simp [State.move,List.countP_cons,Event.creates,Event.commits,Event.rollsBack,List.count_cons]
    · intro other
      simp [State.move,Task.opens,frames,Frame.opens,settled,List.countP_cons,List.count_cons]

theorem leave_sound (inv : Inv state) (stack : StackFits state.log task.current task.stack) (succeeds : Bool)
    (result : Option (List (List Code))) : (leave state task succeeds result).Sound state task := by
  have opens : ∀ {frame : Frame} {rest : List Frame} (_ : task.stack = frame::rest)
      (_ : ∀ root, frame.opens root = false)
      (current : Option Nat) (control : Control) root, (Task.mk current control rest).opens root = task.opens root := by
    intro frame rest frames closed current control root
    simp [Task.opens,frames,closed]
  cases frames : task.stack with
  | nil =>
    simp only [leave,frames]
    exact move_sound inv ⟨trivial,trivial⟩ fun _ => by simp [Task.opens,frames]
  | cons frame rest =>
    cases frame with
    | scope root uow token => exact leaveScope_sound inv frames stack succeeds result
    | call number =>
      rw [frames] at stack
      simp only [leave,frames]
      exact calm_sound (by simp [Event.calm]) ⟨stack.1,trivial⟩ ⟨trivial,stack.2⟩ (by simp)
        inv.hooks (opens frames (fun _ => rfl) _ _)
    | resume origin returned raised =>
      rw [frames] at stack
      simp only [leave,frames]
      exact move_sound inv ⟨stack.1,stack.2⟩ (opens frames (fun _ => rfl) _ _)
    | before root after recover middlewares handler =>
      rw [frames] at stack
      simp only [leave,frames]
      split
      next => exact move_sound inv ⟨stack.1,stack.1,stack.2⟩ fun _ => by simp [Task.opens,frames,Frame.opens]
      next => exact move_sound inv ⟨trivial,stack.2⟩ (opens frames (fun _ => rfl) _ _)
    | around root after recover =>
      rw [frames] at stack
      simp only [leave,frames]
      exact move_sound inv ⟨stack.1,stack.2⟩ (opens frames (fun _ => rfl) _ _)
    | response root =>
      rw [frames] at stack
      simp only [leave,frames]
      split
      next => exact move_sound inv ⟨stack.1,stack.2⟩ (opens frames (fun _ => rfl) _ _)
      next => exact move_sound inv ⟨trivial,stack.2⟩ (opens frames (fun _ => rfl) _ _)
    | events root events =>
      rw [frames] at stack
      simp only [leave,frames]
      split
      next => exact move_sound inv ⟨stack.1,stack.2⟩ (opens frames (fun _ => rfl) _ _)
      next => exact move_sound inv ⟨trivial,stack.2⟩ (opens frames (fun _ => rfl) _ _)
    | drain root uow =>
      rw [frames] at stack
      simp only [leave,frames]
      exact move_sound inv ⟨stack.1,stack.2⟩ (opens frames (fun _ => rfl) _ _)

theorem advance_sound (inv : Inv state) (fits : task.Fits state.log) (succeeds : Bool) :
    (advance state task succeeds).Sound state task := by
  obtain ⟨control,stack⟩ := fits
  simp only [advance]
  cases kind : task.control with
  | run origin code => exact runCode_sound inv (kind ▸ control :) stack code
  | send origin command => exact send_sound inv (kind ▸ control :) stack command
  | dispatchCommand root command => exact dispatchCommand_sound inv (kind ▸ control :) stack command
  | pipeline root middlewares handler => exact pipeline_sound inv (kind ▸ control :) stack handler middlewares
  | dispatch root events => exact dispatch_sound inv (kind ▸ control :) stack events
  | gather root children => exact gather_sound inv ⟨control,stack⟩ children
  | triggerCommitHooks root uow => exact triggerCommitHooks_sound inv (kind ▸ control :) stack
  | leave result => exact leave_sound inv stack succeeds result
  | finished raised => exact move_sound inv ⟨control,stack⟩ fun _ => rfl

theorem step_inv {state : State} (inv : Inv state) (choice : Nat × Bool) : Inv (step state choice) := by
  simp only [step]
  split
  next => exact inv
  next task member =>
    exact inv.apply member (advance_sound inv (inv.tasks task (List.mem_of_getElem? member)) choice.2)

theorem start_inv (callers : List Code) : Inv (start callers) := by
  refine ⟨Chain.nil,fun _ => ⟨rfl,rfl,rfl⟩,by simp [start],?_,by simp [start],?_⟩
  · intro task member
    obtain ⟨code,_,rfl⟩ := List.mem_map.mp member
    exact ⟨rfl,trivial⟩
  · intro root
    have idle : ((start callers).tasks.map (Task.opens root)).sum = 0 := by
      apply List.sum_eq_zero
      intro count present
      obtain ⟨task,member,rfl⟩ := List.mem_map.mp present
      obtain ⟨code,_,rfl⟩ := List.mem_map.mp member
      rfl
    rw [idle]
    rfl

/-- What is known of a call: below the open scope of a root it began the root, and below none, without a unit of work in
its context, it has settled its root. -/
def Frame.Sends (log : List Event) (opened current : Option Nat) : Frame → Prop
  | .call number =>
    match opened with
    | some root => [Event.began number none,.started root] <:+: log
    | none => current = none → Settled log number
  | _ => True

def Frame.opened : Frame → Option Nat
  | .scope root _ _ => some root
  | _ => none

def Sends (log : List Event) : Option Nat → Option Nat → List Frame → Prop
  | _,_,[] => True
  | opened,current,frame::rest => frame.Sends log opened current ∧ Sends log frame.opened (frame.below current) rest

def Event.Ends (log : List Event) : Event → Prop
  | .ended call none => Settled log call
  | _ => True

structure Ending (state : State) : Prop where
  chain : Chain Event.Ends state.log
  sends : ∀ task ∈ state.tasks, Sends state.log none task.current task.stack

section Ending

variable {log : List Event} {call : Nat} {opened current : Option Nat} {stack rest : List Frame}

theorem Settled.append (settled : Settled log call) (added : List Event) : Settled (log ++ added) call := by
  obtain ⟨root,uow,succeeded,began,outcome⟩ := settled
  refine ⟨root,uow,succeeded,began.trans (List.prefix_append _ _).isInfix,?_⟩
  exact outcome.imp (And.imp (List.mem_append_left _) (List.mem_append_left _))
    (And.imp (List.mem_append_left _) (List.mem_append_left _))

theorem Sends.append (sends : Sends log opened current stack) (added : List Event) :
    Sends (log ++ added) opened current stack := by
  induction stack generalizing opened current with
  | nil => trivial
  | cons frame rest ih =>
    refine ⟨?_,ih sends.2⟩
    have here := sends.1
    cases frame with
    | call number =>
      cases opened with
      | some root => exact List.IsInfix.trans here (List.prefix_append _ _).isInfix
      | none => exact fun free => (here free).append added
    | _ => trivial

theorem Sends.close {root uow : Nat} {succeeded : Bool} (sends : Sends log (some root) current rest)
    (outcome : .dispatched root true ∈ log ∧ .committed root uow succeeded ∈ log ∨
      .dispatched root false ∈ log ∧ .rolledBack root uow succeeded ∈ log) : Sends log none current rest := by
  cases rest with
  | nil => trivial
  | cons frame rest =>
    refine ⟨?_,sends.2⟩
    have here := sends.1
    cases frame with
    | call number => exact fun _ => ⟨root,uow,succeeded,here,outcome⟩
    | _ => trivial

theorem follows_of_open {added : List Event} (open_ : ∀ event ∈ added, ∀ call current, event ≠ .ended call current) :
    Follows Event.Ends log added := by
  induction added generalizing log with
  | nil => trivial
  | cons event rest ih =>
    refine ⟨?_,ih fun other member => open_ other (List.mem_cons_of_mem event member)⟩
    cases event with
    | ended call current => exact absurd rfl (open_ _ List.mem_cons_self call current)
    | _ => trivial

/-- What a move owes to its task. -/
structure Move.Ending (state : State) (move : Move) : Prop where
  follows : Follows Event.Ends state.log move.added
  sends : Sends (state.log ++ move.added) none move.task.current move.task.stack

variable {state : State} {task moved : Task}

theorem move_ending {added : List Event} (open_ : ∀ event ∈ added, ∀ call current, event ≠ .ended call current)
    (sends : Sends state.log none moved.current moved.stack) : (state.move moved added).Ending state :=
  ⟨follows_of_open open_,sends.append added⟩

theorem sees_open (current : Option Nat) (origin : Origin) :
    ∀ event ∈ sees current origin, ∀ call other, event ≠ .ended call other := by
  cases origin with
  | tree root => simp [sees]
  | _ => simp [sees]

theorem opens_ending {added : List Event} (first : openingRoot state <+: added)
    (open_ : ∀ event ∈ added, ∀ call current, event ≠ .ended call current)
    (sends : Sends state.log none none stack) {move : Move} (same : move.added = added)
    (left : move.task.stack = .scope state.nextRoot state.nextUow none::.call state.nextCall::stack) :
    move.Ending state := by
  obtain ⟨sent,rfl⟩ := first
  constructor
  · rw [same]
    exact follows_of_open open_
  · rw [same,left]
    exact ⟨trivial,⟨state.log,.created state.nextRoot state.nextUow::sent,by simp [openingRoot]⟩,sends.append _⟩

theorem send_ending {origin : Origin} (fits : Origin.Fits state.log task.current origin)
    (sends : Sends state.log none task.current task.stack) (command : Command) :
    (send state task origin command).Ending state := by
  cases origin with
  | tree root =>
    obtain ⟨uow,_,own⟩ := fits
    simp only [send,own]
    refine ⟨follows_of_open (by simp),?_,?_⟩
    · exact fun free => (by cases free)
    · exact own ▸ sends.append _
  | outside =>
    have free : task.current = none := fits
    rw [free] at sends
    exact opens_ending (List.prefix_append (openingRoot state) []) (by simp [openingRoot]) sends
      (by simp [send,free,openingRoot]) (by simp [send,free])
  | hook root uow =>
    have free := fits.1
    rw [free] at sends
    exact opens_ending (List.prefix_append (openingRoot state) [.hookSent root state.nextRoot]) (by simp [openingRoot]) sends
      (by simp [send,free,openingRoot]) (by simp [send,free])

theorem leave_ending (sends : Sends state.log none task.current task.stack) (succeeds : Bool)
    (result : Option (List (List Code))) : (leave state task succeeds result).Ending state := by
  unfold leave
  split
  next => exact move_ending (by simp) trivial
  next number rest frames =>
    rw [frames] at sends
    obtain ⟨here,below⟩ := sends
    refine ⟨⟨?_,trivial⟩,below.append _⟩
    cases free : task.current with
    | none => exact here free
    | some uow => trivial
  next origin returned raised rest frames =>
    rw [frames] at sends
    exact move_ending (by simp) sends.2
  next root after recover middlewares handler rest frames =>
    rw [frames] at sends
    split
    next => exact move_ending (by simp) ⟨trivial,sends.2⟩
    next => exact move_ending (by simp) sends.2
  next root after recover rest frames =>
    rw [frames] at sends
    exact move_ending (by simp) sends.2
  next root rest frames =>
    rw [frames] at sends
    split
    next => exact move_ending (by simp) sends.2
    next => exact move_ending (by simp) sends.2
  next root events rest frames =>
    rw [frames] at sends
    split
    next => exact move_ending (by simp) sends.2
    next => exact move_ending (by simp) sends.2
  next root uow token rest frames =>
    rw [frames] at sends
    split
    next =>
      refine ⟨follows_of_open (by simp [State.move]),?_⟩
      exact (sends.2.append _).close (.inl ⟨by simp [State.move],List.mem_append_right _ (.tail _ (.head _))⟩)
    next =>
      refine ⟨follows_of_open (by simp [State.move]),?_⟩
      exact (sends.2.append _).close (.inr ⟨by simp [State.move],List.mem_append_right _ (.tail _ (.head _))⟩)
  next root uow rest frames =>
    rw [frames] at sends
    exact move_ending (by simp) sends.2

theorem advance_ending (fits : task.Fits state.log) (sends : Sends state.log none task.current task.stack)
    (succeeds : Bool) : (advance state task succeeds).Ending state := by
  have control := fits.control
  unfold advance
  split
  next origin code kind =>
    have quiet := sees_open task.current origin
    cases code with
    | returns events => exact move_ending quiet sends
    | raises => exact move_ending quiet sends
    | onCommit hook rest =>
      unfold runCode
      dsimp only
      split
      next => exact move_ending quiet sends
      next root uow _ => exact ⟨follows_of_open quiet,sends.append _⟩
    | send command returned raised => exact move_ending quiet ⟨trivial,sends⟩
  next origin command kind =>
    rw [kind] at control
    exact send_ending control sends command
  next root command kind =>
    obtain ⟨handled,middlewares,handler⟩ := command
    cases handled with
    | true => exact move_ending (by simp) ⟨trivial,sends⟩
    | false => exact move_ending (by simp) sends
  next root middlewares handler kind =>
    unfold pipeline
    split
    next => exact move_ending (by simp) sends
    next => exact move_ending (by simp) ⟨trivial,sends⟩
  next root events kind =>
    unfold dispatch
    split
    next => exact move_ending (by simp) sends
    next => exact ⟨trivial,trivial,sends.append _⟩
  next children kind =>
    unfold gather
    split
    next => exact move_ending (by simp) sends
    next =>
      split
      next => exact move_ending (by simp) sends
      next => exact move_ending (by simp) sends
  next root uow kind =>
    unfold triggerCommitHooks
    split
    next => exact move_ending (by simp) sends
    next => exact ⟨follows_of_open (by simp [State.move]),trivial,sends.append _⟩
  next result kind => exact leave_ending sends succeeds result
  next => exact move_ending (by simp) sends

theorem step_ending (inv : Inv state) (ending : Ending state) (choice : Nat × Bool) : Ending (step state choice) := by
  simp only [step]
  split
  next => exact ending
  next task member =>
    have inside := List.mem_of_getElem? member
    have fits := inv.tasks task inside
    have moved := advance_ending fits (ending.sends task inside) choice.2
    refine ⟨ending.chain.append moved.follows,fun other present => ?_⟩
    rcases List.mem_append.mp present with old | new
    · rcases List.mem_or_eq_of_mem_set old with kept | rfl
      · exact (ending.sends other kept).append _
      · exact moved.sends
    · rw [((advance_sound inv fits choice.2).spawned other new).2]
      trivial

theorem start_ending (callers : List Code) : Ending (start callers) := by
  refine ⟨Chain.nil,fun task member => ?_⟩
  obtain ⟨code,_,rfl⟩ := List.mem_map.mp member
  trivial

end Ending

theorem Inv.oneTransaction {state : State} (inv : Inv state) (ending : Ending state) : OneTransaction state.log := by
  have startedOnce : ∀ root, state.log.count (.started root) ≤ 1 := fun root =>
    inv.chain.count_le_one fun earlier justified => justified
  constructor
  · exact fun root => ⟨(inv.balanced root).1,startedOnce root⟩
  · exact fun root other uow first second => created_unique inv.chain first second
  · intro root current present
    obtain ⟨earlier,knows,grows⟩ := inv.chain.mem present
    exact Knows.mono grows knows
  · exact fun root => (inv.balanced root).2.1
  · exact fun root => (inv.balanced root).2.2
  · intro root
    have accounts := inv.accounts root
    have once := startedOnce root
    simp only [settled] at accounts
    omega
  · intro root uow succeeded settled
    rcases settled with present | present
    · obtain ⟨earlier,created,grows⟩ := inv.chain.mem present
      exact grows created
    · obtain ⟨earlier,created,grows⟩ := inv.chain.mem present
      exact grows created
  · exact fun earlier root later split => inv.chain earlier _ later split
  · intro root sent present
    obtain ⟨earlier,⟨differs,uow,created⟩,grows⟩ := inv.chain.mem present
    exact ⟨uow,grows created,fun other => differs (created_unique inv.chain (grows created) other)⟩
  · intro call before after began ended
    obtain ⟨earlier,justified,grows⟩ := inv.chain.mem ended
    exact began_unique inv.chain began (grows justified)
  · exact fun earlier call later split => ending.chain earlier _ later split

/-- However the callers, the handlers and the hooks are scheduled, there is one
transaction for each root command. -/
theorem run_oneTransaction (callers : List Code) (schedule : List (Nat × Bool)) :
    OneTransaction (run callers schedule).log := by
  have meets := Transition.meets_of_forall step (fun _ _ => True) (fun _ _ => trivial) (start callers) schedule
  have both := Transition.run_invariant (fun state => Inv state ∧ Ending state)
    (fun _ choice kept _ => ⟨step_inv kept.1 choice,step_ending kept.1 kept.2 choice⟩) _ schedule
    ⟨start_inv callers,start_ending callers⟩ meets
  exact both.1.oneTransaction both.2

def notifyAudit : Code := .send ⟨true,[],.returns []⟩ (.returns []) .raises

def placeOrder : Command := ⟨true,[],.onCommit notifyAudit (.returns [[.returns []]])⟩

/-- The hook of the first command sends the second one, whose transaction is settled before the first call ends. -/
theorem run_oneTransaction_placeOrder :
    OneTransaction (run [.send placeOrder (.returns []) .raises] (List.replicate 30 [(0,true),(1,true)]).flatten).log ∧
    (run [.send placeOrder (.returns []) .raises] (List.replicate 30 [(0,true),(1,true)]).flatten).log =
      [.began 0 none,.started 0,.created 0 0,.saw 0 (some 0),.saw 0 (some 0),.saw 0 (some 0),.dispatched 0 true,
        .committed 0 0 true,.hookRan 0,.began 1 none,.started 1,.created 1 1,.hookSent 0 1,.saw 1 (some 1),
        .dispatched 1 true,.committed 1 1 true,.ended 1 none,.ended 0 none] :=
  ⟨run_oneTransaction _ _,by decide +kernel⟩

end CqrsDdd.Transactions.Mediator
