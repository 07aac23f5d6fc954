import LoadScenario.Prog
import LoadScenario.Clock
import LoadScenario.Random.Uniform

/-!
# Running tasks on a virtual clock

A run is a main program and the tasks it starts, all taking turns on one
thread. Time is virtual: it starts at `0` and only moves when no task can go
on, and then it jumps to the earliest timer. Timers fire on whole
milliseconds.

The turns follow a fixed discipline:

* the main program goes first whenever it was woken;
* then ready tasks run in the order they became ready, at most 61 of them
  before the main program and the timers get another look;
* a task that yields is put aside and becomes ready again, after the others,
  when the ready tasks run out or the 61 turns are over; tasks put aside are
  woken latest first;
* when nothing is ready the clock jumps to the next timer; the tasks whose
  timers fire at the same millisecond are woken in the order the timers were
  set;
* raising the stop signal wakes every task waiting on it at once;
* when nothing is ready and no timer will fire, the run is stuck: a watch
  outside the run, if it has one, then raises the stop signal;
* a task passes at most 128 due timers in a turn; at the next one it yields.

Requests that need no waiting (the time, the stop signal, a draw, a record,
a shared counter, a log line, starting a task) are answered in place, so a
task runs without interruption until it waits, yields or ends.
-/

namespace LoadScenario

/-- A timer: the millisecond it fires at, its registration number, and the
task it wakes, `none` for the main program. -/
structure Timer where
  tick : Nat
  seq : Nat
  owner : Option Nat

/-- What a started task is doing. -/
inductive TaskState where
  | ready (p : Prog (Option Outcome))
  | sleeping (raced : Bool) (k : Bool → Prog (Option Outcome))
  | running
  | finished (result : Option Outcome)
  | panicked (message : String)
  | exhausted

/-- A started task: whose events it writes (a user's id, or none for the run
itself), its generator, and what it is doing. -/
structure Task where
  origin : Option Nat
  rng : Random.ChaCha
  state : TaskState

/-- The outcome of a task once it has ended, none for a task that panicked or
ran out of steps. -/
def Task.result? (t : Task) : Option (Option Outcome) :=
  match t.state with
  | .finished r => some r
  | .panicked _ | .exhausted => some none
  | _ => none

/-- What the main program is doing. -/
inductive MainState (β : Type) where
  | ready (p : Prog β)
  | sleeping (raced : Bool) (k : Bool → Prog β)
  | joining (k : List (Option Outcome) → Prog β)
  | running

/-- What all tasks share: the clock, the stop signal, the record sources, the
shared counters and journals, and the events so far with who wrote them. -/
structure World where
  now : Nat := 0
  stop : StopSignal := {}
  sources : List (String × RecordSource) := []
  tallies : List (String × Nat) := []
  journals : List (String × List Nat) := []
  events : Array (Option Nat × Event) := #[]

namespace World

/-- The next record of a source. -/
def pull (w : World) (name : String) : Except FeederError Record × World :=
  match Fields.get? w.sources name with
  | none => (.error (.exhausted name), w)
  | some src =>
    match src.next with
    | .ok (r, src') => (.ok r, { w with sources := Fields.insert w.sources name src' })
    | .error e => (.error e, w)

/-- Adds one to a shared counter, answering its new value. -/
def bump (w : World) (key : String) : Nat × World :=
  let n := (Fields.get? w.tallies key).getD 0 + 1
  (n, { w with tallies := Fields.insert w.tallies key n })

/-- Adds a time to a shared journal. -/
def note (w : World) (key : String) (t : Nat) : World :=
  { w with journals := Fields.insert w.journals key ((Fields.get? w.journals key).getD [] ++ [t]) }

end World

/-- How a task stopped taking its turn. -/
inductive Suspension (α : Type) where
  | finished (a : α)
  | panicked (message : String)
  | exhausted
  | yielded (k : Prog α)
  | sleeping (raced : Bool) (k : Bool → Prog α)
  | joining (k : List (Option Outcome) → Prog α)

/-- How a run ended. -/
inductive Ending (β : Type) where
  | finished (b : β)
  | panicked (message : String)
  | exhausted
  | deadlocked

/-- The state of a run whose main program ends with a `β`. -/
structure Sched (β : Type) where
  world : World
  spawner : Spawn → Task
  tasks : Array Task := #[]
  /-- Ready tasks, the next one first. -/
  queue : List Nat := []
  /-- Tasks that yielded, the latest first. -/
  deferred : List Nat := []
  mainDeferred : Bool := false
  timers : List Timer := []
  seq : Nat := 0
  main : MainState β
  mainWoken : Bool := true
  mainOrigin : Option Nat
  mainRng : Random.ChaCha
  /-- The started users, in the order they were started. -/
  users : List Nat := []
  exhausted : Bool := false
  /-- The stop reason a watch outside the run raises once the run can no
  longer go on by itself, if the run has such a watch. -/
  watch : Option StopReason := none

namespace Sched

variable {β : Type}

/-- The task with that number, with its state changed. -/
def setState (st : Sched β) (id : Nat) (s : TaskState) : Sched β :=
  { st with tasks := st.tasks.modify id fun t => { t with state := s } }

/-- Registers a timer for a deadline; one that never fires is not kept. -/
def addTimer (st : Sched β) (deadline : Nat) (owner : Option Nat) : Sched β :=
  match Clock.tick? deadline with
  | some tick => { st with timers := st.timers ++ [⟨tick, st.seq, owner⟩], seq := st.seq + 1 }
  | none => st

/-- Drops the timers of a task. -/
def dropTimers (st : Sched β) (owner : Option Nat) : Sched β :=
  { st with timers := st.timers.filter fun t => t.owner != owner }

/-- Makes a task ready to continue with `p`, after the tasks already ready. -/
def enqueue (st : Sched β) (id : Nat) (p : Prog (Option Outcome)) : Sched β :=
  { st.setState id (.ready p) with queue := st.queue ++ [id] }

/-- Wakes a waiting task or main program, telling it whether its time came. -/
def wake (st : Sched β) (owner : Option Nat) (timeCame : Bool) : Sched β :=
  match owner with
  | none =>
    match st.main with
    | .sleeping _ k => { st with main := .ready (k timeCame), mainWoken := true }
    | _ => st
  | some id =>
    match st.tasks[id]? with
    | some ⟨_, _, .sleeping _ k⟩ => st.enqueue id (k timeCame)
    | _ => st

/-- Whether a task or the main program waits on the stop signal. -/
def racesStop (st : Sched β) (owner : Option Nat) : Bool :=
  match owner with
  | none => match st.main with
    | .sleeping raced _ => raced
    | _ => false
  | some id => match st.tasks[id]? with
    | some ⟨_, _, .sleeping raced _⟩ => raced
    | _ => false

/-- Wakes everything waiting on the stop signal: the main program, then the
tasks in the order they were started. -/
def wakeStopWaiters (st : Sched β) : Sched β :=
  let owners := none :: (List.range st.tasks.size).map some
  owners.foldl (fun st o => if st.racesStop o then (st.dropTimers o).wake o false else st) st

/-- Raises the stop signal, waking everything waiting on it if it was not
raised before; answers whether it was not. -/
def raise (st : Sched β) (r : StopReason) : Bool × Sched β :=
  let (first, sig) := st.world.stop.raise r
  let st := { st with world := { st.world with stop := sig } }
  (first, if first then st.wakeStopWaiters else st)

/-- Starts a task: it becomes ready after the tasks already ready. -/
def spawn (st : Sched β) (t : Spawn) : Sched β :=
  let id := st.tasks.size
  let task := st.spawner t
  let st := { st with tasks := st.tasks.push { task with state := .running } }
  let st := match task.state with
    | .ready p => st.enqueue id p
    | s => st.setState id s
  match t with
  | .user _ => { st with users := st.users ++ [id] }
  | .watchdog _ => st

/-- The outcomes of the started users once all have ended. -/
def userOutcomes? (st : Sched β) : Option (List (Option Outcome)) :=
  st.users.mapM fun id => (st.tasks[id]?).bind Task.result?

/-- How many timers a task may find due in one turn. Once they are spent, the
next due timer makes the task yield instead, so that one task cannot keep the
others from running by sleeping for no time over and over. -/
def turnBudget : Nat := 128

/-- Runs a program until it waits, yields or ends, answering every request
that needs no waiting in place. `who` is the task running it (none for the
main program), `origin` whose events it writes, and `budget` how many more due
timers it may pass this turn.

A timer that is due spends a unit of the budget, and so does a timer that woke
the task: on waking, the task looks at its timer again, finds it due and
spends the unit then. A due timer with no budget left makes the task yield, to
look at the timer again on its next turn. -/
def step {α : Type} (st : Sched β) (who origin : Option Nat) (rng : Random.ChaCha) (budget : Nat) :
    Prog α → Sched β × Random.ChaCha × Suspension α
  | .pure a => (st, rng, .finished a)
  | .now k => step st who origin rng budget (k st.world.now)
  | .sleep d k =>
    if Clock.due d st.world.now then
      match budget with
      | 0 => (st, rng, .yielded (.sleep d k))
      | b + 1 => step st who origin rng b k
    else (st.addTimer d who, rng, .sleeping false fun _ => .sleep d k)
  | .sleepOrStop d k =>
    if st.world.stop.isStopped then step st who origin rng budget (k false)
    else if Clock.due d st.world.now then
      match budget with
      | 0 => (st, rng, .yielded (.sleepOrStop d k))
      | b + 1 => step st who origin rng b (k true)
    else
      (st.addTimer d who, rng, .sleeping true fun timeCame => if timeCame then .sleep d (k true) else k false)
  | .yield k => (st, rng, .yielded k)
  | .signal k => step st who origin rng budget (k st.world.stop.reason)
  | .stop r k =>
    let (first, st) := st.raise r
    step st who origin rng budget (k first)
  | .draw lo hi k =>
    let (x, rng) := rng.uniformFloat lo hi
    step st who origin rng budget (k x)
  | .feed src k =>
    let (r, w) := st.world.pull src
    step { st with world := w } who origin rng budget (k r)
  | .bump key k =>
    let (n, w) := st.world.bump key
    step { st with world := w } who origin rng budget (k n)
  | .note key t k => step { st with world := st.world.note key t } who origin rng budget k
  | .log e k =>
    step { st with world := { st.world with events := st.world.events.push (origin, e) } }
      who origin rng budget k
  | .panic m => (st, rng, .panicked m)
  | .spawn t k => step (st.spawn t) who origin rng budget k
  | .joinUsers k =>
    match st.userOutcomes? with
    | some os => step st who origin rng budget (k os)
    | none => (st, rng, .joining k)
  | .outOfFuel => (st, rng, .exhausted)

/-- A task ended: the main program, if it waits for the users, is woken. -/
def ended (st : Sched β) (id : Nat) (s : TaskState) : Sched β :=
  let st := st.setState id s
  match st.main with
  | .joining _ => { st with mainWoken := true }
  | _ => st

/-- Gives a ready task its turn. -/
def runTask (st : Sched β) (id : Nat) : Sched β :=
  match st.tasks[id]? with
  | some ⟨origin, rng, .ready p⟩ =>
    let st := st.setState id .running
    let (st, rng, s) := st.step (some id) origin rng turnBudget p
    let st := { st with tasks := st.tasks.modify id fun t => { t with rng := rng } }
    match s with
    | .finished r => st.ended id (.finished r)
    | .panicked m => st.ended id (.panicked m)
    | .exhausted => { st.ended id .exhausted with exhausted := true }
    | .yielded k => { st.setState id (.ready k) with deferred := id :: st.deferred }
    | .sleeping raced k => st.setState id (.sleeping raced k)
    | .joining _ => { st.ended id .exhausted with exhausted := true }
  | _ => st

/-- Gives the main program its turn: the run ends if it does. -/
def pollMain (st : Sched β) : Sum (Ending β × Sched β) (Sched β) :=
  let st := { st with mainWoken := false }
  let go (p : Prog β) : Sum (Ending β × Sched β) (Sched β) :=
    let running : Sched β := { st with main := .running }
    let (st, rng, s) := running.step none st.mainOrigin st.mainRng turnBudget p
    let st := { st with mainRng := rng }
    match s with
    | .finished b => .inl (.finished b, st)
    | .panicked m => .inl (.panicked m, st)
    | .exhausted => .inl (.exhausted, st)
    | .yielded k => .inr { st with main := .ready k, mainDeferred := true }
    | .sleeping raced k => .inr { st with main := .sleeping raced k }
    | .joining k => .inr { st with main := .joining k }
  match st.main with
  | .ready p => go p
  | .joining k =>
    match st.userOutcomes? with
    | some os => go (k os)
    | none => .inr st
  | _ => .inr st

/-- Fires the timers due by now, earliest first and, within a millisecond, in
the order they were set. -/
def fireTimers (st : Sched β) : Sched β :=
  let now := st.world.now
  let (due, rest) := st.timers.partition fun t => t.tick * Clock.nanosPerMilli ≤ now
  let st := { st with timers := rest }
  let ordered := due.mergeSort fun a b => a.tick < b.tick || (a.tick == b.tick && a.seq ≤ b.seq)
  ordered.foldl (fun st t => st.wake t.owner true) st

/-- Wakes the tasks that yielded, latest first, and the main program if it yielded. -/
def wakeDeferred (st : Sched β) : Sched β :=
  let st := st.deferred.foldl (fun st id =>
    match st.tasks[id]? with
    | some ⟨_, _, .ready _⟩ => { st with queue := st.queue ++ [id] }
    | _ => st) { st with deferred := [] }
  if st.mainDeferred then { st with mainDeferred := false, mainWoken := true } else st

/-- A look at the timers without moving the clock, then the yielded tasks. -/
def parkYield (st : Sched β) : Sched β := st.fireTimers.wakeDeferred

/-- Nothing is ready: unless the main program was woken, the clock jumps to the
earliest timer, which fires. With no timer the run cannot go on by itself. -/
def park (st : Sched β) : Option (Sched β) :=
  if st.mainWoken then some st.parkYield
  else
    match st.timers.map (·.tick) |>.min? with
    | none => none
    | some tick =>
      let st := { st with world := { st.world with now := max st.world.now (tick * Clock.nanosPerMilli) } }
      some st.parkYield

/-- Where the run is in a round: about to look at the main program, or giving
turns to ready tasks with `n` turns left before the timers get a look. -/
inductive Phase where
  | outer
  | inner (n : Nat)

/-- How many tasks take turns before the main program and the timers get a look. -/
def eventInterval : Nat := 61

/-- Runs the run for at most `fuel` turns. -/
def loop : Nat → Phase → Sched β → Ending β × Sched β
  | 0, _, st => (.exhausted, st)
  | fuel + 1, .outer, st =>
    if st.mainWoken then
      match st.pollMain with
      | .inl r => r
      | .inr st => loop fuel (.inner eventInterval) st
    else loop fuel (.inner eventInterval) st
  | fuel + 1, .inner 0, st => loop fuel .outer st.parkYield
  | fuel + 1, .inner (n + 1), st =>
    match st.queue with
    | id :: rest => loop fuel (.inner n) ({ st with queue := rest }.runTask id)
    | [] =>
      if !st.deferred.isEmpty || st.mainDeferred then loop fuel .outer st.parkYield
      else
        match st.park with
        | some st => loop fuel .outer st
        | none =>
          match st.watch with
          | some r => loop fuel .outer ({ st with watch := none }.raise r).2
          | none => (.deadlocked, st)

end Sched

/-- The outcome of a run: how the main program ended, the shared world at that
point, and whether some task ran out of steps. -/
structure RunResult (β : Type) where
  ending : Ending β
  world : World
  exhausted : Bool

/-- Runs a main program against a world, with `initial` tasks ready before it
starts, `spawner` making the tasks it starts, and `watch` the reason the stop
signal is raised for if the run gets stuck. -/
def runMain {β : Type} (fuel : Nat) (world : World) (program : Prog β) (origin : Option Nat)
    (rng : Random.ChaCha) (spawner : Spawn → Task) (initial : List Task)
    (watch : Option StopReason) : RunResult β :=
  let st : Sched β :=
    { world := world
      spawner := spawner
      main := .ready program
      mainOrigin := origin
      mainRng := rng
      tasks := initial.toArray
      queue := List.range initial.length
      watch := watch }
  let (e, st) := Sched.loop fuel .outer st
  ⟨e, st.world, st.exhausted⟩

end LoadScenario
