import Sluice.Scenario.World

/-!
# Running tasks

After every step the sweepers run whose time has come. Then the tasks that can go on do so, in the
order in which they were started, each until it ends or has to wait, and both are repeated until no
task can go on.
-/
namespace Sluice.Scenario.World

/-! ## Sweepers -/

/-- When a sweeper wakes up that falls asleep at `t` for `d`. -/
def sleepEnd (t : Instant) (d : Duration) : Instant := t.timer (Script.sleepTime d)

def runSweeper (w : World) (s : Sweeping) : World :=
  let (sweeper, cache, events) := s.sweeper.run sleepEnd w.now (w.findCache s.cache)
  let w := match cache with
    | some c => w.setCache s.cache c
    | none => w
  (w.report events).putSweeper { s with sweeper }

/-- New sweepers fall asleep. Then those run that are due, the one that is due earliest first, and
of those due together the one that fell asleep first. -/
def runSweepers (w : World) : World :=
  let sweepers := w.sweepers.map fun s => { s with sweeper := s.sweeper.lieDown sleepEnd w.now }
  let due := sweepers.filter fun s => s.sweeper.isDue w.now
  let wake := fun s : Sweeping => s.sweeper.wake.getD w.now
  (due.mergeSort fun a b => wake a ≤ wake b).foldl runSweeper { w with sweepers }

/-! ## Tasks -/

/-- A task that can go on. -/
def isReady (w : World) : Activity → Bool
  | .wait .. | .write .. | .replay .. | .dispatch .. => true
  | .waiting _ wait => (wait.poll? w.now w.link.shared).isSome
  | .writing _ writer write => (write.wait.poll? w.now (w.link.board writer.board)).isSome
  | .dispatching d =>
    match d.stage, w.service? with
    | .asking .., _ => true
    | _, some s => d.isReady s w.now
    | _, none => false
  | .endless .. => false

/-- What became of a task. -/
inductive Fate where
  | goesOn (activity : Activity)
  | ended (answer : Answer)

def afterWrite (w : World) (name : Nat) (session : Session Faulty) : Progress → World × Fate
  | .finished result =>
    ({ w with link := session.link, writers := w.writers.insert name session.writer },
      .ended (.ofCount .write result))
  | .suspended write =>
    ({ w with link := session.link }, .goesOn (.writing name session.writer write))
  | .endless => ({ w with link := session.link }, .goesOn (.endless name session.writer))

def afterDispatch (w : World) (s : Service Faulty) : Outcome Errand → World × Fate
  | .returned result => (w.setService s, .ended (.ofServed result))
  | .crashed message => (w.setService s, .ended (.crashed message))
  | .inFlight d => (w.setService s, .goesOn (.dispatching d))

/-- Does what a script asks, and tells how many bytes that freed. -/
def runErrand (w : World) : Errand → World × Nat
  | .drain handle =>
    let (t, freed, signals) := w.loopback.drain handle
    let w := w.setLoopback t
    ({ w with link := w.link.raiseAll signals }, freed)
  | .drainAll =>
    let (t, freed, signals) := w.loopback.drainAll
    let w := w.setLoopback t
    ({ w with link := w.link.raiseAll signals }, freed)
  | .note n => ({ w with notes := w.notes ++ [n] }, 0)

/-- Begins or goes on with a wait. -/
def pollWait (w : World) (name : Nat) (wait : Wait) : World × Fate :=
  match wait.poll? w.now w.link.shared with
  | some (board, result) =>
    ({ w with link := { w.link with shared := board } }, .ended (.ofCount .write result))
  | none => (w, .goesOn (.waiting name wait))

/-- Lets a task go on, to its end or its next wait. -/
def poll (w : World) : Activity → World × Fate
  | .wait name waiter limit => w.pollWait name ⟨waiter, w.now, limit⟩
  | .waiting name wait => w.pollWait name wait
  | .write name writer body =>
    let (session, progress) := (⟨writer, w.link⟩ : Session Faulty).write w.now body
    w.afterWrite name session progress
  | .replay name writer recording =>
    let (session, progress) := (⟨writer, w.link⟩ : Session Faulty).replay w.now recording
    w.afterWrite name session progress
  | .writing name writer write =>
    let (session, progress) := (⟨writer, w.link⟩ : Session Faulty).resume w.now write
    w.afterWrite name session progress
  | .dispatch request script =>
    match w.service? with
    | none => (w, .ended (.fault .noDispatcher))
    | some s =>
      let (s, outcome) := s.start w.now request (Script.handler script request)
      w.afterDispatch s outcome
  | .dispatching d =>
    match d.stage with
    | .asking errand _ =>
      let (w, n) := w.runErrand errand
      match w.service? with
      | none => (w, .ended (.fault .noDispatcher))
      | some s =>
        let (s, outcome) := s.answer w.now d n
        w.afterDispatch s outcome
    | _ =>
      match w.service? with
      | none => (w, .ended (.fault .noDispatcher))
      | some s =>
        let (s, outcome) := s.resume w.now d
        w.afterDispatch s outcome
  | .endless name writer => (w, .goesOn (.endless name writer))

/-- Lets a task go on until it ends or has to wait; it is resumed at most `limit` times. -/
def carry (w : World) (a : Activity) : (limit : Nat) → World × Fate
  | 0 => (w, .goesOn a)
  | limit + 1 =>
    if w.isReady a then
      match w.poll a with
      | (w, .ended answer) => (w, .ended answer)
      | (w, .goesOn a) => w.carry a limit
    else (w, .goesOn a)

/-- Lets each task go on, in order. Those that do not end are the world's tasks then. -/
def carryAll (w : World) (limit : Nat) : List Task → World
  | [] => w
  | t :: rest =>
    match w.carry t.activity limit with
    | (w, .ended answer) =>
      { w with ended := w.ended ++ [(t.startedBy, answer)] }.carryAll limit rest
    | (w, .goesOn activity) =>
      { w with tasks := w.tasks ++ [{ t with activity }] }.carryAll limit rest

/-- Runs the sweepers and then the tasks, until no task can go on, at most `limit` times. -/
def settle (w : World) : (limit : Nat) → World
  | 0 => w
  | limit + 1 =>
    let w := w.runSweepers
    if w.tasks.any fun t => w.isReady t.activity then
      ({ w with tasks := [] }.carryAll (limit + 1) w.tasks).settle limit
    else w

end Sluice.Scenario.World
