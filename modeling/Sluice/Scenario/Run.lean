import Sluice.Scenario.Stores
import Sluice.Scenario.Tasks
import Sluice.Scenario.Writing

/-!
# Running a scenario

The steps act one after another. After each of them the sweepers and the tasks run, and a report
is made.
-/
namespace Sluice

namespace Scenario

namespace World

def act (w : World) : Step → World × Answer
  | .transport step => w.doTransport step
  | .board step => w.doBoard step
  | .waiter name step => w.doWaiter name step
  | .writer name step => w.doWriter name step
  | .pool step => w.doPoolStep step
  | .cache step => w.doCacheStep step
  | .dispatcher step => w.doDispatcherStep step
  | .advance d => ({ w with now := w.now.after d }, .nothing)
  | .unknown => (w, .fault .badStep)

def gauge (w : World) : Gauge :=
  { nowMillis := w.now.millis
    waiting := w.link.shared.waiting
    absorbed := w.link.shared.absorbed
    allocated := w.loopback.allocated
    pool := w.pool?.map fun p => p.handles.length
    cache := w.cache?.map Cache.size
    tasks := w.tasks.length }

/-- One step, all that follows from it, and the report. -/
def runStep (w : World) (limit : Nat) (step : Step) : World × Report :=
  let (w, answer) := w.act step
  let w := w.settle limit
  ({ w with ended := [], notes := [], link := { w.link with log := #[] }, step := w.step + 1 },
    { answer, gauge := w.gauge, ended := w.ended, notes := w.notes, log := w.link.log.toList })

def runSteps (w : World) (limit : Nat) : List Step → List Report
  | [] => []
  | step :: rest =>
    let (w, report) := w.runStep limit step
    report :: w.runSteps limit rest

end World

/-- The world before the first step. -/
def world (s : Scenario) : World where
  link :=
    { transport := { inner := { capacity := s.capacity, routing := s.routing }, plan := s.faults } }

/-- More than the number of times that tasks can be resumed in a step: each resumption uses up an
action of a script, a wait that was begun, or an acknowledgment, and these come from the steps and
from the planned faults. -/
def limit (s : Scenario) : Nat :=
  let length := s.steps.foldl (fun n step => n + step.length) (s.faults.offer.length + 2)
  4 * length * length

/-- The reports of all steps. -/
def run (s : Scenario) : List Report := s.world.runSteps s.limit s.steps

end Scenario

end Sluice
