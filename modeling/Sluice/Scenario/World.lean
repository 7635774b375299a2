import Sluice.Scenario.Answer
import Sluice.Scenario.Step

/-!
# The world of a scenario

What the steps act on: a link, a clock, the waiters and writers that were made, the pool, the
cache and the dispatcher, and the tasks that are in flight. A writer that a task works with is
held by the task, so no step can touch it.
-/
namespace Sluice.Scenario

/-- A cache, by how it was made: by a step or with a dispatcher, and as which of its kind. A sweeper
remembers its cache so, and finds out when it is gone. -/
inductive CacheName where
  | alone (serial : Nat)
  | ofDispatcher (serial : Nat)
deriving DecidableEq, Inhabited

/-- Who keeps a sweeper: a step, or the dispatcher whose cache it sweeps. -/
inductive SweeperOwner where
  | step
  | dispatcher
deriving DecidableEq, Inhabited

/-- A sweeper at work. -/
structure Sweeping where
  owner : SweeperOwner
  cache : CacheName
  sweeper : Sweeper
deriving DecidableEq, Inhabited

/-- What a task does. -/
inductive Activity where
  /-- It has not begun. -/
  | wait (name : Nat) (waiter : WaiterId) (limit : Option Duration)
  | write (name : Nat) (writer : Writer) (body : ByteArray)
  | replay (name : Nat) (writer : Writer) (recording : Recording)
  | dispatch (request : Request) (script : List Action)
  /-- It waits. -/
  | waiting (name : Nat) (wait : Wait)
  | writing (name : Nat) (writer : Writer) (write : PendingWrite)
  | dispatching (dispatch : Dispatch Errand)
  /-- It neither ends nor waits. -/
  | endless (name : Nat) (writer : Writer)
deriving Inhabited

structure Task where
  /-- The number of the step that started it. -/
  startedBy : Nat
  activity : Activity
deriving Inhabited

structure World where
  link : Link Faulty
  now : Instant := .start
  waiters : Table Nat (HandleId × WaiterId) := .empty
  /-- The writers that no task works with. -/
  writers : Table Nat Writer := .empty
  /-- A pool that belongs to no dispatcher. -/
  pool : Option Pool := none
  guards : Table Nat HandleId := .empty
  /-- A cache that belongs to no dispatcher. -/
  cache : Option Cache := none
  dispatcher : Option Dispatcher := none
  cachesMade : Nat := 0
  dispatchersMade : Nat := 0
  /-- At most one of each owner, in the order in which they fell asleep. -/
  sweepers : List Sweeping := []
  /-- In the order in which they were started. -/
  tasks : List Task := []
  /-- The tasks that ended in this step. -/
  ended : List (Nat × Answer) := []
  /-- What handlers noted in this step. -/
  notes : List Note := []
  /-- The number of this step. -/
  step : Nat := 0

namespace World

def report (w : World) (events : List Event) : World :=
  { w with link := w.link.reportAll events }

def loopback (w : World) : Loopback := w.link.transport.inner

def setLoopback (w : World) (t : Loopback) : World :=
  { w with link := { w.link with transport := { w.link.transport with inner := t } } }

/-! ## Pool and cache

Steps act on the pool or cache that stands alone, and on the dispatcher's where there is none. -/

def pool? (w : World) : Option Pool :=
  match w.pool with
  | some p => some p
  | none => w.dispatcher.map Dispatcher.pool

def setPool (w : World) (p : Pool) : World :=
  match w.pool with
  | some _ => { w with pool := some p }
  | none => { w with dispatcher := w.dispatcher.map fun d => { d with pool := p } }

/-- The name of the cache that steps act on. -/
def cacheName (w : World) : CacheName :=
  match w.cache with
  | some _ => .alone w.cachesMade
  | none => .ofDispatcher w.dispatchersMade

def findCache (w : World) : CacheName → Option Cache
  | .alone serial => if serial = w.cachesMade then w.cache else none
  | .ofDispatcher serial =>
    if serial = w.dispatchersMade then w.dispatcher.bind Dispatcher.cache else none

def cache? (w : World) : Option Cache := w.findCache w.cacheName

def setCache (w : World) (name : CacheName) (c : Cache) : World :=
  match name with
  | .alone _ => { w with cache := some c }
  | .ofDispatcher _ =>
    { w with dispatcher := w.dispatcher.map fun d => { d with cache := some c } }

/-! ## Sweepers -/

def sweeper? (w : World) (owner : SweeperOwner) : Option Sweeper :=
  (w.sweepers.find? fun s => s.owner == owner).map Sweeping.sweeper

def dropSweeper (w : World) (owner : SweeperOwner) : World :=
  { w with sweepers := w.sweepers.filter fun s => s.owner != owner }

/-- A sweeper falls asleep, after all others. It takes the place of the one its owner had. -/
def putSweeper (w : World) (s : Sweeping) : World :=
  let w := w.dropSweeper s.owner
  { w with sweepers := w.sweepers ++ [s] }

/-! ## Tasks -/

def start (w : World) (a : Activity) : World := { w with tasks := w.tasks ++ [⟨w.step, a⟩] }

/-- The waiter that a task uses. -/
def Activity.waiterName? : Activity → Option Nat
  | .wait name .. | .waiting name _ => some name
  | _ => none

/-- The writer that a task works with, by name. -/
def Activity.writer? : Activity → Option (Nat × Writer)
  | .write name writer _ | .replay name writer _ | .writing name writer _ | .endless name writer =>
    some (name, writer)
  | _ => none

def waiterBusy (w : World) (name : Nat) : Bool :=
  w.tasks.any fun t => Activity.waiterName? t.activity == some name

def writerBusy (w : World) (name : Nat) : Bool :=
  w.tasks.any fun t => (Activity.writer? t.activity).any fun x => x.1 == name

/-- Drops the tasks that use a waiter, and tells how many. -/
def cancelWaits (w : World) (name : Nat) : World × Nat :=
  let (dropped, kept) := w.tasks.partition fun t => Activity.waiterName? t.activity == some name
  ({ w with tasks := kept }, dropped.length)

/-- Drops the tasks that work with a writer, which is free again, and tells how many. -/
def cancelWrites (w : World) (name : Nat) : World × Nat :=
  let (dropped, kept) :=
    w.tasks.partition fun t => (Activity.writer? t.activity).any fun x => x.1 == name
  let writers := dropped.foldl (fun ws t => match Activity.writer? t.activity with
    | some (name, writer) => ws.insert name writer
    | none => ws) w.writers
  ({ w with tasks := kept, writers }, dropped.length)

def service? (w : World) : Option (Service Faulty) :=
  w.dispatcher.map fun d => ⟨d, w.link⟩

def setService (w : World) (s : Service Faulty) : World :=
  { w with dispatcher := some s.dispatcher, link := s.link }

/-- Drops a dispatch, if that is what the task does. -/
def abort (w : World) (t : Task) : World :=
  match t.activity, w.service? with
  | .dispatching d, some s => w.setService (s.cancel d)
  | _, _ => w

def Activity.isDispatch : Activity → Bool
  | .dispatch .. | .dispatching _ => true
  | _ => false

/-- Drops the dispatches that the test picks, and tells how many. -/
def cancelDispatches (w : World) (pick : Task → Bool) : World × Nat :=
  let (dropped, kept) :=
    w.tasks.partition fun t => Activity.isDispatch t.activity && pick t
  (dropped.foldl abort { w with tasks := kept }, dropped.length)

/-! ## Guards -/

/-- Gives a handle back to the pool it came from. -/
def releaseGuard (w : World) (handle : HandleId) : World :=
  match w.pool? with
  | none => w
  | some p =>
    let (p, link, _) := p.release w.link handle
    ({ w with link }).setPool p

/-- Drops every guard, by name. -/
def dropGuards (w : World) : World :=
  let guards := w.guards.entries.mergeSort fun a b => a.1 ≤ b.1
  guards.foldl (fun w g => w.releaseGuard g.2) { w with guards := .empty }

end World

end Sluice.Scenario
