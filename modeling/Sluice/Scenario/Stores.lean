import Sluice.Scenario.World
import Sluice.Scenario.Writing
import Sluice.Summary

/-!
# Steps on the pool, the cache and the dispatcher
-/
namespace Sluice.Scenario.World

/-! ## Pool -/

/-- Drops the pool that stands alone. -/
def dropPool (w : World) : World × Bool :=
  match w.pool with
  | none => (w, false)
  | some p => ({ w with pool := none, link := p.drop w.link }, true)

/-- A step on a pool that is there. -/
def doPool (w : World) (p : Pool) : PoolStep → World × Answer
  | .acquire =>
    match p.acquire? with
    | none => (w, .nothing)
    | some (handle, p) => (w.setPool p, .count handle.number)
  | .release handle =>
    let (p, link, released) := p.release w.link handle
    ({ w with link }.setPool p, .released released)
  | .checkout name =>
    match p.checkout w.link with
    | (p, link, .error e) => ({ w with link }.setPool p, .failure (.transport e))
    | (p, link, .ok handle) =>
      let w := { w with link }.setPool p
      let w := match w.guards.find? name with
        | some old => w.releaseGuard old
        | none => w
      ({ w with guards := w.guards.insert name handle }, .count handle.number)
  | .prefill =>
    let (p, link, result) := p.prefill w.link
    ({ w with link }.setPool p, .ofCount .transport result)
  | .info =>
    (w, .pool ⟨p.handles.length, p.capacity, w.loopback.allocated, Summary.pool p⟩)
  | _ => (w, .nothing)

/-- Guards are dropped before the pool they belong to. -/
def doPoolStep (w : World) : PoolStep → World × Answer
  | .new capacity =>
    let (w, _) := w.dropGuards.dropPool
    match Pool.new? capacity with
    | .error e => (w, .failure (.settings e))
    | .ok p => ({ w with pool := some p }, .nothing)
  | .drop =>
    let (w, existed) := w.dropGuards.dropPool
    (w, .flag existed)
  | .guard name =>
    (w, .ofOption (fun h => .guard h (Summary.guard h)) (w.guards.find? name))
  | .dropGuard name =>
    match w.guards.find? name with
    | none => (w, .flag false)
    | some handle =>
      ({ w with guards := w.guards.erase name }.releaseGuard handle, .flag true)
  | step =>
    match w.pool? with
    | none => (w, .fault .noPool)
    | some p => w.doPool p step

/-! ## Cache -/

/-- A step on a cache that is there. -/
def doCache (w : World) (name : CacheName) (c : Cache) : CacheStep → World × Answer
  | .store _ (.error fault) => (w, .fault (.input fault))
  | .store key (.ok recording) =>
    match c.store? w.now key recording with
    | none => (w, .crashed Cache.overflow)
    | some (c, events) => ((w.setCache name c).report events, .nothing)
  | .set _ (.error fault) _ => (w, .fault (.input fault))
  | .set key (.ok recording) expires =>
    let entry : Cache.Entry := ⟨recording, w.now.after expires⟩
    let (c, events) := c.set w.now key entry
    ((w.setCache name c).report events,
      .entry ⟨entry.isFresh w.now, entry.expires.sinceStart, recording.status⟩)
  | .get key =>
    let (c, events, found) := c.get w.now key
    ((w.setCache name c).report events, .ofOption .recording found)
  | .remove key =>
    let (c, existed) := c.remove key
    (w.setCache name c, .flag existed)
  | .purge =>
    let (c, events, purged) := c.purge w.now
    ((w.setCache name c).report events, .count purged)
  | .info => (w, .cache ⟨c.size, c.ttl, c.bound⟩)
  | .sweep interval =>
    (w.putSweeper ⟨.step, name, Sweeper.start interval⟩, .nothing)
  | _ => (w, .nothing)

/-- Replays the recording under a key through a writer. The cache has to be there first, and the
writer before the key is looked up. -/
def replayCached (w : World) (key : String) (writerName : Nat) : World × Answer :=
  match w.cache? with
  | none => (w, .fault .noCache)
  | some c =>
    match w.freeWriter writerName with
    | .error fault => (w, .fault fault)
    | .ok writer =>
      let (c, events, found) := c.get w.now key
      let w := (w.setCache w.cacheName c).report events
      match found with
      | none => (w, .nothing)
      | some recording => w.handOver writerName (.replay writerName writer recording)

def setNewCache (w : World) (c : Cache) : World × Answer :=
  ({ w with cache := some c, cachesMade := w.cachesMade + 1 }, .nothing)

def doCacheStep (w : World) : CacheStep → World × Answer
  | .new ttl maxEntries => w.setNewCache (Cache.new ttl maxEntries)
  | .ofSettings none => (w, .fault (.input .document))
  | .ofSettings (some settings) => w.setNewCache (Cache.ofSettings settings)
  | .drop => ({ w with cache := none }, .flag w.cache.isSome)
  | .sweeper => (w, .ofOption (fun s => .flag s.finished) (w.sweeper? .step))
  | .dropSweeper => (w.dropSweeper .step, .flag (w.sweeper? .step).isSome)
  | .replay key writer => w.replayCached key writer
  | step =>
    match w.cache? with
    | none => (w, .fault .noCache)
    | some c => w.doCache w.cacheName c step

/-! ## Dispatcher -/

/-- Drops the dispatcher: first the dispatches in flight, then the guards, then what is left. -/
def dropDispatcher (w : World) : World × Bool :=
  let (w, _) := w.cancelDispatches fun _ => true
  let w := w.dropGuards
  match w.dispatcher with
  | none => (w, false)
  | some d =>
    ({ w.dropSweeper .dispatcher with dispatcher := none, link := d.drop w.link }, true)

/-- A dispatcher takes the place of any other once it could be built. -/
def buildDispatcher (w : World) (settings : Settings) (context : BuildContext) :
    World × Answer :=
  match Dispatcher.build settings context w.link with
  | (link, .error e) => ({ w with link }, .failure (.build e))
  | (link, .ok (dispatcher, interval)) =>
    let (w, _) := { w with link }.dropDispatcher
    let w :=
      { w with
        dispatcher := some dispatcher
        dispatchersMade := w.dispatchersMade + 1
        link := w.link.setBoard .own {} }
    (match interval with
      | none => w
      | some d =>
        w.putSweeper ⟨.dispatcher, .ofDispatcher w.dispatchersMade, Sweeper.start d⟩,
      .built)

def dispatcherInfo (w : World) (d : Dispatcher) : DispatcherInfo :=
  let board := w.link.board d.board
  { settings := d.settings
    caching := d.cache.isSome
    waiting := board.waiting
    absorbed := board.absorbed
    allocated := w.loopback.allocated
    summary :=
      if d.cache.all Cache.isEmpty then some (Summary.dispatcher d) else none }

def doDispatcherStep (w : World) : DispatcherStep → World × Answer
  | .build none _ | .summary none => (w, .fault (.input .document))
  | .build (some settings) context => w.buildDispatcher settings context
  | .summary (some settings) => (w, .text (Summary.builder settings))
  | .dispatch request script =>
    match w.dispatcher with
    | none => (w, .fault .noDispatcher)
    | some _ =>
      match request with
      | .error fault => (w, .fault (.input fault))
      | .ok request => (w.start (.dispatch request script), .started)
  | .cancel task =>
    let (w, n) := w.cancelDispatches fun t => t.startedBy == task
    (w, .count n)
  | .info =>
    match w.dispatcher with
    | none => (w, .fault .noDispatcher)
    | some d => (w, .dispatcher (w.dispatcherInfo d))
  | .drop =>
    let (w, existed) := w.dropDispatcher
    (w, .flag existed)

end Sluice.Scenario.World
