import Sluice.Link
import Sluice.Settings

/-!
# The handle pool

Handles are dear to allocate, so those that are done with wait in a bounded queue for their next
use, first in, first out. A handle that finds the queue full is given back to the transport, and
so are all that are left when the pool is dropped.
-/
namespace Sluice

structure Pool where
  /-- The most handles kept. -/
  capacity : Nat
  /-- The handles that wait, in the order in which they will be used. -/
  handles : List HandleId := []
deriving DecidableEq, Inhabited

/-- What became of a released handle. -/
inductive Released where
  | pooled
  | finalized
deriving DecidableEq, Inhabited

namespace Pool

/-- An empty pool; one that could hold nothing is refused. -/
def new? (capacity : Nat) : Except SettingsError Pool :=
  if capacity = 0 then .error .poolCapacity else .ok { capacity }

/-- The next handle and the pool without it. -/
def acquire? (p : Pool) : Option (HandleId × Pool) :=
  match p.handles with
  | [] => none
  | handle :: rest => some (handle, { p with handles := rest })

variable {τ : Type} [Transport τ]

def release (p : Pool) (l : Link τ) (handle : HandleId) : Pool × Link τ × Released :=
  if p.handles.length < p.capacity then
    ({ p with handles := p.handles ++ [handle] }, l, .pooled)
  else
    (p, (l.report (.poolFull handle p.capacity)).finalize handle, .finalized)

/-- The next handle, or a fresh one when the pool is empty. -/
def checkout (p : Pool) (l : Link τ) : Pool × Link τ × Except TransportError HandleId :=
  match p.acquire? with
  | some (handle, p) => (p, l, .ok handle)
  | none =>
    let (l, answer) := (l.report .poolEmpty).allocate
    (p, l, answer)

/-- Allocates `missing` handles, up to the first failure. Those allocated are given in order. -/
def allocateMany (l : Link τ) (done : List HandleId) :
    Nat → Link τ × List HandleId × Option TransportError
  | 0 => (l, done.reverse, none)
  | missing + 1 =>
    match l.allocate with
    | (l, .ok handle) => allocateMany l (handle :: done) missing
    | (l, .error e) => (l, done.reverse, some e)

/-- Allocates handles until the pool is full, and tells how many it took. -/
def prefill (p : Pool) (l : Link τ) : Pool × Link τ × Except TransportError Nat :=
  match allocateMany l [] (p.capacity - p.handles.length) with
  | (l, added, failure) =>
    let p := { p with handles := p.handles ++ added }
    match failure with
    | some e => (p, l, .error e)
    | none => (p, l.report (.poolPrefilled added.length p.capacity), .ok added.length)

/-- The pool is dropped. -/
def drop (p : Pool) (l : Link τ) : Link τ := p.handles.foldl Link.finalize l

end Pool

end Sluice
