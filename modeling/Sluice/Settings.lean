import Sluice.Document.Record
import Sluice.Error

/-!
# Settings

The sizes and times of writers, of the pool and of the cache. Every part has defaults, and a
document need only name what differs from them.
-/
namespace Sluice

structure WriterSettings where
  /-- The most bytes offered to the shared buffer at once. -/
  chunkSize : Nat := 65536
  /-- How long one wait for an acknowledgment may last, in milliseconds; without it, for ever. -/
  ackTimeoutMs : Option Nat := none
deriving DecidableEq, Inhabited

namespace WriterSettings

def ackTimeout (s : WriterSettings) : Option Duration := s.ackTimeoutMs.map .ofMillis

/-- Keeps the whole milliseconds of the time, as far as they fit into a word. -/
def withAckTimeout (s : WriterSettings) (d : Duration) : WriterSettings :=
  { s with ackTimeoutMs := some (min d.wholeMillis Document.maxWord) }

def validate (s : WriterSettings) : Except SettingsError Unit :=
  if s.chunkSize = 0 then .error .chunkSize else .ok ()

open Document in
def ofValue? (v : Value) : Option WriterSettings := do
  match ← v.fields? ["chunk_size", "ack_timeout_ms"] with
  | [chunk, timeout] =>
    let d : WriterSettings := {}
    return {
      chunkSize := ← fieldOr d.chunkSize Value.word? chunk
      ackTimeoutMs := ← fieldOr d.ackTimeoutMs Value.wordOrNull? timeout }
  | _ => none

end WriterSettings

structure PoolSettings where
  /-- The most handles that are kept for reuse. -/
  capacity : Nat := 10
  /-- Handles are allocated up to the capacity before the first request. -/
  prefill : Bool := false
deriving DecidableEq, Inhabited

namespace PoolSettings

def validate (s : PoolSettings) : Except SettingsError Unit :=
  if s.capacity = 0 then .error .poolCapacity else .ok ()

open Document in
def ofValue? (v : Value) : Option PoolSettings := do
  match ← v.fields? ["capacity", "prefill"] with
  | [capacity, prefill] =>
    let d : PoolSettings := {}
    return {
      capacity := ← fieldOr d.capacity Value.word? capacity
      prefill := ← fieldOr d.prefill Value.bool? prefill }
  | _ => none

end PoolSettings

structure CacheSettings where
  enabled : Bool := true
  /-- How long a stored response may be served. -/
  ttlSecs : Nat := 300
  maxEntries : Nat := 10000
  /-- A response with a longer body is served but not stored. -/
  maxBodyBytes : Nat := 1048576
  /-- How often expired entries are removed in the background; without it, only when met. -/
  sweepIntervalSecs : Option Nat := none
deriving DecidableEq, Inhabited

namespace CacheSettings

def ttl (s : CacheSettings) : Duration := .ofSecs s.ttlSecs

def sweepInterval (s : CacheSettings) : Option Duration := s.sweepIntervalSecs.map .ofSecs

/-- A bound of zero is no fault where nothing is cached. -/
def validate (s : CacheSettings) : Except SettingsError Unit :=
  if s.enabled ∧ s.maxEntries = 0 then .error (.cacheBound s.maxEntries) else .ok ()

open Document in
def ofValue? (v : Value) : Option CacheSettings := do
  let names := ["enabled", "ttl_secs", "max_entries", "max_body_bytes", "sweep_interval_secs"]
  match ← v.fields? names with
  | [enabled, ttl, entries, body, sweep] =>
    let d : CacheSettings := {}
    return {
      enabled := ← fieldOr d.enabled Value.bool? enabled
      ttlSecs := ← fieldOr d.ttlSecs Value.word? ttl
      maxEntries := ← fieldOr d.maxEntries Value.word? entries
      maxBodyBytes := ← fieldOr d.maxBodyBytes Value.word? body
      sweepIntervalSecs := ← fieldOr d.sweepIntervalSecs Value.wordOrNull? sweep }
  | _ => none

end CacheSettings

structure Settings where
  writer : WriterSettings := {}
  pool : PoolSettings := {}
  cache : CacheSettings := {}
deriving DecidableEq, Inhabited

namespace Settings

/-- The first fault, looked for in the writer, the pool and the cache in turn. -/
def validate (s : Settings) : Except SettingsError Unit := do
  s.writer.validate
  s.pool.validate
  s.cache.validate

open Document in
def ofValue? (v : Value) : Option Settings := do
  match ← v.fields? ["writer", "pool", "cache"] with
  | [writer, pool, cache] =>
    return {
      writer := ← fieldOr {} WriterSettings.ofValue? writer
      pool := ← fieldOr {} PoolSettings.ofValue? pool
      cache := ← fieldOr {} CacheSettings.ofValue? cache }
  | _ => none

/-- The settings that a document spells. -/
def ofText? (text : String) : Option Settings := Document.Value.ofText? text >>= ofValue?

/-! ## Some documents -/

/-- What is left out keeps its default, and names that mean nothing are passed over. -/
example : ofText? "\x7b\"pool\": \x7b\"capacity\": 3\x7d, \"more\": [1.5, null]\x7d" =
    some { pool := { capacity := 3 } } := by decide +kernel

/-- A record may be written as an array, of which the last fields may be missing. -/
example : ofText? "[[1], [2, true]]" =
    some { writer := { chunkSize := 1 }, pool := { capacity := 2, prefill := true } } := by
  decide +kernel

example : ofText? "\x7b\"pool\": \x7b\"capacity\": -0\x7d\x7d" = none := by decide +kernel

end Settings

end Sluice
