import Sluice.Dispatch.Basic

/-!
# Summaries

One-line summaries of the parts of a service, for people who look at a running one. A summary
names the kind of thing and some of its values; one that leaves values out ends with two dots.
-/
namespace Sluice.Summary

def between (left inner right : String) : String := left ++ inner ++ right

def braces (inner : String) : String := between "\x7b " inner " \x7d"

def field (f : String × String) : String := f.1 ++ ": " ++ f.2

/-- The kind and all values. -/
def whole (kind : String) (fields : List (String × String)) : String :=
  kind ++ " " ++ braces (", ".intercalate (fields.map field))

/-- The kind and some of the values. -/
def part (kind : String) (fields : List (String × String)) : String :=
  kind ++ " " ++ braces (", ".intercalate (fields.map field ++ [".."]))

def option {α : Type} (inner : α → String) : Option α → String
  | none => "None"
  | some a => between "Some(" (inner a) ")"

def number (n : Nat) : String := toString n

def flag (b : Bool) : String := if b then "true" else "false"

def handle (id : HandleId) : String := between "HandleId(" (number id.number) ")"

/-- A byte of a field value: itself if it can be seen, and its number otherwise. -/
def byte (b : UInt8) : String :=
  if b = 0x22 then "\\\""
  else if b = 9 ∨ (32 ≤ b ∧ b < 127) then String.singleton (Char.ofNat b.toNat)
  else "\\x" ++ String.ofList (Nat.toDigits 16 b.toNat)

def quoted (inner : String) : String := between "\"" inner "\""

def fieldInstance (f : FieldName × FieldValue) : String :=
  quoted (Text.ofBytes f.1.bytes) ++ ": "
    ++ quoted (String.join (f.2.bytes.data.toList.map byte))

def fields (f : Fields) : String :=
  between "\x7b" (", ".intercalate (f.instances.map fieldInstance)) "\x7d"

def stats (s : WriteStats) : String :=
  whole "WriteStats" [("offers", number s.offers), ("partial_offers", number s.partialOffers),
    ("waits", number s.waits), ("bytes", number s.bytes)]

def writer (w : Writer) : String :=
  part "ResponseWriter" [("handle", handle w.handle), ("headers", fields w.fields),
    ("headers_sent", flag w.sent.isSome),
    ("status", option (fun (s : Http.Status) => number s.code) w.sent),
    ("stats", stats w.stats)]

def pool (p : Pool) : String :=
  whole "HandlePool" [("len", number p.handles.length), ("capacity", number p.capacity)]

/-- A handle that was checked out. -/
def guard (id : HandleId) : String :=
  whole "PooledHandle" [("id", option handle (some id))]

def writerSettings (s : WriterSettings) : String :=
  whole "WriterConfig" [("chunk_size", number s.chunkSize),
    ("ack_timeout_ms", option number s.ackTimeoutMs)]

def poolSettings (s : PoolSettings) : String :=
  whole "PoolConfig" [("capacity", number s.capacity), ("prefill", flag s.prefill)]

def cacheSettings (s : CacheSettings) : String :=
  whole "CacheConfig" [("enabled", flag s.enabled), ("ttl_secs", number s.ttlSecs),
    ("max_entries", number s.maxEntries), ("max_body_bytes", number s.maxBodyBytes),
    ("sweep_interval_secs", option number s.sweepIntervalSecs)]

def settings (s : Settings) : String :=
  whole "UnitConfig" [("writer", writerSettings s.writer), ("pool", poolSettings s.pool),
    ("cache", cacheSettings s.cache)]

/-- A cache without entries. Those it has are not shown. -/
def emptyCache (c : Cache) : String :=
  whole "ResponseCache" [("entries", "\x7b\x7d"), ("ttl", c.ttl.text),
    ("max_entries", number c.bound)]

def dispatcher (d : Dispatcher) : String :=
  part "Dispatcher" [("pool", pool d.pool), ("cache", option emptyCache d.cache),
    ("config", settings d.settings)]

/-- A dispatcher that was not built yet. -/
def builder (s : Settings) : String := part "DispatcherBuilder" [("config", settings s)]

end Sluice.Summary
