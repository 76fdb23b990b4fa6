import FileSearch.Text.Bytes

/-!
# Destinations of output

Output is passed on in chunks, as it arrives. A destination may refuse a chunk, perhaps behind some
of its bytes, and gets nothing more from then on.
-/

set_option autoImplicit false

namespace FileSearch

/-- A destination of output. -/
structure Sink where
  /-- What has been accepted so far. -/
  received : Bytes := []
  /-- How many bytes each of the next writes takes at most. Without a number, it takes them all. -/
  limits : List (Option Nat) := []
  /-- The same for every write after those. -/
  lastLimit : Option Nat := none
  /-- Whether a flush is accepted. -/
  flushes : Bool := true
  deriving DecidableEq, Repr

namespace Sink

/-- A destination that refuses every write. -/
def closed : Sink where
  lastLimit := some 0

/-- A destination that refuses only to flush. -/
def unflushable : Sink where
  flushes := false

/-- How many bytes the write at a position takes at most, counted from the next write. -/
def limit (sink : Sink) (position : Nat) : Option Nat :=
  sink.limits[position]?.getD sink.lastLimit

/-- Writes a chunk. A write that does not take the whole chunk is refused, and what it has taken
stays. Says whether the write was accepted. -/
def write (sink : Sink) (chunk : Bytes) : Bool × Sink :=
  let taken := (sink.limit 0).elim chunk chunk.take
  (taken.length == chunk.length,
    { sink with received := sink.received ++ taken, limits := sink.limits.tail })

/-- Flushes. Says whether that was accepted. -/
def flush (sink : Sink) : Bool × Sink :=
  (sink.flushes, sink)

/-- Passes chunks on in order and flushes, up to the first refusal. Says whether there was none. -/
def forward (sink : Sink) : List Bytes → Bool × Sink
  | [] => sink.flush
  | chunk :: rest =>
    let (accepted, sink) := sink.write chunk
    if accepted then sink.forward rest else (false, sink)

end Sink

end FileSearch
