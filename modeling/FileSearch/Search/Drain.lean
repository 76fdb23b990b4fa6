import FileSearch.Search.Sink

/-!
# Draining a stream

A stream of a command is always read to its end, so that the command never waits for somebody to
read. What arrives is kept, passed on to a destination, or dropped.
-/

set_option autoImplicit false

namespace FileSearch

/-- A stream while it is read. -/
structure Drain where
  /-- What has been kept of it. -/
  kept : Bytes := []
  sink? : Option Sink
  /-- Whether the destination is still written to. It is not from its first refusal on. -/
  listening : Bool := true
  deriving DecidableEq, Repr

namespace Drain

/-- The next chunk arrives. -/
def step (capture : Bool) (drain : Drain) (chunk : Bytes) : Drain :=
  if capture then { drain with kept := drain.kept ++ chunk }
  else match drain.sink? with
    | none => drain
    | some sink =>
      if drain.listening then
        let (accepted, sink) := sink.write chunk
        { drain with sink? := some sink, listening := accepted }
      else drain

/-- The end of the stream. Nothing follows from a refusal to flush. -/
def finish (drain : Drain) : Drain :=
  if drain.listening then { drain with sink? := drain.sink?.map fun sink => sink.flush.2 }
  else drain

/-- A stream read to its end in chunks. -/
def ofChunks (capture : Bool) (sink? : Option Sink) (chunks : List Bytes) : Drain :=
  (chunks.foldl (step capture) { sink? }).finish

end Drain

end FileSearch
