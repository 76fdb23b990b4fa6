import FileSearch.Search.Drain

/-!
# What destinations receive

A destination receives the chunks that are passed on to it in order, up to the first write that it
refuses, and nothing after that. A stream is drained to its end all the same.
-/

set_option autoImplicit false

namespace FileSearch

namespace Sink

/-! ## Writes -/

/-- The write of a chunk at a position is refused, behind some of its bytes or before all of
them. -/
def Refuses (sink : Sink) (position : Nat) (chunk : Bytes) : Prop :=
  ∃ most, sink.limit position = some most ∧ most < chunk.length

/-- No write is refused. -/
def Accepts (sink : Sink) : Prop :=
  ∀ position, sink.limit position = none

theorem limit_write (sink : Sink) (chunk : Bytes) (position : Nat) :
    (sink.write chunk).2.limit position = sink.limit (position + 1) := by
  cases limits : sink.limits with
  | nil => simp [write, limit, limits]
  | cons first rest => simp [write, limit, limits]

theorem refuses_write_iff (sink : Sink) (chunk next : Bytes) (position : Nat) :
    (sink.write chunk).2.Refuses position next ↔ sink.Refuses (position + 1) next := by
  rw [Refuses, Refuses, limit_write]

theorem write_of_not_refuses {sink : Sink} {chunk : Bytes} (accepted : ¬ sink.Refuses 0 chunk) :
    (sink.write chunk).1 = true ∧ (sink.write chunk).2.received = sink.received ++ chunk := by
  cases limited : sink.limit 0 with
  | none => simp [write, limited]
  | some most =>
      have enough : chunk.length ≤ most :=
        Nat.le_of_not_lt fun short => accepted ⟨most, limited, short⟩
      simp [write, limited, List.take_of_length_le enough]

theorem write_of_refuses {sink : Sink} {chunk : Bytes} {most : Nat}
    (limited : sink.limit 0 = some most) (short : most < chunk.length) :
    (sink.write chunk).1 = false ∧
      (sink.write chunk).2.received = sink.received ++ chunk.take most := by
  have part : (chunk.take most).length ≠ chunk.length := by
    rw [List.length_take]
    omega
  exact ⟨by simpa [write, limited] using part, by simp [write, limited]⟩

/-! ## Passing on -/

/-- What comes through to a destination when chunks are written to it one after the other: all of
them, or those before the first refused write and what that write took. -/
inductive Gets (sink : Sink) (chunks : List Bytes) : Bytes → Prop where
  | whole :
      (∀ position chunk, chunks[position]? = some chunk → ¬ sink.Refuses position chunk) →
      Gets sink chunks chunks.flatten
  | cut {front back : List Bytes} {chunk : Bytes} {most : Nat} :
      chunks = front ++ chunk :: back →
      (∀ position earlier, front[position]? = some earlier → ¬ sink.Refuses position earlier) →
      sink.limit front.length = some most → most < chunk.length →
      Gets sink chunks (front.flatten ++ chunk.take most)

/-- The second destination is what the first has become by the writes of some chunks. -/
def Takes (chunks : List Bytes) (sink after : Sink) : Prop :=
  ∃ bytes, sink.Gets chunks bytes ∧ after.received = sink.received ++ bytes

/-- An accepted write in front of others. -/
theorem Gets.cons {sink : Sink} {chunk bytes : Bytes} {rest : List Bytes}
    (accepted : ¬ sink.Refuses 0 chunk) (gets : (sink.write chunk).2.Gets rest bytes) :
    sink.Gets (chunk :: rest) (chunk ++ bytes) := by
  have front {chunks : List Bytes}
      (fine : ∀ position next, chunks[position]? = some next →
        ¬ (sink.write chunk).2.Refuses position next) :
      ∀ position next, (chunk :: chunks)[position]? = some next → ¬ sink.Refuses position next := by
    intro position next listed
    cases position with
    | zero =>
        rw [List.getElem?_cons_zero, Option.some.injEq] at listed
        rwa [← listed]
    | succ position =>
        rw [List.getElem?_cons_succ] at listed
        rw [← refuses_write_iff sink chunk]
        exact fine position next listed
  cases gets with
  | whole fine => exact .whole (front fine)
  | @cut before after next most split fine limited short =>
      rw [← List.append_assoc, ← List.flatten_cons]
      rw [limit_write] at limited
      exact .cut (by rw [split, List.cons_append]) (front fine) limited short

/-- Passing chunks on brings them to the destination, up to the first refusal. -/
theorem takes_forward (sink : Sink) (chunks : List Bytes) :
    Takes chunks sink (sink.forward chunks).2 := by
  -- A write moves the limits of those behind it up by one, so the destination changes with it.
  induction chunks generalizing sink with
  | nil => exact ⟨[], .whole (by simp), (List.append_nil _).symm⟩
  | cons chunk rest ih =>
      by_cases refused : sink.Refuses 0 chunk
      · obtain ⟨most, limited, short⟩ := refused
        obtain ⟨stopped, received⟩ := write_of_refuses limited short
        have gets : sink.Gets (chunk :: rest) ([].flatten ++ chunk.take most) :=
          .cut rfl (by simp) limited short
        refine ⟨chunk.take most, gets, ?_⟩
        simp [forward, stopped, received]
      · obtain ⟨accepted, received⟩ := write_of_not_refuses refused
        obtain ⟨bytes, gets, rest⟩ := ih (sink.write chunk).2
        refine ⟨chunk ++ bytes, gets.cons refused, ?_⟩
        simp only [forward, accepted, if_true]
        rw [rest, received, List.append_assoc]

/-! ## The stream -/

theorem Gets.eq_flatten {sink : Sink} (accepts : sink.Accepts) {chunks : List Bytes}
    {bytes : Bytes} (gets : sink.Gets chunks bytes) : bytes = chunks.flatten := by
  cases gets with
  | whole _ => rfl
  | cut _ _ limited _ =>
      rw [accepts] at limited
      cases limited

end Sink

/-! ## Drained streams -/

namespace Drain

/-- Output that is kept is kept whole, however it is cut, and its destination is left alone. -/
theorem foldl_step_capture (drain : Drain) (chunks : List Bytes) :
    chunks.foldl (step true) drain = { drain with kept := drain.kept ++ chunks.flatten } := by
  induction chunks generalizing drain with
  | nil => simp
  | cons chunk rest ih => rw [List.foldl_cons, ih]; simp [step]

/-- Nothing more is done with what arrives once the destination has refused a write. -/
theorem foldl_step_deaf {drain : Drain} (deaf : drain.listening = false) (chunks : List Bytes) :
    chunks.foldl (step false) drain = drain := by
  induction chunks with
  | nil => rfl
  | cons chunk rest ih =>
      have unchanged : step false drain chunk = drain := by
        cases present : drain.sink? <;> simp [step, present, deaf]
      rw [List.foldl_cons, unchanged, ih]

/-- A stream that is passed on leaves the destination as writing its chunks up to the first refusal
does. -/
theorem sink?_foldl_step (kept : Bytes) (sink : Sink) (chunks : List Bytes) :
    (chunks.foldl (step false) { kept, sink? := some sink }).sink? =
      some (sink.forward chunks).2 := by
  induction chunks generalizing sink with
  | nil => rfl
  | cons chunk rest ih =>
      rw [List.foldl_cons]
      cases accepted : (sink.write chunk).1 with
      | true =>
          have next : step false { kept, sink? := some sink } chunk =
              { kept, sink? := some (sink.write chunk).2 } := by simp [step, accepted]
          rw [next, ih]
          simp [Sink.forward, accepted]
      | false =>
          have next : step false { kept, sink? := some sink } chunk =
              { kept, sink? := some (sink.write chunk).2, listening := false } := by
            simp [step, accepted]
          rw [next, foldl_step_deaf rfl]
          simp [Sink.forward, accepted]

theorem sink?_finish (drain : Drain) : drain.finish.sink? = drain.sink? := by
  unfold finish
  split
  · exact Option.map_id'
  · rfl

theorem ofChunks_capture (sink? : Option Sink) (chunks : List Bytes) :
    (ofChunks true sink? chunks).kept = chunks.flatten ∧
      (ofChunks true sink? chunks).sink? = sink? := by
  rw [ofChunks, sink?_finish, foldl_step_capture]
  exact ⟨rfl, rfl⟩

theorem takes_ofChunks (sink? : Option Sink) (chunks : List Bytes) :
    Option.Rel (Sink.Takes chunks) sink? (ofChunks false sink? chunks).sink? := by
  rw [ofChunks, sink?_finish]
  cases sink? with
  | none =>
      have absent : (chunks.foldl (step false) { sink? := none }).sink? = none := by
        induction chunks with
        | nil => rfl
        | cons chunk rest ih => exact ih
      rw [absent]
      exact .none
  | some sink =>
      rw [sink?_foldl_step]
      exact .some (sink.takes_forward chunks)

end Drain

end FileSearch
