import FileSearch.Proofs.Search.Sink
import FileSearch.Search.Execution

/-!
# Results of commands

The result of a command follows from what the command does. Where its output goes, whether that
refuses anything and how the output is cut into chunks has no part in it.
-/

set_option autoImplicit false

namespace FileSearch

theorem Ending.exitCode_eq_notRun_iff (ending : Ending) :
    ending.exitCode = SearchResult.notRun ↔ ending = .unknown := by
  have natural {code : Nat} (small : code < 2 ^ 31) : Int32.ofNat code ≠ SearchResult.notRun := by
    intro same
    have value := congrArg Int32.toInt same
    rw [Int32.toInt_ofNat_of_lt small] at value
    have negative : SearchResult.notRun.toInt = -1 := by decide
    omega
  cases ending with
  | exited code =>
      have small := code.toNat_lt
      exact iff_of_false (natural (by omega)) nofun
  | killed signal =>
      have small := signal.toNat_lt
      exact iff_of_false (natural (by omega)) nofun
  | unknown => exact iff_of_true rfl rfl

/-- Two runs that differ at most in the chunks in which output arrives. -/
structure ProcessRun.SameStreams (left right : ProcessRun) : Prop where
  output : left.output.flatten = right.output.flatten
  errors : left.errors.flatten = right.errors.flatten
  ending : left.ending = right.ending
  cancelled : left.cancelled = right.cancelled

namespace ProcessRun

/-- What is kept of the output of a run does not depend on the chunks, and without capture it does
not matter. -/
theorem SameStreams.result_eq {left right : ProcessRun} (same : left.SameStreams right)
    (command : List String) (capture : Bool) (sink? other? : Option Sink) :
    right.result command capture (Drain.ofChunks capture other? right.output).kept =
      left.result command capture (Drain.ofChunks capture sink? left.output).kept := by
  cases capture with
  | false => simp only [result, found, same.ending, same.cancelled, Bool.false_eq_true, if_false]
  | true =>
      rw [(Drain.ofChunks_capture other? right.output).1,
        (Drain.ofChunks_capture sink? left.output).1, ← same.output]
      simp only [result, found, same.ending, same.cancelled]

theorem exitCode_result_iff (run : ProcessRun) (command : List String) (capture : Bool)
    (kept : Bytes) :
    (run.result command capture kept).exitCode = SearchResult.notRun ↔ run.ending = .unknown := by
  rw [result]
  split
  · next unknown => exact iff_of_true rfl unknown
  · exact run.ending.exitCode_eq_notRun_iff

end ProcessRun

section

variable {run? : Option ProcessRun} {command : List String} (capture : Bool) (sinks : Sinks)

/-- What is not started fails, and nothing arrives anywhere. -/
theorem execute_eq_failure (idle : command = [] ∨ run? = none) :
    execute run? command capture sinks = (.failure command, sinks) := by
  rcases idle with rfl | rfl
  · rfl
  · cases command <;> rfl

theorem execute_eq (run : ProcessRun) (named : command ≠ []) :
    execute (some run) command capture sinks =
      (run.result command capture (Drain.ofChunks capture sinks.output run.output).kept,
        { output := (Drain.ofChunks capture sinks.output run.output).sink?
          errors := (Drain.ofChunks false sinks.errors run.errors).sink? }) := by
  cases command with
  | nil => exact absurd rfl named
  | cons program arguments => rfl

theorem command_execute : (execute run? command capture sinks).1.command = command := by
  by_cases idle : command = [] ∨ run? = none
  · rw [execute_eq_failure capture sinks idle]
    rfl
  · obtain ⟨named, started⟩ := not_or.mp idle
    obtain ⟨run, rfl⟩ := Option.ne_none_iff_exists'.mp started
    rw [execute_eq capture sinks run named, ProcessRun.result]
    split <;> rfl

theorem exitCode_execute_iff :
    (execute run? command capture sinks).1.exitCode = SearchResult.notRun ↔
      command = [] ∨ run? = none ∨ ∃ run, run? = some run ∧ run.ending = .unknown := by
  by_cases named : command = []
  · rw [execute_eq_failure capture sinks (.inl named)]
    exact iff_of_true rfl (.inl named)
  · cases run? with
    | none =>
        rw [execute_eq_failure capture sinks (.inr rfl)]
        exact iff_of_true rfl (.inr (.inl rfl))
    | some run =>
        rw [execute_eq capture sinks run named, run.exitCode_result_iff]
        simp [named]

/-- No match is kept without capture, of a cancelled run, or where the command did not run. -/
theorem found_execute_eq_nil
    (nothing : capture = false ∨ run? = none ∨
      ∃ run, run? = some run ∧ (run.cancelled = true ∨ run.ending = .unknown)) :
    (execute run? command capture sinks).1.found = [] := by
  by_cases idle : command = [] ∨ run? = none
  · rw [execute_eq_failure capture sinks idle]
    rfl
  · obtain ⟨named, started⟩ := not_or.mp idle
    obtain ⟨run, rfl⟩ := Option.ne_none_iff_exists'.mp started
    rw [execute_eq capture sinks run named, ProcessRun.result]
    split
    · rfl
    · next known =>
        rcases nothing with rfl | absent | ⟨_, same, cancelled | unknown⟩
        · rfl
        · cases absent
        · cases same
          have noLines : Path.ofLines [] = [] := by decide
          simp [ProcessRun.found, cancelled, noLines]
        · cases same
          exact absurd unknown known

theorem found_execute {run : ProcessRun} (named : command ≠ []) (going : run.cancelled = false)
    (known : run.ending ≠ .unknown) :
    (execute (some run) command true sinks).1.found = Path.ofLines run.output.flatten := by
  rw [execute_eq true sinks run named, ProcessRun.result, if_neg known]
  simp only [ProcessRun.found, going, if_true, Bool.false_eq_true, if_false,
    (Drain.ofChunks_capture sinks.output run.output).1]

theorem cancelled_execute_iff (named : command ≠ []) :
    (execute run? command capture sinks).1.cancelled = true ↔
      ∃ run, run? = some run ∧ run.cancelled = true ∧ run.ending ≠ .unknown := by
  cases run? with
  | none =>
      rw [execute_eq_failure capture sinks (.inr rfl)]
      simp [SearchResult.failure]
  | some run =>
      rw [execute_eq capture sinks run named, ProcessRun.result]
      split
      · next unknown => simp [SearchResult.failure, unknown]
      · next known => simp [known]

/-- Output that is kept never reaches its destination. -/
theorem output_execute_capture : (execute run? command true sinks).2.output = sinks.output := by
  by_cases idle : command = [] ∨ run? = none
  · rw [execute_eq_failure true sinks idle]
  · obtain ⟨named, started⟩ := not_or.mp idle
    obtain ⟨run, rfl⟩ := Option.ne_none_iff_exists'.mp started
    rw [execute_eq true sinks run named]
    exact (Drain.ofChunks_capture sinks.output run.output).2

/-- Neither destinations nor chunks have a part in the result. -/
theorem execute_result_eq {other? : Option ProcessRun} (others : Sinks)
    (same : Option.Rel ProcessRun.SameStreams run? other?) :
    (execute other? command capture others).1 = (execute run? command capture sinks).1 := by
  cases same with
  | none =>
      rw [execute_eq_failure capture sinks (.inr rfl), execute_eq_failure capture others (.inr rfl)]
  | @some run other same =>
      by_cases named : command = []
      · rw [execute_eq_failure capture sinks (.inl named),
          execute_eq_failure capture others (.inl named)]
      · rw [execute_eq capture sinks run named, execute_eq capture others other named]
        exact same.result_eq command capture sinks.output others.output

end

/-- The result of a command is the same for all destinations and all chunks, and its exit code tells
whether the command ran. Destinations receive the streams up to the first write that they refuse,
but nothing of the output that is kept. -/
theorem execute_indifferent (run? : Option ProcessRun) (command : List String) (capture : Bool)
    (sinks : Sinks) :
    (∀ (other? : Option ProcessRun) (others : Sinks),
      Option.Rel ProcessRun.SameStreams run? other? →
      (execute other? command capture others).1 = (execute run? command capture sinks).1) ∧
    (execute run? command capture sinks).1.command = command ∧
    ((execute run? command capture sinks).1.exitCode = -1 ↔
      command = [] ∨ run? = none ∨ ∃ run, run? = some run ∧ run.ending = .unknown) ∧
    (command = [] ∨ run? = none → (execute run? command capture sinks).2 = sinks) ∧
    ∀ run, run? = some run → command ≠ [] →
      Option.Rel (Sink.Takes run.errors) sinks.errors
        (execute run? command capture sinks).2.errors ∧
      (capture = false → Option.Rel (Sink.Takes run.output) sinks.output
        (execute run? command capture sinks).2.output) ∧
      (capture = true → (execute run? command capture sinks).2.output = sinks.output) := by
  refine ⟨fun _ others same => execute_result_eq capture sinks others same,
    command_execute capture sinks, exitCode_execute_iff capture sinks, ?_, ?_⟩
  · intro idle
    rw [execute_eq_failure capture sinks idle]
  · rintro run rfl named
    rw [execute_eq capture sinks run named]
    refine ⟨Drain.takes_ofChunks sinks.errors run.errors, ?_, ?_⟩
    · rintro rfl
      exact Drain.takes_ofChunks sinks.output run.output
    · rintro rfl
      rw [← execute_eq true sinks run named]
      exact output_execute_capture sinks

/-- A line that arrives in two chunks is put together again, whatever refuses the output. -/
theorem execute_indifferent_split_line :
    let split : ProcessRun := { output := [[0x61], [0x2E, 0x63, 0x0A]], errors := [[0x21]] }
    let whole : ProcessRun := { output := [[0x61, 0x2E, 0x63, 0x0A]], errors := [[], [0x21]] }
    split.SameStreams whole ∧
      (execute (some split) ["find"] true { output := some .closed, errors := some .closed }).1 =
        (execute (some whole) ["find"] true { errors := some .unflushable }).1 ∧
      (execute (some whole) ["find"] true {}).1.found = [[0x61, 0x2E, 0x63]] := by
  intro split whole
  have same : split.SameStreams whole := by constructor <;> rfl
  have indifferent := execute_indifferent (some whole) ["find"] true { errors := some .unflushable }
  have reversed : whole.SameStreams split := by constructor <;> rfl
  exact ⟨same, indifferent.1 (some split) _ (.some reversed), by decide⟩

end FileSearch
