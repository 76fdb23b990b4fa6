import FileSearch.Proofs.Files.Access
import FileSearch.Proofs.Search.Execution

/-!
# Outcomes of searches

The search of a specification gives the paths that its command prints, less those that narrowing
down by contents drops, and writes just these.
-/

set_option autoImplicit false

namespace FileSearch.Specification

/-! ## Narrowing down -/

/-- Narrowing down by contents drops a path: the search asks for it, and the path leads to a regular
file that is binary without counting as text, that cannot be read, or that is not what the
specification looks for. -/
def Drops (specification : Specification) (options : SearchOptions) (files : FileTree)
    (path : Path) : Prop :=
  options.filterContent = true ∧ specification.readsContents = true ∧ files.hasFile path = true ∧
    (specification.text.treatBinaryAsText = false ∧ files.isBinary path = true ∨
      (∃ error, files.read path = .error error) ∨
      ∃ contents, files.read path = .ok contents ∧
        specification.acceptsContents contents.toTextLossy = false)

theorem acceptsFile_eq_false_iff (specification : Specification) (files : FileTree) (path : Path) :
    specification.acceptsFile files path = false ↔
      specification.text.treatBinaryAsText = false ∧ files.isBinary path = true ∨
        (∃ error, files.read path = .error error) ∨
        ∃ contents, files.read path = .ok contents ∧
          specification.acceptsContents contents.toTextLossy = false := by
  cases read : files.read path with
  | error error => simp [acceptsFile, FileTree.readLossy, read, Except.map]
  | ok contents =>
      cases counted : specification.text.treatBinaryAsText <;>
        cases binary : files.isBinary path <;>
          simp [acceptsFile, FileTree.readLossy, read, Except.map, counted, binary]

/-- A search that reads contents drops a file that may not be read, whatever it holds. -/
theorem drops_of_no_access {specification : Specification} {options : SearchOptions}
    {files : FileTree} {path : Path} {location : Location} {contents : Bytes} {executable : Bool}
    (asked : options.filterContent = true) (reads : specification.readsContents = true)
    (located : files.locate true path = .ok location)
    (found : files.node? location = some (.file contents executable .none)) :
    specification.Drops options files path := by
  obtain ⟨isFile, refused⟩ := FileTree.read_of_no_access located found
  exact ⟨asked, reads, isFile, .inr (.inl ⟨_, refused⟩)⟩

/-- What remains of a list of matches are those that narrowing down does not drop. -/
theorem exists_found_refine (specification : Specification) (options : SearchOptions)
    (files : FileTree) (result : SearchResult) :
    ∃ keeps : Path → Bool, (∀ path, keeps path = false ↔ specification.Drops options files path) ∧
      (specification.refine options files result).found = result.found.filter keeps := by
  -- What is no regular file, a directory or a path that is gone, passes without being read.
  refine ⟨fun path => !(options.filterContent && specification.readsContents) ||
    (!files.hasFile path || specification.acceptsFile files path), ?_, ?_⟩
  · intro path
    rw [Drops, ← acceptsFile_eq_false_iff]
    simp [and_assoc]
  · rw [refine]
    split
    · next narrowed => simp [narrowed, filterPaths]
    · next whole =>
        rw [Bool.not_eq_true] at whole
        exact (List.filter_eq_self.mpr fun path _ => by simp [whole]).symm

/-! ## Results -/

section

variable (specification : Specification) (options : SearchOptions) (program : String)
  (run? : Option ProcessRun) (files : FileTree) (sinks : Sinks)

theorem searchCommand_ne_nil : specification.searchCommand options program ≠ [] :=
  List.cons_ne_nil _ _

/-- The command's own result stays without capture and after a cancellation. Otherwise it is
narrowed down. -/
theorem result_conclude :
    (specification.conclude options program run? files sinks).1 = (
      let result :=
        (execute run? (specification.searchCommand options program) options.capture sinks).1
      if !options.capture || result.cancelled then result
      else specification.refine options files result) := by
  unfold conclude
  dsimp only
  split <;> rfl

theorem command_conclude :
    (specification.conclude options program run? files sinks).1.command =
      specification.searchCommand options program := by
  have kept (result : SearchResult) :
      (specification.refine options files result).command = result.command := by
    unfold refine
    split <;> rfl
  rw [result_conclude]
  dsimp only
  split
  · exact command_execute options.capture sinks
  · rw [kept]
    exact command_execute options.capture sinks

/-- A search whose command gives no match has none. -/
theorem found_conclude_eq_nil
    (nothing : (execute run? (specification.searchCommand options program) options.capture
      sinks).1.found = []) :
    (specification.conclude options program run? files sinks).1.found = [] := by
  rw [result_conclude]
  dsimp only
  split
  · exact nothing
  · obtain ⟨keeps, -, found⟩ := specification.exists_found_refine options files
      (execute run? (specification.searchCommand options program) options.capture sinks).1
    rw [found, nothing, List.filter_nil]

theorem exists_found_conclude {run : ProcessRun} (started : run? = some run)
    (capture : options.capture = true) (going : run.cancelled = false)
    (known : run.ending ≠ .unknown) :
    ∃ keeps : Path → Bool, (∀ path, keeps path = false ↔ specification.Drops options files path) ∧
      (specification.conclude options program run? files sinks).1.found =
        (Path.ofLines run.output.flatten).filter keeps := by
  subst started
  have named := specification.searchCommand_ne_nil options program
  have notCancelled : (execute (some run) (specification.searchCommand options program) true
      sinks).1.cancelled = false := by
    rw [← Bool.not_eq_true, cancelled_execute_iff true sinks named]
    rintro ⟨_, same, cancelled, -⟩
    cases same
    rw [going] at cancelled
    cases cancelled
  obtain ⟨keeps, drops, found⟩ := specification.exists_found_refine options files
    (execute (some run) (specification.searchCommand options program) true sinks).1
  refine ⟨keeps, drops, ?_⟩
  rw [result_conclude, capture]
  simp only [notCancelled, Bool.not_true, Bool.or_self, Bool.false_eq_true, if_false]
  rw [found, found_execute sinks named going known]

/-- The destinations have no part in the result of a search. -/
theorem result_conclude_eq (others : Sinks) :
    (specification.conclude options program run? files others).1 =
      (specification.conclude options program run? files sinks).1 := by
  have same : Option.Rel ProcessRun.SameStreams run? run? := by
    cases run? with
    | none => exact .none
    | some run => exact .some ⟨rfl, rfl, rfl, rfl⟩
  rw [result_conclude, result_conclude, execute_result_eq options.capture sinks others same]

/-! ## Destinations -/

/-- The lines of matches, in the writes that a search makes of them. -/
theorem flatten_lines (paths : List Path) :
    (paths.flatMap fun path => [path, [Path.lineEnd]]).flatten = Path.toLines paths := by
  induction paths with
  | nil => rfl
  | cons path rest ih => simp_all [Path.toLines]

theorem output_conclude (capture : options.capture = true) :
    (specification.conclude options program run? files sinks).2.output =
      if (execute run? (specification.searchCommand options program) true sinks).1.cancelled then
        sinks.output
      else sinks.output.map fun sink => (sink.forward
        ((specification.conclude options program run? files sinks).1.found.flatMap
          fun path => [path, [Path.lineEnd]])).2 := by
  rw [result_conclude]
  unfold conclude
  simp only [capture, Bool.not_true, Bool.false_or]
  split
  · exact output_execute_capture sinks
  · rw [output_execute_capture]

/-- A destination that refuses nothing receives the matches, each with a line end behind it. -/
theorem received_conclude (capture : options.capture = true)
    (going : ∀ run, run? = some run → run.cancelled = false) {sink : Sink}
    (present : sinks.output = some sink) (accepts : sink.Accepts) :
    ∃ final, (specification.conclude options program run? files sinks).2.output = some final ∧
      final.received = sink.received ++ Path.toLines
        (specification.conclude options program run? files sinks).1.found := by
  have notCancelled : ¬ (execute run? (specification.searchCommand options program) true
      sinks).1.cancelled = true := by
    rw [cancelled_execute_iff true sinks (specification.searchCommand_ne_nil options program)]
    rintro ⟨run, same, cancelled, -⟩
    rw [going run same] at cancelled
    cases cancelled
  rw [output_conclude specification options program run? files sinks capture,
    if_neg notCancelled, present]
  refine ⟨_, rfl, ?_⟩
  obtain ⟨bytes, gets, received⟩ := sink.takes_forward
    ((specification.conclude options program run? files sinks).1.found.flatMap
      fun path => [path, [Path.lineEnd]])
  rw [received, gets.eq_flatten accepts, flatten_lines]

theorem output_conclude_of_cancelled {run : ProcessRun} (started : run? = some run)
    (capture : options.capture = true) (cancelled : run.cancelled = true) :
    (specification.conclude options program run? files sinks).2.output = sinks.output := by
  have nothing := specification.found_conclude_eq_nil options program run? files sinks
    (found_execute_eq_nil options.capture sinks (.inr (.inr ⟨run, started, .inl cancelled⟩)))
  rw [output_conclude specification options program run? files sinks capture, nothing]
  split
  · rfl
  · exact Option.map_id'

end

/-- The result of a search is about the command of its specification. Its matches are those that the
command prints, less those that narrowing down drops, and just these are written. -/
theorem search_outcome (specification : Specification) (options : SearchOptions) (program : String)
    (programs : Programs) (tree : FileTree) (sinks : Sinks) :
    let command := (specification.command options.includeActions program).arguments
    let run? := (programs command tree).1
    let files := (programs command tree).2
    let outcome := specification.search options program programs tree sinks
    outcome.1.command = command ∧
    (options.capture = false ∨ run? = none ∨
        (∃ run, run? = some run ∧ (run.cancelled = true ∨ run.ending = .unknown)) →
      outcome.1.found = []) ∧
    (∀ run, run? = some run → options.capture = true → run.cancelled = false →
      run.ending ≠ .unknown →
      ∃ keeps : Path → Bool,
        (∀ path, keeps path = false ↔ specification.Drops options files path) ∧
          outcome.1.found = (Path.ofLines run.output.flatten).filter keeps) ∧
    (options.capture = true → (∀ run, run? = some run → run.cancelled = false) →
      ∀ sink, sinks.output = some sink → sink.Accepts →
        ∃ final, outcome.2.1.output = some final ∧
          final.received = sink.received ++ Path.toLines outcome.1.found) ∧
    (∀ run, run? = some run → options.capture = true → run.cancelled = true →
      outcome.2.1.output = sinks.output) ∧
    ∀ others : Sinks,
      (specification.search options program programs tree others).1 = outcome.1 := by
  intro command run? files outcome
  refine ⟨specification.command_conclude options program run? files sinks, ?_, ?_, ?_, ?_, ?_⟩
  · intro nothing
    exact specification.found_conclude_eq_nil options program run? files sinks
      (found_execute_eq_nil options.capture sinks nothing)
  · intro run started capture going known
    exact specification.exists_found_conclude options program run? files sinks started capture
      going known
  · intro capture going sink present accepts
    exact specification.received_conclude options program run? files sinks capture going present
      accepts
  · intro run started capture cancelled
    exact specification.output_conclude_of_cancelled options program run? files sinks started
      capture cancelled
  · intro others
    exact specification.result_conclude_eq options program run? files sinks others

end FileSearch.Specification
