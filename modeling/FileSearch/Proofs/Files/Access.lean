import FileSearch.Proofs.Files.Tree
import FileSearch.Proofs.Text.Bytes

/-!
# Files in directories

A name in a directory leads to what stands there under that name, whatever the path of the directory
looks like. A directory that is missing is made where its path leads.
-/

set_option autoImplicit false

namespace FileSearch

open FileSearch.Path (slash point names steps withoutSlashes IsName)

/-- Paths that can be looked up at all. -/
structure Path.IsPossible (path : Path) : Prop where
  ne_nil : path ≠ []
  nul_notMem : 0 ∉ path
  short : path.length ≤ FileTree.maxPath

namespace FileTree

variable {tree other : FileTree} {place location : Location} {followLast : Bool} {path base : Path}
  {name : Bytes}

/-- The location that a path begins at. -/
def start (tree : FileTree) (path : Path) : Location :=
  if path.isAbsolute then [] else tree.workingDirectory

/-! ## Locations of paths -/

theorem locate_eq_walk (possible : path.IsPossible) :
    tree.locate followLast path = tree.walk followLast maxLinks (tree.start path) path.steps := by
  have textual : path.contains 0 = false := by simpa using possible.nul_notMem
  rw [locate, textual, if_neg Bool.false_ne_true, if_neg (by simpa using possible.ne_nil),
    if_neg (Nat.not_lt.mpr possible.short), start]

theorem isPossible_of_locate (located : tree.locate followLast path = .ok location) :
    path.IsPossible := by
  unfold locate at located
  split at located
  · cases located
  · next textual =>
      split at located
      · cases located
      · next solid =>
          split at located
          · cases located
          · next short => exact ⟨by simpa using solid, by simpa using textual, by omega⟩

theorem exists_leads_of_locate (located : tree.locate followLast path = .ok location) :
    ∃ left, tree.Leads followLast maxLinks (tree.start path) path.steps left location := by
  rw [locate_eq_walk (isPossible_of_locate located)] at located
  exact exists_leads_of_walk located

theorem locate_mono (opens : tree.Opens other)
    (located : tree.locate followLast path = .ok location) :
    other.locate followLast path = .ok location := by
  obtain ⟨left, leads⟩ := exists_leads_of_locate located
  rw [locate_eq_walk (isPossible_of_locate located), start, opens.workingDirectory]
  exact (leads.mono opens).walk

/-- The names in the path of a directory lead there without the step in place at its end. -/
theorem exists_leads_names (located : tree.locate true path = .ok place) :
    ∃ left, tree.Leads true maxLinks (tree.start path) path.names left place := by
  obtain ⟨left, leads⟩ := exists_leads_of_locate located
  rcases Path.steps_eq_or path with unclosed | closed
  · exact ⟨left, unclosed ▸ leads⟩
  · rw [closed] at leads
    exact ⟨left, leads.of_append_point.1⟩

/-- A path that leads to no link leads there with slashes behind it, if there is a directory. -/
theorem exists_leads_names_of_withoutSlashes
    (located : tree.locate false path.withoutSlashes = .ok place)
    (noLink : ∀ target, tree.node? place ≠ some (.link target)) :
    ∃ left, tree.Leads true maxLinks (tree.start path) path.names left place := by
  obtain ⟨left, leads⟩ := exists_leads_of_locate located
  have solid := (isPossible_of_locate located).ne_nil
  rw [Path.steps_withoutSlashes, start, Path.isAbsolute_withoutSlashes solid] at leads
  exact ⟨left, leads.followed noLink⟩

theorem isPossible_of_withoutSlashes (possible : path.withoutSlashes.IsPossible)
    (short : path.length ≤ maxPath) : path.IsPossible := by
  obtain ⟨slashes, split, allSlashes⟩ := Path.exists_eq_withoutSlashes_append path
  refine ⟨?_, ?_, short⟩
  · intro empty
    rw [empty] at possible
    exact possible.ne_nil rfl
  · intro member
    rw [split] at member
    rcases List.mem_append.mp member with front | back
    · exact possible.nul_notMem front
    · exact absurd (allSlashes 0 back) (by decide)

theorem isPossible_withoutSlashes (possible : path.IsPossible) (solid : path.withoutSlashes ≠ []) :
    path.withoutSlashes.IsPossible := by
  obtain ⟨slashes, split, -⟩ := Path.exists_eq_withoutSlashes_append path
  have textual := possible.nul_notMem
  have short := possible.short
  rw [split] at textual short
  rw [List.length_append] at short
  exact ⟨solid, fun member => textual (List.mem_append_left _ member), by omega⟩

/-- With slashes behind it, a path takes at most one step more, in place. -/
theorem locate_eq_or_of_withoutSlashes (located : tree.locate false path.withoutSlashes = .ok place)
    (noLink : ∀ target, tree.node? place ≠ some (.link target)) (short : path.length ≤ maxPath) :
    tree.locate followLast path = .ok place ∨
      ∃ left, tree.locate followLast path = tree.walk followLast left place [[point]] := by
  have possible := isPossible_of_withoutSlashes (isPossible_of_locate located) short
  have solid := (isPossible_of_locate located).ne_nil
  obtain ⟨left, leads⟩ := exists_leads_of_locate located
  rw [Path.steps_withoutSlashes, start, Path.isAbsolute_withoutSlashes solid] at leads
  have followed := leads.followed noLink
  rw [locate_eq_walk possible]
  rcases Path.steps_eq_or path with unclosed | closed
  · rw [unclosed]
    cases followLast with
    | true => exact .inl followed.walk
    | false => exact .inl leads.walk
  · rw [closed]
    exact .inr ⟨left, followed.walk_append (List.cons_ne_nil _ _)⟩

theorem locate_of_withoutSlashes (located : tree.locate false path.withoutSlashes = .ok place)
    (inside : tree.node? place = some .directory) (short : path.length ≤ maxPath) :
    tree.locate followLast path = .ok place := by
  rcases locate_eq_or_of_withoutSlashes located (by simp [inside]) short with found | ⟨left, more⟩
  · exact found
  · rw [more, walk_here inside, walk]

theorem locate_of_missing (followLast : Bool)
    (located : tree.locate false path.withoutSlashes = .ok place)
    (missing : tree.node? place = none) (short : path.length ≤ maxPath) :
    tree.locate followLast path = .ok place ∨
      tree.locate followLast path = .error .notFound := by
  rcases locate_eq_or_of_withoutSlashes located (by simp [missing]) short with found | ⟨left, more⟩
  · exact .inl found
  · rw [more, walk_missing missing]
    exact .inr rfl

/-! ## Names in directories -/

theorem isPossible_join (possible : base.IsPossible) (isName : IsName name)
    (short : (base.join name).length ≤ maxPath) : (base.join name).IsPossible :=
  ⟨Path.join_ne_nil possible.ne_nil isName, Path.nul_notMem_join possible.nul_notMem isName, short⟩

private theorem locate_join_eq (possible : base.IsPossible) (isName : IsName name)
    (short : (base.join name).length ≤ maxPath) {left : Nat}
    (leads : tree.Leads true maxLinks (tree.start base) base.names left place) :
    tree.locate followLast (base.join name) = tree.walk followLast left place [name] := by
  rw [locate_eq_walk (isPossible_join possible isName short),
    Path.steps_join possible.ne_nil isName, start, Path.isAbsolute_join possible.ne_nil isName]
  exact leads.walk_append (List.cons_ne_nil _ _)

theorem locate_join (located : tree.locate true base = .ok place)
    (inside : tree.node? place = some .directory) (isName : IsName name)
    (shortName : name.length ≤ maxName) (short : (base.join name).length ≤ maxPath)
    (noLink : ∀ target, tree.node? (place ++ [name]) ≠ some (.link target)) :
    tree.locate followLast (base.join name) = .ok (place ++ [name]) := by
  obtain ⟨left, leads⟩ := exists_leads_names located
  rw [locate_join_eq (isPossible_of_locate located) isName short leads,
    walk_down inside ⟨isName.ne_point, isName.ne_points, shortName⟩ noLink, walk]

theorem locate_name (inside : tree.node? tree.workingDirectory = some .directory)
    (isName : IsName name) (short : name.length ≤ maxName)
    (noLink : ∀ target, tree.node? (tree.workingDirectory ++ [name]) ≠ some (.link target)) :
    tree.locate followLast name = .ok (tree.workingDirectory ++ [name]) := by
  have shortPath : name.length ≤ maxPath := short.trans (by decide)
  rw [locate_eq_walk ⟨isName.ne_nil, isName.nul_notMem, shortPath⟩, start, isName.isAbsolute,
    if_neg Bool.false_ne_true, Path.steps_of_getLast? isName.getLast?_ne, isName.names,
    walk_down inside ⟨isName.ne_point, isName.ne_points, short⟩ noLink, walk]

theorem locate_join_of_missing (located : tree.locate false base.withoutSlashes = .ok place)
    (missing : tree.node? place = none) (isName : IsName name)
    (short : (base.join name).length ≤ maxPath) (shortBase : base.length ≤ maxPath) :
    tree.locate followLast (base.join name) = .error .notFound := by
  obtain ⟨left, leads⟩ := exists_leads_names_of_withoutSlashes located (by simp [missing])
  have possible := isPossible_of_withoutSlashes (isPossible_of_locate located) shortBase
  rw [locate_join_eq possible isName short leads, walk_missing missing]

/-! ## Files -/

theorem readText_of_text {text : String} {executable : Bool}
    (located : tree.locate true path = .ok location)
    (found : tree.node? location = some (.file (Bytes.ofText text) executable)) :
    tree.readText path = .ok text := by
  simp only [readText, read, located, found, bind, Except.bind, pure, Except.pure,
    Bytes.toText?_ofText]

theorem readText_of_missing (located : tree.locate true path = .ok location)
    (missing : tree.node? location = none) : tree.readText path = .error .notFound := by
  simp only [readText, read, located, missing, bind, Except.bind]
  rfl

theorem readText_of_locate_error {error : FileError}
    (failed : tree.locate true path = .error error) : tree.readText path = .error error := by
  simp only [readText, read, failed, bind, Except.bind]

theorem hasFile_of_locate (located : tree.locate true path = .ok location) :
    tree.hasFile path = true ↔
      ∃ contents executable access,
        tree.node? location = some (.file contents executable access) := by
  rw [hasFile, find?, located]
  dsimp only
  split
  · next contents executable access found =>
      exact ⟨fun _ => ⟨contents, executable, access, found⟩, fun _ => rfl⟩
  · next noFile =>
      constructor
      · intro hasFile
        cases hasFile
      · rintro ⟨contents, executable, access, found⟩
        exact absurd found (noFile contents executable access)

/-- A file without permissions is a file, but it cannot be read. -/
theorem read_of_no_access {contents : Bytes} {executable : Bool}
    (located : tree.locate true path = .ok location)
    (found : tree.node? location = some (.file contents executable .none)) :
    tree.hasFile path = true ∧ tree.read path = .error .permissionDenied := by
  refine ⟨(hasFile_of_locate located).mpr ⟨contents, executable, .none, found⟩, ?_⟩
  simp only [read, located, found, bind, Except.bind]
  rfl

theorem exists_write (located : tree.locate true path = .ok location)
    (aside : IsAside (tree.node? location)) (contents : Bytes) :
    ∃ executable, tree.write path contents =
      .ok (tree.insert location (.file contents executable)) := by
  rcases aside with missing | ⟨before, executable, found⟩
  · refine ⟨false, ?_⟩
    simp only [write, located, missing, bind, Except.bind]
    rfl
  · refine ⟨executable, ?_⟩
    simp only [write, located, found, bind, Except.bind]
    rfl

theorem remove_of_file {contents : Bytes} {executable : Bool}
    (located : tree.locate false path = .ok location)
    (found : tree.node? location = some (.file contents executable)) :
    tree.remove path = .ok (tree.erase location) := by
  simp only [remove, located, found, bind, Except.bind]
  rfl

theorem remove_of_missing (located : tree.locate false path = .ok location)
    (missing : tree.node? location = none) : tree.remove path = .error .notFound := by
  simp only [remove, located, missing, bind, Except.bind]
  rfl

theorem remove_of_locate_error {error : FileError}
    (failed : tree.locate false path = .error error) : tree.remove path = .error error := by
  simp only [remove, failed, bind, Except.bind]

theorem list_of_directory (located : tree.locate true path = .ok place)
    (inside : tree.node? place = some .directory) : tree.list path = .ok (tree.children place) := by
  simp only [list, located, inside, bind, Except.bind]
  rfl

theorem list_of_missing (located : tree.locate false path.withoutSlashes = .ok place)
    (missing : tree.node? place = none) (short : path.length ≤ maxPath) :
    tree.list path = .error .notFound := by
  rcases locate_of_missing true located missing short with nowhere | failed
  · simp only [list, nowhere, missing, bind, Except.bind]
    rfl
  · simp only [list, failed, bind, Except.bind]

/-! ## Making directories -/

/-- The path that a directory is made at: without the slashes at its end, unless it has nothing
else. -/
theorem makeDirectory_eq (tree : FileTree) (path : Path) :
    tree.makeDirectory path =
      (tree.locate false (if path.withoutSlashes.isEmpty then path else path.withoutSlashes)).bind
        fun location =>
          if (tree.node? location).isSome then .error .alreadyExists
          else .ok (tree.insert location .directory) := by
  rw [makeDirectory]
  change Except.bind _ _ = Except.bind _ _
  congr 1

theorem makeDirectory_of_directory (located : tree.locate true path = .ok place)
    (inside : tree.node? place = some .directory) :
    tree.makeDirectory path = .error .alreadyExists := by
  have possible := isPossible_of_locate located
  have found : (tree.node? place).isSome = true := by rw [inside, Option.isSome_some]
  -- A path of slashes alone is looked up as it is.
  obtain ⟨last, locatedLast, foundLast⟩ : ∃ last, tree.locate false
      (if path.withoutSlashes.isEmpty then path else path.withoutSlashes) = .ok last ∧
        (tree.node? last).isSome = true := by
    split
    · obtain ⟨left, leads⟩ := exists_leads_of_locate located
      obtain ⟨_, last, leadsLast, foundLast⟩ := leads.unfollowed found
      exact ⟨last, by rw [locate_eq_walk possible, leadsLast.walk], foundLast⟩
    · next solid =>
        have nonempty : path.withoutSlashes ≠ [] := by simpa using solid
        obtain ⟨left, leads⟩ := exists_leads_names located
        obtain ⟨_, last, leadsLast, foundLast⟩ := leads.unfollowed found
        refine ⟨last, ?_, foundLast⟩
        rw [locate_eq_walk (isPossible_withoutSlashes possible nonempty),
          Path.steps_withoutSlashes, start, Path.isAbsolute_withoutSlashes nonempty]
        exact leadsLast.walk
  rw [makeDirectory_eq, locatedLast]
  simp only [Except.bind, foundLast, if_true]

theorem ensureDirectory_of_directory (located : tree.locate true path = .ok place)
    (inside : tree.node? place = some .directory) :
    tree.ensureDirectory path = (.ok (), tree) := by
  have hasDirectory : tree.hasDirectory path = true := by
    rw [FileTree.hasDirectory, find?, located]
    exact beq_iff_eq.mpr inside
  rw [ensureDirectory, makeDirectories]
  split
  · rfl
  · rw [makeDirectory_of_directory located inside]
    simp only [hasDirectory, if_true]

theorem eq_nil_of_leads_points {links left : Nat} {reached : Location} {steps : List Bytes}
    (leads : tree.Leads followLast links [] steps left reached)
    (points : ∀ name ∈ steps, name = [point]) : reached = [] := by
  induction steps with
  | nil =>
      cases leads
      rfl
  | cons name rest ih =>
      obtain ⟨rfl, others⟩ := List.forall_mem_cons.mp points
      cases leads with
      | here _ leads => exact ih leads others
      | down _ isDown _ _ => exact absurd rfl isDown.ne_point
      | follow _ isDown _ _ _ => exact absurd rfl isDown.ne_point
      | halt _ isDown _ _ => exact absurd rfl isDown.ne_point

theorem ensureDirectory_of_missing (located : tree.locate false path.withoutSlashes = .ok place)
    (missing : tree.node? place = none) :
    tree.ensureDirectory path = (.ok (), tree.insert place .directory) := by
  have solid := (isPossible_of_locate located).ne_nil
  have made : tree.makeDirectory path = .ok (tree.insert place .directory) := by
    rw [makeDirectory_eq, if_neg (by simpa using solid), located]
    simp only [Except.bind, missing, Option.isSome_none, Bool.false_eq_true, if_false]
  -- Without a parent the path would lead to the root, which is never missing.
  have hasParent : path.parent? ≠ none := by
    intro topmost
    rcases Path.of_parent?_eq_none topmost with rfl | ⟨absolute, points⟩
    · exact solid rfl
    · obtain ⟨left, leads⟩ := exists_leads_names_of_withoutSlashes located (by simp [missing])
      rw [start, if_pos absolute] at leads
      rw [eq_nil_of_leads_points leads points, node?_root] at missing
      cases missing
  rw [ensureDirectory, makeDirectories]
  split
  · next topmost => exact absurd topmost hasParent
  · rw [made]

end FileTree

end FileSearch
