import FileSearch.Proofs.Files.Access

/-!
# What operations on files change

A file that is written stands where its path leads, and the path leads there afterwards. Making a
directory changes nothing but places on the way of its path where nothing has been.
-/

set_option autoImplicit false

namespace FileSearch

open FileSearch.Path (slash point names steps withoutSlashes IsName)

/-- A path and the paths of the directories above it. -/
inductive Path.IsAbove (path : Path) : Path → Prop where
  | self : IsAbove path path
  | parent {above parent : Path} : IsAbove path above → above.parent? = some parent →
      IsAbove path parent

namespace Path

theorem IsAbove.of_parent {path parent above : Path} (isParent : path.parent? = some parent)
    (isAbove : parent.IsAbove above) : path.IsAbove above := by
  induction isAbove with
  | self => exact .parent .self isParent
  | parent _ further ih => exact .parent ih further

theorem steps_join_isName (base : Path) {name : Bytes} (isName : IsName name) :
    steps (base.join name) = names base ++ [name] := by
  cases base with
  | nil =>
      have joined : Path.join [] name = name := by
        rw [join, List.isEmpty_nil, Bool.or_true, if_pos rfl]
      rw [joined, steps_of_getLast? isName.getLast?_ne, isName.names, names_nil, List.nil_append]
  | cons c rest => exact steps_join (List.cons_ne_nil c rest) isName

theorem isAbsolute_join_isName (base : Path) {name : Bytes} (isName : IsName name) :
    isAbsolute (base.join name) = isAbsolute base := by
  cases base with
  | nil =>
      rw [join, List.isEmpty_nil, Bool.or_true, if_pos rfl, isName.isAbsolute]
      rfl
  | cons c rest => exact isAbsolute_join (List.cons_ne_nil c rest) isName

end Path

namespace FileTree

variable {tree other : FileTree} {place location : Location} {followLast : Bool} {path base : Path}
  {name : Bytes}

/-! ## Ends of ways -/

/-- A way passes a place before its last steps, and a link there is followed. -/
theorem Leads.split {links left : Nat} {reached : Location} {front back : List Bytes}
    (leads : tree.Leads followLast links place (front ++ back) left reached) (more : back ≠ []) :
    ∃ between middle, tree.Leads true links place front between middle ∧
      tree.Leads followLast between middle back left reached := by
  generalize whole : front ++ back = steps at leads
  induction leads generalizing front with
  | done => exact absurd (List.append_eq_nil_iff.mp whole).2 more
  | here inside leads ih =>
      cases front with
      | nil =>
          obtain rfl : back = _ := whole
          exact ⟨_, _, .done, .here inside leads⟩
      | cons first rest =>
          obtain ⟨rfl, rfl⟩ := List.cons.inj whole
          obtain ⟨between, middle, before, behind⟩ := ih rfl
          exact ⟨between, middle, .here inside before, behind⟩
  | up inside leads ih =>
      cases front with
      | nil =>
          obtain rfl : back = _ := whole
          exact ⟨_, _, .done, .up inside leads⟩
      | cons first rest =>
          obtain ⟨rfl, rfl⟩ := List.cons.inj whole
          obtain ⟨between, middle, before, behind⟩ := ih rfl
          exact ⟨between, middle, .up inside before, behind⟩
  | down inside isDown noLink leads ih =>
      cases front with
      | nil =>
          obtain rfl : back = _ := whole
          exact ⟨_, _, .done, .down inside isDown noLink leads⟩
      | cons first rest =>
          obtain ⟨rfl, rfl⟩ := List.cons.inj whole
          obtain ⟨between, middle, before, behind⟩ := ih rfl
          exact ⟨between, middle, .down inside isDown noLink before, behind⟩
  | follow inside isDown link onward leads ih =>
      cases front with
      | nil =>
          obtain rfl : back = _ := whole
          exact ⟨_, _, .done, .follow inside isDown link onward leads⟩
      | cons first rest =>
          obtain ⟨rfl, rfl⟩ := List.cons.inj whole
          obtain ⟨between, middle, before, behind⟩ := ih (List.append_assoc _ _ _)
          exact ⟨between, middle, .follow inside isDown link (Bool.and_false _) before, behind⟩
  | halt inside isDown link stops =>
      cases front with
      | nil =>
          obtain rfl : back = _ := whole
          exact ⟨_, _, .done, .halt inside isDown link stops⟩
      | cons first rest =>
          exact absurd (List.append_eq_nil_iff.mp (List.cons.inj whole).2).2 more

/-- A way along which all links are followed ends at a link only if it starts below it. -/
theorem Leads.prefix_of_link {links left : Nat} {reached : Location} {steps : List Bytes}
    (leads : tree.Leads true links place steps left reached) {target : Path}
    (link : tree.node? reached = some (.link target)) : reached <+: place := by
  induction leads with
  | done => exact List.prefix_refl _
  | here _ _ ih => exact ih link
  | up _ _ ih => exact (ih link).trans (List.dropLast_prefix _)
  | down _ _ noLink _ ih =>
      rcases List.prefix_concat_iff.mp (ih link) with same | within
      · exact absurd (same ▸ link) (noLink target)
      · exact within
  | @follow _ _ _ reached _ _ passed _ _ _ _ _ ih =>
      have within := ih link
      split at within
      · rw [List.prefix_nil.mp within, node?_root] at link
        cases link
      · exact within
  | halt _ _ _ stops => cases stops

/-- The names in a path lead to a place. An empty path stands for the working directory. -/
def LeadsTo (tree : FileTree) (path : Path) (place : Location) : Prop :=
  ∃ left, tree.Leads true maxLinks (tree.start path) path.names left place

theorem LeadsTo.mono (leadsTo : tree.LeadsTo path place) (opens : tree.Opens other) :
    other.LeadsTo path place := by
  obtain ⟨left, leads⟩ := leadsTo
  refine ⟨left, ?_⟩
  rw [start, opens.workingDirectory]
  exact leads.mono opens

/-- A name behind a path leads to what has the name in the directory of the path, or on from there
if that is a link. -/
theorem of_locate_join (isName : IsName name)
    (located : tree.locate followLast (base.join name) = .ok location) :
    ∃ place, tree.LeadsTo base place ∧ tree.node? place = some .directory ∧
      (location = place ++ [name] ∨
        followLast = true ∧ ∃ target, tree.node? (place ++ [name]) = some (.link target)) := by
  obtain ⟨left, leads⟩ := exists_leads_of_locate located
  rw [start, Path.isAbsolute_join_isName base isName, Path.steps_join_isName base isName] at leads
  obtain ⟨between, place, before, behind⟩ := leads.split (List.cons_ne_nil _ _)
  refine ⟨place, ⟨between, before⟩, ?_⟩
  cases behind with
  | here _ _ => exact absurd rfl isName.ne_point
  | up _ _ => exact absurd rfl isName.ne_points
  | down inside _ _ more =>
      cases more
      exact ⟨inside, .inl rfl⟩
  | follow inside _ link onward _ =>
      exact ⟨inside, .inr ⟨by simpa using onward, _, link⟩⟩
  | halt inside _ _ _ => exact ⟨inside, .inl rfl⟩

/-! ## Parents -/

theorem Leads.directory {links left : Nat} {reached : Location} {steps : List Bytes}
    (leads : tree.Leads followLast links place steps left reached) (more : steps ≠ []) :
    tree.node? place = some .directory := by
  cases leads with
  | done => exact absurd rfl more
  | here inside _ => exact inside
  | up inside _ => exact inside
  | down inside _ _ _ => exact inside
  | follow inside _ _ _ _ => exact inside
  | halt inside _ _ _ => exact inside

theorem LeadsTo.locate (leadsTo : tree.LeadsTo path place) (possible : path.IsPossible)
    (inside : tree.node? place = some .directory) : tree.locate true path = .ok place := by
  obtain ⟨left, leads⟩ := leadsTo
  rw [locate_eq_walk possible]
  rcases Path.steps_eq_or path with unclosed | closed
  · rw [unclosed]
    exact leads.walk
  · rw [closed, leads.walk_append (List.cons_ne_nil _ _), walk_here inside, walk]

/-- The parent of a path that leads anywhere is there already. -/
theorem ensureDirectory_parent (located : tree.locate followLast path = .ok location)
    {parent : Path} (isParent : path.parent? = some parent) :
    tree.ensureDirectory parent = (.ok (), tree) := by
  obtain ⟨⟨back, rfl⟩, continued⟩ := Path.exists_names_parent? isParent
  by_cases here : parent = []
  · rw [here]
    rfl
  · obtain ⟨more, names, onward⟩ := continued here
    have possible := isPossible_of_locate located
    have possibleParent : parent.IsPossible := by
      refine ⟨here, fun member => possible.nul_notMem (List.mem_append_left back member), ?_⟩
      have short := possible.short
      rw [List.length_append] at short
      omega
    obtain ⟨steps, split, ahead⟩ : ∃ steps, Path.steps (parent ++ back) = parent.names ++ steps ∧
        steps ≠ [] := by
      rcases Path.steps_eq_or (parent ++ back) with unclosed | closed
      · exact ⟨more, unclosed.trans names, onward⟩
      · refine ⟨more ++ [[point]], ?_, by simp⟩
        rw [closed, names, List.append_assoc]
    obtain ⟨left, leads⟩ := exists_leads_of_locate located
    rw [start, Path.isAbsolute_append here, split] at leads
    obtain ⟨between, place, before, behind⟩ := leads.split ahead
    have inside := behind.directory ahead
    exact ensureDirectory_of_directory (LeadsTo.locate ⟨between, before⟩ possibleParent inside)
      inside

/-! ## Written files -/

theorem Leads.insert_file {links left : Nat} {reached : Location} {steps : List Bytes}
    (leads : tree.Leads true links place steps left reached)
    (noDirectory : tree.node? reached ≠ some .directory) (contents : Bytes) (executable : Bool) :
    (tree.insert reached (.file contents executable)).Leads true links place steps left
      reached := by
  have below {location : Location} (found : tree.node? location = some .directory) :
      (tree.insert reached (.file contents executable)).node? location = some .directory := by
    by_cases root : location = []
    · rw [root, node?_root]
    · have apart : location ≠ reached := fun same => noDirectory (same ▸ found)
      rw [node?_insert _ _ _ root, if_neg apart, found]
  have child (place : Location) (name : Bytes) : place ++ [name] ≠ [] := by simp
  induction leads with
  | done => exact .done
  | here inside _ ih => exact .here (below inside) (ih noDirectory below)
  | up inside _ ih => exact .up (below inside) (ih noDirectory below)
  | @down _ _ place reached name _ inside isDown noLink _ ih =>
      refine .down (below inside) isDown ?_ (ih noDirectory below)
      intro target
      rw [node?_insert _ _ _ (child place name)]
      split
      · simp
      · exact noLink target
  | @follow _ _ place reached name _ target inside isDown link onward leads ih =>
      -- The end of the way is no link that the way has come through.
      have apart : place ++ [name] ≠ reached := by
        rintro rfl
        have within := leads.prefix_of_link link
        split at within
        · exact child place name (List.prefix_nil.mp within)
        · have long := within.length_le
          rw [List.length_append, List.length_singleton] at long
          omega
      refine .follow (below inside) isDown ?_ onward (ih noDirectory below)
      rw [node?_insert _ _ _ (child place name), if_neg apart, link]
  | halt _ _ _ stops => cases stops

theorem exists_of_write {contents : Bytes} {written : FileTree}
    (wrote : tree.write path contents = .ok written) :
    ∃ location executable, tree.locate true path = .ok location ∧
      tree.node? location ≠ some .directory ∧
      written = tree.insert location (.file contents executable) := by
  rw [write] at wrote
  cases located : tree.locate true path with
  | error error =>
      rw [located] at wrote
      cases wrote
  | ok location =>
      simp only [located, bind, Except.bind] at wrote
      cases found : tree.node? location with
      | none =>
          rw [found] at wrote
          cases wrote
          exact ⟨location, false, rfl, by simp [found], rfl⟩
      | some node =>
          rw [found] at wrote
          cases node with
          | directory => cases wrote
          | file before executable access =>
              -- Only a file with all permissions is written over.
              cases access with
              | none => cases wrote
              | reading => cases wrote
              | full =>
                  cases wrote
                  exact ⟨location, executable, rfl, by simp [found], rfl⟩
          | link target =>
              cases wrote
              exact ⟨location, false, rfl, by simp [found], rfl⟩

/-- What is written to a path is read from it. -/
theorem readText_of_write {text : String} {written : FileTree}
    (wrote : tree.write path (Bytes.ofText text) = .ok written) :
    written.readText path = .ok text := by
  obtain ⟨location, executable, located, noDirectory, rfl⟩ := exists_of_write wrote
  obtain ⟨left, leads⟩ := exists_leads_of_locate located
  have below : location ≠ [] := by
    rintro rfl
    exact noDirectory tree.node?_root
  have located' : (tree.insert location (.file (Bytes.ofText text) executable)).locate true path =
      .ok location := by
    rw [locate_eq_walk (isPossible_of_locate located)]
    exact (leads.insert_file noDirectory _ executable).walk
  have found : (tree.insert location (.file (Bytes.ofText text) executable)).node? location =
      some (.file (Bytes.ofText text) executable) := by
    rw [node?_insert _ _ _ below, if_pos rfl]
  exact readText_of_text located' found

/-! ## Directories that are made -/

/-- A directory is made where its path leads and nothing has been. -/
theorem exists_of_makeDirectory {made : FileTree} (makes : tree.makeDirectory path = .ok made) :
    ∃ location, tree.LeadsTo path location ∧ tree.node? location = none ∧
      made = tree.insert location .directory := by
  rw [makeDirectory_eq] at makes
  cases located : tree.locate false
      (if path.withoutSlashes.isEmpty then path else path.withoutSlashes) with
  | error error =>
      rw [located] at makes
      cases makes
  | ok location =>
      rw [located] at makes
      simp only [Except.bind] at makes
      cases missing : tree.node? location with
      | some node =>
          rw [missing] at makes
          cases makes
      | none =>
          rw [missing] at makes
          cases makes
          have noLink (target : Path) : tree.node? location ≠ some (.link target) := by
            simp [missing]
          refine ⟨location, ?_, missing, rfl⟩
          split at located
          · obtain ⟨left, leads⟩ := exists_leads_of_locate located
            have followed := leads.followed noLink
            rcases Path.steps_eq_or path with unclosed | closed
            · exact ⟨left, unclosed ▸ followed⟩
            · rw [closed] at followed
              exact ⟨left, followed.of_append_point.1⟩
          · exact exists_leads_names_of_withoutSlashes located noLink

/-- Making way for a path: where there was nothing, directories above the path are made, and nothing
else changes. -/
structure MakesWay (path : Path) (tree made : FileTree) : Prop where
  opens : tree.Opens made
  missing : ∀ location, made.node? location ≠ tree.node? location → tree.node? location = none
  directory : ∀ location, made.node? location ≠ tree.node? location →
    made.node? location = some .directory
  above : ∀ location, made.node? location ≠ tree.node? location →
    ∃ above, path.IsAbove above ∧ made.LeadsTo above location

namespace MakesWay

theorem refl (path : Path) (tree : FileTree) : MakesWay path tree tree where
  opens := ⟨id, fun _ => Iff.rfl, rfl⟩
  missing _ differs := absurd rfl differs
  directory _ differs := absurd rfl differs
  above _ differs := absurd rfl differs

theorem of_parent {parent : Path} {made : FileTree} (isParent : path.parent? = some parent)
    (makes : MakesWay parent tree made) : MakesWay path tree made where
  opens := makes.opens
  missing := makes.missing
  directory := makes.directory
  above location differs := by
    obtain ⟨above, isAbove, leadsTo⟩ := makes.above location differs
    exact ⟨above, isAbove.of_parent isParent, leadsTo⟩

theorem makeDirectory {between made : FileTree} (before : MakesWay path tree between)
    (makes : between.makeDirectory path = .ok made) : MakesWay path tree made := by
  obtain ⟨location, leadsTo, missing, rfl⟩ := exists_of_makeDirectory makes
  have below : location ≠ [] := by
    rintro rfl
    cases missing
  have opens : between.Opens (between.insert location .directory) :=
    opens_insert below (.inl missing) (by simp)
  have node?_eq (other : Location) : (between.insert location .directory).node? other =
      if other = location then some .directory else between.node? other := by
    by_cases root : other = []
    · rw [root, node?_root, node?_root, ite_self]
    · exact node?_insert between location .directory root
  have missingBefore : tree.node? location = none := by
    by_cases same : between.node? location = tree.node? location
    · rw [← same, missing]
    · exact before.missing location same
  refine ⟨?_, ?_, ?_, ?_⟩
  · constructor
    · exact fun inside => opens.directory (before.opens.directory inside)
    · intro place name target inside
      rw [opens.link (before.opens.directory inside), before.opens.link inside]
    · rw [opens.workingDirectory, before.opens.workingDirectory]
  · intro other differs
    rw [node?_eq] at differs
    split at differs
    · next same => rw [same, missingBefore]
    · exact before.missing other differs
  · intro other differs
    rw [node?_eq] at differs ⊢
    split at differs
    · next same => rw [if_pos same]
    · next apart => rw [if_neg apart, before.directory other differs]
  · intro other differs
    rw [node?_eq] at differs
    split at differs
    · next same => exact ⟨path, .self, (same ▸ leadsTo).mono opens⟩
    · obtain ⟨above, isAbove, leadsAbove⟩ := before.above other differs
      exact ⟨above, isAbove, leadsAbove.mono opens⟩

end MakesWay

theorem makesWay_makeDirectories (tree : FileTree) (fuel : Nat) (path : Path) :
    MakesWay path tree (tree.makeDirectories fuel path).2 := by
  induction fuel generalizing tree path with
  | zero => exact .refl path tree
  | succ fuel ih =>
      -- A failure is settled without a change.
      have settled {between : FileTree} (before : MakesWay path tree between)
          (error : FileError) :
          MakesWay path tree (if between.hasDirectory path then
            ((.ok () : Except FileError Unit), between) else (.error error, between)).2 := by
        split <;> exact before
      rw [makeDirectories]
      cases isParent : path.parent? with
      | none => exact .refl path tree
      | some parent =>
          dsimp only
          split
          · next made makes => exact (MakesWay.refl path tree).makeDirectory makes
          · split
            · exact .refl path tree
            · have before := (ih tree parent).of_parent isParent
              split
              · next above failed => exact failed ▸ before
              · next above reached =>
                  rw [reached] at before
                  split
                  · next made makes => exact before.makeDirectory makes
                  · exact settled before _
          · exact settled (.refl path tree) _

theorem makesWay_ensureDirectory (tree : FileTree) (path : Path) :
    MakesWay path tree (tree.ensureDirectory path).2 :=
  makesWay_makeDirectories tree (path.length + 1) path

end FileTree

end FileSearch
