import FileSearch.Proofs.Files.Access

/-!
# What the contents of files decide

Trees that differ in the contents of some files only. No way in them differs, and no operation, as
long as it does not read one of these files.
-/

set_option autoImplicit false

namespace FileSearch

open FileSearch.Path (point)

/-- What stands at one location of two trees that differ at most in the contents of files. -/
inductive Node.SameForm : Option Node → Option Node → Prop where
  | same {node? : Option Node} : SameForm node? node?
  | files {contents others : Bytes} {executable : Bool} {access : Access} :
      SameForm (some (.file contents executable access)) (some (.file others executable access))

namespace Node.SameForm

variable {node? other? : Option Node}

theorem eq_none_iff (same : SameForm node? other?) : node? = none ↔ other? = none := by
  cases same <;> simp

theorem isSome_eq (same : SameForm node? other?) : node?.isSome = other?.isSome := by
  cases same <;> rfl

theorem eq_directory_iff (same : SameForm node? other?) :
    node? = some .directory ↔ other? = some .directory := by
  cases same <;> simp

theorem eq_link_iff (same : SameForm node? other?) (target : Path) :
    node? = some (.link target) ↔ other? = some (.link target) := by
  cases same <;> simp

end Node.SameForm

namespace FileTree

variable {seen : Location → Prop} {tree other : FileTree} {followLast : Bool} {path : Path}

theorem walk_blocked {links : Nat} {place : Location} {name : Bytes} {rest : List Bytes}
    {node : Node} (found : tree.node? place = some node) (noDirectory : node ≠ .directory) :
    tree.walk followLast links place (name :: rest) = .error .notADirectory := by
  rw [walk.eq_def]
  cases node with
  | directory => exact absurd rfl noDirectory
  | file contents executable access => simp only [found]
  | link target => simp only [found]

theorem exists_children_of_list {names : List Bytes} (listed : tree.list path = .ok names) :
    ∃ place, names = tree.children place := by
  rw [list] at listed
  cases located : tree.locate true path with
  | error error =>
      rw [located] at listed
      cases listed
  | ok place =>
      simp only [located, bind, Except.bind] at listed
      split at listed
      · cases listed
        exact ⟨place, rfl⟩
      · cases listed
      · cases listed

/-- Trees that differ in nothing but the contents of files, and in those only where it is not
seen. -/
structure AgreesOn (seen : Location → Prop) (tree other : FileTree) : Prop where
  workingDirectory : tree.workingDirectory = other.workingDirectory
  sameForm : ∀ location, Node.SameForm (tree.node? location) (other.node? location)
  seen : ∀ location, seen location → tree.node? location = other.node? location

namespace AgreesOn

/-! ## Ways -/

theorem walk_eq (agrees : AgreesOn seen tree other) (links : Nat) (place : Location)
    (steps : List Bytes) :
    other.walk followLast links place steps = tree.walk followLast links place steps := by
  have inside {place : Location} (found : tree.node? place = some .directory) :
      other.node? place = some .directory :=
    (agrees.sameForm place).eq_directory_iff.mp found
  have link {place : Location} {target : Path} (found : tree.node? place = some (.link target)) :
      other.node? place = some (.link target) :=
    ((agrees.sameForm place).eq_link_iff target).mp found
  fun_induction FileTree.walk tree followLast links place steps with
  | case1 => rw [FileTree.walk]
  | case2 links place name rest missing =>
      rw [walk_missing ((agrees.sameForm place).eq_none_iff.mp missing)]
  | case3 links place name rest found here ih =>
      obtain rfl := beq_iff_eq.mp here
      rw [walk_here (inside found), ih]
  | case4 links place name rest found _ up ih =>
      obtain rfl := beq_iff_eq.mp up
      rw [walk_up (inside found), ih]
  | case5 links place name rest found notHere notUp long =>
      rw [FileTree.walk.eq_def]
      simp only [inside found, notHere, notUp, long, if_true, Bool.false_eq_true, if_false]
  | case6 place name rest found notHere notUp short target links linked stops =>
      rw [Bool.and_eq_true, List.isEmpty_iff, Bool.not_eq_true'] at stops
      obtain ⟨rfl, rfl⟩ := stops
      have isDown : IsDown name := ⟨by simpa using notHere, by simpa using notUp, by omega⟩
      rw [walk_halt (inside found) isDown (link linked)]
  | case7 place name rest found notHere notUp short target linked onward =>
      rw [FileTree.walk.eq_def]
      simp only [inside found, link linked, notHere, notUp, short, onward, Bool.false_eq_true,
        if_false]
  | case8 place name rest found notHere notUp short target linked onward links ih =>
      have isDown : IsDown name := ⟨by simpa using notHere, by simpa using notUp, by omega⟩
      rw [walk_follow (inside found) isDown (link linked) (by simpa using onward)]
      exact ih
  | case9 place name rest found notHere notUp short links noLink ih =>
      have isDown : IsDown name := ⟨by simpa using notHere, by simpa using notUp, by omega⟩
      have noLinkOther (target : Path) : other.node? (place ++ [name]) ≠ some (.link target) :=
        fun linked => noLink target (((agrees.sameForm _).eq_link_iff target).mpr linked)
      rw [walk_down (inside found) isDown noLinkOther, ih]
  | case10 links place name rest node noDirectory found =>
      obtain ⟨node, foundOther⟩ : ∃ node, other.node? place = some node := by
        rw [← Option.isSome_iff_exists, ← (agrees.sameForm place).isSome_eq, found]
        rfl
      have noDirectoryOther : node ≠ .directory := by
        rintro rfl
        have same := (agrees.sameForm place).eq_directory_iff.mpr foundOther
        rw [found, Option.some.injEq] at same
        exact noDirectory same
      rw [walk_blocked foundOther noDirectoryOther]

theorem locate_eq (agrees : AgreesOn seen tree other) (followLast : Bool) (path : Path) :
    other.locate followLast path = tree.locate followLast path := by
  rw [locate, locate, agrees.workingDirectory, agrees.walk_eq]

/-! ## Reading -/

theorem find?_sameForm (agrees : AgreesOn seen tree other) (path : Path) :
    Node.SameForm (tree.find? path) (other.find? path) := by
  rw [find?, find?, agrees.locate_eq]
  cases tree.locate true path with
  | error error => exact .same
  | ok location => exact agrees.sameForm location

theorem hasFile_eq (agrees : AgreesOn seen tree other) (path : Path) :
    other.hasFile path = tree.hasFile path := by
  have same := agrees.find?_sameForm path
  rw [hasFile, hasFile]
  generalize tree.find? path = node? at same
  generalize other.find? path = other? at same
  cases same <;> rfl

theorem hasDirectory_eq (agrees : AgreesOn seen tree other) (path : Path) :
    other.hasDirectory path = tree.hasDirectory path := by
  have same := (agrees.find?_sameForm path).eq_directory_iff
  rw [hasDirectory, hasDirectory, Bool.eq_iff_iff, beq_iff_eq, beq_iff_eq, same]

theorem readText_eq (agrees : AgreesOn seen tree other)
    (shown : ∀ location, tree.locate true path = .ok location → seen location) :
    other.readText path = tree.readText path := by
  rw [readText, readText, read, read, agrees.locate_eq]
  cases located : tree.locate true path with
  | error error => rfl
  | ok location =>
      simp only [bind, Except.bind, agrees.seen location (shown location located)]

theorem mem_children_iff (agrees : AgreesOn seen tree other) (place : Location) (name : Bytes) :
    name ∈ other.children place ↔ name ∈ tree.children place := by
  rw [FileTree.mem_children_iff, FileTree.mem_children_iff, (agrees.sameForm _).isSome_eq]

theorem list_cases (agrees : AgreesOn seen tree other) (path : Path) :
    (∃ error, tree.list path = .error error ∧ other.list path = .error error) ∨
      ∃ place, tree.list path = .ok (tree.children place) ∧
        other.list path = .ok (other.children place) := by
  rw [list, list, agrees.locate_eq]
  cases tree.locate true path with
  | error error => exact .inl ⟨error, rfl, rfl⟩
  | ok place =>
      have same := agrees.sameForm place
      simp only [bind, Except.bind]
      generalize tree.node? place = node? at same
      generalize other.node? place = other? at same
      cases same with
      | files => exact .inl ⟨.notADirectory, rfl, rfl⟩
      | same =>
          cases node? with
          | none => exact .inl ⟨.notFound, rfl, rfl⟩
          | some node =>
              cases node with
              | directory => exact .inr ⟨place, rfl, rfl⟩
              | file contents executable access => exact .inl ⟨.notADirectory, rfl, rfl⟩
              | link target => exact .inl ⟨.notADirectory, rfl, rfl⟩

/-! ## Changes -/

theorem insert (agrees : AgreesOn seen tree other) (location : Location) (node : Node) :
    AgreesOn seen (tree.insert location node) (other.insert location node) where
  workingDirectory := agrees.workingDirectory
  sameForm place := by
    by_cases root : place = []
    · rw [root]
      exact .same
    · rw [node?_insert _ _ _ root, node?_insert _ _ _ root]
      split
      · exact .same
      · exact agrees.sameForm place
  seen place shown := by
    by_cases root : place = []
    · rw [root, node?_root, node?_root]
    · rw [node?_insert _ _ _ root, node?_insert _ _ _ root, agrees.seen place shown]

theorem erase (agrees : AgreesOn seen tree other) (location : Location) :
    AgreesOn seen (tree.erase location) (other.erase location) where
  workingDirectory := agrees.workingDirectory
  sameForm place := by
    by_cases root : place = []
    · rw [root]
      exact .same
    · rw [node?_erase _ _ root, node?_erase _ _ root]
      split
      · exact .same
      · exact agrees.sameForm place
  seen place shown := by
    by_cases root : place = []
    · rw [root, node?_root, node?_root]
    · rw [node?_erase _ _ root, node?_erase _ _ root, agrees.seen place shown]

end AgreesOn

/-- Files of other contents where it is not seen. -/
theorem agreesOn_insert_file {location : Location} (hidden : ¬ seen location)
    (contents others : Bytes) (executable : Bool) (access : Access) :
    AgreesOn seen (tree.insert location (.file contents executable access))
      (tree.insert location (.file others executable access)) where
  workingDirectory := rfl
  sameForm place := by
    by_cases root : place = []
    · rw [root]
      exact .same
    · rw [node?_insert _ _ _ root, node?_insert _ _ _ root]
      split
      · exact .files
      · exact .same
  seen place shown := by
    by_cases root : place = []
    · rw [root, node?_root, node?_root]
    · have apart : place ≠ location := fun same => hidden (same ▸ shown)
      rw [node?_insert _ _ _ root, node?_insert _ _ _ root, if_neg apart, if_neg apart]

/-- Changes of two trees that fail alike or leave trees that agree. -/
inductive ChangesAgree (seen : Location → Prop) :
    Except FileError FileTree → Except FileError FileTree → Prop where
  | failed {error : FileError} : ChangesAgree seen (.error error) (.error error)
  | changed {tree other : FileTree} : AgreesOn seen tree other →
      ChangesAgree seen (.ok tree) (.ok other)

namespace AgreesOn

theorem write (agrees : AgreesOn seen tree other) (path : Path) (contents : Bytes) :
    ChangesAgree seen (tree.write path contents) (other.write path contents) := by
  rw [FileTree.write, FileTree.write, agrees.locate_eq]
  cases tree.locate true path with
  | error error => exact .failed
  | ok location =>
      have same := agrees.sameForm location
      simp only [bind, Except.bind]
      generalize tree.node? location = node? at same
      generalize other.node? location = other? at same
      cases same with
      | @files _ _ _ access =>
          cases access with
          | full => exact .changed (agrees.insert location _)
          | _ => exact .failed
      | same =>
          cases node? with
          | none => exact .changed (agrees.insert location _)
          | some node =>
              cases node with
              | directory => exact .failed
              | file _ _ access =>
                  cases access with
                  | full => exact .changed (agrees.insert location _)
                  | _ => exact .failed
              | link target => exact .changed (agrees.insert location _)

theorem remove (agrees : AgreesOn seen tree other) (path : Path) :
    ChangesAgree seen (tree.remove path) (other.remove path) := by
  rw [FileTree.remove, FileTree.remove, agrees.locate_eq]
  cases tree.locate false path with
  | error error => exact .failed
  | ok location =>
      have same := agrees.sameForm location
      simp only [bind, Except.bind]
      generalize tree.node? location = node? at same
      generalize other.node? location = other? at same
      cases same with
      | files => exact .changed (agrees.erase location)
      | same =>
          cases node? with
          | none => exact .failed
          | some node =>
              cases node with
              | directory => exact .failed
              | file contents executable access => exact .changed (agrees.erase location)
              | link target => exact .changed (agrees.erase location)

theorem makeDirectory (agrees : AgreesOn seen tree other) (path : Path) :
    ChangesAgree seen (tree.makeDirectory path) (other.makeDirectory path) := by
  rw [makeDirectory_eq, makeDirectory_eq, agrees.locate_eq]
  cases tree.locate false (if path.withoutSlashes.isEmpty then path else path.withoutSlashes) with
  | error error => exact .failed
  | ok location =>
      simp only [Except.bind, (agrees.sameForm location).isSome_eq]
      split
      · exact .failed
      · exact .changed (agrees.insert location _)

theorem makeDirectories (agrees : AgreesOn seen tree other) (fuel : Nat) (path : Path) :
    (tree.makeDirectories fuel path).1 = (other.makeDirectories fuel path).1 ∧
      AgreesOn seen (tree.makeDirectories fuel path).2 (other.makeDirectories fuel path).2 := by
  induction fuel generalizing tree other path with
  | zero => exact ⟨rfl, agrees⟩
  | succ fuel ih =>
      -- A failure counts for nothing where the directory is there, in both trees alike.
      have settled {tree other : FileTree} (agrees : AgreesOn seen tree other)
          (error : FileError) :
          let settle (tree : FileTree) : Except FileError Unit × FileTree :=
            if tree.hasDirectory path then (.ok (), tree) else (.error error, tree)
          (settle tree).1 = (settle other).1 ∧ AgreesOn seen (settle tree).2 (settle other).2 := by
        dsimp only
        rw [agrees.hasDirectory_eq]
        split <;> exact ⟨rfl, agrees⟩
      rw [FileTree.makeDirectories, FileTree.makeDirectories]
      cases path.parent? with
      | none => exact ⟨rfl, agrees⟩
      | some parent =>
          dsimp only
          have made := agrees.makeDirectory path
          generalize tree.makeDirectory path = result at made
          generalize other.makeDirectory path = otherResult at made
          cases made with
          | changed agreesMade => exact ⟨rfl, agreesMade⟩
          | @failed error =>
              cases error with
              | notFound =>
                  dsimp only
                  split
                  · exact ⟨rfl, agrees⟩
                  · obtain ⟨same, agreesAbove⟩ := ih agrees parent
                    generalize tree.makeDirectories fuel parent = above at same agreesAbove
                    generalize other.makeDirectories fuel parent = otherAbove at same agreesAbove
                    obtain ⟨result, above⟩ := above
                    obtain ⟨_, otherAbove⟩ := otherAbove
                    cases same
                    cases result with
                    | error error => exact ⟨rfl, agreesAbove⟩
                    | ok _ =>
                        have madeBelow := AgreesOn.makeDirectory agreesAbove path
                        dsimp only at madeBelow ⊢
                        generalize above.makeDirectory path = below at madeBelow
                        generalize otherAbove.makeDirectory path = otherBelow at madeBelow
                        cases madeBelow with
                        | changed agreesMade => exact ⟨rfl, agreesMade⟩
                        | @failed error => exact settled agreesAbove error
              | _ => exact settled agrees _

end AgreesOn

end FileTree

end FileSearch
