import FileSearch.Files.Tree
import FileSearch.Proofs.Files.Path
import FileSearch.Proofs.Lookup

/-!
# Where paths lead

Walking along a path as a relation, with one rule for each kind of step. It shows which changes of a
tree a path does not notice: a path passes through directories and links only, so what becomes of
files is nothing to it.
-/

set_option autoImplicit false

namespace FileSearch.FileTree

open FileSearch.Path (slash point names steps withoutSlashes IsName)

variable {tree other : FileTree} {place location : Location} {followLast : Bool} {path : Path}

/-! ## Nodes -/

theorem node?_root (tree : FileTree) : tree.node? [] = some .directory := rfl

theorem node?_of_ne_nil (tree : FileTree) (below : location ≠ []) :
    tree.node? location = tree.nodes.lookup location :=
  if_neg (by simpa using below)

theorem node?_restrict (tree : FileTree) (keeps : Location → Bool) (below : location ≠ []) :
    (tree.restrict keeps).node? location =
      if keeps location then tree.node? location else none := by
  rw [node?_of_ne_nil _ below, node?_of_ne_nil _ below]
  exact Lookup.lookup_filter tree.nodes keeps location

theorem node?_erase (tree : FileTree) (erased : Location) (below : location ≠ []) :
    (tree.erase erased).node? location =
      if location = erased then none else tree.node? location := by
  rw [erase, node?_restrict _ _ below]
  by_cases same : location = erased <;> simp [same]

theorem node?_insert (tree : FileTree) (inserted : Location) (node : Node) (below : location ≠ []) :
    (tree.insert inserted node).node? location =
      if location = inserted then some node else tree.node? location := by
  have others := tree.node?_erase inserted below
  rw [node?_of_ne_nil _ below] at others ⊢
  change List.lookup location ((inserted, node) :: (tree.erase inserted).nodes) = _
  rw [List.lookup_cons]
  by_cases same : location = inserted
  · rw [if_pos same, beq_iff_eq.mpr same]
  · rw [if_neg same] at others ⊢
    rw [beq_eq_false_iff_ne.mpr same]
    exact others

/-- The names in a directory are those under which something stands there. -/
theorem mem_children_iff {name : Bytes} :
    name ∈ tree.children place ↔ (tree.node? (place ++ [name])).isSome = true := by
  have below : place ++ [name] ≠ [] := List.append_ne_nil_of_right_ne_nil _ (List.cons_ne_nil _ _)
  rw [node?_of_ne_nil _ below, List.lookup_isSome_iff, children, List.mem_filterMap]
  simp only [beq_iff_eq, Bool.and_eq_true, decide_eq_true_eq, List.isPrefixOf_iff_prefix,
    Option.ite_none_right_eq_some]
  constructor
  · rintro ⟨entry, member, ⟨long, back, split⟩, last⟩
    refine ⟨entry, member, ?_⟩
    have single : back.length = 1 := by
      rw [← split, List.length_append] at long
      omega
    obtain ⟨only, rfl⟩ := List.length_eq_one_iff.mp single
    rw [← split, List.getLast?_append_of_ne_nil _ (List.cons_ne_nil _ _)] at last
    cases last
    exact split
  · rintro ⟨entry, member, same⟩
    refine ⟨entry, member, ?_, ?_⟩
    · rw [← same]
      exact ⟨by simp, List.prefix_append _ _⟩
    · rw [← same, List.getLast?_append_of_ne_nil _ (List.cons_ne_nil _ _)]
      rfl

theorem nodup_children (tree : FileTree) (place : Location) : (tree.children place).Nodup := by
  have locations := tree.distinct
  rw [List.Nodup, List.pairwise_map] at locations
  refine List.pairwise_filterMap.mpr (locations.imp ?_)
  intro first second apart name shown other shownOther same
  subst same
  simp only [Bool.and_eq_true, decide_eq_true_eq, List.isPrefixOf_iff_prefix,
    Option.ite_none_right_eq_some] at shown shownOther
  obtain ⟨⟨long, back, split⟩, last⟩ := shown
  obtain ⟨⟨longOther, backOther, splitOther⟩, lastOther⟩ := shownOther
  have single : back.length = 1 := by rw [← split, List.length_append] at long; omega
  have singleOther : backOther.length = 1 := by
    rw [← splitOther, List.length_append] at longOther; omega
  obtain ⟨only, rfl⟩ := List.length_eq_one_iff.mp single
  obtain ⟨onlyOther, rfl⟩ := List.length_eq_one_iff.mp singleOther
  rw [← split, List.getLast?_append_of_ne_nil _ (List.cons_ne_nil _ _)] at last
  rw [← splitOther, List.getLast?_append_of_ne_nil _ (List.cons_ne_nil _ _)] at lastOther
  cases last
  cases lastOther
  exact apart (split.symm.trans splitOther)

/-! ## Walks -/

/-- Steps that go down in a tree. -/
structure IsDown (name : Bytes) : Prop where
  ne_point : name ≠ [point]
  ne_points : name ≠ [point, point]
  short : name.length ≤ maxName

/-- Steps lead from a place to a location, with so many links to follow before and so many left.
-/
inductive Leads (tree : FileTree) (followLast : Bool) :
    Nat → Location → List Bytes → Nat → Location → Prop where
  | done {links : Nat} {place : Location} : Leads tree followLast links place [] links place
  | here {links left : Nat} {place reached : Location} {rest : List Bytes} :
      tree.node? place = some .directory → Leads tree followLast links place rest left reached →
      Leads tree followLast links place ([point] :: rest) left reached
  | up {links left : Nat} {place reached : Location} {rest : List Bytes} :
      tree.node? place = some .directory →
      Leads tree followLast links place.dropLast rest left reached →
      Leads tree followLast links place ([point, point] :: rest) left reached
  | down {links left : Nat} {place reached : Location} {name : Bytes} {rest : List Bytes} :
      tree.node? place = some .directory → IsDown name →
      (∀ target, tree.node? (place ++ [name]) ≠ some (.link target)) →
      Leads tree followLast links (place ++ [name]) rest left reached →
      Leads tree followLast links place (name :: rest) left reached
  | follow {links left : Nat} {place reached : Location} {name : Bytes} {rest : List Bytes}
      {target : Path} :
      tree.node? place = some .directory → IsDown name →
      tree.node? (place ++ [name]) = some (.link target) → (rest.isEmpty && !followLast) = false →
      Leads tree followLast links (if target.isAbsolute then [] else place) (target.steps ++ rest)
        left reached →
      Leads tree followLast (links + 1) place (name :: rest) left reached
  | halt {links : Nat} {place : Location} {name : Bytes} {target : Path} :
      tree.node? place = some .directory → IsDown name →
      tree.node? (place ++ [name]) = some (.link target) → followLast = false →
      Leads tree followLast links place [name] links (place ++ [name])

section

variable {links : Nat} {name : Bytes} {rest : List Bytes}

theorem walk_here (inside : tree.node? place = some .directory) :
    tree.walk followLast links place ([point] :: rest) = tree.walk followLast links place rest := by
  rw [walk.eq_def]
  simp only [inside, beq_self_eq_true, if_true]

theorem walk_up (inside : tree.node? place = some .directory) :
    tree.walk followLast links place ([point, point] :: rest) =
      tree.walk followLast links place.dropLast rest := by
  have different : ([point, point] == [point]) = false := by decide
  rw [walk.eq_def]
  simp only [inside, different, beq_self_eq_true, if_true, Bool.false_eq_true, if_false]

private theorem walk_cons (inside : tree.node? place = some .directory) (isDown : IsDown name) :
    tree.walk followLast links place (name :: rest) =
      match tree.node? (place ++ [name]), links with
      | some (.link target), links =>
        if rest.isEmpty && !followLast then .ok (place ++ [name])
        else match links with
          | 0 => .error .tooManyLinks
          | links + 1 =>
            tree.walk followLast links (if target.isAbsolute then [] else place)
              (target.steps ++ rest)
      | _, links => tree.walk followLast links (place ++ [name]) rest := by
  have different := beq_eq_false_iff_ne.mpr isDown.ne_point
  have differentUp := beq_eq_false_iff_ne.mpr isDown.ne_points
  have short := Nat.not_lt.mpr isDown.short
  have unfolded := walk.eq_def tree followLast links place (name :: rest)
  simp only [inside, different, differentUp, short, Bool.false_eq_true, if_false] at unfolded
  exact unfolded

theorem walk_down (inside : tree.node? place = some .directory) (isDown : IsDown name)
    (noLink : ∀ target, tree.node? (place ++ [name]) ≠ some (.link target)) :
    tree.walk followLast links place (name :: rest) =
      tree.walk followLast links (place ++ [name]) rest := by
  rw [walk_cons inside isDown]
  split
  · next target found => exact absurd found (noLink target)
  · rfl

theorem walk_follow (inside : tree.node? place = some .directory) (isDown : IsDown name)
    {target : Path} (link : tree.node? (place ++ [name]) = some (.link target))
    (onward : (rest.isEmpty && !followLast) = false) :
    tree.walk followLast (links + 1) place (name :: rest) =
      tree.walk followLast links (if target.isAbsolute then [] else place)
        (target.steps ++ rest) := by
  rw [walk_cons inside isDown, link]
  simp only [onward, Bool.false_eq_true, if_false]

theorem walk_halt (inside : tree.node? place = some .directory) (isDown : IsDown name)
    {target : Path} (link : tree.node? (place ++ [name]) = some (.link target)) :
    tree.walk false links place [name] = .ok (place ++ [name]) := by
  rw [walk_cons inside isDown, link]
  simp only [List.isEmpty_nil, Bool.not_false, Bool.and_self, if_true]

theorem walk_missing (missing : tree.node? place = none) :
    tree.walk followLast links place (name :: rest) = .error .notFound := by
  rw [walk.eq_def]
  simp only [missing]

end

theorem Leads.walk {links left : Nat} {reached : Location} {steps : List Bytes}
    (leads : tree.Leads followLast links place steps left reached) :
    tree.walk followLast links place steps = .ok reached := by
  induction leads with
  | done => rw [FileTree.walk]
  | here inside _ ih => rw [walk_here inside, ih]
  | up inside _ ih => rw [walk_up inside, ih]
  | down inside isDown noLink _ ih => rw [walk_down inside isDown noLink, ih]
  | follow inside isDown link onward _ ih => rw [walk_follow inside isDown link onward, ih]
  | halt inside isDown link stops =>
      subst stops
      exact walk_halt inside isDown link

theorem exists_leads_of_walk {links : Nat} {reached : Location} {steps : List Bytes}
    (walked : tree.walk followLast links place steps = .ok reached) :
    ∃ left, tree.Leads followLast links place steps left reached := by
  fun_induction FileTree.walk tree followLast links place steps with
  | case1 links place =>
      cases walked
      exact ⟨links, .done⟩
  | case2 => cases walked
  | case3 links place name rest inside here ih =>
      obtain rfl := beq_iff_eq.mp here
      obtain ⟨left, leads⟩ := ih walked
      exact ⟨left, .here inside leads⟩
  | case4 links place name rest inside _ up ih =>
      obtain rfl := beq_iff_eq.mp up
      obtain ⟨left, leads⟩ := ih walked
      exact ⟨left, .up inside leads⟩
  | case5 => cases walked
  | case6 place name rest inside notHere notUp short target links link stops =>
      rw [Bool.and_eq_true, List.isEmpty_iff, Bool.not_eq_true'] at stops
      obtain ⟨rfl, stops⟩ := stops
      cases walked
      exact ⟨links, .halt inside ⟨by simpa using notHere, by simpa using notUp, by omega⟩ link
        stops⟩
  | case7 => cases walked
  | case8 place name rest inside notHere notUp short target link onward links ih =>
      obtain ⟨left, leads⟩ := ih walked
      exact ⟨left, .follow inside ⟨by simpa using notHere, by simpa using notUp, by omega⟩ link
        (by simpa using onward) leads⟩
  | case9 place name rest inside notHere notUp short links noLink ih =>
      obtain ⟨left, leads⟩ := ih walked
      exact ⟨left, .down inside ⟨by simpa using notHere, by simpa using notUp, by omega⟩ noLink
        leads⟩
  | case10 => cases walked

/-! ## Parts of ways -/

/-- Once some steps have led to a place, the steps behind them start there. -/
theorem Leads.walk_append {links left : Nat} {middle : Location} {front back : List Bytes}
    (leads : tree.Leads true links place front left middle) (more : back ≠ []) :
    tree.walk followLast links place (front ++ back) = tree.walk followLast left middle back := by
  induction leads with
  | done => rfl
  | here inside _ ih => rw [List.cons_append, walk_here inside, ih]
  | up inside _ ih => rw [List.cons_append, walk_up inside, ih]
  | down inside isDown noLink _ ih => rw [List.cons_append, walk_down inside isDown noLink, ih]
  | @follow _ _ _ _ _ rest _ inside isDown link _ _ ih =>
      have onward : ((rest ++ back).isEmpty && !followLast) = false := by
        rw [List.isEmpty_eq_false_iff.mpr (List.append_ne_nil_of_right_ne_nil rest more),
          Bool.false_and]
      rw [List.cons_append, walk_follow inside isDown link onward, ← List.append_assoc, ih]
  | halt _ _ _ stops => cases stops

/-- A step in place at the end shows that the steps before it lead to a directory. -/
theorem Leads.of_append_point {links left : Nat} {reached : Location} {front : List Bytes}
    (leads : tree.Leads true links place (front ++ [[point]]) left reached) :
    tree.Leads true links place front left reached ∧ tree.node? reached = some .directory := by
  generalize whole : front ++ [[point]] = steps at leads
  induction leads generalizing front with
  | done => simp at whole
  | here inside leads ih =>
      cases front with
      | nil =>
          obtain rfl : _ = [] := (List.cons.inj whole).2.symm
          cases leads
          exact ⟨.done, inside⟩
      | cons name rest =>
          obtain ⟨rfl, rfl⟩ := List.cons.inj whole
          exact ⟨.here inside (ih rfl).1, (ih rfl).2⟩
  | up inside _ ih =>
      cases front with
      | nil => simp at whole
      | cons name rest =>
          obtain ⟨rfl, rfl⟩ := List.cons.inj whole
          exact ⟨.up inside (ih rfl).1, (ih rfl).2⟩
  | down inside isDown noLink _ ih =>
      cases front with
      | nil => exact absurd (List.cons.inj whole).1.symm isDown.ne_point
      | cons name rest =>
          obtain ⟨rfl, rfl⟩ := List.cons.inj whole
          exact ⟨.down inside isDown noLink (ih rfl).1, (ih rfl).2⟩
  | follow inside isDown link _ _ ih =>
      cases front with
      | nil => exact absurd (List.cons.inj whole).1.symm isDown.ne_point
      | cons name rest =>
          obtain ⟨rfl, rfl⟩ := List.cons.inj whole
          have onward : (rest.isEmpty && !true) = false := Bool.and_false _
          have parts := ih (List.append_assoc _ _ _)
          exact ⟨.follow inside isDown link onward parts.1, parts.2⟩
  | halt _ _ _ stops => cases stops

/-- A way that ends at no link is gone whether or not a link at its end is followed. -/
theorem Leads.followed {links left : Nat} {reached : Location} {steps : List Bytes}
    (leads : tree.Leads followLast links place steps left reached)
    (noLink : ∀ target, tree.node? reached ≠ some (.link target)) :
    tree.Leads true links place steps left reached := by
  induction leads with
  | done => exact .done
  | here inside _ ih => exact .here inside (ih noLink)
  | up inside _ ih => exact .up inside (ih noLink)
  | down inside isDown last _ ih => exact .down inside isDown last (ih noLink)
  | follow inside isDown link _ _ ih =>
      exact .follow inside isDown link (Bool.and_false _) (ih noLink)
  | halt _ _ link _ => exact absurd link (noLink _)

/-- Where a way ends at something, there is also something if a link at its end is not followed. -/
theorem Leads.unfollowed {links left : Nat} {reached : Location} {steps : List Bytes}
    (leads : tree.Leads true links place steps left reached)
    (found : (tree.node? reached).isSome = true) :
    ∃ left last, tree.Leads false links place steps left last ∧
      (tree.node? last).isSome = true := by
  induction leads with
  | @done links place => exact ⟨links, place, .done, found⟩
  | here inside _ ih =>
      obtain ⟨left, last, leads, foundLast⟩ := ih found
      exact ⟨left, last, .here inside leads, foundLast⟩
  | up inside _ ih =>
      obtain ⟨left, last, leads, foundLast⟩ := ih found
      exact ⟨left, last, .up inside leads, foundLast⟩
  | down inside isDown noLink _ ih =>
      obtain ⟨left, last, leads, foundLast⟩ := ih found
      exact ⟨left, last, .down inside isDown noLink leads, foundLast⟩
  | @follow links _ place _ name rest _ inside isDown link _ _ ih =>
      cases rest with
      | nil =>
          refine ⟨links + 1, place ++ [name], .halt inside isDown link rfl, ?_⟩
          rw [link, Option.isSome_some]
      | cons next others =>
          obtain ⟨left, last, leads, foundLast⟩ := ih found
          exact ⟨left, last, .follow inside isDown link rfl leads, foundLast⟩
  | halt _ _ _ stops => cases stops

/-! ## Trees that ways do not tell apart -/

/-- Every way that can be gone in a tree can be gone in another: its directories are directories
there, and have the same links in them. -/
structure Opens (tree other : FileTree) : Prop where
  directory : ∀ {place}, tree.node? place = some .directory → other.node? place = some .directory
  link : ∀ {place name target}, tree.node? place = some .directory →
    (other.node? (place ++ [name]) = some (.link target) ↔
      tree.node? (place ++ [name]) = some (.link target))
  workingDirectory : other.workingDirectory = tree.workingDirectory

theorem Leads.mono {links left : Nat} {reached : Location} {steps : List Bytes}
    (leads : tree.Leads followLast links place steps left reached) (opens : tree.Opens other) :
    other.Leads followLast links place steps left reached := by
  induction leads with
  | done => exact .done
  | here inside _ ih => exact .here (opens.directory inside) ih
  | up inside _ ih => exact .up (opens.directory inside) ih
  | down inside isDown noLink _ ih =>
      exact .down (opens.directory inside) isDown
        (fun target link => noLink target ((opens.link inside).mp link)) ih
  | follow inside isDown link onward _ ih =>
      exact .follow (opens.directory inside) isDown ((opens.link inside).mpr link) onward ih
  | halt inside isDown link stops =>
      exact .halt (opens.directory inside) isDown ((opens.link inside).mpr link) stops

/-- What is no part of a way, and what can be written: nothing, or a file with all permissions. -/
def IsAside (node? : Option Node) : Prop :=
  node? = none ∨ ∃ contents executable, node? = some (.file contents executable)

theorem IsAside.ne_directory {node? : Option Node} (aside : IsAside node?) :
    node? ≠ some .directory := by
  rcases aside with rfl | ⟨contents, executable, rfl⟩ <;> simp

theorem IsAside.ne_link {node? : Option Node} (aside : IsAside node?) (target : Path) :
    node? ≠ some (.link target) := by
  rcases aside with rfl | ⟨contents, executable, rfl⟩ <;> simp

/-- A change at one location, where there was a file or nothing and is no link now. -/
theorem Opens.of_agree {changed : Location} (aside : IsAside (tree.node? changed))
    (noLink : ∀ target, other.node? changed ≠ some (.link target))
    (agree : ∀ location, location ≠ changed → other.node? location = tree.node? location)
    (workingDirectory : other.workingDirectory = tree.workingDirectory) : tree.Opens other where
  directory {place} inside := by
    have different : place ≠ changed := by
      rintro rfl
      exact aside.ne_directory inside
    rw [agree place different, inside]
  link {place name target} _ := by
    by_cases same : place ++ [name] = changed
    · rw [same]
      exact ⟨fun link => absurd link (noLink target),
        fun link => absurd link (aside.ne_link target)⟩
    · rw [agree _ same]
  workingDirectory := workingDirectory

theorem opens_insert {inserted : Location} {node : Node} (below : inserted ≠ [])
    (aside : IsAside (tree.node? inserted)) (noLink : ∀ target, node ≠ .link target) :
    tree.Opens (tree.insert inserted node) := by
  apply Opens.of_agree aside
  · intro target
    rw [node?_insert _ _ _ below, if_pos rfl, ne_eq, Option.some.injEq]
    exact noLink target
  · intro location different
    by_cases root : location = []
    · rw [root, node?_root, node?_root]
    · rw [node?_insert _ _ _ root, if_neg different]
  · rfl

theorem opens_erase {erased : Location} (below : erased ≠ [])
    (aside : IsAside (tree.node? erased)) : tree.Opens (tree.erase erased) := by
  apply Opens.of_agree aside
  · intro target
    rw [node?_erase _ _ below, if_pos rfl]
    simp
  · intro location different
    by_cases root : location = []
    · rw [root, node?_root, node?_root]
    · rw [node?_erase _ _ root, if_neg different]
  · rfl

/-! ## What stands outside of a place -/

/-- A tree without a place and all that is below it. -/
def outside (tree : FileTree) (place : Location) : FileTree :=
  tree.restrict fun location => !place.isPrefixOf location

theorem node?_outside (tree : FileTree) (place : Location) (below : location ≠ []) :
    (tree.outside place).node? location =
      if place <+: location then none else tree.node? location := by
  rw [outside, node?_restrict _ _ below]
  by_cases inside : place <+: location
  · rw [if_pos inside, List.isPrefixOf_iff_prefix.mpr inside]
    rfl
  · rw [if_neg inside, Bool.eq_false_iff.mpr (mt List.isPrefixOf_iff_prefix.mp inside)]
    rfl

private theorem ext_nodes {tree other : FileTree} (nodes : tree.nodes = other.nodes)
    (workingDirectory : tree.workingDirectory = other.workingDirectory) : tree = other := by
  cases tree
  cases other
  cases nodes
  cases workingDirectory
  rfl

theorem outside_erase (tree : FileTree) (inside : place <+: location) :
    (tree.erase location).outside place = tree.outside place := by
  refine ext_nodes ?_ (by rfl)
  change (tree.nodes.filter _).filter _ = tree.nodes.filter _
  rw [List.filter_filter]
  apply List.filter_congr
  intro entry _
  change (!place.isPrefixOf entry.1 && entry.1 != location) = !place.isPrefixOf entry.1
  by_cases within : place <+: entry.1
  · rw [List.isPrefixOf_iff_prefix.mpr within]
    rfl
  · have different : entry.1 ≠ location := fun same => within (same ▸ inside)
    rw [bne_iff_ne.mpr different, Bool.and_true]

theorem outside_insert (tree : FileTree) (node : Node) (inside : place <+: location) :
    (tree.insert location node).outside place = tree.outside place := by
  have dropped : ¬ (!place.isPrefixOf location) = true := by
    rw [List.isPrefixOf_iff_prefix.mpr inside]
    exact Bool.false_ne_true
  rw [← tree.outside_erase inside]
  refine ext_nodes ?_ (by rfl)
  exact List.filter_cons_of_neg
    (p := fun entry : Location × Node => !place.isPrefixOf entry.1) dropped

theorem outside_outside (tree : FileTree) (place : Location) :
    (tree.outside place).outside place = tree.outside place := by
  refine ext_nodes ?_ (by rfl)
  exact List.filter_filter.trans (List.filter_congr fun entry _ => Bool.and_self _)

/-- A way that does not pass through a place is not affected by what is there, as long as that is no
link. -/
theorem opens_outside (below : place ≠ [])
    (noLink : ∀ target, tree.node? place ≠ some (.link target)) :
    (tree.outside place).Opens tree where
  directory {location} inside := by
    by_cases root : location = []
    · rw [root, node?_root]
    · rw [node?_outside _ _ root] at inside
      split at inside
      · cases inside
      · exact inside
  link {location name target} inside := by
    have notRoot : location ++ [name] ≠ [] :=
      List.append_ne_nil_of_right_ne_nil _ (List.cons_ne_nil _ _)
    have apart : ¬ place <+: location := by
      intro within
      by_cases root : location = []
      · rw [root, List.prefix_nil] at within
        exact below within
      · rw [node?_outside _ _ root, if_pos within] at inside
        cases inside
    rw [node?_outside _ _ notRoot]
    by_cases within : place <+: location ++ [name]
    · rw [if_pos within]
      rcases List.prefix_concat_iff.mp within with same | earlier
      · rw [← same]
        simp [noLink target]
      · exact absurd earlier apart
    · rw [if_neg within]
  workingDirectory := rfl

end FileSearch.FileTree
