import FileSearch.Proofs.Files.Changes
import FileSearch.Proofs.Files.Contents
import FileSearch.Proofs.Store.Directory
import FileSearch.Proofs.Store.Enumeration

/-!
# Where documents are looked for

Whatever a name says, a store leaves the directory of its documents only through the links in it:
every path that it forms is that of a name in the directory.
-/

set_option autoImplicit false

namespace FileSearch

open Text.Slug (ofName IsSlug)
open FileSearch.Path (slash point IsName)

/-- Names hold no slash. -/
def FileTree.HasNames (tree : FileTree) : Prop :=
  ∀ location, (tree.node? location).isSome = true → ∀ name ∈ location, slash ∉ name

theorem FileTree.hasNames_of_nodes {tree : FileTree}
    (named : ∀ entry ∈ tree.nodes, ∀ name ∈ entry.1, slash ∉ name) : tree.HasNames := by
  intro location found
  by_cases root : location = []
  · rw [root]
    simp
  · rw [node?_of_ne_nil _ root, List.lookup_isSome_iff] at found
    obtain ⟨entry, member, same⟩ := found
    rw [beq_iff_eq.mp same]
    exact named entry member

namespace Directory

variable {root : Path} {tree other after : FileTree} {location : Location} {stem : String}

/-- Where the path of a document leads: to what has the name of its file in the directory, or on
from there if that is a link. -/
inductive Reaches (root : Path) (tree : FileTree) (stem : String) : Location → Prop where
  | child {place : Location} : tree.LeadsTo root place → tree.node? place = some .directory →
      (∀ target, tree.node? (place ++ [fileName stem]) ≠ some (.link target)) →
      Reaches root tree stem (place ++ [fileName stem])
  | linked {place location : Location} {target : Path} : tree.LeadsTo root place →
      tree.node? place = some .directory →
      tree.node? (place ++ [fileName stem]) = some (.link target) →
      tree.locate true (Directory.location root stem) = .ok location →
      Reaches root tree stem location

/-- What saving makes of files: directories on the way to the documents may be made, and then one
file may be written, under the name of a slug. -/
inductive Saves (root : Path) (tree : FileTree) : FileTree → Prop where
  | madeWay {made : FileTree} : FileTree.MakesWay root tree made → Saves root tree made
  | wrote {made : FileTree} {stem : String} {location : Location} {contents : Bytes}
      {executable : Bool} :
      FileTree.MakesWay root tree made → IsSlug stem → Reaches root made stem location →
      made.node? location ≠ some .directory →
      Saves root tree (made.insert location (.file contents executable))

/-- What removing makes of files: at most one is deleted, in the directory itself. -/
inductive Removes (root : Path) (tree : FileTree) : FileTree → Prop where
  | nothing : Removes root tree tree
  | one {place : Location} {stem : String} {node : Node} : tree.LeadsTo root place →
      tree.node? (place ++ [fileName stem]) = some node → node ≠ .directory →
      Removes root tree (tree.erase (place ++ [fileName stem]))

/-- What a request makes of files. -/
def Touches (root : Path) (tree : FileTree) (after : FileTree) : Request → Prop
  | .save _ _ => Saves root tree after
  | .importFrom _ _ _ => Saves root tree after
  | .load _ => after = tree
  | .remove _ => Removes root tree after
  | .list => after = tree

/-- The locations that the paths of documents lead to. -/
def Seen (root : Path) (tree : FileTree) (location : Location) : Prop :=
  ∃ stem, slash ∉ fileName stem ∧ Reaches root tree stem location

/-! ## Paths of documents -/

theorem isName_of_locate {followLast : Bool} (single : slash ∉ fileName stem)
    (located : tree.locate followLast (Directory.location root stem) = .ok location) :
    IsName (fileName stem) := by
  refine isName_fileName single fun member => ?_
  have within : fileName stem <:+ Directory.location root stem := by
    rw [location_eq, Path.join]
    split
    · exact List.suffix_refl _
    · split
      · exact List.suffix_append _ _
      · exact (List.suffix_cons _ _).trans (List.suffix_append _ _)
  exact (FileTree.isPossible_of_locate located).nul_notMem (within.subset member)

theorem Reaches.of_locate (single : slash ∉ fileName stem)
    (located : tree.locate true (Directory.location root stem) = .ok location) :
    Reaches root tree stem location := by
  have isName := isName_of_locate single located
  obtain ⟨place, leadsTo, inside, reached⟩ := FileTree.of_locate_join isName located
  by_cases linked : ∃ target, tree.node? (place ++ [fileName stem]) = some (.link target)
  · obtain ⟨target, link⟩ := linked
    exact .linked leadsTo inside link located
  · rcases reached with rfl | ⟨-, link⟩
    · exact .child leadsTo inside fun target link => linked ⟨target, link⟩
    · exact absurd link linked

theorem slash_notMem_fileName_ofName (name : String) : slash ∉ fileName (ofName name) :=
  (isName_fileName_ofName name).slash_notMem

/-- The slugs in a directory are those of files in it. -/
theorem slash_notMem_of_slugs (named : tree.HasNames) {slugs : List String}
    (found : Directory.slugs root tree = .ok slugs) (member : stem ∈ slugs) :
    slash ∉ fileName stem := by
  rw [Directory.slugs] at found
  cases listed : tree.list root with
  | error error =>
      rw [listed] at found
      cases error <;> cases found
      cases member
  | ok names =>
      rw [listed] at found
      cases found
      obtain ⟨name, memberName, isSlug⟩ := List.mem_filterMap.mp member
      obtain ⟨rfl, -⟩ := eq_fileName_of_slug? isSlug
      have listedName := List.mem_of_mem_filter memberName
      obtain ⟨place, rfl⟩ := FileTree.exists_children_of_list listed
      rw [FileTree.mem_children_iff] at listedName
      exact named _ listedName _ (by simp)

/-! ## Changes -/

theorem delete_removes (single : slash ∉ fileName stem) {result : Except FileError Bool}
    (deleted : Directory.delete (Directory.location root stem) tree = (result, after)) :
    Removes root tree after ∧ (result = .ok false → after = tree) := by
  rw [Directory.delete, FileTree.remove] at deleted
  cases located : tree.locate false (Directory.location root stem) with
  | error error =>
      simp only [located, bind, Except.bind] at deleted
      cases error <;> cases deleted <;> exact ⟨.nothing, fun _ => rfl⟩
  | ok location =>
      have isName := isName_of_locate single located
      obtain ⟨place, leadsTo, -, reached⟩ := FileTree.of_locate_join isName located
      obtain rfl : location = place ++ [fileName stem] := by simpa using reached
      simp only [located, bind, Except.bind] at deleted
      cases found : tree.node? (place ++ [fileName stem]) with
      | none =>
          rw [found] at deleted
          cases deleted
          exact ⟨.nothing, fun _ => rfl⟩
      | some node =>
          rw [found] at deleted
          cases node with
          | directory =>
              cases deleted
              exact ⟨.nothing, fun _ => rfl⟩
          | file contents executable =>
              cases deleted
              exact ⟨.one leadsTo found (by simp), by simp⟩
          | link target =>
              cases deleted
              exact ⟨.one leadsTo found (by simp), by simp⟩

theorem write_saves {slug : String} (isSlug : IsSlug slug) (single : slash ∉ fileName slug)
    (document : String) : Saves root tree ((storage root).write slug document tree).2 := by
  change Saves root tree (Directory.write root (Directory.location root slug) document tree).2
  have madeWay := tree.makesWay_ensureDirectory root
  rw [Directory.write]
  split
  · next made failed => exact .madeWay (failed ▸ madeWay)
  · next made reached =>
      rw [reached] at madeWay
      split
      · next written wrote =>
          obtain ⟨location, executable, located, noDirectory, rfl⟩ :=
            FileTree.exists_of_write wrote
          exact .wrote madeWay isSlug (.of_locate single located) noDirectory
      · exact .madeWay madeWay

theorem save_saves (specification : Specification) (name? : Option String) :
    Saves root tree ((storage root).save specification name? tree).2 := by
  rw [Storage.save]
  cases specification.savedName? name? with
  | none => exact .madeWay (.refl root tree)
  | some name =>
      dsimp only
      have saves : Saves root tree ((storage root).write
          (ofName (specification.canonical name).name) (specification.canonical name).document
          tree).2 :=
        write_saves (Text.Slug.isSlug_ofName _) (slash_notMem_fileName_ofName _) _
      split
      · next failed =>
          rw [failed] at saves
          exact saves
      · next wrote =>
          rw [wrote] at saves
          exact saves

theorem deleteSlug_removes (single : slash ∉ fileName stem) {result : Except StoreError Bool}
    (deleted : (storage root).deleteSlug stem tree = (result, after)) :
    Removes root tree after ∧ (result = .ok false → after = tree) := by
  rw [Storage.deleteSlug] at deleted
  cases found : (storage root).delete stem tree with
  | mk existed? left =>
      rw [found] at deleted
      cases deleted
      obtain ⟨removes, kept⟩ := delete_removes single found
      refine ⟨removes, fun nothing => kept ?_⟩
      cases existed? with
      | error error => cases nothing
      | ok existed =>
          cases nothing
          rfl

/-- A name leads to no slug but those of files in the directory. -/
theorem slash_notMem_of_findName (named : tree.HasNames) {name slug : String}
    (found : (storage root).findName tree name = .ok (some slug)) : slash ∉ fileName slug := by
  rw [Storage.findName, Storage.list] at found
  cases enumerated : (storage root).slugs tree with
  | error error =>
      rw [enumerated] at found
      cases found
  | ok slugs =>
      rw [enumerated] at found
      simp only [bind, Except.bind, pure, Except.pure, Except.ok.injEq,
        Option.map_eq_some_iff] at found
      obtain ⟨entry, first, rfl⟩ := found
      have member := List.mem_of_find?_eq_some first
      rw [List.mem_mergeSort, List.mem_filterMap] at member
      obtain ⟨slug, listed, saved⟩ := member
      rw [Storage.saved?_slug saved]
      exact slash_notMem_of_slugs named enumerated listed

/-- A name or slug that is looked up leads to no slug but its own and those of files. -/
theorem slash_notMem_of_resolve (named : tree.HasNames) {nameOrSlug slug : String}
    (resolved : (storage root).resolve tree nameOrSlug = .ok (some slug)) :
    slash ∉ fileName slug := by
  simp only [Storage.resolve] at resolved
  split at resolved
  · cases resolved
  · split at resolved
    · rw [Except.ok.injEq, Option.some.injEq] at resolved
      rw [← resolved]
      exact slash_notMem_fileName_ofName _
    · exact slash_notMem_of_findName named resolved

theorem remove_removes (named : tree.HasNames) (nameOrSlug : String) :
    Removes root tree ((storage root).remove nameOrSlug tree).2 := by
  rw [Storage.remove]
  split
  · exact .nothing
  · cases deleted : (storage root).deleteSlug (ofName (Text.trim nameOrSlug)) tree with
    | mk result between =>
        obtain ⟨removes, kept⟩ := deleteSlug_removes (slash_notMem_fileName_ofName _) deleted
        split
        · next nothing =>
            cases nothing
            obtain rfl : between = tree := kept rfl
            split
            · next slug found =>
                exact (deleteSlug_removes (slash_notMem_of_findName named found) rfl).1
            · exact .nothing
            · exact .nothing
        · exact removes

theorem touches (named : tree.HasNames) (request : Request) :
    Touches root tree ((storage root).answer tree request).2 request := by
  cases request with
  | save specification name? =>
      rw [Storage.answer, Prod.map_snd]
      exact save_saves specification name?
  | importFrom files path name? =>
      rw [Storage.answer, Prod.map_snd, Storage.importFrom]
      split
      · exact .madeWay (.refl root tree)
      · split
        · exact .madeWay (.refl root tree)
        · exact save_saves _ name?
  | load nameOrSlug => rw [Storage.answer, Touches]
  | remove nameOrSlug =>
      rw [Storage.answer, Prod.map_snd]
      exact remove_removes named nameOrSlug
  | list => rw [Storage.answer, Touches]

/-! ## Reading -/

/-- Operations on trees that agree have the same result and leave trees that agree. -/
inductive Alike {Result : Type} (seen : Location → Prop) :
    Result × FileTree → Result × FileTree → Prop where
  | alike {result : Result} {after otherAfter : FileTree} :
      FileTree.AgreesOn seen after otherAfter → Alike seen (result, after) (result, otherAfter)

theorem Alike.map {Result Other : Type} {seen : Location → Prop}
    {first second : Result × FileTree} (alike : Alike seen first second) (image : Result → Other) :
    Alike seen (first.map image id) (second.map image id) := by
  cases alike with
  | alike agrees => exact .alike agrees

section

variable {seen : Location → Prop}

theorem delete_alike (agrees : FileTree.AgreesOn seen tree other) (path : Path) :
    Alike seen (Directory.delete path tree) (Directory.delete path other) := by
  rw [Directory.delete, Directory.delete]
  have removed := agrees.remove path
  generalize tree.remove path = result at removed
  generalize other.remove path = otherResult at removed
  cases removed with
  | changed agreesAfter => exact .alike agreesAfter
  | @failed error => cases error <;> exact .alike agrees

theorem write_alike (agrees : FileTree.AgreesOn seen tree other) (slug document : String) :
    Alike seen ((storage root).write slug document tree)
      ((storage root).write slug document other) := by
  change Alike seen (Directory.write root (Directory.location root slug) document tree)
    (Directory.write root (Directory.location root slug) document other)
  generalize Directory.location root slug = path
  rw [Directory.write, Directory.write, FileTree.ensureDirectory, FileTree.ensureDirectory]
  obtain ⟨same, agreesMade⟩ := agrees.makeDirectories (root.length + 1) root
  generalize tree.makeDirectories (root.length + 1) root = made at same agreesMade
  generalize other.makeDirectories (root.length + 1) root = otherMade at same agreesMade
  obtain ⟨result, made⟩ := made
  obtain ⟨_, otherMade⟩ := otherMade
  cases same
  cases result with
  | error error => exact .alike agreesMade
  | ok _ =>
      have wrote := FileTree.AgreesOn.write agreesMade path (Bytes.ofText document)
      dsimp only at wrote ⊢
      generalize made.write path (Bytes.ofText document) = result at wrote
      generalize otherMade.write path (Bytes.ofText document) = otherResult at wrote
      cases wrote with
      | changed agreesAfter => exact .alike agreesAfter
      | failed => exact .alike agreesMade

theorem deleteSlug_alike (agrees : FileTree.AgreesOn seen tree other) (slug : String) :
    Alike seen ((storage root).deleteSlug slug tree) ((storage root).deleteSlug slug other) := by
  have deleted : Alike seen ((storage root).delete slug tree) ((storage root).delete slug other) :=
    delete_alike agrees (Directory.location root slug)
  rw [Storage.deleteSlug, Storage.deleteSlug]
  generalize (storage root).delete slug tree = result at deleted
  generalize (storage root).delete slug other = otherResult at deleted
  cases deleted with
  | alike agreesAfter => exact .alike agreesAfter

theorem save_alike (agrees : FileTree.AgreesOn seen tree other) (specification : Specification)
    (name? : Option String) :
    Alike seen ((storage root).save specification name? tree)
      ((storage root).save specification name? other) := by
  rw [Storage.save, Storage.save]
  cases specification.savedName? name? with
  | none => exact .alike agrees
  | some name =>
      have wrote : Alike seen
          ((storage root).write (ofName (specification.canonical name).name)
            (specification.canonical name).document tree)
          ((storage root).write (ofName (specification.canonical name).name)
            (specification.canonical name).document other) :=
        write_alike agrees _ _
      dsimp only
      generalize (storage root).write (ofName (specification.canonical name).name)
        (specification.canonical name).document tree = result at wrote
      generalize (storage root).write (ofName (specification.canonical name).name)
        (specification.canonical name).document other = otherResult at wrote
      cases wrote with
      | @alike result _ _ agreesAfter => cases result <;> exact .alike agreesAfter

end

section

variable (agrees : FileTree.AgreesOn (Seen root tree) tree other)

include agrees

theorem specification?_eq (single : slash ∉ fileName stem) :
    (storage root).specification? other stem = (storage root).specification? tree stem := by
  have same : other.readText (Directory.location root stem) =
      tree.readText (Directory.location root stem) :=
    agrees.readText_eq fun location located => ⟨stem, single, .of_locate single located⟩
  have read : (storage root).read other stem = (storage root).read tree stem := by
    change Directory.read other (Directory.location root stem) =
      Directory.read tree (Directory.location root stem)
    rw [Directory.read, Directory.read, same]
  rw [Storage.specification?, Storage.specification?, read]

theorem slugs_alike :
    (∃ error, (storage root).slugs tree = .error error ∧
      (storage root).slugs other = .error error) ∨
    ∃ slugs others, (storage root).slugs tree = .ok slugs ∧
      (storage root).slugs other = .ok others ∧ slugs.Nodup ∧ others.Nodup ∧
      ∀ slug, slug ∈ others ↔ slug ∈ slugs := by
  have nodup (tree : FileTree) (place : Location) : (((tree.children place).filter fun name =>
      tree.hasFile (root.join name)).filterMap slug?).Nodup := by
    refine ((tree.nodup_children place).filter _).filterMap ?_
    intro first second slug named namedOther
    rw [(eq_fileName_of_slug? named).1, (eq_fileName_of_slug? namedOther).1]
  change (∃ error, Directory.slugs root tree = .error error ∧
    Directory.slugs root other = .error error) ∨ ∃ slugs others,
      Directory.slugs root tree = .ok slugs ∧ Directory.slugs root other = .ok others ∧
      slugs.Nodup ∧ others.Nodup ∧ ∀ slug, slug ∈ others ↔ slug ∈ slugs
  rw [Directory.slugs, Directory.slugs]
  rcases agrees.list_cases root with ⟨error, fails, failsOther⟩ | ⟨place, lists, listsOther⟩
  · rw [fails, failsOther]
    cases error with
    | notFound => exact .inr ⟨[], [], rfl, rfl, .nil, .nil, fun _ => Iff.rfl⟩
    | _ => exact .inl ⟨_, rfl, rfl⟩
  · rw [lists, listsOther]
    refine .inr ⟨_, _, rfl, rfl, nodup tree place, nodup other place, ?_⟩
    intro slug
    simp only [List.mem_filterMap, List.mem_filter, agrees.mem_children_iff, agrees.hasFile_eq]

theorem list_eq (named : tree.HasNames) :
    (storage root).list other = (storage root).list tree := by
  rcases slugs_alike agrees with
    ⟨error, fails, failsOther⟩ | ⟨slugs, others, found, foundOther, nodup, nodupOther, mem⟩
  · rw [Storage.list, Storage.list, fails, failsOther]
  · refine Storage.list_congr foundOther nodupOther found nodup ?_
    intro slug entry
    rw [mem]
    refine and_congr_right fun listed => ?_
    rw [Storage.saved?, Storage.saved?,
      specification?_eq agrees (slash_notMem_of_slugs named found listed)]

theorem findName_eq (named : tree.HasNames) (name : String) :
    (storage root).findName other name = (storage root).findName tree name := by
  rw [Storage.findName, Storage.findName, list_eq agrees named]

theorem resolve_eq (named : tree.HasNames) (nameOrSlug : String) :
    (storage root).resolve other nameOrSlug = (storage root).resolve tree nameOrSlug := by
  have same := specification?_eq agrees
    (slash_notMem_fileName_ofName (Text.trim nameOrSlug))
  simp only [Storage.resolve, findName_eq agrees named, same]

theorem load_eq (named : tree.HasNames) (nameOrSlug : String) :
    (storage root).load other nameOrSlug = (storage root).load tree nameOrSlug := by
  rw [Storage.load, Storage.load, resolve_eq agrees named]
  cases resolved : (storage root).resolve tree nameOrSlug with
  | error error => rfl
  | ok slug? =>
      cases slug? with
      | none => rfl
      | some slug =>
          have single := slash_notMem_of_resolve named resolved
          exact congrArg Except.ok (specification?_eq agrees single)

theorem remove_alike (named : tree.HasNames) (nameOrSlug : String) :
    Alike (Seen root tree) ((storage root).remove nameOrSlug tree)
      ((storage root).remove nameOrSlug other) := by
  rw [Storage.remove, Storage.remove]
  split
  · exact .alike agrees
  · have first : Alike (Seen root tree)
        ((storage root).deleteSlug (ofName (Text.trim nameOrSlug)) tree)
        ((storage root).deleteSlug (ofName (Text.trim nameOrSlug)) other) :=
      deleteSlug_alike agrees _
    have kept {result : Except StoreError Bool} {after : FileTree} :=
      @deleteSlug_removes root tree after _ (slash_notMem_fileName_ofName (Text.trim nameOrSlug))
        result
    generalize (storage root).deleteSlug (ofName (Text.trim nameOrSlug)) tree = deleted
      at first kept
    generalize (storage root).deleteSlug (ofName (Text.trim nameOrSlug)) other = otherDeleted
      at first
    cases first with
    | @alike result between otherBetween agreesBetween =>
        cases result with
        | error error => exact .alike agreesBetween
        | ok existed =>
            cases existed with
            | true => exact .alike agreesBetween
            | false =>
                -- Nothing was deleted under the slug of the name, so the name is looked up.
                obtain rfl : between = tree := (kept rfl).2 rfl
                dsimp only
                rw [findName_eq agreesBetween named]
                cases (storage root).findName between (Text.trim nameOrSlug) with
                | error error => exact .alike agreesBetween
                | ok slug? =>
                    cases slug? with
                    | none => exact .alike agreesBetween
                    | some slug => exact deleteSlug_alike agreesBetween slug

theorem answer_alike (named : tree.HasNames) (request : Request) :
    Alike (Seen root tree) ((storage root).answer tree request)
      ((storage root).answer other request) := by
  cases request with
  | save specification name? =>
      exact (save_alike agrees specification name?).map (Answer.ofResult .saved)
  | importFrom files path name? =>
      rw [Storage.answer, Storage.answer, Storage.importFrom, Storage.importFrom]
      split
      · exact .alike agrees
      · split
        · exact .alike agrees
        · exact (save_alike agrees _ name?).map (Answer.ofResult .saved)
  | load nameOrSlug =>
      rw [Storage.answer, Storage.answer, load_eq agrees named]
      exact .alike agrees
  | remove nameOrSlug => exact (remove_alike agrees named nameOrSlug).map (Answer.ofResult .removed)
  | list =>
      rw [Storage.answer, Storage.answer, list_eq agrees named]
      exact .alike agrees

end

/-- Only documents and what links in their directory lead to are written and read, and only files
in the directory are deleted, at most one at a time. -/
theorem contained (root : Path) {tree : FileTree} (named : tree.HasNames) (request : Request) :
    Touches root tree ((storage root).answer tree request).2 request ∧
      ∀ other, FileTree.AgreesOn (Seen root tree) tree other →
        Alike (Seen root tree) ((storage root).answer tree request)
          ((storage root).answer other request) :=
  ⟨touches named request, fun _ agrees => answer_alike agrees named request⟩

theorem ne_fileName {name : Bytes} (ends : name.getLast? ≠ extension.getLast?) (stem : String) :
    name ≠ fileName stem := by
  rintro rfl
  have solid : extension ≠ [] := by decide
  rw [fileName_eq, List.getLast?_append_of_ne_nil _ (List.cons_ne_nil _ _),
    ← List.singleton_append, List.getLast?_append_of_ne_nil _ solid] at ends
  exact ends rfl

/-- Files to look at: a directory for documents and, beside it, a file. -/
def specs : Path := Bytes.ofText "specs"

def victim : Path := Bytes.ofText "victim.txt"

def directory : FileTree where
  nodes := [([specs], .directory)]

def besides (contents : Bytes) : FileTree :=
  directory.insert [victim] (.file contents false)

/-- The same files, with a link in the directory to the file beside it. -/
def linking : FileTree :=
  (directory.insert [victim] (.file (Bytes.ofText "precious") false)).insert
    [specs, fileName "report"] (.link (Bytes.ofText "../victim.txt"))

theorem contained_besides :
    let upwards : Request := .save {} (some "../victim.txt")
    Touches specs (besides [1]) ((storage specs).answer (besides [1]) upwards).2 upwards ∧
      Alike (Seen specs (besides [1])) ((storage specs).answer (besides [1]) upwards)
        ((storage specs).answer (besides [2]) upwards) := by
  intro upwards
  have named : (besides [1]).HasNames := FileTree.hasNames_of_nodes (by decide)
  have noDocument : ∀ stem, victim ≠ fileName stem := ne_fileName (by decide)
  have hidden : ¬ Seen specs (besides [1]) [victim] := by
    rintro ⟨stem, -, reaches⟩
    generalize reached : [victim] = location at reaches
    cases reaches with
    | @child place _ _ _ =>
        have last := congrArg List.getLast? reached
        rw [List.getLast?_append_of_ne_nil _ (List.cons_ne_nil _ _)] at last
        exact noDocument stem (Option.some.inj last)
    | @linked place _ target _ _ link _ =>
        have below : place ++ [fileName stem] ≠ [] := by simp
        have noLink : ∀ entry ∈ (besides [1]).nodes, entry.2 = .directory ∨
            entry.2 = .file [1] false := by decide
        rw [FileTree.node?_of_ne_nil _ below, List.lookup_eq_some_iff] at link
        obtain ⟨front, back, split, -⟩ := link
        have member : (place ++ [fileName stem], Node.link target) ∈ (besides [1]).nodes :=
          split ▸ List.mem_append_right front List.mem_cons_self
        rcases noLink _ member with isDirectory | isFile
        · cases isDirectory
        · cases isFile
  obtain ⟨touches, alike⟩ := contained specs named upwards
  exact ⟨touches, alike (besides [2]) (FileTree.agreesOn_insert_file hidden [1] [2] false .full)⟩

private theorem inside_linking : linking.node? [specs] = some .directory := by decide

private theorem found_linking :
    linking.node? [victim] = some (.file (Bytes.ofText "precious") false) := by decide

private theorem noLink_linking (target : Path) : linking.node? [specs] ≠ some (.link target) := by
  simp [inside_linking]

private theorem locate_linking :
    linking.locate true (Directory.location specs "report") = .ok [victim] := by
  have link : linking.node? [specs, fileName "report"] =
      some (.link (Bytes.ofText "../victim.txt")) := by decide
  have start : linking.start (Directory.location specs "report") = [] := by decide
  have steps : (Directory.location specs "report").steps = [specs, fileName "report"] := by
    decide
  have onward : Path.steps (Bytes.ofText "../victim.txt") ++ [] = [[point, point], victim] := by
    decide
  have leads : linking.Leads true (39 + 1) [] [specs, fileName "report"] 39 [victim] := by
    refine .down linking.node?_root ⟨by decide, by decide, by decide⟩ noLink_linking ?_
    refine .follow inside_linking ⟨by decide, by decide, by decide⟩ link rfl ?_
    rw [onward]
    refine .up inside_linking (.down linking.node?_root ⟨by decide, by decide, by decide⟩ ?_ .done)
    intro target same
    cases found_linking.symm.trans same
  rw [FileTree.locate_eq_walk ⟨by decide, by decide, by decide⟩, start, steps]
  exact leads.walk

private theorem save_linking : ∃ executable,
    ((storage specs).save {} (some "report") linking).2 = linking.insert [victim]
      (.file (Bytes.ofText (({} : Specification).canonical "report").document) executable) := by
  have named : ({} : Specification).savedName? (some "report") = some "report" := by decide
  have slug : ofName (({} : Specification).canonical "report").name = "report" := by
    rw [Specification.canonical_name]
    decide
  have locatedRoot : linking.locate true specs = .ok [specs] :=
    FileTree.locate_name linking.node?_root ⟨by decide, by decide, by decide, by decide,
      by decide⟩ (by decide) noLink_linking
  generalize document : (({} : Specification).canonical "report").document = text
  obtain ⟨executable, wrote⟩ := FileTree.exists_write locate_linking (.inr ⟨_, _, found_linking⟩)
    (Bytes.ofText text)
  have stored : (storage specs).write "report" text linking =
      (.ok (), linking.insert [victim] (.file (Bytes.ofText text) executable)) := by
    change Directory.write specs (Directory.location specs "report") _ linking = _
    rw [Directory.write, FileTree.ensureDirectory_of_directory locatedRoot inside_linking]
    simp only [wrote]
  exact ⟨executable, by simp only [Storage.save, named, slug, document, stored]⟩

/-- A link in the directory leads to a file outside of it, which a document replaces. -/
theorem save_through_link :
    let after := ((storage specs).save {} (some "report") linking).2
    linking.HasNames ∧ linking.node? [victim] = some (.file (Bytes.ofText "precious") false) ∧
      after.node? [victim] ≠ linking.node? [victim] ∧ ∀ stem, victim ≠ fileName stem := by
  intro after
  have named : linking.HasNames := FileTree.hasNames_of_nodes (by decide)
  refine ⟨named, found_linking, ?_, ne_fileName (by decide)⟩
  obtain ⟨executable, saved⟩ := save_linking
  rw [show after = _ from saved, FileTree.node?_insert _ _ _ (by decide), if_pos rfl,
    found_linking]
  intro same
  -- What is written can be read as a document, which the text that was there cannot.
  have parsed := (({} : Specification).canonical "report").ofDocument_document
  rw [Option.some.injEq, Node.file.injEq] at same
  rw [Bytes.ofText_inj same.1] at parsed
  cases parsed

end Directory

end FileSearch
