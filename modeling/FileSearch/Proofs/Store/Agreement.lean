import FileSearch.Proofs.Store.Catalog
import FileSearch.Proofs.Store.Directory

/-!
# One store in memory and in a directory

Storages that keep their promises are told apart by nothing but their roots: from states with one
catalog, each request has the same answer and leaves one catalog again. To remove the directory of a
store, between any two requests, is to delete all its documents.
-/

set_option autoImplicit false

namespace FileSearch

open Text.Slug (ofName)

/-! ## Answers up to the root -/

/-- Records that differ in nothing but the root of their paths. -/
structure SavedEntry.Alike (root other : Path) (entry shown : SavedEntry) : Prop where
  name : entry.name = shown.name
  slug : entry.slug = shown.slug
  path : entry.path = Directory.location root entry.slug
  otherPath : shown.path = Directory.location other shown.slug

theorem SavedEntry.alike_at (root other : Path) (name slug : String) :
    SavedEntry.Alike root other { name, slug, path := Directory.location root slug }
      { name, slug, path := Directory.location other slug } :=
  ⟨rfl, rfl, rfl, rfl⟩

/-- Answers that differ in nothing but the root of the paths in them. -/
inductive Answer.Alike (root other : Path) : Answer → Answer → Prop where
  | saved {entry shown : SavedEntry} :
      entry.Alike root other shown → Alike root other (.saved entry) (.saved shown)
  | loaded {specification? : Option Specification} :
      Alike root other (.loaded specification?) (.loaded specification?)
  | removed {existed : Bool} : Alike root other (.removed existed) (.removed existed)
  | listed {entries shown : List SavedEntry} :
      List.Forall₂ (SavedEntry.Alike root other) entries shown →
      Alike root other (.listed entries) (.listed shown)
  | failed {error : StoreError} : Alike root other (.failed error) (.failed error)

namespace Catalog

variable {catalog : Catalog} {location : String → Path}

theorem Lists.moved {entries : List SavedEntry} (lists : Lists location catalog entries)
    (moved : String → Path) :
    Lists moved catalog (entries.map fun entry => { entry with path := moved entry.slug }) where
  ordered := List.pairwise_map.mpr lists.ordered
  distinct := by
    rw [List.map_map]
    exact lists.distinct
  exact entry := by
    rw [List.mem_map]
    constructor
    · rintro ⟨listed, member, rfl⟩
      obtain ⟨specification, found, written⟩ := (lists.exact listed).mp member
      refine ⟨specification, found, ?_⟩
      rw [← written]
      rfl
    · rintro ⟨specification, found, written⟩
      refine ⟨record location entry.slug specification, ?_, ?_⟩
      · exact (lists.exact _).mpr ⟨specification, found, rfl⟩
      · rw [← written]
        rfl

theorem Lists.path_eq {entries : List SavedEntry} (lists : Lists location catalog entries)
    {entry : SavedEntry} (member : entry ∈ entries) : entry.path = location entry.slug := by
  obtain ⟨specification, -, written⟩ := (lists.exact entry).mp member
  rw [← written]
  rfl

/-- What a catalog answers at one root it answers at every other. -/
theorem Answers.exists_alike (root other : Path) {request : Request} {answer : Answer}
    {after : Catalog} (answers : catalog.Answers (Directory.location root) request answer after) :
    ∃ shown, catalog.Answers (Directory.location other) request shown after ∧
      answer.Alike root other shown := by
  induction answers with
  | saved names => exact ⟨_, .saved names, .saved (SavedEntry.alike_at root other _ _)⟩
  | refused blank => exact ⟨_, .refused blank, .failed⟩
  | unreadable failed => exact ⟨_, .unreadable failed, .failed⟩
  | malformed read failed => exact ⟨_, .malformed read failed, .failed⟩
  | imported read parsed _ ih =>
      obtain ⟨shown, answersShown, alike⟩ := ih
      exact ⟨shown, .imported read parsed answersShown, alike⟩
  | loaded => exact ⟨_, .loaded, .loaded⟩
  | removed => exact ⟨_, .removed, .removed⟩
  | listed lists =>
      refine ⟨_, .listed (lists.moved (Directory.location other)), .listed ?_⟩
      rw [List.forall₂_map_right_iff, List.forall₂_same]
      intro entry member
      exact ⟨rfl, rfl, lists.path_eq member, rfl⟩

end Catalog

/-! ## Histories -/

/-- What happens to a store. -/
inductive Event where
  | asked (request : Request)
  /-- All documents are lost. -/
  | wiped

namespace Storage

def history {State : Type} (storage : Storage State) (wipe : State → State) (state : State) :
    List Event → List Answer
  | [] => []
  | .asked request :: rest =>
    (storage.answer state request).1 ::
      storage.history wipe (storage.answer state request).2 rest
  | .wiped :: rest => storage.history wipe (wipe state) rest

def deleteAll {State : Type} (storage : Storage State) (state : State) : State :=
  match storage.slugs state with
  | .ok slugs => slugs.foldl (fun state slug => (storage.delete slug state).2) state
  | .error _ => state

namespace Contract

variable {State Other : Type} {storage : Storage State} {otherStorage : Storage Other}
  {contract : storage.Contract} {otherContract : otherStorage.Contract} {state : State}
  {otherState : Other} {catalog : Catalog}

theorem Holds.answer_alike (holds : contract.Holds state catalog)
    (otherHolds : otherContract.Holds otherState catalog) (request : Request) :
    ∃ after,
      (storage.answer state request).1.Alike storage.root otherStorage.root
        (otherStorage.answer otherState request).1 ∧
      contract.Holds (storage.answer state request).2 after ∧
      otherContract.Holds (otherStorage.answer otherState request).2 after := by
  obtain ⟨after, answers, holdsAfter⟩ := holds.answer request
  obtain ⟨otherAfter, otherAnswers, otherHoldsAfter⟩ := otherHolds.answer request
  obtain ⟨shown, answersShown, alike⟩ :=
    Catalog.Answers.exists_alike storage.root otherStorage.root answers
  obtain ⟨rfl, rfl⟩ := otherAnswers.unique answersShown
  exact ⟨_, alike, holdsAfter, otherHoldsAfter⟩

theorem Holds.history_alike {wipe : State → State} {otherWipe : Other → Other} {events : List Event}
    (wipes : .wiped ∈ events → ∀ state, contract.Sound state → contract.Empty (wipe state))
    (otherWipes : ∀ state, otherContract.Sound state → otherContract.Empty (otherWipe state))
    (holds : contract.Holds state catalog) (otherHolds : otherContract.Holds otherState catalog) :
    List.Forall₂ (Answer.Alike storage.root otherStorage.root)
      (storage.history wipe state events)
      (otherStorage.history otherWipe otherState events) := by
  induction events generalizing state otherState catalog with
  | nil => exact .nil
  | cons event rest ih =>
      have wipesRest (member : .wiped ∈ rest) := wipes (List.mem_cons_of_mem _ member)
      cases event with
      | asked request =>
          obtain ⟨after, alike, holdsAfter, otherHoldsAfter⟩ :=
            holds.answer_alike otherHolds request
          exact .cons alike (ih wipesRest holdsAfter otherHoldsAfter)
      | wiped =>
          -- Whatever catalog the two have held, both hold the empty one now.
          have empty := wipes List.mem_cons_self state holds.sound
          have otherEmpty := otherWipes otherState otherHolds.sound
          exact ih wipesRest empty.holds otherEmpty.holds

private theorem Complete.foldl_delete (complete : contract.Complete) {slugs : List String}
    (sound : contract.Sound state) (distinct : slugs.Nodup)
    (stored : ∀ slug ∈ slugs, (contract.get? state slug).isSome = true) :
    contract.Sound (slugs.foldl (fun state slug => (storage.delete slug state).2) state) ∧
      ∀ key, contract.get? (slugs.foldl (fun state slug => (storage.delete slug state).2) state)
        key = if key ∈ slugs then none else contract.get? state key := by
  induction slugs generalizing state with
  | nil => exact ⟨sound, fun key => (if_neg List.not_mem_nil).symm⟩
  | cons slug rest ih =>
      obtain ⟨notMem, distinctRest⟩ := List.nodup_cons.mp distinct
      obtain ⟨after, deleted, soundAfter, others⟩ :=
        complete.delete_stored sound (stored slug List.mem_cons_self)
      -- The documents whose turn is still to come are not touched.
      have storedAfter : ∀ key ∈ rest, (contract.get? after key).isSome = true := by
        intro key member
        have different : key ≠ slug := fun same => notMem (same ▸ member)
        rw [others, if_neg different]
        exact stored key (List.mem_cons_of_mem _ member)
      rw [List.foldl_cons, deleted]
      obtain ⟨soundLast, last⟩ := ih soundAfter distinctRest storedAfter
      refine ⟨soundLast, ?_⟩
      intro key
      rw [last, others]
      by_cases same : key = slug
      · simp [same]
      · simp [same]

theorem Complete.empty_deleteAll (complete : contract.Complete) (sound : contract.Sound state) :
    contract.Empty (storage.deleteAll state) := by
  obtain ⟨slugs, listed, distinct, memSlugs⟩ := contract.slugs_spec sound
  obtain ⟨soundAfter, rest⟩ :=
    complete.foldl_delete sound distinct fun slug member => (memSlugs slug).mp member
  rw [deleteAll, listed]
  refine ⟨soundAfter, ?_⟩
  intro slug
  rw [rest]
  split
  · rfl
  · next absent => exact Option.not_isSome_iff_eq_none.mp (mt (memSlugs slug).mpr absent)

end Contract

end Storage

/-! ## Directories -/

/-- A tree without the directory that a path leads to and all that is in it. -/
def FileTree.removeDirectory (path : Path) (tree : FileTree) : FileTree :=
  match tree.locate false path with
  | .ok place => if tree.node? place = some .directory then tree.outside place else tree
  | .error _ => tree

namespace Directory

variable {root : Path} {place : Location} {surroundings tree : FileTree}

theorem Keeps.removeDirectory (keeps : Keeps root place surroundings tree)
    (short : root.length ≤ FileTree.maxPath) (detachable : Detachable root place surroundings) :
    tree.removeDirectory root = surroundings ∧ surroundings.outside place = surroundings := by
  cases keeps with
  | present around present =>
      subst around
      have opens : (tree.outside place).Opens tree :=
        FileTree.opens_outside detachable.ne_nil (by simp [present.inside])
      have located : tree.locate false root = .ok place :=
        FileTree.locate_of_withoutSlashes (FileTree.locate_mono opens detachable.located)
          present.inside short
      refine ⟨?_, tree.outside_outside place⟩
      rw [FileTree.removeDirectory, located]
      exact if_pos present.inside
  | missing apart detachable =>
      have missing := Detachable.node?_eq_none apart detachable
      refine ⟨?_, apart⟩
      rcases FileTree.locate_of_missing false detachable.located missing short with
        nowhere | failed
      · rw [FileTree.removeDirectory, nowhere]
        exact if_neg (by simp [missing])
      · rw [FileTree.removeDirectory, failed]

theorem empty_removeDirectory (room : HasRoom root)
    (detachable : Detachable root place surroundings)
    (keeps : Keeps root place surroundings tree) :
    (contract root place surroundings room).Empty (tree.removeDirectory root) := by
  obtain ⟨removed, apart⟩ := keeps.removeDirectory (length_le_of_hasRoom room) detachable
  rw [removed]
  exact ⟨.missing apart detachable, Detachable.document?_eq_none apart⟩

/-- A store that has been opened in a directory without documents. Other files may be there. -/
structure Opened (root : Path) (place : Location) (tree : FileTree) : Prop where
  located : tree.locate true root = .ok place
  inside : tree.node? place = some .directory
  vacant : ∀ slug, slug ≠ "" → tree.node? (place ++ [fileName slug]) = none

theorem Opened.empty (opened : Opened root place tree) (room : HasRoom root) :
    (contract root place (tree.outside place) room).Empty tree where
  sound := .present rfl
    { located := opened.located
      inside := opened.inside
      documents := fun slug node solid found => by
        rw [opened.vacant slug solid] at found
        cases found }
  get?_eq_none slug := by
    change document? place tree slug = none
    rw [document?]
    split
    · rfl
    · next solid => rw [opened.vacant slug solid]

/-- A store in a directory and a store in memory, both empty at first, give the same answers to the
same requests, up to the root of the paths in them; and that the directory is removed at any time
has for all later answers the effect that all documents in memory are deleted. The files that are
imported are the same for both. -/
theorem history_alike_memory (opened : Opened root place tree) (room : HasRoom root)
    (events : List Event)
    (detachable : .wiped ∈ events → Detachable root place (tree.outside place)) :
    List.Forall₂ (Answer.Alike root Documents.storage.root)
      ((storage root).history (FileTree.removeDirectory root) tree events)
      (Documents.storage.history Documents.storage.deleteAll {} events) := by
  refine Storage.Contract.Holds.history_alike ?_ ?_ (opened.empty room).holds
    Documents.contract_empty.holds
  · intro wiped state keeps
    exact empty_removeDirectory room (detachable wiped) keeps
  · intro documents sound
    exact Documents.contract_complete.empty_deleteAll sound

/-- A directory of the name `specs`, and what is asked before and after it is removed. -/
theorem history_alike_memory_specs :
    let tree : FileTree := { nodes := [([Path.ofText "specs"], .directory)] }
    List.Forall₂ (Answer.Alike (Path.ofText "specs") Documents.storage.root)
      ((storage (Path.ofText "specs")).history
        (FileTree.removeDirectory (Path.ofText "specs")) tree
        [.asked (.save {} (some "My report")), .wiped, .asked (.load "My report"), .asked .list])
      (Documents.storage.history Documents.storage.deleteAll {}
        [.asked (.save {} (some "My report")), .wiped, .asked (.load "My report"),
          .asked .list]) := by
  intro tree
  have isName : Path.IsName (Path.ofText "specs") :=
    ⟨by decide, by decide, by decide, by decide, by decide⟩
  have inside : tree.node? ([] ++ [Path.ofText "specs"]) = some .directory := by decide
  have opened : Opened (Path.ofText "specs") [Path.ofText "specs"] tree :=
    { located := FileTree.locate_name rfl isName (by decide) (inside ▸ by simp)
      inside := inside
      vacant := fun slug _ => by
        rw [FileTree.node?_of_ne_nil _ (by simp)]
        rfl }
  have room : HasRoom (Path.ofText "specs") := hasRoom_of_length (by decide)
  have unclosed : (Path.ofText "specs").withoutSlashes = Path.ofText "specs" := by decide
  have removed : (tree.outside [Path.ofText "specs"]).node? ([] ++ [Path.ofText "specs"]) =
      none := by decide
  have detachable : Detachable (Path.ofText "specs") [Path.ofText "specs"]
      (tree.outside [Path.ofText "specs"]) :=
    { ne_nil := by decide
      located := by
        rw [unclosed]
        exact FileTree.locate_name rfl isName (by decide) (removed ▸ by simp) }
  exact history_alike_memory opened room _ fun _ => detachable

end Directory

end FileSearch
