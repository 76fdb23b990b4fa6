import FileSearch.Proofs.Files.Access
import FileSearch.Proofs.Store.Contract
import FileSearch.Store.Directory
import Mathlib.Data.List.Nodup

/-!
# Documents in a directory

The file of a document is named after its slug, and the name leads back to the slug. A directory in
which all such files can be read keeps the promises of a storage, and so does a place where one can
be made: nothing is read from it until something is written.
-/

set_option autoImplicit false

namespace FileSearch

open Text.Slug (ofName)

namespace Directory

open FileSearch.Path (slash point IsName)

variable {root : Path} {place : Location} {surroundings tree : FileTree}

/-! ## Names of files -/

/-- The name of the file for the document with a slug. -/
def fileName (slug : String) : Bytes :=
  Path.ofText (slug ++ Storage.ending)

theorem location_eq (root : Path) (slug : String) :
    location root slug = root.join (fileName slug) :=
  rfl

theorem fileName_eq (slug : String) : fileName slug = Bytes.ofText slug ++ point :: extension :=
  Bytes.ofText_append slug Storage.ending

theorem slug?_fileName {slug : String} (solid : slug ≠ "") : slug? (fileName slug) = some slug := by
  have nonempty : Bytes.ofText slug ≠ [] := fun empty => solid (Bytes.ofText_inj empty)
  have single : point ∉ extension := by decide
  rw [slug?, fileName_eq, Path.splitExtension_append nonempty single]
  exact Bytes.toText?_ofText slug

theorem eq_fileName_of_slug? {name : Bytes} {slug : String} (named : slug? name = some slug) :
    name = fileName slug ∧ slug ≠ "" := by
  unfold slug? at named
  split at named
  · next stem ending split =>
      obtain ⟨rfl, solid⟩ := Path.eq_of_splitExtension split
      rw [Option.ite_none_right_eq_some, beq_iff_eq, Bytes.toText?_eq_some_iff] at named
      obtain ⟨rfl, rfl⟩ := named
      refine ⟨(fileName_eq slug).symm, ?_⟩
      rintro rfl
      exact solid rfl
  · cases named

theorem fileName_inj {slug other : String} (same : fileName slug = fileName other) :
    slug = other := by
  rw [fileName_eq, fileName_eq] at same
  exact Bytes.ofText_inj (List.append_cancel_right same)

private theorem toNat_of_mem_chars {name : List Char} {c : Char}
    (member : c ∈ Text.Slug.chars name) : 45 ≤ c.toNat ∧ c.toNat ≠ 47 ∧ c.toNat < 128 := by
  rcases Text.Slug.mem_chars member with kept | rfl
  · rw [Text.Slug.isKept_iff] at kept
    omega
  · decide

theorem ofText_ofName (name : String) :
    Bytes.ofText (ofName name) = (Text.Slug.chars name.toList).map fun c => c.toNat.toUInt8 :=
  Bytes.ofText_ofList_of_ascii fun _ member => (toNat_of_mem_chars member).2.2

theorem toNat_of_mem_ofText_ofName {name : String} {byte : UInt8}
    (member : byte ∈ Bytes.ofText (ofName name)) : 45 ≤ byte.toNat ∧ byte.toNat ≠ 47 := by
  rw [ofText_ofName, List.mem_map] at member
  obtain ⟨c, member, rfl⟩ := member
  have inRange := toNat_of_mem_chars member
  have same : c.toNat.toUInt8.toNat = c.toNat := Nat.mod_eq_of_lt (by omega)
  rw [same]
  exact ⟨inRange.1, inRange.2.1⟩

theorem length_fileName_ofName_le (name : String) : (fileName (ofName name)).length ≤ 69 := by
  have short := Text.Slug.length_chars_le name.toList
  have ending : (point :: extension).length = 5 := by decide
  rw [fileName_eq, List.length_append, ofText_ofName, List.length_map, ending]
  exact Nat.add_le_add_right short 5

theorem isName_fileName {stem : String} (single : slash ∉ fileName stem)
    (textual : 0 ∉ fileName stem) : IsName (fileName stem) where
  ne_nil := by simp [fileName_eq]
  ne_point same := by
    have length := congrArg List.length same
    have ending : extension.length = 4 := by decide
    simp [fileName_eq, ending] at length
  ne_points same := by
    have length := congrArg List.length same
    have ending : extension.length = 4 := by decide
    simp [fileName_eq, ending] at length
  slash_notMem := single
  nul_notMem := textual

theorem isName_fileName_ofName (name : String) : IsName (fileName (ofName name)) := by
  refine isName_fileName ?_ ?_
  · intro member
    rw [fileName_eq, List.mem_append] at member
    rcases member with inSlug | inEnding
    · exact (toNat_of_mem_ofText_ofName inSlug).2 rfl
    · exact absurd inEnding (by decide)
  · intro member
    rw [fileName_eq, List.mem_append] at member
    rcases member with inSlug | inEnding
    · exact absurd (toNat_of_mem_ofText_ofName inSlug).1 (by decide)
    · exact absurd inEnding (by decide)

/-- Slugs for which there can be a file in a directory. -/
structure IsNameable (root : Path) (slug : String) : Prop where
  solid : slug ≠ ""
  isName : IsName (fileName slug)
  shortName : (fileName slug).length ≤ FileTree.maxName
  short : (location root slug).length ≤ FileTree.maxPath

/-- The path of a directory leaves room for the names of all files. -/
def HasRoom (root : Path) : Prop :=
  ∀ name, (location root (ofName name)).length ≤ FileTree.maxPath

theorem isNameable_ofName (room : HasRoom root) (name : String) :
    IsNameable root (ofName name) where
  solid empty := Text.Slug.trim_ofName_ne_empty name (by rw [empty]; rfl)
  isName := isName_fileName_ofName name
  shortName := by
    have short := length_fileName_ofName_le name
    unfold FileTree.maxName
    omega
  short := room name

theorem hasRoom_of_length (short : root.length + 70 ≤ FileTree.maxPath) : HasRoom root := by
  intro name
  have joined := Path.length_join_le root (isName_fileName_ofName name)
  have shortName := length_fileName_ofName_le name
  rw [location_eq]
  omega

theorem length_le_of_hasRoom (room : HasRoom root) : root.length ≤ FileTree.maxPath :=
  (Path.le_length_join root (isName_fileName_ofName "")).trans (room "")

/-! ## Documents -/

/-- The document of a slug in a directory. -/
def document? (place : Location) (tree : FileTree) (slug : String) : Option String :=
  if slug = "" then none
  else match tree.node? (place ++ [fileName slug]) with
    | some (.file contents _ .full) => contents.toText?
    | _ => none

/-- A directory with documents: the path leads there, and where there is something with the name of
a document, there is a file with text. -/
structure Present (root : Path) (place : Location) (tree : FileTree) : Prop where
  located : tree.locate true root = .ok place
  inside : tree.node? place = some .directory
  documents : ∀ slug node, slug ≠ "" → tree.node? (place ++ [fileName slug]) = some node →
    IsNameable root slug ∧ ∃ document executable, node = .file (Bytes.ofText document) executable

/-- A directory that can be removed and made again: the way to it does not lead through it, and ends
at no link. -/
structure Detachable (root : Path) (place : Location) (surroundings : FileTree) : Prop where
  ne_nil : place ≠ []
  located : surroundings.locate false root.withoutSlashes = .ok place

/-- What a storage in a directory keeps to: all around the directory stays, and the directory can be
missing where it can be made again. -/
inductive Keeps (root : Path) (place : Location) (surroundings : FileTree) : FileTree → Prop where
  | present {tree : FileTree} : tree.outside place = surroundings → Present root place tree →
      Keeps root place surroundings tree
  | missing : surroundings.outside place = surroundings → Detachable root place surroundings →
      Keeps root place surroundings surroundings

namespace Present

variable {slug : String}

theorem document?_eq_some_iff (present : Present root place tree) (solid : slug ≠ "")
    {document : String} : document? place tree slug = some document ↔
      ∃ executable, tree.node? (place ++ [fileName slug]) =
        some (.file (Bytes.ofText document) executable) := by
  rw [document?, if_neg solid]
  cases found : tree.node? (place ++ [fileName slug]) with
  | none => simp
  | some node =>
      obtain ⟨-, text, executable, rfl⟩ := present.documents slug node solid found
      simp only [Bytes.toText?_ofText, Option.some.injEq, Node.file.injEq]
      constructor
      · rintro rfl
        exact ⟨executable, rfl, rfl, trivial⟩
      · rintro ⟨other, same, -⟩
        exact Bytes.ofText_inj same

theorem document?_eq_none_iff (present : Present root place tree) (solid : slug ≠ "") :
    document? place tree slug = none ↔ tree.node? (place ++ [fileName slug]) = none := by
  cases found : tree.node? (place ++ [fileName slug]) with
  | none => simp [document?, found]
  | some node =>
      obtain ⟨-, text, executable, rfl⟩ := present.documents slug node solid found
      simp [document?, solid, found, Bytes.toText?_ofText]

theorem exists_file (present : Present root place tree)
    (stored : (document? place tree slug).isSome = true) :
    IsNameable root slug ∧ ∃ document executable, tree.node? (place ++ [fileName slug]) =
      some (.file (Bytes.ofText document) executable) := by
  have solid : slug ≠ "" := by
    rintro rfl
    cases stored
  obtain ⟨document, found⟩ := Option.isSome_iff_exists.mp stored
  obtain ⟨executable, file⟩ := (present.document?_eq_some_iff solid).mp found
  exact ⟨(present.documents slug _ solid file).1, document, executable, file⟩

theorem aside (present : Present root place tree) (solid : slug ≠ "") :
    FileTree.IsAside (tree.node? (place ++ [fileName slug])) := by
  cases found : tree.node? (place ++ [fileName slug]) with
  | none => exact .inl rfl
  | some node =>
      obtain ⟨-, document, executable, rfl⟩ := present.documents slug node solid found
      exact .inr ⟨_, executable, rfl⟩

theorem locate (present : Present root place tree) (nameable : IsNameable root slug)
    (followLast : Bool) :
    tree.locate followLast (location root slug) = .ok (place ++ [fileName slug]) :=
  FileTree.locate_join present.located present.inside nameable.isName nameable.shortName
    nameable.short (present.aside nameable.solid).ne_link

end Present

/-! ## Operations on a directory -/

section

variable {slug : String}

private theorem ne_nil_place (place : Location) (name : Bytes) : place ++ [name] ≠ [] :=
  List.append_ne_nil_of_right_ne_nil _ (List.cons_ne_nil _ _)

private theorem prefix_place (place : Location) (name : Bytes) : place <+: place ++ [name] :=
  List.prefix_append _ _

private theorem file_eq_iff {place : Location} {key slug : String} :
    place ++ [fileName key] = place ++ [fileName slug] ↔ key = slug := by
  rw [List.append_cancel_left_eq, List.singleton_inj]
  exact ⟨fileName_inj, fun same => same ▸ rfl⟩

theorem document?_insert (solid : slug ≠ "") (document : String) (executable : Bool)
    (key : String) :
    document? place (tree.insert (place ++ [fileName slug])
        (.file (Bytes.ofText document) executable)) key =
      if key = slug then some document else document? place tree key := by
  simp only [document?, FileTree.node?_insert _ _ _ (ne_nil_place _ _), file_eq_iff]
  by_cases same : key = slug
  · simp [same, solid, Bytes.toText?_ofText]
  · simp [same]

theorem document?_erase (slug key : String) :
    document? place (tree.erase (place ++ [fileName slug])) key =
      if key = slug then none else document? place tree key := by
  simp only [document?, FileTree.node?_erase _ _ (ne_nil_place _ _), file_eq_iff]
  by_cases same : key = slug <;> simp [same]

namespace Present

theorem insert (present : Present root place tree) (nameable : IsNameable root slug)
    (document : String) (executable : Bool) :
    Present root place (tree.insert (place ++ [fileName slug])
      (.file (Bytes.ofText document) executable)) := by
  have opens : tree.Opens (tree.insert (place ++ [fileName slug])
      (.file (Bytes.ofText document) executable)) :=
    FileTree.opens_insert (ne_nil_place _ _) (present.aside nameable.solid) (by simp)
  refine ⟨FileTree.locate_mono opens present.located, opens.directory present.inside, ?_⟩
  intro key node solid found
  rw [FileTree.node?_insert _ _ _ (ne_nil_place _ _)] at found
  split at found
  · next same =>
      obtain rfl := file_eq_iff.mp same
      rw [Option.some.injEq] at found
      exact ⟨nameable, document, executable, found.symm⟩
  · exact present.documents key node solid found

theorem erase (present : Present root place tree) (solid : slug ≠ "") :
    Present root place (tree.erase (place ++ [fileName slug])) := by
  have opens : tree.Opens (tree.erase (place ++ [fileName slug])) :=
    FileTree.opens_erase (ne_nil_place _ _) (present.aside solid)
  refine ⟨FileTree.locate_mono opens present.located, opens.directory present.inside, ?_⟩
  intro key node solidKey found
  rw [FileTree.node?_erase _ _ (ne_nil_place _ _)] at found
  split at found
  · cases found
  · exact present.documents key node solidKey found

theorem slugs (present : Present root place tree) :
    ∃ slugs, (storage root).slugs tree = .ok slugs ∧ slugs.Nodup ∧
      ∀ slug, slug ∈ slugs ↔ (document? place tree slug).isSome = true := by
  have listed := FileTree.list_of_directory present.located present.inside
  refine ⟨((tree.children place).filter fun name =>
    tree.hasFile (root.join name)).filterMap slug?, ?_, ?_, ?_⟩
  · change Directory.slugs root tree = _
    rw [Directory.slugs, listed]
  · refine ((tree.nodup_children place).filter _).filterMap ?_
    intro first second slug named namedOther
    rw [(eq_fileName_of_slug? named).1, (eq_fileName_of_slug? namedOther).1]
  · intro slug
    rw [List.mem_filterMap]
    constructor
    · -- Files that are no documents have no slugs, so each name is that of a document.
      rintro ⟨name, member, named⟩
      obtain ⟨rfl, solid⟩ := eq_fileName_of_slug? named
      have child := FileTree.mem_children_iff.mp (List.mem_of_mem_filter member)
      rw [Option.isSome_iff_ne_none, ne_eq, present.document?_eq_none_iff solid,
        ← ne_eq, ← Option.isSome_iff_ne_none]
      exact child
    · intro stored
      obtain ⟨nameable, document, executable, found⟩ := present.exists_file stored
      refine ⟨fileName slug, List.mem_filter.mpr ⟨?_, ?_⟩, slug?_fileName nameable.solid⟩
      · rw [FileTree.mem_children_iff, found]
        rfl
      · exact (FileTree.hasFile_of_locate (present.locate nameable true)).mpr ⟨_, _, _, found⟩

theorem read (present : Present root place tree) (nameable : IsNameable root slug) :
    (storage root).read tree slug = .ok (document? place tree slug) := by
  have located := present.locate nameable true
  change Directory.read tree (location root slug) = _
  cases stored : document? place tree slug with
  | none =>
      rw [present.document?_eq_none_iff nameable.solid] at stored
      rw [Directory.read, FileTree.readText_of_missing located stored]
  | some document =>
      obtain ⟨executable, found⟩ := (present.document?_eq_some_iff nameable.solid).mp stored
      rw [Directory.read, FileTree.readText_of_text located found]

theorem write (present : Present root place tree) (nameable : IsNameable root slug)
    (document : String) :
    ∃ executable, (storage root).write slug document tree = (.ok (),
      tree.insert (place ++ [fileName slug]) (.file (Bytes.ofText document) executable)) := by
  obtain ⟨executable, written⟩ := FileTree.exists_write (present.locate nameable true)
    (present.aside nameable.solid) (Bytes.ofText document)
  refine ⟨executable, ?_⟩
  change Directory.write root (location root slug) document tree = _
  rw [Directory.write, FileTree.ensureDirectory_of_directory present.located present.inside]
  simp only [written]

theorem delete (present : Present root place tree) (nameable : IsNameable root slug) :
    (storage root).delete slug tree = (.ok (document? place tree slug).isSome,
      if (document? place tree slug).isSome then tree.erase (place ++ [fileName slug])
      else tree) := by
  have located := present.locate nameable false
  change Directory.delete (location root slug) tree = _
  cases stored : document? place tree slug with
  | none =>
      rw [present.document?_eq_none_iff nameable.solid] at stored
      rw [Directory.delete, FileTree.remove_of_missing located stored]
      rfl
  | some document =>
      obtain ⟨executable, found⟩ := (present.document?_eq_some_iff nameable.solid).mp stored
      rw [Directory.delete, FileTree.remove_of_file located found]
      rfl

end Present

/-! ## Operations where the directory is missing -/

namespace Detachable

theorem node?_eq_none (apart : surroundings.outside place = surroundings)
    (detachable : Detachable root place surroundings) : surroundings.node? place = none := by
  rw [← apart, FileTree.node?_outside _ _ detachable.ne_nil, if_pos (List.prefix_refl _)]

theorem document?_eq_none (apart : surroundings.outside place = surroundings) (slug : String) :
    document? place surroundings slug = none := by
  have missing : surroundings.node? (place ++ [fileName slug]) = none := by
    rw [← apart, FileTree.node?_outside _ _ (ne_nil_place _ _), if_pos (prefix_place _ _)]
  simp only [document?, missing, ite_self]

theorem locate (apart : surroundings.outside place = surroundings)
    (detachable : Detachable root place surroundings) (nameable : IsNameable root slug)
    (short : root.length ≤ FileTree.maxPath) (followLast : Bool) :
    surroundings.locate followLast (location root slug) = .error .notFound :=
  FileTree.locate_join_of_missing detachable.located (node?_eq_none apart detachable)
    nameable.isName nameable.short short

theorem present_made (apart : surroundings.outside place = surroundings)
    (detachable : Detachable root place surroundings) (short : root.length ≤ FileTree.maxPath) :
    Present root place (surroundings.insert place .directory) where
  located := by
    have opens : surroundings.Opens (surroundings.insert place .directory) :=
      FileTree.opens_insert detachable.ne_nil (.inl (node?_eq_none apart detachable)) (by simp)
    apply FileTree.locate_of_withoutSlashes (FileTree.locate_mono opens detachable.located) _ short
    rw [FileTree.node?_insert _ _ _ detachable.ne_nil, if_pos rfl]
  inside := by rw [FileTree.node?_insert _ _ _ detachable.ne_nil, if_pos rfl]
  documents slug node _ found := by
    have below : place ++ [fileName slug] ≠ place := by simp
    rw [FileTree.node?_insert _ _ _ (ne_nil_place _ _), if_neg below, ← apart,
      FileTree.node?_outside _ _ (ne_nil_place _ _), if_pos (prefix_place _ _)] at found
    cases found

theorem document?_made (apart : surroundings.outside place = surroundings) (slug : String) :
    document? place (surroundings.insert place .directory) slug = none := by
  have below : place ++ [fileName slug] ≠ place := by simp
  have missing := document?_eq_none apart slug
  rw [document?] at missing ⊢
  rwa [FileTree.node?_insert _ _ _ (ne_nil_place _ _), if_neg below]

theorem write (apart : surroundings.outside place = surroundings)
    (detachable : Detachable root place surroundings) (short : root.length ≤ FileTree.maxPath)
    (document : String) :
    (storage root).write slug document surroundings =
      (storage root).write slug document (surroundings.insert place .directory) := by
  have made := present_made apart detachable short
  change Directory.write root (location root slug) document _ =
    Directory.write root (location root slug) document _
  rw [Directory.write, Directory.write,
    FileTree.ensureDirectory_of_missing detachable.located (node?_eq_none apart detachable),
    FileTree.ensureDirectory_of_directory made.located made.inside]

end Detachable

/-! ## Promises -/

namespace Keeps

theorem slugs (keeps : Keeps root place surroundings tree) (room : HasRoom root) :
    ∃ slugs, (storage root).slugs tree = .ok slugs ∧ slugs.Nodup ∧
      ∀ slug, slug ∈ slugs ↔ (document? place tree slug).isSome = true := by
  cases keeps with
  | present _ present => exact present.slugs
  | missing apart detachable =>
      have listed := FileTree.list_of_missing detachable.located
        (Detachable.node?_eq_none apart detachable) (length_le_of_hasRoom room)
      refine ⟨[], ?_, List.nodup_nil, ?_⟩
      · change Directory.slugs root surroundings = _
        rw [Directory.slugs, listed]
      · intro slug
        rw [Detachable.document?_eq_none apart slug]
        simp

theorem read (keeps : Keeps root place surroundings tree) (room : HasRoom root)
    (nameable : IsNameable root slug) :
    (storage root).read tree slug = .ok (document? place tree slug) := by
  cases keeps with
  | present _ present => exact present.read nameable
  | missing apart detachable =>
      have failed := detachable.locate apart nameable (length_le_of_hasRoom room) true
      rw [Detachable.document?_eq_none apart slug]
      change Directory.read surroundings (location root slug) = _
      rw [Directory.read, FileTree.readText_of_locate_error failed]

theorem delete (keeps : Keeps root place surroundings tree) (room : HasRoom root)
    (nameable : IsNameable root slug) :
    ∃ after, (storage root).delete slug tree =
        (.ok (document? place tree slug).isSome, after) ∧ Keeps root place surroundings after ∧
      ∀ key, document? place after key =
        if key = slug then none else document? place tree key := by
  cases keeps with
  | present around present =>
      refine ⟨_, present.delete nameable, ?_, ?_⟩
      · split
        · exact .present ((tree.outside_erase (prefix_place _ _)).trans around)
            (present.erase nameable.solid)
        · exact .present around present
      · intro key
        split
        · exact document?_erase slug key
        · next absent =>
            split
            · next same =>
                rw [same]
                simpa using absent
            · rfl
  | missing apart detachable =>
      have failed := detachable.locate apart nameable (length_le_of_hasRoom room) false
      refine ⟨surroundings, ?_, .missing apart detachable, ?_⟩
      · change Directory.delete (location root slug) surroundings = _
        rw [Directory.delete, FileTree.remove_of_locate_error failed,
          Detachable.document?_eq_none apart slug]
        rfl
      · intro key
        rw [Detachable.document?_eq_none apart, ite_self]

private theorem write_present (around : tree.outside place = surroundings)
    (present : Present root place tree) (nameable : IsNameable root slug) (document : String) :
    ∃ after, (storage root).write slug document tree = (.ok (), after) ∧
      Keeps root place surroundings after ∧
      ∀ key, document? place after key =
        if key = slug then some document else document? place tree key := by
  obtain ⟨executable, written⟩ := present.write nameable document
  refine ⟨_, written, .present ?_ (present.insert nameable document executable),
    document?_insert nameable.solid document executable⟩
  exact (tree.outside_insert _ (prefix_place _ _)).trans around

theorem write (keeps : Keeps root place surroundings tree) (room : HasRoom root)
    (nameable : IsNameable root slug) (document : String) :
    ∃ after, (storage root).write slug document tree = (.ok (), after) ∧
      Keeps root place surroundings after ∧
      ∀ key, document? place after key =
        if key = slug then some document else document? place tree key := by
  cases keeps with
  | present around present => exact write_present around present nameable document
  | missing apart detachable =>
      have short := length_le_of_hasRoom room
      -- The directory is made first, and what is written then is written as in any other.
      have around : (surroundings.insert place .directory).outside place = surroundings := by
        rw [surroundings.outside_insert _ (List.prefix_refl _), apart]
      obtain ⟨after, written, keepsAfter, rest⟩ :=
        write_present around (detachable.present_made apart short) nameable document
      refine ⟨after, ?_, keepsAfter, ?_⟩
      · rw [detachable.write apart short, written]
      · intro key
        rw [rest, Detachable.document?_made apart, Detachable.document?_eq_none apart]

theorem isNameable (keeps : Keeps root place surroundings tree)
    (stored : (document? place tree slug).isSome = true) : IsNameable root slug := by
  cases keeps with
  | present _ present => exact (present.exists_file stored).1
  | missing apart _ =>
      rw [Detachable.document?_eq_none apart] at stored
      cases stored

end Keeps

end

/-- A directory whose path leaves room for the names of documents keeps the promises of a storage,
also where it is missing and can be made again. -/
def contract (root : Path) (place : Location) (surroundings : FileTree) (room : HasRoom root) :
    (storage root).Contract where
  Sound := Keeps root place surroundings
  get? := document? place
  slugs_spec keeps := keeps.slugs room
  read_spec keeps name := keeps.read room (isNameable_ofName room name)
  write_spec keeps name := keeps.write room (isNameable_ofName room name)
  delete_spec keeps name := keeps.delete room (isNameable_ofName room name)

theorem contract_complete (room : HasRoom root) :
    (contract root place surroundings room).Complete where
  read_stored {tree slug} keeps stored :=
    Keeps.read keeps room (Keeps.isNameable keeps stored)
  delete_stored {tree slug} keeps stored := by
    obtain ⟨after, deleted, keepsAfter, rest⟩ :=
      Keeps.delete keeps room (Keeps.isNameable keeps stored)
    refine ⟨after, ?_, keepsAfter, rest⟩
    rw [deleted, show (document? place tree slug).isSome = true from stored]

end Directory

end FileSearch
