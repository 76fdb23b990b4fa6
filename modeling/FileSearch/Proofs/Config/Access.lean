import FileSearch.Config.Access
import FileSearch.Proofs.Config.Document
import FileSearch.Proofs.Files.Changes

/-!
# Configurations that are saved

A configuration that is saved is the one that is loaded afterwards. One whose path is no text is
refused, and no file changes.
-/

set_option autoImplicit false

namespace FileSearch

open FileSearch.FileTree (MakesWay)

theorem FileTree.hasPath_of_readText {tree : FileTree} {path : Path} {text : String}
    (read : tree.readText path = .ok text) : tree.hasPath path = true := by
  cases located : tree.locate true path with
  | error error =>
      rw [readText_of_locate_error located] at read
      cases read
  | ok location =>
      cases found : tree.node? location with
      | none =>
          rw [readText_of_missing located found] at read
          cases read
      | some node => simp only [hasPath, find?, located, found, Option.isSome_some]

namespace Config

variable {config : Config} {environment : Environment} {tree : FileTree} {path : Path}

def makeRoom (path : Path) (tree : FileTree) : Except FileError Unit × FileTree :=
  match path.parent? with
  | some parent => tree.ensureDirectory parent
  | none => (.ok (), tree)

theorem makeRoom_of_locate {location : Location} (located : tree.locate true path = .ok location) :
    makeRoom path tree = (.ok (), tree) := by
  rw [makeRoom]
  split
  · next parent isParent => exact FileTree.ensureDirectory_parent located isParent
  · rfl

theorem makesWay_of_makeRoom {result : Except FileError Unit} {made : FileTree}
    (room : makeRoom path tree = (result, made)) : MakesWay path tree made := by
  rw [makeRoom] at room
  split at room
  · next parent isParent =>
      have makesWay := (tree.makesWay_ensureDirectory parent).of_parent isParent
      rw [room] at makesWay
      exact makesWay
  · cases room
    exact .refl path tree

theorem save_eq (config : Config) (given : environment.configLocation? = some path)
    (tree : FileTree) :
    config.save environment tree =
      match makeRoom path tree, config.document? with
      | (.error error, tree), _ => (.error (.file error), tree)
      | (.ok (), tree), none => (.error .unwritable, tree)
      | (.ok (), tree), some document =>
        match tree.write path (Bytes.ofText document) with
        | .ok written => (.ok path, written)
        | .error error => (.error (.file error), tree) := by
  have unfolded (document? : Option String) : writeFile path document? tree =
      match makeRoom path tree, document? with
      | (.error error, tree), _ => (.error (.file error), tree)
      | (.ok (), tree), none => (.error .unwritable, tree)
      | (.ok (), tree), some document =>
        match tree.write path (Bytes.ofText document) with
        | .ok written => (.ok (), written)
        | .error error => (.error (.file error), tree) := rfl
  rw [save, given]
  dsimp only
  rw [unfolded]
  rcases makeRoom path tree with ⟨cause | ⟨⟩, made⟩
  · rfl
  · cases config.document? with
    | none => rfl
    | some document =>
        cases wrote : made.write path (Bytes.ofText document) with
        | error cause =>
            simp only [wrote]
            rfl
        | ok written =>
            simp only [wrote]
            rfl

/-- What comes of saving a configuration. -/
inductive Saving (config : Config) (environment : Environment) (tree : FileTree) :
    Except ConfigError Path → FileTree → Prop where
  | nowhere : environment.configLocation? = none →
      Saving config environment tree (.error .noDirectory) tree
  | noRoom {path : Path} {cause : FileError} {made : FileTree} :
      environment.configLocation? = some path → makeRoom path tree = (.error cause, made) →
      Saving config environment tree (.error (.file cause)) made
  | refused {path : Path} {made : FileTree} :
      environment.configLocation? = some path → makeRoom path tree = (.ok (), made) →
      config.document? = none → Saving config environment tree (.error .unwritable) made
  | failed {path : Path} {made : FileTree} {document : String} {cause : FileError} :
      environment.configLocation? = some path → makeRoom path tree = (.ok (), made) →
      config.document? = some document →
      made.write path (Bytes.ofText document) = .error cause →
      Saving config environment tree (.error (.file cause)) made
  | written {path : Path} {made after : FileTree} {document : String} :
      environment.configLocation? = some path → makeRoom path tree = (.ok (), made) →
      config.document? = some document → made.write path (Bytes.ofText document) = .ok after →
      Saving config environment tree (.ok path) after

theorem saving {result : Except ConfigError Path} {after : FileTree}
    (saved : config.save environment tree = (result, after)) :
    Saving config environment tree result after := by
  cases given : environment.configLocation? with
  | none =>
      rw [save, given] at saved
      cases saved
      exact .nowhere given
  | some path =>
      rw [save_eq config given] at saved
      rcases room : makeRoom path tree with ⟨cause | ⟨⟩, made⟩
      · rw [room] at saved
        cases saved
        exact .noRoom given room
      · cases document : config.document? with
        | none =>
            rw [room, document] at saved
            cases saved
            exact .refused given room document
        | some text =>
            rw [room, document] at saved
            cases wrote : made.write path (Bytes.ofText text) with
            | error cause =>
                simp only [wrote] at saved
                cases saved
                exact .failed given room document wrote
            | ok written =>
                simp only [wrote] at saved
                cases saved
                exact .written given room document wrote

/-! ## Documents that are saved -/

theorem load_of_readFrom (given : environment.configLocation? = some path)
    (read : readFrom tree path = .ok config) : load environment tree = .ok config := by
  have there : tree.hasPath path = true := by
    rw [readFrom] at read
    split at read
    · cases read
    · next text found => exact FileTree.hasPath_of_readText found
  rw [load, given]
  dsimp only
  rw [if_pos there, read]

/-- A configuration is saved as a document. -/
structure IsSavedAs (config : Config) (document : String) (environment : Environment)
    (tree : FileTree) : Prop where
  loaded : ∀ path after, config.save environment tree = (.ok path, after) →
    environment.configLocation? = some path ∧ after.readText path = .ok document ∧
      readFrom after path = .ok config ∧ load environment after = .ok config
  error : ∀ error, (config.save environment tree).1 = .error error →
    environment.configLocation? = none ∧ error = .noDirectory ∨ ∃ cause, error = .file cause
  saves : ∀ path location, environment.configLocation? = some path →
    tree.locate true path = .ok location → FileTree.IsAside (tree.node? location) →
    ∃ executable, config.save environment tree =
      (.ok path, tree.insert location (.file (Bytes.ofText document) executable))

theorem isSavedAs_of_document? {document : String} (isDocument : config.document? = some document)
    (environment : Environment) (tree : FileTree) : IsSavedAs config document environment tree := by
  constructor
  · intro path after saved
    cases saving saved with
    | written given _ written wrote =>
        obtain rfl := Option.some.inj (isDocument.symm.trans written)
        have text := FileTree.readText_of_write wrote
        have read : readFrom after path = .ok config := by
          rw [readFrom, text]
          dsimp only
          rw [ofDocument?_of_document? isDocument]
        exact ⟨given, text, read, load_of_readFrom given read⟩
  · intro error failed
    rcases saved : config.save environment tree with ⟨result, after⟩
    rw [saved] at failed
    obtain rfl : result = .error error := failed
    cases saving saved with
    | nowhere given => exact .inl ⟨given, rfl⟩
    | noRoom _ _ => exact .inr ⟨_, rfl⟩
    | refused _ _ unwritten => cases isDocument.symm.trans unwritten
    | failed _ _ _ _ => exact .inr ⟨_, rfl⟩
  · intro path location given located aside
    obtain ⟨executable, wrote⟩ := FileTree.exists_write located aside (Bytes.ofText document)
    refine ⟨executable, ?_⟩
    rw [save_eq config given, makeRoom_of_locate located, isDocument]
    simp only [wrote]

/-! ## Configurations that are refused -/

/-- A configuration is not saved, and no file changes. -/
structure IsRefused (config : Config) (environment : Environment) (tree : FileTree) : Prop where
  error : (config.save environment tree).1 = .error .unwritable ∨
    environment.configLocation? = none ∧ (config.save environment tree).1 = .error .noDirectory ∨
      ∃ path cause, environment.configLocation? = some path ∧
        (makeRoom path tree).1 = .error cause ∧
        (config.save environment tree).1 = .error (.file cause)
  changes : ∀ location, (config.save environment tree).2.node? location ≠ tree.node? location →
    tree.node? location = none ∧
      (config.save environment tree).2.node? location = some .directory
  unwritable : ∀ path location, environment.configLocation? = some path →
    tree.locate true path = .ok location → config.save environment tree = (.error .unwritable, tree)
  kept : ∀ path contents, environment.configLocation? = some path →
    tree.read path = .ok contents → (config.save environment tree).1 = .error .unwritable ∧
      (config.save environment tree).2.read path = .ok contents

theorem isRefused_of_document? (unwritten : config.document? = none) (environment : Environment)
    (tree : FileTree) : IsRefused config environment tree := by
  have unwritable (path : Path) (location : Location)
      (given : environment.configLocation? = some path)
      (located : tree.locate true path = .ok location) :
      config.save environment tree = (.error .unwritable, tree) := by
    rw [save_eq config given, makeRoom_of_locate located, unwritten]
  rcases saved : config.save environment tree with ⟨result, after⟩
  have outcome := saving saved
  refine ⟨?_, ?_, unwritable, ?_⟩
  · rw [saved]
    cases outcome with
    | nowhere given => exact .inr (.inl ⟨given, rfl⟩)
    | @noRoom path cause _ given room =>
        exact .inr (.inr ⟨path, cause, given, congrArg Prod.fst room, rfl⟩)
    | refused _ _ _ => exact .inl rfl
    | failed _ _ written _ => cases unwritten.symm.trans written
    | written _ _ written _ => cases unwritten.symm.trans written
  · intro location differs
    rw [saved] at differs ⊢
    -- Without a document, all that is done is making the directory.
    have way : ∃ path, MakesWay path tree after := by
      cases outcome with
      | nowhere _ => exact ⟨[], .refl [] tree⟩
      | @noRoom path _ _ _ room => exact ⟨path, makesWay_of_makeRoom room⟩
      | @refused path _ _ room _ => exact ⟨path, makesWay_of_makeRoom room⟩
      | failed _ _ written _ => cases unwritten.symm.trans written
      | written _ _ written _ => cases unwritten.symm.trans written
    obtain ⟨path, makesWay⟩ := way
    exact ⟨makesWay.missing location differs, makesWay.directory location differs⟩
  · intro path contents given read
    cases located : tree.locate true path with
    | error error => simp [FileTree.read, located, bind, Except.bind] at read
    | ok location =>
        rw [unwritable path location given located]
        exact ⟨rfl, read⟩

/-- A configuration is read back from its document, from what is left of it and from the file it is
saved to, unless its path is no text: then no file changes. -/
theorem saved_or_refused (config : Config) (environment : Environment) (tree : FileTree) :
    (config.IsTextual →
      ∃ document, config.document? = some document ∧ ofDocument? document = some config ∧
        (∀ keeps, ∃ excerpt, config.excerpt? keeps = some excerpt ∧
          ofDocument? excerpt = some (config.restrict keeps)) ∧
        IsSavedAs config document environment tree) ∧
      (¬ config.IsTextual → IsRefused config environment tree) ∧
      ∀ document other entries keeps, Toml.ofDocument? document = some entries →
        entries.IsTable "search" → entries.IsTable "storage" →
        ofDocument? document = some config →
        Toml.ofDocument? other = some (entries.restrict keeps) →
        ofDocument? other = some (config.restrict keeps) := by
  refine ⟨?_, ?_, ?_⟩
  · intro textual
    obtain ⟨tables, isTables⟩ := config.isTextual_iff.mp textual
    have isDocument := document?_of_tables? isTables
    refine ⟨_, isDocument, ofDocument?_of_document? isDocument, ?_,
      isSavedAs_of_document? isDocument environment tree⟩
    intro keeps
    have isExcerpt := excerpt?_of_tables? isTables keeps
    exact ⟨_, isExcerpt, ofDocument?_of_excerpt? isExcerpt⟩
  · intro untextual
    exact isRefused_of_document? (config.document?_eq_none_iff.mpr untextual) environment tree
  · intro document other entries keeps parsed search storage read parsedOther
    exact ofDocument?_restrict parsed search storage read keeps parsedOther

private theorem node?_only (name contents : Bytes) :
    (FileTree.insert {} [name] (.file contents false)).node? [name] =
      some (.file contents false) := by
  rw [FileTree.node?_insert _ _ _ (List.cons_ne_nil _ _), if_pos rfl]

private theorem locate_only {name : Bytes} (isName : Path.IsName name)
    (short : name.length ≤ FileTree.maxName) (contents : Bytes) (followLast : Bool) :
    (FileTree.insert {} [name] (.file contents false)).locate followLast name = .ok [name] := by
  refine FileTree.locate_name (FileTree.node?_root _) isName short ?_
  intro target link
  cases (node?_only name contents).symm.trans link

private theorem not_isTextual_byte : ¬ IsTextual { specsDirectory? := some [0xFF] } := by
  intro textual
  obtain ⟨text, same⟩ := textual _ rfl
  have decoded := Bytes.toText?_eq_some_iff.mpr same
  have broken : Bytes.toText? [0xFF] = none := by decide
  cases broken.symm.trans decoded

theorem loaded_and_kept :
    let environment : Environment := { configFile := "config.toml" }
    let textual : Config :=
      { program := "it's \"fd\"\n\\", specsDirectory? := some (Path.ofText "specs") }
    let byte : Config := { specsDirectory? := some [0xFF] }
    let saved : FileTree :=
      FileTree.insert {} [Path.ofText "config.toml"] (.file (Bytes.ofText "kept") false)
    load environment (textual.save environment saved).2 = .ok textual ∧
      (∃ excerpt, textual.excerpt? (· == ["search".toList]) = some excerpt ∧
        ofDocument? excerpt = some {}) ∧
      byte.save environment saved = (.error .unwritable, saved) ∧
      ofDocument? "" = some {} := by
  intro environment textual byte saved
  have given : environment.configLocation? = some (Path.ofText "config.toml") := by decide
  have isTextual : textual.IsTextual := by
    intro directory same
    exact ⟨"specs", (Option.some.inj same).symm⟩
  have found := node?_only (Path.ofText "config.toml") (Bytes.ofText "kept")
  have isName : Path.IsName (Path.ofText "config.toml") :=
    ⟨by decide, by decide, by decide, by decide, by decide⟩
  have located := locate_only isName (by decide) (Bytes.ofText "kept") true
  obtain ⟨document, -, -, excerpts, isSaved⟩ :=
    (saved_or_refused textual environment saved).1 isTextual
  obtain ⟨executable, written⟩ := isSaved.saves _ _ given located (.inr ⟨_, _, found⟩)
  refine ⟨?_, ?_, ?_, ?_⟩
  · rw [written]
    exact (isSaved.loaded _ _ written).2.2.2
  · obtain ⟨excerpt, isExcerpt, read⟩ := excerpts (· == ["search".toList])
    have defaults : textual.restrict (· == ["search".toList]) = {} := rfl
    rw [defaults] at read
    exact ⟨excerpt, isExcerpt, read⟩
  · exact ((saved_or_refused byte environment saved).2.1 not_isTextual_byte).unwritable _ _ given
      located
  · obtain ⟨tables, isTables⟩ := textual.isTextual_iff.mp isTextual
    have distinct := distinct_tables isTables
    have read := ofDocument?_of_document? (document?_of_tables? isTables)
    have empty : Toml.ofDocument? "" = some (Toml.Entries.restrict (fun _ => false)
        (tables.map fun table => (table.name, .table .header table.entries))) := by
      rw [Toml.Entries.restrict, List.filter_false]
      rfl
    have defaults : textual.restrict (fun _ => false) = {} := rfl
    have omitted := (saved_or_refused textual environment saved).2.2 _ "" _ _
      (Toml.ofDocument?_writeTables tables distinct) (Toml.isTable_tables tables "search")
      (Toml.isTable_tables tables "storage") read empty
    rw [defaults] at omitted
    exact omitted

/-- Where no directory can be made for the file, that is what saving fails for. -/
theorem refused_behind_file :
    ¬ ∀ (config : Config) (environment : Environment) (tree : FileTree), ¬ config.IsTextual →
      (config.save environment tree).1 = .error .unwritable := by
  intro always
  let tree : FileTree := FileTree.insert {} [Path.ofText "blocked"] (.file [] false)
  let environment : Environment := { configFile := "blocked/config.toml" }
  have given : environment.configLocation? = some (Path.ofText "blocked/config.toml") := by decide
  have isParent :
      Path.parent? (Path.ofText "blocked/config.toml") = some (Path.ofText "blocked") := by
    decide
  have topmost : Path.parent? (Path.ofText "blocked") = some [] := by decide
  have isName : Path.IsName (Path.ofText "blocked") :=
    ⟨by decide, by decide, by decide, by decide, by decide⟩
  have found : tree.node? [Path.ofText "blocked"] = some (.file [] false) := node?_only _ _
  have located (followLast : Bool) :
      tree.locate followLast (Path.ofText "blocked") = .ok [Path.ofText "blocked"] :=
    locate_only isName (by decide) [] followLast
  have blocked : tree.ensureDirectory (Path.ofText "blocked") = (.error .alreadyExists, tree) := by
    have solid : (Path.ofText "blocked").withoutSlashes = Path.ofText "blocked" := by decide
    have makes : tree.makeDirectory (Path.ofText "blocked") = .error .alreadyExists := by
      rw [FileTree.makeDirectory_eq, solid, ite_self, located]
      simp only [Except.bind, found, Option.isSome_some, if_true]
    have noDirectory : tree.hasDirectory (Path.ofText "blocked") = false := by
      simp only [FileTree.hasDirectory, FileTree.find?, located, found]
      rfl
    rw [FileTree.ensureDirectory, FileTree.makeDirectories, topmost, makes]
    simp only [noDirectory, Bool.false_eq_true, if_false]
  have room :
      makeRoom (Path.ofText "blocked/config.toml") tree = (.error .alreadyExists, tree) := by
    rw [makeRoom, isParent]
    exact blocked
  have refused := always { specsDirectory? := some [0xFF] } environment tree not_isTextual_byte
  rw [save_eq _ given, room] at refused
  cases refused

end Config

end FileSearch
