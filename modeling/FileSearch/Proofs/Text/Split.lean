import FileSearch.Proofs.Text.Stretch
import FileSearch.Text.Split

/-!
# Lists in one line

A text that lists items is cut at separators. Everything here follows from one equation: at a
separator, the pieces of a text are those before it and those behind it. So cutting the pieces again
is cutting the text once at both kinds of separators, and items with separators between them are
read back.
-/

set_option autoImplicit false

namespace FileSearch.Text

/-- An item of a list: what a piece between separators can be once it is trimmed. -/
structure IsItem (isSeparator : Char → Bool) (item : List Char) : Prop where
  solid : item ≠ []
  whole : ∀ c ∈ item, isSeparator c = false
  trimmed : trimChars item = item

/-- Items with one separator or more between them. -/
inductive Joined (isSeparator : Char → Bool) : List (List Char) → List Char → Prop where
  | nothing : Joined isSeparator [] []
  | single {item : List Char} : Joined isSeparator [item] item
  | more {first second gap cs : List Char} {others : List (List Char)} :
      gap ≠ [] → (∀ c ∈ gap, isSeparator c = true) → Joined isSeparator (second :: others) cs →
      Joined isSeparator (first :: second :: others) (first ++ (gap ++ cs))

variable {isSeparator : Char → Bool} {c : Char} {cs item gap : List Char}
  {items : List (List Char)}

/-! ## Trimming -/

theorem trimChars_cons_blank (blank : isBlank c = true) : trimChars (c :: cs) = trimChars cs := by
  rw [trimChars_eq_rdropWhile, List.dropWhile_cons_of_pos blank, trimChars_eq_rdropWhile]

theorem trimChars_append_blank (blank : isBlank c = true) :
    trimChars (cs ++ [c]) = trimChars cs := by
  rw [trimChars_eq_rdropWhile, trimChars_eq_rdropWhile, List.dropWhile_append]
  split
  · rename_i empty
    rw [List.isEmpty_iff.mp empty, List.dropWhile_cons_of_pos blank, List.dropWhile_nil]
  · rw [List.rdropWhile_concat_pos _ _ _ blank]

theorem mem_of_mem_trimChars (member : c ∈ trimChars cs) : c ∈ cs := by
  obtain ⟨front, back, split, -, -⟩ := exists_eq_append_trimChars cs
  rw [split]
  exact List.mem_append_right _ (List.mem_append_left _ member)

/-! ## Pieces -/

@[simp] theorem pieces_nil : pieces isSeparator [] = [] := by
  rw [pieces, List.splitOnP_nil]
  rfl

theorem pieces_append_separator (front back : List Char) (separates : isSeparator c = true) :
    pieces isSeparator (front ++ c :: back) =
      pieces isSeparator front ++ pieces isSeparator back := by
  rw [pieces, List.splitOnP_append_cons front back separates, List.map_append, List.filter_append,
    pieces, pieces]

theorem pieces_cons_separator (separates : isSeparator c = true) :
    pieces isSeparator (c :: cs) = pieces isSeparator cs := by
  have parted := pieces_append_separator [] cs separates
  rwa [List.nil_append, pieces_nil, List.nil_append] at parted

theorem pieces_of_whole (whole : ∀ c ∈ cs, isSeparator c = false) :
    pieces isSeparator cs = if trimChars cs = [] then [] else [trimChars cs] := by
  rw [pieces, List.splitOnP_eq_singleton whole, List.map_singleton]
  split
  · rename_i empty
    rw [empty]
    rfl
  · rename_i solid
    exact List.filter_cons_of_pos (by simpa using solid)

/-- A blank at an end belongs to no piece, or is trimmed off. -/
theorem pieces_blank (blank : isBlank c = true) (cs : List Char) :
    pieces isSeparator (c :: cs) = pieces isSeparator cs ∧
      pieces isSeparator (cs ++ [c]) = pieces isSeparator cs := by
  cases separates : isSeparator c with
  | true =>
      refine ⟨pieces_cons_separator separates, ?_⟩
      rw [pieces_append_separator cs [] separates, pieces_nil, List.append_nil]
  | false =>
      induction cs using induction_on_separators isSeparator with
      | whole cs whole =>
          have front : ∀ d ∈ c :: cs, isSeparator d = false :=
            List.forall_mem_cons.mpr ⟨separates, whole⟩
          have back : ∀ d ∈ cs ++ [c], isSeparator d = false :=
            List.forall_mem_append.mpr ⟨whole, List.forall_mem_singleton.mpr separates⟩
          rw [pieces_of_whole whole, pieces_of_whole front, pieces_of_whole back,
            trimChars_cons_blank blank, trimChars_append_blank blank]
          exact ⟨rfl, rfl⟩
      | parted front d back parts frontIH backIH =>
          constructor
          · rw [← List.cons_append, pieces_append_separator _ _ parts, frontIH.1,
              pieces_append_separator _ _ parts]
          · rw [List.append_assoc, List.cons_append, pieces_append_separator _ _ parts, backIH.2,
              pieces_append_separator _ _ parts]

theorem pieces_between_blanks {front back : List Char} (before : ∀ c ∈ front, isBlank c = true)
    (behind : ∀ c ∈ back, isBlank c = true) (cs : List Char) :
    pieces isSeparator (front ++ (cs ++ back)) = pieces isSeparator cs := by
  induction front with
  | nil =>
      -- The blanks behind are moved to the text one at a time, so the text varies.
      induction back generalizing cs with
      | nil => rw [List.nil_append, List.append_nil]
      | cons c back ih =>
          obtain ⟨blank, others⟩ := List.forall_mem_cons.mp behind
          have moved := ih others (cs ++ [c])
          rw [List.append_assoc, List.singleton_append] at moved
          rw [moved, (pieces_blank blank cs).2]
  | cons c front ih =>
      obtain ⟨blank, others⟩ := List.forall_mem_cons.mp before
      rw [List.cons_append, (pieces_blank blank _).1, ih others]

theorem pieces_trimChars (cs : List Char) :
    pieces isSeparator (trimChars cs) = pieces isSeparator cs := by
  obtain ⟨front, back, split, before, behind⟩ := exists_eq_append_trimChars cs
  conv => rhs; rw [split]
  exact (pieces_between_blanks before behind (trimChars cs)).symm

theorem isItem_of_mem_pieces (listed : item ∈ pieces isSeparator cs) : IsItem isSeparator item := by
  induction cs using induction_on_separators isSeparator with
  | whole cs whole =>
      rw [pieces_of_whole whole] at listed
      split at listed
      · cases listed
      · rename_i solid
        obtain rfl := List.mem_singleton.mp listed
        exact ⟨solid, fun c member => whole c (mem_of_mem_trimChars member), trimChars_trimChars cs⟩
  | parted front c back separates frontIH backIH =>
      rw [pieces_append_separator front back separates] at listed
      cases List.mem_append.mp listed with
      | inl before => exact frontIH before
      | inr behind => exact backIH behind

theorem mem_pieces_iff :
    item ∈ pieces isSeparator cs ↔
      item ≠ [] ∧ ∃ stretch, IsStretch isSeparator cs stretch ∧ trimChars stretch = item := by
  simp [pieces, mem_splitOnP_iff, and_comm]

/-! ## Cutting twice -/

theorem splitOnP_congr {isOther : Char → Bool} (alike : ∀ c ∈ cs, isSeparator c = isOther c) :
    cs.splitOnP isSeparator = cs.splitOnP isOther := by
  induction cs with
  | nil => rw [List.splitOnP_nil, List.splitOnP_nil]
  | cons c cs ih =>
      obtain ⟨first, others⟩ := List.forall_mem_cons.mp alike
      rw [List.splitOnP_cons_eq_if_modifyHead, List.splitOnP_cons_eq_if_modifyHead, first,
        ih others]

/-- Cutting the pieces of a list again is cutting the list once. -/
theorem flatMap_pieces (outer inner : Char → Bool) (cs : List Char) :
    (pieces outer cs).flatMap (pieces inner) = pieces (fun c => outer c || inner c) cs := by
  induction cs using induction_on_separators outer with
  | whole cs whole =>
      have trimmed : (pieces outer cs).flatMap (pieces inner) = pieces inner (trimChars cs) := by
        rw [pieces_of_whole whole]
        split
        · rename_i empty
          rw [empty, List.flatMap_nil, pieces_nil]
        · rw [List.flatMap_singleton]
      have alike : ∀ c ∈ cs, inner c = (outer c || inner c) := by
        intro c member
        rw [whole c member, Bool.false_or]
      rw [trimmed, pieces_trimChars, pieces, splitOnP_congr alike, pieces]
  | parted front c back separates frontIH backIH =>
      have both : (outer c || inner c) = true := by rw [separates, Bool.true_or]
      have once := @pieces_append_separator (fun c => outer c || inner c) c front back both
      rw [pieces_append_separator front back separates, List.flatMap_append, frontIH, backIH, once]

/-! ## Joined items -/

theorem pieces_append_of_separators (separates : ∀ c ∈ gap, isSeparator c = true)
    (cs : List Char) : pieces isSeparator (gap ++ cs) = pieces isSeparator cs := by
  induction gap with
  | nil => rfl
  | cons c gap ih =>
      obtain ⟨first, others⟩ := List.forall_mem_cons.mp separates
      rw [List.cons_append, pieces_cons_separator first, ih others]

theorem IsItem.pieces_eq (isItem : IsItem isSeparator item) :
    pieces isSeparator item = [item] := by
  rw [pieces_of_whole isItem.whole, isItem.trimmed, if_neg isItem.solid]

theorem Joined.pieces_eq (joined : Joined isSeparator items cs)
    (areItems : ∀ item ∈ items, IsItem isSeparator item) : pieces isSeparator cs = items := by
  induction joined with
  | nothing => exact pieces_nil
  | single => exact (areItems _ List.mem_cons_self).pieces_eq
  | more solid separates _ ih =>
      obtain ⟨first, others⟩ := List.forall_mem_cons.mp areItems
      obtain ⟨c, rest, rfl⟩ := List.exists_cons_of_ne_nil solid
      obtain ⟨parts, between⟩ := List.forall_mem_cons.mp separates
      rw [List.cons_append, pieces_append_separator _ _ parts, first.pieces_eq,
        pieces_append_of_separators between, ih others, List.singleton_append]

theorem joined_intercalate (separates : isSeparator c = true) (items : List (List Char)) :
    Joined isSeparator items ([c].intercalate items) := by
  induction items with
  | nil => exact .nothing
  | cons first others ih =>
      cases others with
      | nil =>
          rw [List.intercalate_singleton]
          exact .single
      | cons second others =>
          rw [List.intercalate_cons_cons, List.append_assoc]
          exact .more (List.cons_ne_nil c []) (List.forall_mem_singleton.mpr separates) ih

/-! ## Words, patterns and start locations -/

theorem mem_terms_iff {text word : String} : word ∈ terms text ↔ HasWord text word := by
  rw [terms, List.mem_map]
  constructor
  · intro found
    obtain ⟨run, listed, rfl⟩ := found
    rw [List.mem_filter, mem_splitOnP_iff] at listed
    exact .intro listed.1 (by simpa using listed.2)
  · intro hasWord
    cases hasWord with
    | intro isStretch solid =>
        exact ⟨_, List.mem_filter.mpr ⟨mem_splitOnP_iff.mpr isStretch, by simpa using solid⟩, rfl⟩

/-- The words of a text are its pieces between blanks, of which there is nothing to trim. -/
theorem terms_eq_pieces (text : String) :
    terms text = (pieces isBlank text.toList).map String.ofList := by
  have trimmed : ∀ run ∈ text.toList.splitOnP isBlank, trimChars run = run := fun run listed =>
    trimChars_of_solid (mem_splitOnP_iff.mp listed).whole
  rw [terms, pieces, List.map_congr_left trimmed, List.map_id']

theorem terms_trim (text : String) : terms (trim text) = terms text := by
  rw [terms_eq_pieces, terms_eq_pieces, trim, String.toList_ofList, pieces_trimChars]

theorem patterns_eq_pieces (text : String) :
    patterns text = (pieces separatesPatterns text.toList).map String.ofList := by
  have cut : separatesPatterns = fun c => (c == ',') || (c == ' ') := rfl
  rw [patterns, items, cut, ← flatMap_pieces, List.flatMap_map, List.map_flatMap]
  simp only [items, String.toList_ofList]

theorem mem_patterns_iff {text pattern : String} :
    pattern ∈ patterns text ↔ ListsPattern text pattern := by
  rw [patterns_eq_pieces, List.mem_map]
  constructor
  · intro found
    obtain ⟨piece, listed, rfl⟩ := found
    obtain ⟨solid, stretch, isStretch, rfl⟩ := mem_pieces_iff.mp listed
    exact .intro isStretch solid
  · intro lists
    cases lists with
    | intro isStretch solid =>
        exact ⟨_, mem_pieces_iff.mpr ⟨solid, _, isStretch, rfl⟩, rfl⟩

theorem startLocations_eq (text : String) :
    startLocations text =
      if pieces separatesLocations text.toList = [] then ["."]
      else (pieces separatesLocations text.toList).map String.ofList := by
  unfold startLocations
  cases pieces separatesLocations text.toList with
  | nil => rfl
  | cons first others => rfl

theorem isItem_of_mem_startLocations {text location : String}
    (listed : location ∈ startLocations text) : IsItem separatesLocations location.toList := by
  rw [startLocations_eq] at listed
  split at listed
  · obtain rfl := List.mem_singleton.mp listed
    exact ⟨by decide, List.forall_mem_singleton.mpr rfl, by decide⟩
  · obtain ⟨piece, inPieces, rfl⟩ := List.mem_map.mp listed
    rw [String.toList_ofList]
    exact isItem_of_mem_pieces inPieces

theorem startLocations_ne_nil (text : String) : startLocations text ≠ [] := by
  rw [startLocations_eq]
  split
  · exact List.cons_ne_nil _ _
  · rename_i solid
    exact fun empty => solid (List.map_eq_nil_iff.mp empty)

theorem startLocations_join (text : String) :
    startLocations (";".intercalate (startLocations text)) = startLocations text := by
  have separates : separatesLocations ';' = true := rfl
  have joined := joined_intercalate separates ((startLocations text).map String.toList)
  have read : pieces separatesLocations (";".intercalate (startLocations text)).toList =
      (startLocations text).map String.toList := by
    rw [String.toList_intercalate]
    exact joined.pieces_eq (List.forall_mem_map.mpr fun _ => isItem_of_mem_startLocations)
  have solid : (startLocations text).map String.toList ≠ [] := fun empty =>
    startLocations_ne_nil text (List.map_eq_nil_iff.mp empty)
  rw [startLocations_eq, read, if_neg solid, List.map_map]
  simp

/-- Name patterns are the pieces between commas and spaces, whichever comes first, trimmed and
without the empty ones. They are read back however they are joined by commas and spaces, and so are
start locations joined by semicolons, of which there is always one. -/
theorem lists_read_back (text : String) :
    patterns text = (((text.toList.splitOnP fun c => c == ',' || c == ' ').map trimChars).filter
      fun piece => !piece.isEmpty).map String.ofList ∧
    (∀ other : String, Joined separatesPatterns ((patterns text).map String.toList) other.toList →
      patterns other = patterns text) ∧
    startLocations text ≠ [] ∧
    startLocations (";".intercalate (startLocations text)) = startLocations text := by
  refine ⟨patterns_eq_pieces text, ?_, startLocations_ne_nil text, startLocations_join text⟩
  intro other joined
  have areItems : ∀ item ∈ (patterns text).map String.toList, IsItem separatesPatterns item := by
    rw [patterns_eq_pieces, List.map_map]
    refine List.forall_mem_map.mpr fun piece listed => ?_
    rw [Function.comp_apply, String.toList_ofList]
    exact isItem_of_mem_pieces listed
  rw [patterns_eq_pieces other, joined.pieces_eq areItems, List.map_map]
  simp

theorem lists_read_back_mixed :
    Joined separatesPatterns ((patterns "rs, toml\t md,,  txt").map String.toList)
      "rs ,toml,md  txt".toList ∧ patterns "rs ,toml,md  txt" = ["rs", "toml", "md", "txt"] := by
  have listed : patterns "rs, toml\t md,,  txt" = ["rs", "toml", "md", "txt"] := by decide
  have joined : Joined separatesPatterns ((patterns "rs, toml\t md,,  txt").map String.toList)
      "rs ,toml,md  txt".toList := by
    rw [listed]
    have mixed : ∀ c ∈ [' ', ','], separatesPatterns c = true := by simp [separatesPatterns]
    have comma : ∀ c ∈ [','], separatesPatterns c = true := by simp [separatesPatterns]
    have spaces : ∀ c ∈ [' ', ' '], separatesPatterns c = true := by simp [separatesPatterns]
    exact .more (List.cons_ne_nil _ _) mixed
      (.more (List.cons_ne_nil _ _) comma (.more (List.cons_ne_nil _ _) spaces .single))
  exact ⟨joined, ((lists_read_back _).2.1 _ joined).trans listed⟩

end FileSearch.Text
