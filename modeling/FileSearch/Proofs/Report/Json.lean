import FileSearch.Proofs.Json.Written
import FileSearch.Proofs.Text.Decoding
import FileSearch.Report.Json

/-!
# Results in JSON

A result is reported as one JSON document, from which it can be read back. Where a path is no text,
the document is about that error and nothing else.
-/

set_option autoImplicit false

namespace FileSearch

open Json (IsValue IsGap Member ReadsBack Schema Spells objectText quoted)

/-- The display of a path that is a text is that text. -/
theorem Path.ofText_display {path : Path} (isText : path.toText?.isSome) :
    Path.ofText path.display = path := by
  obtain ⟨text, decoded⟩ := Option.isSome_iff_exists.mp isText
  rw [Path.display, Bytes.toTextLossy_of_toText? decoded]
  exact Bytes.ofText_of_toText? decoded

/-! ## Results read back -/

namespace SearchResult

theorem readsBack_exitCode (code : Int32) :
    ReadsBack exitCodeKind.read (exitCodeKind.write code) code := by
  intro layout level gap rest spaces ends
  have low : Int32.minValue.toInt ≤ code.toInt := code.minValue_le_toInt
  have high : code.toInt ≤ Int32.maxValue.toInt := code.toInt_le
  have lowest : Int32.minValue.toInt = -2147483648 := rfl
  have highest : Int32.maxValue.toInt = 2147483647 := rfl
  have number := Json.readInteger_toString _ _ code.toInt .signed32 spaces ends low high
    ⟨by omega, by unfold Json.maxInteger; omega⟩
  change (Json.readInteger Int32.minValue.toInt Int32.maxValue.toInt .signed32
    (gap ++ ((toString code.toInt).toList ++ rest))).map _ = _
  rw [number]
  simp only [Except.map, Int32.ofInt_toInt]

theorem readsBack_texts (expected : Json.Expected) (texts : List String) :
    ReadsBack (Json.readList (Json.readTextAs expected)) (.list (texts.map .text)) texts := by
  apply Json.readsBack_list
  rw [List.forall₂_map_left_iff, List.forall₂_same]
  exact fun text _ => Json.readsBack_text expected text

/-- Paths that are texts are read back: nothing is replaced when they are written. -/
theorem readsBack_paths {paths : List Path} (texts : ∀ path ∈ paths, path.toText?.isSome) :
    ReadsBack pathsKind.read (pathsKind.write paths) paths := by
  intro layout level gap rest spaces ends
  have read := readsBack_texts .path (paths.map Path.display) layout level gap rest spaces ends
  have restored : (paths.map Path.display).map Path.ofText = paths := by
    rw [List.map_map]
    exact (List.map_congr_left fun path listed => Path.ofText_display (texts path listed)).trans
      (List.map_id paths)
  rw [List.map_map] at read
  change (Json.readList (Json.readTextAs .path) (gap ++
    ((Json.Value.list (paths.map (Json.Value.text ∘ Path.display))).write layout level ++ rest))).map _ = _
  rw [read]
  simp only [Except.map, restored]

theorem comesBack {result : SearchResult} (texts : ∀ path ∈ result.found, path.toText?.isSome) :
    schema.ComesBack result where
  distinct := by decide
  values := by
    simp only [schema, List.forall_mem_cons, List.not_mem_nil, false_imp_iff, implies_true, and_true]
    exact ⟨readsBack_exitCode _, readsBack_paths texts, readsBack_texts .text _,
      Json.Kind.flag_faithful _⟩
  restores := rfl

end SearchResult

/-! ## Results written -/

namespace Report

theorem toList_note (key text : String) :
    (note key text).toList = objectText [] [Json.writtenMember .compact 1 (key, .text text)] := by
  rw [note, Json.Value.document, String.toList_ofList]
  have member := Json.text_writtenMember .compact 1 (key, .text text)
  rw [objectText, List.map_singleton, Json.separated, member]
  simp [Json.Value.write, Json.writeMembers, Json.Layout.line, Json.continued_nil]

theorem named_error : (Json.writtenMember .compact 1 ("error", .text pathNotText)).Named "error" :=
  Json.spells_flatMap_writtenChar "error".toList

theorem spaced_error : (Json.writtenMember .compact 1 ("error", .text pathNotText)).Spaced := by
  have nothing : IsGap [] := by simp [IsGap]
  exact ⟨nothing, nothing, nothing, nothing⟩

theorem ofDocument_error :
    SearchResult.ofDocument (note "error" pathNotText) = .error (.missingField "exit_code") := by
  have foreign : SearchResult.schema.Foreign
      (Json.writtenMember .compact 1 ("error", .text pathNotText)) :=
    ⟨⟨"error", named_error, by decide⟩, Json.isValue_writeText pathNotText⟩
  have read := Json.Schema.readDocument_foreign (by decide) spaced_error foreign rfl
  rwa [← toList_note, String.ofList_toList] at read

/-- The report of a result is one well-formed value, in both layouts. If all paths are texts, it is
read back as that result. If not, it is an object with nothing in it but a text about the error, and
no result is read from it. -/
theorem asJson_result (result : SearchResult) (layout : Json.Layout) :
    let document := asJson layout (.result result)
    IsValue document.toList ∧
      ((∀ path ∈ result.found, path.toText?.isSome) →
        SearchResult.ofDocument document = .ok result) ∧
      ((∃ path ∈ result.found, path.toText? = none) →
        (∃ member body, document.toList = objectText [] [member] ∧ member.Spaced ∧
          member.Named "error" ∧ member.slot.value = quoted body ∧
          Spells body pathNotText.toList) ∧
        SearchResult.ofDocument document = .error (.missingField "exit_code")) := by
  intro document
  by_cases texts : ∀ path ∈ result.found, path.toText?.isSome
  · have written : document = (SearchResult.schema.write result).document layout := by
      have all : result.found.all (fun path => path.toText?.isSome) = true :=
        List.all_eq_true.mpr texts
      simp only [document, asJson, resultValue?, all, if_true, documentOr]
    rw [written]
    refine ⟨Json.Value.isValue_document layout _, fun _ => ?_, ?_⟩
    · have read := (SearchResult.comesBack texts).readDocument_write layout
        (show IsGap [] by simp [IsGap])
      rwa [List.append_nil] at read
    · rintro ⟨path, listed, noText⟩
      have isText := texts path listed
      rw [noText] at isText
      cases isText
  · have written : document = note "error" pathNotText := by
      have some : result.found.all (fun path => path.toText?.isSome) = false := by
        rw [← Bool.not_eq_true, List.all_eq_true]
        exact texts
      simp only [document, asJson, resultValue?, some, Bool.false_eq_true, if_false, documentOr]
    rw [written]
    refine ⟨Json.Value.isValue_document .compact _, fun all => absurd all texts,
      fun _ => ⟨?_, ofDocument_error⟩⟩
    exact ⟨_, _, toList_note _ _, spaced_error, named_error, rfl,
      Json.spells_flatMap_writtenChar pathNotText.toList⟩

end Report

end FileSearch
