import FileSearch.Proofs.Text.Blank

/-!
# Stretches between separators

What stands between the separators of a text, said without cutting the text. The words of a text and
the patterns of a list are such stretches.
-/

set_option autoImplicit false

namespace FileSearch.Text

/-- Part of a text that has no separator and cannot be longer: on each side of it stands a
separator, or the text ends. -/
inductive IsStretch (isSeparator : Char → Bool) (cs stretch : List Char) : Prop where
  | intro (front back : List Char) : cs = front ++ (stretch ++ back) →
      (∀ c ∈ stretch, isSeparator c = false) → (∀ c ∈ front.getLast?, isSeparator c = true) →
      (∀ c ∈ back.head?, isSeparator c = true) → IsStretch isSeparator cs stretch

/-- A comma or a space, between two name patterns. -/
def separatesPatterns (c : Char) : Bool :=
  c == ',' || c == ' '

/-- A text has a word: a stretch between blanks. -/
inductive HasWord (text : String) : String → Prop where
  | intro {stretch : List Char} : IsStretch isBlank text.toList stretch → stretch ≠ [] →
      HasWord text (String.ofList stretch)

/-- A text lists a pattern: a stretch between commas and spaces, without the blanks at its ends. -/
inductive ListsPattern (text : String) : String → Prop where
  | intro {stretch : List Char} : IsStretch separatesPatterns text.toList stretch →
      trimChars stretch ≠ [] → ListsPattern text (String.ofList (trimChars stretch))

variable {isSeparator : Char → Bool} {c : Char} {cs stretch : List Char}

/-- A list has no separators, or consists of two lists around one. -/
@[elab_as_elim]
theorem induction_on_separators {motive : List Char → Prop} (isSeparator : Char → Bool)
    (whole : ∀ cs, (∀ c ∈ cs, isSeparator c = false) → motive cs)
    (parted : ∀ front c back, isSeparator c = true → motive front → motive back →
      motive (front ++ c :: back)) (cs : List Char) : motive cs := by
  induction size : cs.length using Nat.strongRecOn generalizing cs with
  | ind size shorter =>
      by_cases separated : ∃ c ∈ cs, isSeparator c = true
      · obtain ⟨c, member, separates⟩ := separated
        obtain ⟨front, back, rfl⟩ := List.append_of_mem member
        rw [List.length_append, List.length_cons] at size
        have before : motive front := shorter front.length (by omega) front rfl
        have behind : motive back := shorter back.length (by omega) back rfl
        exact parted front c back separates before behind
      · refine whole cs fun c member => ?_
        exact Bool.eq_false_iff.mpr fun separates => separated ⟨c, member, separates⟩

/-! ## Where stretches stand -/

theorem IsStretch.whole (isStretch : IsStretch isSeparator cs stretch) :
    ∀ c ∈ stretch, isSeparator c = false := by
  obtain ⟨_, _, _, whole, _, _⟩ := isStretch
  exact whole

theorem isStretch_iff_of_whole (whole : ∀ c ∈ cs, isSeparator c = false) :
    IsStretch isSeparator cs stretch ↔ stretch = cs := by
  constructor
  · intro isStretch
    obtain ⟨front, back, rfl, -, start, stop⟩ := isStretch
    have apart {c : Char} (member : c ∈ front ++ (stretch ++ back)) : isSeparator c ≠ true :=
      Bool.eq_false_iff.mp (whole c member)
    have noFront : front = [] := List.getLast?_eq_none_iff.mp <|
      Option.eq_none_iff_forall_not_mem.mpr fun c last =>
        apart (List.mem_append_left _ (List.mem_of_getLast? last)) (start c last)
    have noBack : back = [] := List.head?_eq_none_iff.mp <|
      Option.eq_none_iff_forall_not_mem.mpr fun c first =>
        apart (List.mem_append_right _ (List.mem_append_right _ (List.mem_of_head? first)))
          (stop c first)
    rw [noFront, noBack, List.nil_append, List.append_nil]
  · intro same
    exact ⟨[], [], by simp [same], same ▸ whole, by simp, by simp⟩

/-- A stretch stands in front of a separator or behind it. -/
theorem isStretch_append_cons_iff (front back : List Char) (separates : isSeparator c = true) :
    IsStretch isSeparator (front ++ c :: back) stretch ↔
      IsStretch isSeparator front stretch ∨ IsStretch isSeparator back stretch := by
  constructor
  · intro isStretch
    obtain ⟨before, behind, split, whole, start, stop⟩ := isStretch
    have apart : c ∉ stretch := fun member => by
      rw [whole c member] at separates
      cases separates
    rcases List.append_eq_append_iff.mp split with ⟨gap, rfl, below⟩ | ⟨gap, rfl, below⟩
    · cases gap with
      | nil =>
          -- Nothing fits between the text in front and the separator.
          cases stretch with
          | nil => exact .inl ⟨front, [], by simp, whole, by simpa using start, by simp⟩
          | cons first rest =>
              obtain ⟨rfl, -⟩ := List.cons.inj below
              exact absurd List.mem_cons_self apart
      | cons first gap =>
          obtain ⟨rfl, rfl⟩ := List.cons.inj below
          refine .inr ⟨gap, behind, rfl, whole, fun d last => start d ?_, stop⟩
          rw [List.getLast?_append, List.getLast?_cons, Option.mem_def.mp last]
          rfl
    · rcases List.append_eq_append_iff.mp below with ⟨more, rfl, rfl⟩ | ⟨more, rfl, rest⟩
      · refine .inl ⟨before, more, rfl, whole, start, fun d first => stop d ?_⟩
        rw [List.head?_append, Option.mem_def.mp first]
        rfl
      · cases more with
        | nil => exact .inl ⟨before, [], by simp, whole, start, by simp⟩
        | cons first more =>
            obtain ⟨rfl, -⟩ := List.cons.inj rest
            exact absurd (List.mem_append_right _ List.mem_cons_self) apart
  · intro either
    cases either with
    | inl inFront =>
        obtain ⟨before, behind, rfl, whole, start, stop⟩ := inFront
        refine ⟨before, behind ++ c :: back, by simp, whole, start, ?_⟩
        cases behind with
        | nil => simpa using separates
        | cons first behind => simpa using stop
    | inr inBack =>
        obtain ⟨before, behind, rfl, whole, start, stop⟩ := inBack
        refine ⟨front ++ c :: before, behind, by simp, whole, ?_, stop⟩
        cases before using List.reverseRecOn with
        | nil => simpa using separates
        | append_singleton before last =>
            rw [← List.cons_append, ← List.append_assoc, List.getLast?_concat]
            rwa [List.getLast?_concat] at start

/-- Cutting a text at its separators gives its stretches. -/
theorem mem_splitOnP_iff :
    stretch ∈ cs.splitOnP isSeparator ↔ IsStretch isSeparator cs stretch := by
  induction cs using induction_on_separators isSeparator with
  | whole cs whole =>
      rw [List.splitOnP_eq_singleton whole, List.mem_singleton, isStretch_iff_of_whole whole]
  | parted front c back separates frontIH backIH =>
      rw [List.splitOnP_append_cons front back separates, List.mem_append, frontIH, backIH,
        isStretch_append_cons_iff front back separates]

end FileSearch.Text
