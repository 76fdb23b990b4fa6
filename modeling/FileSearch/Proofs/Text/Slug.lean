import FileSearch.Proofs.Text.Blank
import FileSearch.Text.Slug

/-!
# Laws of slugs

A slug depends on a name only through the characters that are kept and the separators between them,
so trimming a name leaves its slug as it is. The slug of a slug drops the dash that the length limit
may have left at the end, and changes nothing else.
-/

set_option autoImplicit false

namespace FileSearch.Text.Slug

/-! ## Characters of names -/

theorem isKept_iff {c : Char} :
    isKept c = true ↔ (48 ≤ c.toNat ∧ c.toNat ≤ 57) ∨ (65 ≤ c.toNat ∧ c.toNat ≤ 90) ∨
      (97 ≤ c.toNat ∧ c.toNat ≤ 122) := by
  change (decide (65 ≤ c.val ∧ c.val ≤ 90) || decide (97 ≤ c.val) && decide (c.val ≤ 122) ||
    decide (48 ≤ c.val) && decide (c.val ≤ 57)) = true ↔ _
  simp only [UInt32.le_iff_toNat_le, Bool.or_eq_true, Bool.and_eq_true, decide_eq_true_eq]
  change ((65 ≤ c.toNat ∧ c.toNat ≤ 90) ∨ (97 ≤ c.toNat ∧ c.toNat ≤ 122)) ∨
    (48 ≤ c.toNat ∧ c.toNat ≤ 57) ↔ _
  omega

theorem toNat_toLower (c : Char) :
    c.toLower.toNat = if 65 ≤ c.toNat ∧ c.toNat ≤ 90 then c.toNat + 32 else c.toNat := by
  unfold Char.toLower
  simp only [UInt32.le_iff_toNat_le, ge_iff_le]
  change (if capital : 65 ≤ c.toNat ∧ c.toNat ≤ 90 then _ else c).toNat = _
  split
  · rename_i capital
    change (c.val + 32).toNat = c.toNat + 32
    rw [UInt32.toNat_add]
    change (c.toNat + 32) % 4294967296 = c.toNat + 32
    omega
  · rfl

theorem isKept_toLower {c : Char} (kept : isKept c = true) : isKept c.toLower = true := by
  rw [isKept_iff] at kept ⊢
  rw [toNat_toLower]
  split <;> omega

theorem toLower_toLower (c : Char) : c.toLower.toLower = c.toLower := by
  apply Char.toNat_inj.mp
  rw [toNat_toLower c.toLower, toNat_toLower]
  by_cases capital : 65 ≤ c.toNat ∧ c.toNat ≤ 90
  · rw [if_pos capital, if_neg (by omega)]
  · rw [if_neg capital, if_neg capital]

theorem isKept_of_isBlank {c : Char} (blank : isBlank c = true) : isKept c = false := by
  by_contra kept
  rw [Bool.not_eq_false, isKept_iff] at kept
  simp only [isBlank, Unicode.Ranges.contains, blankRanges, List.any_cons, List.any_nil,
    Bool.or_eq_true, Bool.and_eq_true, decide_eq_true_eq, Bool.false_eq_true, or_false] at blank
  grind

theorem isBlank_of_isKept {c : Char} (kept : isKept c = true) : isBlank c = false := by
  cases blank : isBlank c with
  | false => rfl
  | true =>
      rw [isKept_of_isBlank blank] at kept
      cases kept

@[simp] theorem isKept_dash : isKept '-' = false := by decide

@[simp] theorem isSeparator_dash : isSeparator '-' = true := by decide

/-! ## Dashes for separators -/

/-- Whether a dash is redundant behind the given characters. -/
def afterDash (before : Bool) : List Char → Bool
  | [] => before
  | c :: rest => if isKept c then afterDash false rest else afterDash (before || isSeparator c) rest

/-- A name is read from left to right. All that its front leaves to the rest is whether it ends
behind a dash. -/
theorem dashed_append (before : Bool) (cs ds : List Char) :
    dashed before (cs ++ ds) = dashed before cs ++ dashed (afterDash before cs) ds := by
  induction cs generalizing before with
  | nil => rfl
  | cons c rest ih =>
      simp only [List.cons_append, dashed, afterDash]
      by_cases kept : isKept c = true
      · simp only [kept, if_true, List.cons_append, ih]
      · by_cases separates : isSeparator c = true <;> cases before <;>
          simp [kept, separates, ih]

theorem afterDash_true_of_not_isKept {cs : List Char} (dropped : ∀ c ∈ cs, isKept c = false) :
    afterDash true cs = true := by
  induction cs with
  | nil => rfl
  | cons c rest ih =>
      obtain ⟨head, tail⟩ := List.forall_mem_cons.mp dropped
      simp only [afterDash, head, Bool.true_or]
      exact ih tail

theorem dashed_true_of_not_isKept {cs : List Char} (dropped : ∀ c ∈ cs, isKept c = false) :
    dashed true cs = [] := by
  induction cs with
  | nil => rfl
  | cons c rest ih =>
      obtain ⟨head, tail⟩ := List.forall_mem_cons.mp dropped
      simp only [dashed, head, Bool.not_true, Bool.and_false, Bool.false_eq_true, if_false]
      exact ih tail

/-- Characters that are not kept leave at most dashes. -/
theorem eq_dash_of_mem_dashed {before : Bool} {cs : List Char}
    (dropped : ∀ c ∈ cs, isKept c = false) : ∀ d ∈ dashed before cs, d = '-' := by
  induction cs generalizing before with
  | nil => simp [dashed]
  | cons c rest ih =>
      obtain ⟨head, tail⟩ := List.forall_mem_cons.mp dropped
      simp only [dashed, head, Bool.false_eq_true, if_false]
      split
      · intro d member
        rcases List.mem_cons.mp member with rfl | later
        · rfl
        · exact ih tail d later
      · exact ih tail

theorem length_dashed_le (before : Bool) (cs : List Char) :
    (dashed before cs).length ≤ cs.length := by
  induction cs generalizing before with
  | nil => exact Nat.le_refl _
  | cons c rest ih =>
      simp only [dashed]
      split
      · exact Nat.succ_le_succ (ih false)
      · split
        · exact Nat.succ_le_succ (ih true)
        · exact Nat.le_succ_of_le (ih before)

theorem dashed_dashed (before : Bool) (cs : List Char) :
    dashed before (dashed before cs) = dashed before cs := by
  induction cs generalizing before with
  | nil => rfl
  | cons c rest ih =>
      by_cases kept : isKept c = true
      · simp only [dashed, kept, if_true, isKept_toLower kept, toLower_toLower, ih]
      · by_cases separates : isSeparator c = true <;> cases before <;>
          simp [dashed, kept, separates, ih]

/-- The front of a list that dashing leaves as it is has that property too: neither part of the list
can become longer. -/
theorem dashed_take {before : Bool} {cs : List Char} (stable : dashed before cs = cs)
    (count : Nat) : dashed before (cs.take count) = cs.take count := by
  have split := dashed_append before (cs.take count) (cs.drop count)
  rw [List.take_append_drop, stable] at split
  have front := length_dashed_le before (cs.take count)
  have back := length_dashed_le (afterDash before (cs.take count)) (cs.drop count)
  have lengths := congrArg List.length split
  have parts := congrArg List.length (List.take_append_drop count cs)
  rw [List.length_append] at lengths parts
  refine (List.append_inj_left (split.symm.trans (List.take_append_drop count cs).symm) ?_)
  omega

/-! ## Dashes at the end -/

theorem dropTrailingDashes_eq_rdropWhile (cs : List Char) :
    dropTrailingDashes cs = cs.rdropWhile (· == '-') := rfl

theorem dropTrailingDashes_append {cs dashes : List Char} (allDashes : ∀ d ∈ dashes, d = '-') :
    dropTrailingDashes (cs ++ dashes) = dropTrailingDashes cs := by
  unfold dropTrailingDashes
  rw [List.reverse_append, List.dropWhile_append_of_pos]
  intro d member
  simp [allDashes d (List.mem_reverse.mp member)]

theorem dropTrailingDashes_eq_self_iff {cs : List Char} :
    dropTrailingDashes cs = cs ↔ cs.getLast? ≠ some '-' := by
  rw [dropTrailingDashes_eq_rdropWhile, List.rdropWhile_eq_self_iff]
  cases cs using List.reverseRecOn with
  | nil => simp
  | append_singleton front last => simp

/-- A dash goes with the dashes behind it, if nothing else is behind it. -/
theorem dropTrailingDashes_dash (cs : List Char) : dropTrailingDashes ('-' :: cs) =
    if dropTrailingDashes cs = [] then [] else '-' :: dropTrailingDashes cs := by
  simp only [dropTrailingDashes, List.reverse_cons, List.dropWhile_append, List.isEmpty_iff,
    List.reverse_eq_nil_iff]
  split
  · rfl
  · rw [List.reverse_append]
    rfl

theorem dropTrailingDashes_of_ne {c : Char} (noDash : c ≠ '-') (cs : List Char) :
    dropTrailingDashes (c :: cs) = c :: dropTrailingDashes cs := by
  have kept : (c == '-') = false := beq_eq_false_iff_ne.mpr noDash
  simp only [dropTrailingDashes, List.reverse_cons, List.dropWhile_append, List.isEmpty_iff]
  split
  · rename_i nothing
    rw [nothing, List.dropWhile_cons_of_neg (by simp [kept])]
    rfl
  · rw [List.reverse_append]
    rfl

/-! ## Slugs of names -/

/-- The slug of a name as it would be without a limit and a fallback. -/
def uncapped (name : List Char) : List Char :=
  dropTrailingDashes (dashed true name)

theorem chars_eq_take (name : List Char) :
    chars name =
      (if (uncapped name).isEmpty then fallback.toList else uncapped name).take maxLength := rfl

theorem uncapped_append {cs ds : List Char} (dropped : ∀ d ∈ ds, isKept d = false) :
    uncapped (cs ++ ds) = uncapped cs := by
  unfold uncapped
  rw [dashed_append, dropTrailingDashes_append (eq_dash_of_mem_dashed dropped)]

theorem uncapped_of_append {cs ds : List Char} (dropped : ∀ c ∈ cs, isKept c = false) :
    uncapped (cs ++ ds) = uncapped ds := by
  unfold uncapped
  rw [dashed_append, dashed_true_of_not_isKept dropped, afterDash_true_of_not_isKept dropped,
    List.nil_append]

/-- Blanks at the ends of a name leave no trace in its slug. -/
theorem chars_trimChars (name : List Char) : chars (trimChars name) = chars name := by
  obtain ⟨front, back, split, frontBlank, backBlank⟩ := exists_eq_append_trimChars name
  have same : uncapped name = uncapped (trimChars name) := by
    conv_lhs => rw [split]
    rw [uncapped_of_append fun c member => isKept_of_isBlank (frontBlank c member),
      uncapped_append fun c member => isKept_of_isBlank (backBlank c member)]
  rw [chars_eq_take, chars_eq_take, same]

theorem ofName_trim (name : String) : ofName (trim name) = ofName name := by
  rw [ofName, ofName, trim, String.toList_ofList, chars_trimChars]

/-- What a name is dashed to begins with a kept character, if there is any. -/
theorem isKept_head_dashed {name rest : List Char} {c : Char}
    (dashedName : dashed true name = c :: rest) : isKept c = true := by
  induction name with
  | nil => cases dashedName
  | cons d name ih =>
      simp only [dashed, Bool.not_true, Bool.and_false, Bool.false_eq_true, if_false] at dashedName
      split at dashedName
      · rename_i kept
        injection dashedName with same
        rw [← same]
        exact isKept_toLower kept
      · exact ih dashedName

theorem ne_dash_of_isKept {c : Char} (kept : isKept c = true) : c ≠ '-' := by
  rintro rfl
  rw [isKept_dash] at kept
  cases kept

/-- A slug begins with a letter or digit. -/
theorem exists_chars_eq_cons (name : List Char) :
    ∃ c rest, chars name = c :: rest ∧ isKept c = true := by
  rw [chars_eq_take]
  cases dashedName : dashed true name with
  | nil =>
      refine ⟨'s', ['p', 'e', 'c'], ?_, by decide⟩
      simp [uncapped, dashedName, dropTrailingDashes, fallback, maxLength]
  | cons c words =>
      have kept := isKept_head_dashed dashedName
      have left := dropTrailingDashes_of_ne (ne_dash_of_isKept kept) words
      refine ⟨c, (dropTrailingDashes words).take 63, ?_, kept⟩
      simp [uncapped, dashedName, left, maxLength]

theorem dashed_chars (name : List Char) : dashed true (chars name) = chars name := by
  rw [chars_eq_take]
  apply dashed_take
  split
  · decide
  · have front : uncapped name <+: dashed true name := List.rdropWhile_prefix _ _
    rw [List.prefix_iff_eq_take.mp front]
    exact dashed_take (dashed_dashed true name) _

theorem length_chars_le (name : List Char) : (chars name).length ≤ maxLength := by
  rw [chars_eq_take]
  exact List.length_take_le _ _

theorem mem_dashed {before : Bool} {c : Char} {cs : List Char} (member : c ∈ dashed before cs) :
    isKept c = true ∨ c = '-' := by
  induction cs generalizing before with
  | nil => cases member
  | cons d rest ih =>
      unfold dashed at member
      split at member
      · next kept =>
          rcases List.mem_cons.mp member with rfl | later
          · exact .inl (isKept_toLower kept)
          · exact ih later
      · split at member
        · rcases List.mem_cons.mp member with rfl | later
          · exact .inr rfl
          · exact ih later
        · exact ih member

theorem mem_uncut {c : Char} {name : List Char}
    (member : c ∈ if (uncapped name).isEmpty then fallback.toList else uncapped name) :
    isKept c = true ∨ c = '-' := by
  split at member
  · have kept : fallback.toList.all isKept = true := by decide
    exact .inl (List.all_eq_true.mp kept c member)
  · exact mem_dashed ((List.rdropWhile_prefix _ _).subset member)

/-- Slugs hold letters, digits and dashes. -/
theorem mem_chars {c : Char} {name : List Char} (member : c ∈ chars name) :
    isKept c = true ∨ c = '-' := by
  rw [chars_eq_take] at member
  exact mem_uncut (List.take_subset _ _ member)

theorem toLower_of_mem_dashed {before : Bool} {c : Char} {cs : List Char}
    (member : c ∈ dashed before cs) : c.toLower = c := by
  induction cs generalizing before with
  | nil => cases member
  | cons d rest ih =>
      unfold dashed at member
      split at member
      · rcases List.mem_cons.mp member with rfl | later
        · exact toLower_toLower d
        · exact ih later
      · split at member
        · rcases List.mem_cons.mp member with rfl | later
          · decide
          · exact ih later
        · exact ih member

/-- Texts that slugs can be: short, of small letters, digits and dashes, and with no dash first. -/
structure IsSlug (slug : String) : Prop where
  solid : 1 ≤ slug.length
  short : slug.length ≤ maxLength
  chars : ∀ c ∈ slug.toList, ('a' ≤ c ∧ c ≤ 'z') ∨ ('0' ≤ c ∧ c ≤ '9') ∨ c = '-'
  head : slug.toList.head? ≠ some '-'

theorem isSlug_ofName (name : String) : IsSlug (ofName name) := by
  obtain ⟨first, rest, slug, kept⟩ := exists_chars_eq_cons name.toList
  have short := length_chars_le name.toList
  refine ⟨?_, ?_, ?_, ?_⟩
  · rw [ofName, String.length_ofList, slug, List.length_cons]
    exact Nat.le_add_left 1 rest.length
  · rw [ofName, String.length_ofList]
    exact short
  · intro c member
    rw [ofName, String.toList_ofList] at member
    -- A slug is what a name is dashed to, namely itself.
    have dashedMember : c ∈ dashed true (chars name.toList) := by
      rw [dashed_chars]
      exact member
    have small := toLower_of_mem_dashed dashedMember
    rcases mem_chars member with kept | dash
    · rw [isKept_iff] at kept
      have notCapital := congrArg Char.toNat small
      rw [toNat_toLower] at notCapital
      simp only [Char.le_def, UInt32.le_iff_toNat_le]
      change (97 ≤ c.toNat ∧ c.toNat ≤ 122) ∨ (48 ≤ c.toNat ∧ c.toNat ≤ 57) ∨ c = '-'
      split at notCapital <;> omega
    · exact .inr (.inr dash)
  · rw [ofName, String.toList_ofList, slug, List.head?_cons, ne_eq, Option.some.injEq]
    exact ne_dash_of_isKept kept

/-- The slug of a slug is that slug without a dash at its end. -/
theorem chars_chars (name : List Char) : chars (chars name) = dropTrailingDashes (chars name) := by
  obtain ⟨c, rest, slug, kept⟩ := exists_chars_eq_cons name
  have cut := dropTrailingDashes_of_ne (ne_dash_of_isKept kept) rest
  have short : (dropTrailingDashes (chars name)).length ≤ maxLength :=
    (List.rdropWhile_prefix (· == '-') (chars name)).length_le.trans (length_chars_le name)
  have nonempty : (dropTrailingDashes (chars name)).isEmpty = false := by rw [slug, cut]; rfl
  rw [chars_eq_take (chars name), uncapped, dashed_chars, nonempty, if_neg Bool.false_ne_true,
    List.take_of_length_le short]

/-- A slug stands for itself exactly when it does not end in a dash. -/
theorem ofName_ofName_eq_iff (name : String) :
    ofName (ofName name) = ofName name ↔ (ofName name).toList.getLast? ≠ some '-' := by
  simp only [ofName, String.toList_ofList, String.ofList_inj, chars_chars]
  exact dropTrailingDashes_eq_self_iff

theorem trim_ofName_ne_empty (name : String) : trim (ofName name) ≠ "" := by
  obtain ⟨c, rest, slug, kept⟩ := exists_chars_eq_cons name.toList
  rw [ne_eq, trim_eq_empty_iff, ofName, String.toList_ofList, slug]
  exact trimChars_ne_nil_of_head (isBlank_of_isKept kept)

theorem ofName_ofName (name : String) :
    ofName (ofName name) = String.ofList (dropTrailingDashes (ofName name).toList) := by
  simp only [ofName, String.toList_ofList, chars_chars]

end FileSearch.Text.Slug
