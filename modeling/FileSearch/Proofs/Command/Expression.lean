import FileSearch.Proofs.Command.Criteria

/-!
# Criteria read as expressions

Signs and primaries lead the reader from one expression in progress to another, whatever stands
around them. The words of a criterion add one part, which decides whether the criterion holds and
reaches none but its tests; the words of several criteria add their conjunction.
-/

set_option autoImplicit false

namespace FileSearch.Command

open Front (joined)

variable {holds : Primary → Bool} {first second : Expression} {test : Primary}

/-! ## Visits -/

namespace Expression

@[simp] theorem visit_primary : (Expression.primary test).visit holds = (holds test, [test]) :=
  rfl

@[simp] theorem visit_negation_fst :
    ((negation first).visit holds).1 = !(first.visit holds).1 := rfl

@[simp] theorem visit_conjunction_fst : ((conjunction first second).visit holds).1 =
    ((first.visit holds).1 && (second.visit holds).1) := by
  rw [visit]
  rcases first.visit holds with ⟨truth, reached⟩
  cases truth <;> rfl

@[simp] theorem visit_disjunction_fst : ((disjunction first second).visit holds).1 =
    ((first.visit holds).1 || (second.visit holds).1) := by
  rw [visit]
  rcases first.visit holds with ⟨truth, reached⟩
  cases truth <;> rfl

theorem mem_visit_conjunction : test ∈ ((conjunction first second).visit holds).2 ↔
    test ∈ (first.visit holds).2 ∨
      (first.visit holds).1 = true ∧ test ∈ (second.visit holds).2 := by
  rw [visit]
  rcases first.visit holds with ⟨truth, reached⟩
  cases truth <;> simp

theorem mem_visit_disjunction : test ∈ ((disjunction first second).visit holds).2 ↔
    test ∈ (first.visit holds).2 ∨
      (first.visit holds).1 = false ∧ test ∈ (second.visit holds).2 := by
  rw [visit]
  rcases first.visit holds with ⟨truth, reached⟩
  cases truth <;> simp

/-- An expression holds exactly under a condition, and reaches none but some tests. -/
structure Decides (expression : Expression) (tests : List Primary)
    (condition : (Primary → Bool) → Prop) : Prop where
  holds_iff : ∀ holds, (expression.visit holds).1 = true ↔ condition holds
  reaches : ∀ holds, ∀ test ∈ (expression.visit holds).2, test ∈ tests

namespace Decides

variable {tests others : List Primary} {condition another : (Primary → Bool) → Prop}

theorem congr (decides : first.Decides tests condition)
    (same : ∀ holds, condition holds ↔ another holds) : first.Decides tests another :=
  ⟨fun holds => (decides.holds_iff holds).trans (same holds), decides.reaches⟩

theorem primary (test : Primary) :
    (Expression.primary test).Decides [test] fun holds => holds test = true where
  holds_iff _ := Iff.rfl
  reaches _ _ reached := reached

theorem negation (decides : first.Decides tests condition) :
    (Expression.negation first).Decides tests fun holds => ¬ condition holds where
  holds_iff holds := by
    rw [← decides.holds_iff, visit_negation_fst, Bool.not_eq_true', Bool.not_eq_true]
  reaches := decides.reaches

theorem conjunction (decides : first.Decides tests condition)
    (also : second.Decides others another) :
    (Expression.conjunction first second).Decides (tests ++ others)
      fun holds => condition holds ∧ another holds where
  holds_iff holds := by
    rw [← decides.holds_iff, ← also.holds_iff, visit_conjunction_fst, Bool.and_eq_true]
  reaches holds test reached := by
    rcases mem_visit_conjunction.mp reached with inFirst | ⟨-, inSecond⟩
    · exact List.mem_append_left _ (decides.reaches holds test inFirst)
    · exact List.mem_append_right _ (also.reaches holds test inSecond)

theorem disjunction (decides : first.Decides tests condition)
    (also : second.Decides others another) :
    (Expression.disjunction first second).Decides (tests ++ others)
      fun holds => condition holds ∨ another holds where
  holds_iff holds := by
    rw [← decides.holds_iff, ← also.holds_iff, visit_disjunction_fst, Bool.or_eq_true]
  reaches holds test reached := by
    rcases mem_visit_disjunction.mp reached with inFirst | ⟨-, inSecond⟩
    · exact List.mem_append_left _ (decides.reaches holds test inFirst)
    · exact List.mem_append_right _ (also.reaches holds test inSecond)

end Decides

end Expression

/-! ## Expressions in progress -/

/-- An expression behind its last "or", with the parts that stand there so far. -/
def Front.behindOr (disjunction? conjunction? : Option Expression) : Front where
  disjunction? := disjunction?
  conjunction? := conjunction?
  awaits := conjunction?.isNone

/-- Signs and primaries that belong together lead from one expression in progress to another, at
any depth of parentheses and before any rest. -/
def Leads (lexemes : List Lexeme) (start finish : Front) : Prop :=
  ∀ outer rest, Expression.ofLexemesFrom? start outer (lexemes ++ rest) =
    Expression.ofLexemesFrom? finish outer rest

namespace Leads

variable {start middle finish : Front} {front back : List Lexeme}

theorem nil : Leads [] start start :=
  fun _ _ => rfl

theorem append (leads : Leads front start middle) (further : Leads back middle finish) :
    Leads (front ++ back) start finish := by
  intro outer rest
  rw [List.append_assoc, leads, further]

theorem primary (single : Primary) :
    Leads [.primary single] start (start.add (.primary single)) :=
  fun _ _ => rfl

theorem negated (single : Primary) (unnegated : start.negations = 0) :
    Leads [.sign .not, .primary single] start (start.add (.negation (.primary single))) := by
  obtain ⟨sequence?, disjunction?, conjunction?, negations, awaits⟩ := start
  obtain rfl : negations = 0 := unnegated
  exact fun _ _ => rfl

theorem or (disjunction? : Option Expression) (expression : Expression) :
    Leads [.sign .or] (.behindOr disjunction? (some expression))
      (.behindOr (some (joined .disjunction disjunction? expression)) none) :=
  fun _ _ => rfl

/-- What is complete by itself is one part in parentheses. -/
theorem parenthesized {lexemes : List Lexeme} {expression : Expression}
    (leads : Leads lexemes (.behindOr none none) finish)
    (complete : finish.finish? = some expression) :
    Leads (.sign .opening :: (lexemes ++ [.sign .closing])) start (start.add expression) := by
  intro outer rest
  have inner := leads (start :: outer) (.sign .closing :: rest)
  have closing : Expression.step? finish (start :: outer) (.sign .closing) =
      some (start.add expression, outer) := by
    simp only [Expression.step?, complete]
  have opening : Expression.ofLexemesFrom? start outer
      (.sign .opening :: (lexemes ++ [.sign .closing]) ++ rest) =
        Expression.ofLexemesFrom? (.behindOr none none) (start :: outer)
          (lexemes ++ .sign .closing :: rest) := by
    rw [List.cons_append, List.append_assoc]
    rfl
  rw [opening, inner, Expression.ofLexemesFrom?, closing]
  rfl

/-- What leads from the start to a complete expression is that expression. -/
theorem ofWordsAround? {front back : List String} {first second : List Lexeme} {unit : Primary}
    {expression : Expression} (cut : Cut front first) (behind : Cut back second)
    (leads : Leads (first ++ .primary unit :: second) (.behindOr none none) finish)
    (complete : finish.finish? = some expression) :
    Expression.ofWordsAround? front unit back = some expression := by
  have read := leads [] []
  rw [List.append_nil] at read
  rw [Expression.ofWordsAround?, cut.ofWords?, behind.ofWords?]
  exact read.trans complete

end Leads

/-! ## Criteria -/

namespace Criterion

def alternativeLexemes : List Primary → List Lexeme
  | [] => []
  | [test] => [.primary test]
  | test :: rest => .primary test :: .sign .or :: alternativeLexemes rest

def lexemes : Criterion → List Lexeme
  | must test => [.primary test]
  | mustNot test => [.sign .not, .primary test]
  | anyOf [] => []
  | anyOf [test] => [.primary test]
  | anyOf tests => .sign .opening :: (alternativeLexemes tests ++ [.sign .closing])

theorem cut_alternatives (test : Primary) (rest : List Primary)
    (complete : ∀ primary ∈ test :: rest, primary.Complete) :
    Cut (alternativeWords (test :: rest)) (alternativeLexemes (test :: rest)) := by
  induction rest generalizing test with
  | nil => exact .single (complete test List.mem_cons_self)
  | cons next rest ih =>
      have others := ih next fun primary member => complete primary (List.mem_cons_of_mem _ member)
      exact .primary (complete test List.mem_cons_self) (.sign rfl others)

theorem Sound.cut {criterion : Criterion} (sound : criterion.Sound) :
    Cut criterion.words criterion.lexemes := by
  have complete : ∀ test ∈ criterion.tests, test.Complete :=
    fun test listed => (sound.quiet test listed).complete
  cases criterion with
  | must test => exact .single (complete test List.mem_cons_self)
  | mustNot test => exact .negated (complete test List.mem_cons_self)
  | anyOf tests =>
      match tests with
      | [] => exact .nil
      | [test] => exact .single (complete test List.mem_cons_self)
      | test :: next :: rest => exact .parenthesized (cut_alternatives test (next :: rest) complete)

theorem mem_tests_of_mem_alternativeLexemes {tests : List Primary}
    (listed : .primary test ∈ alternativeLexemes tests) : test ∈ tests := by
  induction tests with
  | nil => cases listed
  | cons first rest ih =>
      cases rest with
      | nil => simpa [alternativeLexemes] using listed
      | cons next rest =>
          simp only [alternativeLexemes, List.mem_cons, Lexeme.primary.injEq, reduceCtorEq,
            false_or] at listed
          rcases listed with rfl | inRest
          · exact List.mem_cons_self
          · exact List.mem_cons_of_mem _ (ih inRest)

/-- A criterion has no primaries but its tests. -/
theorem mem_tests_of_mem_lexemes {criterion : Criterion}
    (listed : .primary test ∈ criterion.lexemes) : test ∈ criterion.tests := by
  cases criterion with
  | must only => simpa [lexemes, tests] using listed
  | mustNot only => simpa [lexemes, tests] using listed
  | anyOf tests =>
      refine mem_tests_of_mem_alternativeLexemes ?_
      rcases tests with _ | ⟨first, _ | ⟨next, rest⟩⟩
      · exact listed
      · exact listed
      · simpa [lexemes, Criterion.tests] using listed

theorem cut_criteria {criteria : List Criterion} (sound : ∀ criterion ∈ criteria, criterion.Sound) :
    Cut (criteria.flatMap words) (criteria.flatMap lexemes) :=
  .flatMap fun criterion listed => (sound criterion listed).cut

/-- The words of criteria, in parentheses unless there are none. -/
def guardedWords (criteria : List Criterion) : List String :=
  if criteria.isEmpty then [] else "(" :: (criteria.flatMap words ++ [")"])

def guardedLexemes (criteria : List Criterion) : List Lexeme :=
  if criteria.isEmpty then [] else .sign .opening :: (criteria.flatMap lexemes ++ [.sign .closing])

theorem cut_guarded {criteria : List Criterion} (sound : ∀ criterion ∈ criteria, criterion.Sound) :
    Cut (guardedWords criteria) (guardedLexemes criteria) := by
  unfold guardedWords guardedLexemes
  split
  · exact .nil
  · exact (cut_criteria sound).parenthesized

theorem mem_guardedLexemes {criteria : List Criterion}
    (listed : .primary test ∈ guardedLexemes criteria) :
    .primary test ∈ criteria.flatMap lexemes := by
  unfold guardedLexemes at listed
  split at listed
  · cases listed
  · simpa using listed

/-- Alternatives behind a disjunction so far make one disjunction with it. -/
theorem exists_leads_alternatives (disjunction? : Option Expression) (test : Primary)
    (rest : List Primary) {others : List Primary} {condition : (Primary → Bool) → Prop}
    (decides : (joined .disjunction disjunction? (.primary test)).Decides others condition) :
    ∃ finish expression,
      Leads (alternativeLexemes (test :: rest)) (.behindOr disjunction? none) finish ∧
      finish.finish? = some expression ∧
      expression.Decides (others ++ rest)
        fun holds => condition holds ∨ ∃ alternative ∈ rest, holds alternative = true := by
  -- Each "or" moves the tests in front of it into the disjunction so far.
  induction rest generalizing disjunction? test others condition with
  | nil =>
      refine ⟨.behindOr disjunction? (some (.primary test)), _, .primary test, rfl, ?_⟩
      rw [List.append_nil]
      exact decides.congr fun holds => by simp
  | cons next rest ih =>
      obtain ⟨finish, expression, leads, complete, decidesAll⟩ :=
        ih (some (joined .disjunction disjunction? (.primary test))) next
          (decides.disjunction (.primary next))
      have toNext : Leads [.primary test, .sign .or] (.behindOr disjunction? none)
          (.behindOr (some (joined .disjunction disjunction? (.primary test))) none) :=
        (Leads.primary test).append (.or disjunction? (.primary test))
      refine ⟨finish, expression, toNext.append leads, complete, ?_⟩
      simpa only [List.append_assoc, List.singleton_append, List.exists_mem_cons_iff, or_assoc]
        using decidesAll

/-- A criterion adds one part, which holds exactly when the criterion does. -/
theorem Sound.exists_leads {criterion : Criterion} (sound : criterion.Sound) :
    ∃ expression : Expression, expression.Decides criterion.tests criterion.Holds ∧
      ∀ start : Front, start.negations = 0 →
        Leads criterion.lexemes start (start.add expression) := by
  cases criterion with
  | must test => exact ⟨.primary test, .primary test, fun _ _ => .primary test⟩
  | mustNot test =>
      refine ⟨.negation (.primary test), ?_, fun _ unnegated => .negated test unnegated⟩
      exact (Expression.Decides.primary test).negation.congr fun holds => by simp
  | anyOf tests =>
      match tests with
      | [] => exact absurd rfl sound.exists_test
      | [test] =>
          refine ⟨.primary test, ?_, fun _ _ => .primary test⟩
          exact (Expression.Decides.primary test).congr fun holds => by simp [Holds]
      | test :: next :: rest =>
          obtain ⟨finish, expression, leads, complete, decides⟩ :=
            exists_leads_alternatives none test (next :: rest) (.primary test)
          refine ⟨expression, ?_, fun _ _ => leads.parenthesized complete⟩
          exact decides.congr fun holds => by simp [Holds]

/-- Criteria behind a conjunction so far make one conjunction with it. -/
theorem exists_leads_from {criteria : List Criterion}
    (sound : ∀ criterion ∈ criteria, criterion.Sound) {before : Expression}
    {tests : List Primary} {condition : (Primary → Bool) → Prop}
    (decides : before.Decides tests condition) :
    ∃ expression : Expression,
      expression.Decides (tests ++ criteria.flatMap Criterion.tests)
        (fun holds => condition holds ∧ ∀ criterion ∈ criteria, criterion.Holds holds) ∧
      ∀ disjunction?, Leads (criteria.flatMap lexemes) (.behindOr disjunction? (some before))
        (.behindOr disjunction? (some expression)) := by
  induction criteria generalizing before tests condition with
  | nil => exact ⟨before, by simpa using decides, fun _ => .nil⟩
  | cons criterion criteria ih =>
      obtain ⟨part, decidesPart, leadsPart⟩ := (sound criterion List.mem_cons_self).exists_leads
      obtain ⟨expression, decidesAll, leads⟩ :=
        ih (fun other member => sound other (List.mem_cons_of_mem _ member))
          (decides.conjunction decidesPart)
      refine ⟨expression, ?_, fun disjunction? => ?_⟩
      · simpa only [List.flatMap_cons, List.append_assoc, List.forall_mem_cons, and_assoc]
          using decidesAll
      · rw [List.flatMap_cons]
        exact (leadsPart _ rfl).append (leads disjunction?)

theorem exists_leads {criterion : Criterion} {criteria : List Criterion}
    (sound : ∀ each ∈ criterion :: criteria, each.Sound) :
    ∃ expression : Expression,
      expression.Decides ((criterion :: criteria).flatMap Criterion.tests)
        (fun holds => ∀ each ∈ criterion :: criteria, each.Holds holds) ∧
      ∀ disjunction?, Leads ((criterion :: criteria).flatMap lexemes)
        (.behindOr disjunction? none) (.behindOr disjunction? (some expression)) := by
  obtain ⟨part, decidesPart, leadsPart⟩ := (sound criterion List.mem_cons_self).exists_leads
  obtain ⟨expression, decides, leads⟩ :=
    exists_leads_from (fun other member => sound other (List.mem_cons_of_mem _ member)) decidesPart
  refine ⟨expression, ?_, fun disjunction? => ?_⟩
  · simpa only [List.flatMap_cons, List.forall_mem_cons] using decides
  · rw [List.flatMap_cons]
    exact (leadsPart _ rfl).append (leads disjunction?)

/-- Criteria with a unit behind them reach the unit exactly when they hold, in parentheses or
not. -/
theorem exists_leads_unit {criteria : List Criterion}
    (sound : ∀ criterion ∈ criteria, criterion.Sound) {unit : Primary}
    (fresh : unit ∉ criteria.flatMap Criterion.tests) :
    ∃ body : Expression,
      (∀ holds, unit ∈ (body.visit holds).2 ↔ ∀ criterion ∈ criteria, criterion.Holds holds) ∧
      (∀ holds, ∀ test ∈ (body.visit holds).2,
        test = unit ∨ test ∈ criteria.flatMap Criterion.tests) ∧
      ∀ disjunction?,
        Leads (criteria.flatMap lexemes ++ [.primary unit]) (.behindOr disjunction? none)
          (.behindOr disjunction? (some body)) ∧
        Leads (guardedLexemes criteria ++ [.primary unit]) (.behindOr disjunction? none)
          (.behindOr disjunction? (some body)) := by
  cases criteria with
  | nil =>
      refine ⟨.primary unit, ?_, ?_, fun _ => ⟨.primary unit, .primary unit⟩⟩
      · simp
      · intro holds test reached
        exact .inl (List.mem_singleton.mp reached)
  | cons criterion criteria =>
      obtain ⟨expression, decides, leads⟩ := exists_leads sound
      refine ⟨.conjunction expression (.primary unit), ?_, ?_, fun disjunction? => ⟨?_, ?_⟩⟩
      · intro holds
        -- The unit is no test, so it is reached only as the second part.
        have unreached : unit ∉ (expression.visit holds).2 :=
          fun reached => fresh (decides.reaches holds unit reached)
        simp only [Expression.mem_visit_conjunction, unreached, false_or,
          Expression.visit_primary, List.mem_singleton, and_true, decides.holds_iff]
      · intro holds test reached
        rcases Expression.mem_visit_conjunction.mp reached with inCriteria | ⟨-, inUnit⟩
        · exact .inr (decides.reaches holds test inCriteria)
        · exact .inl (List.mem_singleton.mp inUnit)
      · exact (leads disjunction?).append (.primary unit)
      · have guarded : Leads (guardedLexemes (criterion :: criteria))
            (.behindOr disjunction? none) (.behindOr disjunction? (some expression)) :=
          (leads none).parenthesized rfl
        exact guarded.append (.primary unit)

end Criterion

/-! ## Leaving directories out -/

def Primary.prune : Primary :=
  .bare "-prune"

/-- The words in front of the actions, where directories that pass a test are left out. -/
def pruningWords (test : Primary) (criteria : List Criterion) : List String :=
  "(" :: (test.words ++ (Primary.prune.words ++ "-o" :: Criterion.guardedWords criteria))

def pruningLexemes (test : Primary) (criteria : List Criterion) : List Lexeme :=
  .sign .opening :: .primary test :: .primary .prune :: .sign .or ::
    Criterion.guardedLexemes criteria

theorem cut_pruning (complete : test.Complete) {criteria : List Criterion}
    (sound : ∀ criterion ∈ criteria, criterion.Sound) :
    Cut (pruningWords test criteria) (pruningLexemes test criteria) := by
  have prune : Primary.prune.Complete := Primary.complete_bare (by decide)
  exact .sign rfl (.primary complete (.primary prune (.sign rfl (Criterion.cut_guarded sound))))

/-- With directories left out, what adds one part behind any "or" is the alternative to leaving
out. -/
theorem Leads.pruning {criteria : List Criterion} {unit : Primary} {body : Expression}
    (leads : ∀ disjunction?, Leads (Criterion.guardedLexemes criteria ++ [.primary unit])
      (.behindOr disjunction? none) (.behindOr disjunction? (some body))) :
    Leads (pruningLexemes test criteria ++ .primary unit :: [.sign .closing])
      (.behindOr none none) (.behindOr none
        (some (.disjunction (.conjunction (.primary test) (.primary .prune)) body))) := by
  have inner : Leads ([.primary test, .primary .prune, .sign .or] ++
        (Criterion.guardedLexemes criteria ++ [.primary unit])) (.behindOr none none)
      (.behindOr (some (.conjunction (.primary test) (.primary .prune))) (some body)) :=
    Leads.append (fun _ _ => rfl) (leads _)
  have parenthesized : Leads _ (.behindOr none none) _ := inner.parenthesized rfl
  rwa [List.append_assoc, List.append_assoc] at parenthesized

end FileSearch.Command

namespace FileSearch.SearchCommand

open Command (Primary Criterion pruningWords)

variable {command : SearchCommand}

theorem expressionWords_of_prune?_none (found : command.prune? = none) :
    command.expressionWords =
      command.criteria.flatMap Criterion.words ++ command.actionWords := by
  rw [expressionWords, found]
  rfl

theorem expressionWords_of_prune?_some {test : Primary} (found : command.prune? = some test) :
    command.expressionWords =
      pruningWords test command.criteria ++ command.actionWords ++ [")"] := by
  simp [expressionWords, found, pruningWords, Criterion.guardedWords, criteriaWords,
    Primary.prune, Primary.words, Primary.bare]

end FileSearch.SearchCommand
