import CssSelectors.Proofs.Grammar.Notation
import CssSelectors.Proofs.Traversal
import Mathlib.Data.List.Basic

-- Alternatives are what stands between bars, each of it a single word.
namespace CssSelectors.Term

variable {segment : List String} {term : Term} {invalid : InvalidTerm} {word : String} {text : String}

-- The words of a text.
def wordsOf (text : String) : List String := (Text.words text.toList).map String.ofList

-- The words of a text, cut at each bar that is a word of its own.
def segments (text : String) : List (List String) := (wordsOf text).splitOn "|"

-- What stands between two bars, read as a term.
def ofSegment : List String → Except InvalidTerm Term
  | [] => .error ⟨""⟩
  | [word] => parse word
  | first :: second :: _ => .error ⟨first ++ " " ++ second⟩

-- A segment that is the name of a term.
def Names (segment : List String) (term : Term) : Prop := ∃ word, segment = [word] ∧ parse word = .ok term

-- What is wrong with a segment, as it is reported.
inductive Blames : List String → String → Prop where
  | missing : Blames [] ""
  | crowded (first second : String) (rest : List String) :
      Blames (first :: second :: rest) (first ++ " " ++ second)
  | unknown {word : String} (other : ∀ term, parse word ≠ .ok term) : Blames [word] word

theorem splitOn_bar (words : List String) : ("|" :: words).splitOn "|" = [] :: words.splitOn "|" := by
  simp [List.splitOn, List.splitOnP_cons_eq_if_modifyHead]

theorem splitOn_word (other : word ≠ "|") (words : List String) :
    (word :: words).splitOn "|" = (words.splitOn "|").modifyHead (word :: ·) := by
  simp [List.splitOn, List.splitOnP_cons_eq_if_modifyHead, other]

theorem exists_splitOn (words : List String) : ∃ first others, words.splitOn "|" = first :: others :=
  List.exists_cons_of_ne_nil (List.splitOnP_ne_nil _ _)

theorem bar_notMem_splitOn (words : List String) : ∀ segment ∈ words.splitOn "|", "|" ∉ segment := by
  induction words with
  | nil => simp [List.splitOn]
  | cons word words ih =>
      by_cases bar : word = "|"
      · subst bar
        rw [splitOn_bar]
        exact List.forall_mem_cons.mpr ⟨List.not_mem_nil, ih⟩
      · obtain ⟨first, others, parts⟩ := exists_splitOn words
        rw [parts] at ih
        obtain ⟨front, later⟩ := List.forall_mem_cons.mp ih
        rw [splitOn_word bar, parts]
        exact List.forall_mem_cons.mpr ⟨List.not_mem_cons_of_ne_of_not_mem (Ne.symm bar) front, later⟩

theorem length_splitOn (words : List String) : (words.splitOn "|").length = words.count "|" + 1 := by
  induction words with
  | nil => rfl
  | cons word words ih =>
      by_cases bar : word = "|"
      · subst bar
        rw [splitOn_bar, List.length_cons, ih, List.count_cons_self]
      · rw [splitOn_word bar, List.length_modifyHead, ih, List.count_cons_of_ne bar]

theorem mapM_named (word : String) (others : List (List String)) : ([word] :: others).mapM ofSegment =
    match parse word with
    | .error invalid => .error invalid
    | .ok term => (others.mapM ofSegment).map (term :: ·) := by
  cases parsed : parse word with
  | error invalid => exact mapM_cons_error parsed
  | ok term => exact mapM_cons_ok parsed

-- The pending word stands in front of the first of the segments that are still to come.
theorem alternativesFrom_eq (pending : Option String) (words : List String) : alternativesFrom pending words =
    ((words.splitOn "|").modifyHead (pending.toList ++ ·)).mapM ofSegment := by
  induction words generalizing pending with
  | nil =>
      cases pending with
      | none => rfl
      | some word =>
          refine Eq.trans ?_ (mapM_named word []).symm
          rw [alternativesFrom]
          cases parse word <;> rfl
  | cons word words ih =>
      obtain ⟨first, others, parts⟩ := exists_splitOn words
      rw [parts] at ih
      by_cases bar : word = "|"
      · subst bar
        rw [splitOn_bar, parts]
        cases pending with
        | none => rfl
        | some previous =>
            refine Eq.trans ?_ (mapM_named previous (first :: others)).symm
            rw [alternativesFrom, if_pos rfl, ih none]
            rfl
      · rw [splitOn_word bar, parts]
        cases pending with
        | none =>
            rw [alternativesFrom, if_neg bar, ih]
            rfl
        | some previous =>
            rw [alternativesFrom, if_neg bar]
            rfl

theorem alternatives_eq (text : String) : alternatives text = (segments text).mapM ofSegment := by
  obtain ⟨first, others, parts⟩ := exists_splitOn (wordsOf text)
  have passed := alternativesFrom_eq none (wordsOf text)
  rw [parts] at passed
  rw [segments, parts]
  exact passed

theorem ofSegment_eq_ok_iff : ofSegment segment = .ok term ↔ Names segment term := by
  constructor
  · intro read
    match segment with
    | [] => cases read
    | [word] => exact ⟨word, rfl, read⟩
    | first :: second :: rest => cases read
  · rintro ⟨word, rfl, read⟩
    exact read

theorem ofSegment_eq_error_iff : ofSegment segment = .error invalid ↔ Blames segment invalid.text := by
  constructor
  · intro failed
    match segment with
    | [] =>
        cases Except.error.inj failed
        exact .missing
    | [word] =>
        obtain ⟨other, rfl⟩ := parse_eq_error_iff.mp failed
        exact .unknown other
    | first :: second :: rest =>
        cases Except.error.inj failed
        exact .crowded first second rest
  · intro blamed
    obtain ⟨text⟩ := invalid
    cases blamed with
    | missing => rfl
    | crowded => rfl
    | unknown other => exact parse_eq_error_iff.mpr ⟨other, rfl⟩

-- The alternatives are right if each segment is the name of a term. Otherwise the leftmost segment that is not
-- is to blame, whatever comes behind it.
theorem alternatives_leftmost (text : String) :
    ["|"].intercalate (segments text) = wordsOf text ∧
    (∀ segment ∈ segments text, "|" ∉ segment) ∧
    (segments text).length = (wordsOf text).count "|" + 1 ∧
    (∀ terms, alternatives text = .ok terms ↔ List.Forall₂ Names (segments text) terms) ∧
    ∀ invalid, alternatives text = .error invalid ↔ ∃ front bad back, segments text = front ++ bad :: back ∧
      (∀ segment ∈ front, ∃ term, Names segment term) ∧ Blames bad invalid.text := by
  refine ⟨List.intercalate_splitOn _, bar_notMem_splitOn _, length_splitOn _, ?_, ?_⟩
  · intro terms
    rw [alternatives_eq, mapM_ok_iff]
    simp only [ofSegment_eq_ok_iff]
  · intro invalid
    rw [alternatives_eq, mapM_error_iff]
    simp only [FailsFirst, ofSegment_eq_ok_iff, ofSegment_eq_error_iff]

example : segments "IDENT | a b |" = [["IDENT"], ["a", "b"], []] ∧
    alternatives "IDENT | a b |" = .error ⟨"a b"⟩ := by decide +kernel

end CssSelectors.Term
