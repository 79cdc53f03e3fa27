import CssSelectors.Proofs.Token.Shielding

open scoped Computability

-- Which tokens may end with white space that no backslash escapes: white space itself, and names that
-- end with an escape, which are as well names without it.
namespace CssSelectors

open Pattern

-- No word ends with white space.
structure Closed (language : Language Char) : Prop where
  solid : [] ∉ language
  ends : ∀ word c, word ++ [c] ∈ language → isSpace c = false

-- White space that ends a word may be left out, unless a backslash escapes it.
def Trimmed (language : Language Char) : Prop :=
  ∀ word c, word ++ [c] ∈ language → isSpace c = true → pending word = false → word ∈ language

-- The rules with words that may end with an escape.
def nameRules : List Symbol := [.ident, .hash, .atKeyword, .dimension]

variable {left right language : Language Char} {word blank : List Char} {c : Char} {lower : String}

theorem pending_blank (spaces : ∀ c ∈ blank, isSpace c = true) : pending blank = false :=
  pending_plain fun c present => ne_backslash rfl (spaces c present)

-- What two lists end with, put one behind the other.
theorem append_eq_concat {first second word : List Char} (same : first ++ second = word ++ [c]) :
    (second = [] ∧ first = word ++ [c]) ∨ ∃ init, second = init ++ [c] ∧ word = first ++ init := by
  rcases List.eq_nil_or_concat' second with rfl | ⟨init, last, rfl⟩
  · exact .inl ⟨rfl, by rwa [List.append_nil] at same⟩
  · rw [← List.append_assoc] at same
    obtain ⟨rfl, ends⟩ := List.append_inj' same rfl
    exact .inr ⟨init, by rw [ends], rfl⟩

namespace Closed

theorem text (letterless : isLetterless lower = true)
    (last : lower.toList.getLast?.map isSpace = some false) : Closed (Flex.text lower) := by
  refine ⟨?_, ?_⟩
  · intro empty
    rw [← (mem_text letterless).mp empty] at last
    cases last
  · intro word c member
    rw [← (mem_text letterless).mp member, List.getLast?_concat] at last
    exact Option.some.inj last

theorem mul (two : Closed right) : Closed (left * right) := by
  refine ⟨?_, ?_⟩
  · intro empty
    obtain ⟨first, _, second, follows, same⟩ := Language.mem_mul.mp empty
    exact two.solid ((List.append_eq_nil_iff.mp same).2 ▸ follows)
  · intro word c member
    obtain ⟨first, _, second, follows, same⟩ := Language.mem_mul.mp member
    rcases append_eq_concat same with ⟨rfl, _⟩ | ⟨init, rfl, _⟩
    · exact absurd follows two.solid
    · exact two.ends init c follows

theorem num : Closed Flex.num := by
  refine ⟨nil_notMem_num, ?_⟩
  intro word c member
  rcases mem_num member c (by simp) with digit | rfl
  · exact not_isSpace rfl digit
  · rfl

end Closed

namespace Trimmed

theorem of_ends (ends : ∀ word c, word ++ [c] ∈ language → isSpace c = false) : Trimmed language := by
  intro word c member blank
  rw [ends word c member] at blank
  cases blank

theorem mul (one : Trimmed left) (two : Trimmed right) (settled : ∀ word ∈ left, pending word = false) :
    Trimmed (left * right) := by
  intro word c member blank unescaped
  obtain ⟨first, inside, second, follows, same⟩ := Language.mem_mul.mp member
  rcases append_eq_concat same with ⟨rfl, rfl⟩ | ⟨init, rfl, rfl⟩
  · have shorter := Language.append_mem_mul (one word c inside blank unescaped) follows
    rwa [List.append_nil] at shorter
  · rw [pending_append (settled first inside)] at unescaped
    exact Language.append_mem_mul inside (two init c follows blank unescaped)

theorem star (each : Trimmed language) (settled : ∀ word ∈ language, pending word = false) :
    Trimmed language∗ := by
  intro word c member blank unescaped
  -- The induction is on the pieces of the whole word; the white space ends the last of them.
  refine star_induction (motive := fun whole => ∀ word, whole = word ++ [c] → pending word = false →
    word ∈ language∗) ?nil ?piece member word rfl unescaped
  case nil =>
    intro word same
    simp at same
  case piece =>
    intro first others one further ih word same unescaped
    rcases append_eq_concat same with ⟨rfl, rfl⟩ | ⟨init, rfl, rfl⟩
    · have alone := star_cons (each word c one blank unescaped) (Language.nil_mem_kstar _)
      rwa [List.append_nil] at alone
    · rw [pending_append (settled first one)] at unescaped
      exact star_cons one (ih init rfl unescaped)

theorem spaces (trimmed : Trimmed language) (blanks : ∀ c ∈ blank, isSpace c = true)
    (unescaped : pending word = false) (member : word ++ blank ∈ language) : word ∈ language := by
  induction blank using List.reverseRecOn with
  | nil => rwa [List.append_nil] at member
  | append_singleton blank c ih =>
      obtain ⟨early, last⟩ := List.forall_mem_append.mp blanks
      rw [← List.append_assoc] at member
      have settled : pending (word ++ blank) = false := (pending_append unescaped).trans (pending_blank early)
      exact ih early (trimmed _ c member (last c List.mem_cons_self) settled)

theorem escape : Trimmed Flex.escape := by
  intro word c member blank unescaped
  have solid := isHexDigit_of_isSpace blank
  rcases mem_escape.mp member with ⟨digits, ending, same, some, few, all, last⟩ | ⟨d, same, _⟩
  · have parts : ('\\' :: digits) ++ ending = word ++ [c] := same.symm
    rcases append_eq_concat parts with ⟨rfl, coded⟩ | ⟨init, rfl, rfl⟩
    · -- Without an end the escape ends with a digit.
      have digit : ['\\'] ++ digits = word ++ [c] := coded
      rcases append_eq_concat digit with ⟨rfl, _⟩ | ⟨init, rfl, _⟩
      · exact absurd rfl some
      · rw [all c (by simp)] at solid
        cases solid
    · refine mem_escape.mpr (.inl ⟨digits, init, rfl, some, few, all, mem_escapeEnd.mpr ?_⟩)
      rcases mem_escapeEnd.mp last with empty | pair | ⟨d, one, _⟩
      · simp at empty
      · have ends : init ++ [c] = ['\r'] ++ ['\n'] := pair
        obtain ⟨rfl, _⟩ := List.append_inj' ends rfl
        exact .inr (.inr ⟨'\r', rfl, rfl⟩)
      · have ends : init ++ [c] = [] ++ [d] := one
        exact .inl (List.append_inj' ends rfl).1
  · have parts : word ++ [c] = ['\\'] ++ [d] := same
    obtain ⟨rfl, _⟩ := List.append_inj' parts rfl
    cases unescaped

theorem or_escape {check : Char → Bool} (apart : [' ', '\t', '\r', '\n', '\x0c'].any check = false)
    (same : ∀ word, word ∈ language ↔ (∃ c, word = [c] ∧ check c = true) ∨ word ∈ Flex.escape) :
    Trimmed language := by
  intro word c member blank unescaped
  rcases (same _).mp member with ⟨d, one, holds⟩ | escaped
  · have parts : word ++ [c] = [] ++ [d] := one
    obtain rfl := List.singleton_inj.mp (List.append_inj' parts rfl).2
    rw [not_isSpace apart holds] at blank
    cases blank
  · exact (same _).mpr (.inr (escape word c escaped blank unescaped))

theorem nmchar : Trimmed Flex.nmchar := or_escape rfl fun _ => mem_nmchar

theorem nmstart : Trimmed Flex.nmstart := or_escape rfl fun _ => mem_nmstart

end Trimmed

theorem settled_names (member : word ∈ Flex.nmchar∗) : pending word = false :=
  (guarded_names (show isOutside '/' = true from rfl) member).ends

theorem settled_nmchar (word : List Char) (member : word ∈ Flex.nmchar) : pending word = false := by
  have alone := star_cons member (Language.nil_mem_kstar _)
  rw [List.append_nil] at alone
  exact settled_names alone

theorem settled_text (letterless : isLetterless lower = true) (plain : '\\' ∉ lower.toList) :
    ∀ word ∈ Flex.text lower, pending word = false := by
  intro word member
  rw [(mem_text letterless).mp member]
  refine pending_plain fun c present => ?_
  rintro rfl
  exact plain present

namespace Trimmed

theorem names : Trimmed Flex.nmchar∗ := nmchar.star settled_nmchar

theorem solidNames : Trimmed Flex.name := nmchar.mul names settled_nmchar

theorem ident : Trimmed Flex.ident := by
  have dash : Trimmed (Flex.optional (Flex.text "-")) := by
    refine of_ends fun word c member => ?_
    rcases mem_dash.mp member with same | same
    · have parts : word ++ [c] = [] ++ ['-'] := same
      obtain rfl := List.singleton_inj.mp (List.append_inj' parts rfl).2
      rfl
    · simp at same
  refine dash.mul (nmstart.mul names fun word member => ?_) fun word member => ?_
  · exact settled_nmchar word (nmchar_of_nmstart word member)
  · rcases mem_dash.mp member with rfl | rfl
    · rfl
    · rfl

theorem behind (letterless : isLetterless lower = true) (plain : '\\' ∉ lower.toList)
    (closed : Closed (Flex.text lower)) (trimmed : Trimmed language) :
    Trimmed (Flex.text lower * language) :=
  (of_ends closed.ends).mul trimmed (settled_text letterless plain)

end Trimmed

theorem scannerRules_trimmed : ∀ rule ∈ scannerRules, rule ∈ openRules ∨ rule.1 = .space ∨
    Closed rule.2 ∨ (rule.1 ∈ nameRules ∧ Trimmed rule.2) := by
  have settled : ∀ word ∈ Flex.num, pending word = false :=
    fun word member => (guarded_num (show isForeign '/' = true from rfl) member).ends
  unfold scannerRules Flex.rulesWith
  simp only [List.forall_mem_cons, List.not_mem_nil, false_implies, implies_true, and_true]
  exact ⟨.inr (.inl trivial),
    .inr (.inr (.inl (.text (by decide) (by decide)))),
    .inr (.inr (.inl (.text (by decide) (by decide)))),
    .inr (.inr (.inl (.text (by decide) (by decide)))),
    .inr (.inr (.inl (.text (by decide) (by decide)))),
    .inr (.inr (.inl (.text (by decide) (by decide)))),
    .inr (.inr (.inr ⟨.head _, .ident⟩)),
    .inl (.head _),
    .inr (.inr (.inl (.mul (.text (by decide) (by decide))))),
    .inr (.inr (.inl .num)),
    .inr (.inr (.inr ⟨.tail _ (.head _),
      .behind (by decide) (by decide) (.text (by decide) (by decide)) .solidNames⟩)),
    .inr (.inr (.inl (.mul (.text (by decide) (by decide))))),
    .inr (.inr (.inl (.mul (.text (by decide) (by decide))))),
    .inr (.inr (.inl (.mul (.text (by decide) (by decide))))),
    .inr (.inr (.inl (.mul (.text (by decide) (by decide))))),
    .inr (.inr (.inl (.mul (.mul (.mul (.mul (.text (by decide) (by decide)))))))),
    .inr (.inr (.inr ⟨.tail _ (.tail _ (.head _)),
      .behind (by decide) (by decide) (.text (by decide) (by decide)) .ident⟩)),
    .inl (.tail _ (.head _)),
    .inr (.inr (.inl (.mul (.text (by decide) (by decide))))),
    .inr (.inr (.inr ⟨.tail _ (.tail _ (.tail _ (.head _))),
      (Trimmed.of_ends Closed.num.ends).mul .ident settled⟩)),
    .inr (.inr (.inl (.text (by decide) (by decide)))),
    .inr (.inr (.inl (.text (by decide) (by decide)))),
    .inl (.tail _ (.tail _ (.head _)))⟩

end CssSelectors
