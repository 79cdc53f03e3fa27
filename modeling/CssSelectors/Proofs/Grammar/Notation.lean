import CssSelectors.Grammar.Term
import Mathlib.Logic.Function.Basic

namespace CssSelectors.Text

variable {cs rest : List Char}

theorem frontWord_solid (solid : ∀ c ∈ cs, isBlank c = false) : frontWord cs = (cs, []) := by
  induction cs with
  | nil => rfl
  | cons c rest ih =>
      obtain ⟨first, others⟩ := List.forall_mem_cons.mp solid
      simp [frontWord, first, ih others]

theorem trim_solid (solid : ∀ c ∈ cs, isBlank c = false) : trim cs = cs := by
  have kept {cs : List Char} (solid : ∀ c ∈ cs, isBlank c = false) : cs.dropWhile isBlank = cs := by
    cases cs with
    | nil => rfl
    | cons c rest => rw [List.dropWhile_cons_of_neg (by simp [solid c List.mem_cons_self])]
  rw [trim, kept solid, kept fun c among => solid c (List.mem_reverse.mp among), List.reverse_reverse]

-- A text without blanks is one word.
theorem words_solid (some : cs ≠ []) (solid : ∀ c ∈ cs, isBlank c = false) : words cs = [cs] := by
  rw [words, frontWord_solid solid, joinFront, if_neg (mt List.isEmpty_iff.mp some)]

end CssSelectors.Text

-- The notation of terms. A text is a term just if it is the way in which that term is written, but for blanks
-- around it.
namespace CssSelectors.Term

variable {cs : List Char} {text : String} {term : Term} {terms : List Term}

theorem toList_display_char (c : Char) : (char c).display.toList = ['\'', c, '\''] := String.toList_ofList

theorem ofChars?_display (term : Term) : ofChars? term.display.toList = some term := by
  cases term with
  | char c =>
      rw [toList_display_char]
      rfl
  | symbol name => cases name <;> decide
  | production name => cases name <;> decide

theorem ofChars?_eq_some_iff : ofChars? cs = some term ↔ cs = term.display.toList := by
  constructor
  · intro read
    unfold ofChars? at read
    split at read
    · cases read
    · split at read
      · cases Option.some.inj read
        exact (toList_display_char _).symm
      · cases read
    · dsimp only at read
      split at read
      · obtain ⟨name, found, rfl⟩ := Option.map_eq_some_iff.mp read
        rw [display, Symbol.ofName?_eq_some_iff.mp found, String.toList_ofList]
      · obtain ⟨name, found, rfl⟩ := Option.map_eq_some_iff.mp read
        rw [display, Production.ofName?_eq_some_iff.mp found, String.toList_ofList]
  · rintro rfl
    exact ofChars?_display term

theorem parse_eq_ok_iff : parse text = .ok term ↔ Text.trim text.toList = term.display.toList := by
  rw [← ofChars?_eq_some_iff, parse]
  cases ofChars? (Text.trim text.toList) with
  | none => exact ⟨nofun, nofun⟩
  | some other => simp

-- What is no term is reported as it is.
theorem parse_eq_error_iff {invalid : InvalidTerm} :
    parse text = .error invalid ↔ (∀ term, parse text ≠ .ok term) ∧ invalid = ⟨text⟩ := by
  unfold parse
  cases ofChars? (Text.trim text.toList) with
  | none => simp [eq_comm]
  | some other => simp

theorem display_injective : Function.Injective display := by
  intro one other same
  have read := ofChars?_display other
  rw [← same, ofChars?_display] at read
  exact Option.some.inj read

theorem display_solid (solid : ∀ c, term = .char c → Text.isBlank c = false) :
    ∀ c ∈ term.display.toList, Text.isBlank c = false := by
  cases term with
  | char c =>
      have quote : Text.isBlank '\'' = false := by decide
      simp [toList_display_char, quote, solid c rfl]
  | symbol name =>
      have every : (Symbol.all.all fun name => name.name.toList.all fun c => !Text.isBlank c) = true := by
        decide +kernel
      simpa [display] using List.all_eq_true.mp every name (Symbol.mem_all name)
  | production name =>
      have every : (Production.all.all fun name => name.name.toList.all fun c => !Text.isBlank c) = true := by
        decide +kernel
      simpa [display] using List.all_eq_true.mp every name (Production.mem_all name)

-- Blanks can only be in the middle of a term, between the quotes.
theorem trim_display (term : Term) : Text.trim term.display.toList = term.display.toList := by
  cases term with
  | char c =>
      have quote : Text.isBlank '\'' = false := by decide
      simp [toList_display_char, Text.trim, quote]
  | symbol name => exact Text.trim_solid (display_solid nofun)
  | production name => exact Text.trim_solid (display_solid nofun)

theorem parse_display (term : Term) : parse term.display = .ok term := parse_eq_ok_iff.mpr (trim_display term)

theorem words_display (solid : ∀ c, term = .char c → Text.isBlank c = false) :
    Text.words term.display.toList = [term.display.toList] := by
  refine Text.words_solid ?_ (display_solid solid)
  intro empty
  have read := ofChars?_display term
  rw [empty] at read
  cases read

end CssSelectors.Term
