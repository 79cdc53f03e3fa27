import CssSelectors.Proofs.Blame
import CssSelectors.Proofs.Grammar.Alternatives

-- What terms are written as is read back, also where an error names what it expects.
namespace CssSelectors

namespace Term

variable {terms : List Term} {term : Term}

theorem display_ne_bar (term : Term) : term.display ≠ "|" := by
  intro bar
  have read := ofChars?_display term
  rw [bar] at read
  cases read

theorem wordsOf_bar (front rest : String) :
    wordsOf (front ++ " | " ++ rest) = wordsOf front ++ "|" :: wordsOf rest := by
  have blank : Text.isBlank ' ' = true := by decide
  have parts : (front ++ " | " ++ rest).toList = front.toList ++ ' ' :: (['|'] ++ ' ' :: rest.toList) := by
    simp [String.toList_append]
  have bar : Text.words ['|'] = [['|']] := by decide
  rw [wordsOf, parts, Text.words_append_blank blank, Text.words_append_blank blank, bar, List.map_append]
  rfl

theorem wordsOf_displayChoice (solid : ∀ c, .char c ∈ terms → Text.isBlank c = false) :
    wordsOf (displayChoice terms) = ["|"].intercalate (terms.map fun term => [term.display]) := by
  induction terms with
  | nil => rfl
  | cons term terms ih =>
      have alone : wordsOf term.display = [term.display] := by
        rw [wordsOf, words_display fun c same => solid c (same ▸ List.mem_cons_self), List.map_singleton,
          String.ofList_toList]
      have onward := ih fun c among => solid c (List.mem_cons_of_mem _ among)
      cases terms with
      | nil => exact alone
      | cons next terms =>
          have whole : displayChoice (term :: next :: terms) =
              term.display ++ " | " ++ displayChoice (next :: terms) := String.intercalate_cons_cons
          rw [whole, wordsOf_bar, alone, onward]
          simp only [List.map_cons, List.intercalate_cons_cons, List.singleton_append]
          rfl

theorem segments_displayChoice (some : terms ≠ []) (solid : ∀ c, .char c ∈ terms → Text.isBlank c = false) :
    segments (displayChoice terms) = terms.map fun term => [term.display] := by
  rw [segments, wordsOf_displayChoice solid]
  refine List.splitOn_intercalate _ ?_ (mt List.map_eq_nil_iff.mp some)
  intro segment among bar
  obtain ⟨term, _, rfl⟩ := List.mem_map.mp among
  exact term.display_ne_bar (List.mem_singleton.mp bar).symm

theorem alternatives_displayChoice (some : terms ≠ [])
    (solid : ∀ c, .char c ∈ terms → Text.isBlank c = false) : alternatives (displayChoice terms) = .ok terms := by
  rw [alternatives_eq, segments_displayChoice some solid, mapM_ok_iff, List.forall₂_map_left_iff,
    List.forall₂_same]
  exact fun term _ => parse_display term

end Term

variable {phrase : Phrase} {parser : Parser} {head tail : Recognizer} {one two : Parser → List Call}

theorem Parser.forall_callsWhile {kind : Call → Prop} (first : ∀ parser, ∀ call ∈ one parser, kind call)
    (second : ∀ parser, ∀ call ∈ two parser, kind call) (parser : Parser) :
    ∀ call ∈ Parser.callsWhile head tail one two parser, kind call := by
  induction size : parser.remaining using Nat.strongRecOn generalizing parser with
  | _ left ih =>
      rw [Parser.callsWhile]
      refine List.forall_mem_append.mpr ⟨first parser, ?_⟩
      split
      · rename_i headed _
        refine List.forall_mem_append.mpr ⟨second headed, ?_⟩
        split
        · rename_i next _
          split
          · rename_i nearer
            exact ih _ (size ▸ nearer) next rfl
          · exact List.forall_mem_nil _
        · exact List.forall_mem_nil _
      · exact List.forall_mem_nil _

namespace Phrase

-- The terms for one token that stand in a phrase.
def tokens : Phrase → List Term
  | .char c => [.char c]
  | .symbol name => [.symbol name]
  | .spaces | .fail => []
  | .either first second | .both first second => first.tokens ++ second.tokens
  | .production _ phrase | .optional phrase | .absent phrase | .many phrase | .toEnd phrase | .required phrase =>
    phrase.tokens

theorem tokens_calls (phrase : Phrase) (parser : Parser) :
    ∀ call ∈ phrase.calls parser, call.term ∈ phrase.tokens := by
  induction phrase generalizing parser with
  | char c => exact List.forall_mem_singleton.mpr List.mem_cons_self
  | symbol name => exact List.forall_mem_singleton.mpr List.mem_cons_self
  | production name body ih => exact ih parser.entered
  | spaces | fail => exact List.forall_mem_nil _
  | either first second one two | both first second one two =>
      refine List.forall_mem_append.mpr ⟨fun call among => List.mem_append_left _ (one parser call among), ?_⟩
      split
      · exact fun call among => List.mem_append_right _ (two _ call among)
      · exact List.forall_mem_nil _
  | optional phrase ih | absent phrase ih | required phrase ih => exact ih parser
  | many phrase ih =>
      exact Parser.forall_callsWhile ih (fun _ => List.forall_mem_nil _) parser
  | toEnd phrase ih =>
      exact Parser.forall_callsWhile (fun _ => List.forall_mem_nil _) ih parser

theorem group_solid {c : Char} (asked : .char c ∈ selectorsGroupBody.tokens) : Text.isBlank c = false := by
  have every : (selectorsGroupBody.tokens.all fun term => match term with
      | .char c => !Text.isBlank c
      | _ => true) = true := by
    decide +kernel
  simpa using List.all_eq_true.mp every _ asked

end Phrase

namespace Operation

variable {tokenizer : Tokenizer} {text : String} {context expected : List Term} {found : Token} {offset : Nat}

-- An error of a group that a new parser reads expects what missed where it lies, which is something, and never
-- a blank.
theorem expected_parseSelectorsGroup (holds : parser.cursor.Holds tokenizer text) (outside : parser.depth = 0)
    (fresh : parser.misses = [])
    (failed : parser.parseSelectorsGroup.1 = .error (.mismatch context expected found offset)) :
    expected = Call.triedAt (missesOf [.selectorsGroup] parser) offset ∧ expected ≠ [] ∧
      ∀ c, .char c ∈ expected → Text.isBlank c = false := by
  have works := Parser.works_parseSelectorsGroup holds
  have farthest := Parser.frontier_parseSelectorsGroup holds.sound outside failed
  have log := works.log
  rw [fresh, List.append_nil] at log
  rw [log] at farthest
  obtain ⟨_, ⟨call, missed, there⟩, expects, _⟩ := Call.farthest farthest fun call present =>
    works.faced call (List.mem_of_mem_filter present)
  have only : missesOf [.selectorsGroup] parser = (Operation.selectorsGroup.calls parser).filter Call.missed := by
    rw [missesOf, callsAll, callsAll, List.append_nil]
  replace expects : expected = Call.triedAt (missesOf [.selectorsGroup] parser) offset := only ▸ expects
  refine ⟨expects, ?_, ?_⟩
  · rw [expects]
    exact List.ne_nil_of_mem (Call.mem_triedAt.mpr ⟨call, only ▸ missed, there, rfl⟩)
  · intro c among
    rw [expects, Call.mem_triedAt, only] at among
    obtain ⟨miss, present, _, asked⟩ := among
    exact Phrase.group_solid (asked ▸ Phrase.tokens_calls _ _ miss (List.mem_of_mem_filter present))

end Operation

namespace Term

-- Terms are read as they are written, each for itself, in any choice without blanks, and where an error
-- names those that missed.
theorem notation_read_back :
    (∀ (text : String) (term : Term), parse text = .ok term ↔ Text.trim text.toList = term.display.toList) ∧
    (∀ term : Term, parse term.display = .ok term) ∧
    (∀ one other : Term, one.display = other.display → one = other) ∧
    (∀ terms : List Term, terms ≠ [] → (∀ c, .char c ∈ terms → Text.isBlank c = false) →
      alternatives (displayChoice terms) = .ok terms) ∧
    ∀ (text : String) (context expected : List Term) (found : Token) (offset : Nat),
      validate text = .error (.mismatch context expected found offset) →
      alternatives (displayChoice expected) = .ok (Call.triedAt
        (Operation.missesOf [.selectorsGroup] (Operation.begun tokenAt [.load text])) offset) ∧
        expected.Nodup := by
  refine ⟨fun _ _ => parse_eq_ok_iff, parse_display, fun _ _ same => display_injective same,
    fun _ some solid => alternatives_displayChoice some solid, ?_⟩
  intro text context expected found offset rejected
  have sound : (Operation.begun tokenAt [.load text]).cursor.Sound tokenAt :=
    Operation.sound_reached [.load text] (Cursor.sound_on tokenAt)
  obtain ⟨missed, some, solid⟩ := Operation.expected_parseSelectorsGroup ⟨sound, rfl⟩ rfl rfl rejected
  rw [alternatives_displayChoice some solid, missed]
  exact ⟨rfl, nodup_eraseDups _⟩

-- A quote, a bar and a blank between quotes, and an error that expects seven things.
theorem notation_read_back_quoted :
    parse "'''" = .ok (.char '\'') ∧ parse "'|'" = .ok (.char '|') ∧ parse "' '" = .ok (.char ' ') ∧
      alternatives "'|' | ''' | IDENT" = .ok [.char '|', .char '\'', .symbol .ident] ∧
      validate "a >b" = .error (.mismatch [.symbol .comma]
        [.char '|', .symbol .hash, .char '.', .char '[', .char ':', .symbol .not, .symbol .comma]
        (.symbol .greater " >") 1) ∧
      alternatives "'|' | HASH | '.' | '[' | ':' | NOT | COMMA" = .ok (Call.triedAt
        (Operation.missesOf [.selectorsGroup] (Operation.begun tokenAt [.load "a >b"])) 1) := by
  have rejected : validate "a >b" = .error (.mismatch [.symbol .comma]
      [.char '|', .symbol .hash, .char '.', .char '[', .char ':', .symbol .not, .symbol .comma]
      (.symbol .greater " >") 1) := by decide +kernel
  have marks : Text.isBlank '|' = false ∧ Text.isBlank '\'' = false := by decide
  have solid : ∀ c, .char c ∈ [Term.char '|', .char '\'', .symbol .ident] → Text.isBlank c = false := by
    simpa using marks
  obtain ⟨_, own, _, choices, errors⟩ := notation_read_back
  have listed := choices _ (List.cons_ne_nil _ _) solid
  have missed := (errors _ _ _ _ _ rejected).1
  rw [show displayChoice _ = "'|' | ''' | IDENT" by decide +kernel] at listed
  rw [show displayChoice _ = "'|' | HASH | '.' | '[' | ':' | NOT | COMMA" by decide +kernel] at missed
  exact ⟨own (.char '\''), own (.char '|'), own (.char ' '), listed, rejected, missed⟩

end Term

end CssSelectors
