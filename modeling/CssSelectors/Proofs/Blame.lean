import CssSelectors.Cli.Run
import CssSelectors.Proofs.Forgetting
import CssSelectors.Proofs.Parser.Frontier
import CssSelectors.Proofs.Parser.Stopping
import CssSelectors.Proofs.Validation

-- An error speaks of the farthest of all misses there were, in whatever call of the parser each of them was.
namespace CssSelectors

variable {parser after : Parser} {tokenizer : Tokenizer} {context expected terms : List Term} {found : Token}
  {offset : Nat} {phrase : Phrase} {failure : SelectorError}

-- Two readers that differ in what they remember are at the same token.
theorem Cursor.Sound.current_same {cursor other : Cursor} (one : cursor.Sound tokenizer)
    (two : other.Sound tokenizer) (same : other.plain = cursor.plain) :
    other.current.1 = cursor.current.1 ∧ other.current.2.offset = cursor.current.2.offset := by
  obtain ⟨_, read, there, _⟩ := one.current
  obtain ⟨_, also, beside, _⟩ := two.current
  rw [same] at also beside
  rw [read, also]
  exact ⟨rfl, (congrArg PlainCursor.offset beside).trans (congrArg PlainCursor.offset there).symm⟩

namespace Phrase

theorem terms_choice (terms : List Term) : (choice (terms.map Term.phrase)).terms = terms := by
  induction terms with
  | nil => rfl
  | cons term terms ih =>
      show term.phrase.terms ++ (choice (terms.map Term.phrase)).terms = term :: terms
      rw [term.terms_phrase, ih]
      rfl

-- What misses without a note is no term for a token.
theorem term_unnoted {term : Term} (missed : (term.phrase.run parser).1 = .ok false)
    (unnoted : (term.phrase.run parser).2.misses = []) (token : Token) : term.fits token = false := by
  cases term with
  | char c => exact absurd unnoted (run_noted rfl missed)
  | symbol name => exact absurd unnoted (run_noted rfl missed)
  | production name => rfl

theorem either_missed {first second : Phrase} (missed : ((either first second).run parser).1 = .ok false) :
    ∃ middle, first.run parser = (.ok false, middle) ∧
      (either first second).run parser = second.run middle := by
  simp only [run] at missed ⊢
  split at missed
  · rename_i middle tried
    exact ⟨middle, tried, rfl⟩
  · rename_i unmissed
    exact (unmissed _ (Prod.ext missed rfl)).elim

theorem choice_unnoted (missed : ((choice (terms.map Term.phrase)).run parser).1 = .ok false)
    (unnoted : ((choice (terms.map Term.phrase)).run parser).2.misses = []) :
    ∀ term ∈ terms, ∀ token, term.fits token = false := by
  induction terms generalizing parser with
  | nil => exact nofun
  | cons term terms ih =>
      obtain ⟨middle, tried, others⟩ := either_missed missed
      have same : (choice ((term :: terms).map Term.phrase)).run parser =
          (choice (terms.map Term.phrase)).run middle := others
      rw [same] at missed unnoted
      have kept := ((choice (terms.map Term.phrase)).keeping_run middle).misses
      rw [unnoted] at kept
      have earlier : middle.misses = [] := List.suffix_nil.mp kept
      have first : ∀ token, term.fits token = false := by
        apply term_unnoted
        · rw [tried]
        · rw [tried, earlier]
      exact List.forall_mem_cons.mpr ⟨first, ih missed unnoted⟩

end Phrase

namespace Call

variable {calls : List Call} {frontier : Frontier} {text : String}

-- What was asked for at an offset, each once, as it came first.
def triedAt (misses : List Call) (offset : Nat) : List Term :=
  ((misses.filter (·.offset == offset)).map term).eraseDups

theorem mem_triedAt {misses : List Call} {term : Term} :
    term ∈ triedAt misses offset ↔ ∃ miss ∈ misses, miss.offset = offset ∧ miss.term = term := by
  simp [triedAt, List.mem_eraseDups, and_assoc]

theorem tried_noted (calls : List Call) (offset : Nat) :
    Frontier.tried (noted calls) offset = triedAt (calls.filter missed) offset := by
  simp [Frontier.tried, noted, triedAt, List.filter_map, Function.comp_def, miss]

-- The frontier of a log is what can be said of the misses among the calls.
theorem farthest (folded : Frontier.ofMisses? (noted calls) = some frontier)
    (faced : ∀ call ∈ calls.filter missed, call.found = tokenizer text call.offset) :
    (∀ miss ∈ calls.filter missed, miss.offset ≤ frontier.offset) ∧
      (∃ miss ∈ calls.filter missed, miss.offset = frontier.offset) ∧
      frontier.expected = triedAt (calls.filter missed) frontier.offset ∧
      frontier.found = tokenizer text frontier.offset ∧
      ∀ term ∈ frontier.expected, term.fits frontier.found = false := by
  obtain ⟨greatest, ⟨miss, noted, there, stood⟩, expected⟩ := Frontier.ofMisses?_spec folded
  obtain ⟨call, among, rfl⟩ := mem_noted.mp noted
  have here : call.offset = frontier.offset := there
  have found : frontier.found = tokenizer text frontier.offset := by
    rw [← stood, ← here]
    exact faced call among
  refine ⟨fun call among => greatest _ (mem_noted.mpr ⟨call, among, rfl⟩), ⟨call, among, here⟩,
    expected.trans (tried_noted _ _), found, ?_⟩
  intro term named
  rw [expected, Frontier.mem_tried] at named
  obtain ⟨_, noted, place, rfl⟩ := named
  obtain ⟨other, beside, rfl⟩ := mem_noted.mp noted
  have place : other.offset = frontier.offset := place
  have unfit := missed_iff.mp (List.mem_filter.mp beside).2
  rwa [faced other beside, place, ← found] at unfit

end Call

-- How an error comes up. It speaks of the frontier, or, where nothing was noted, of the current token and of
-- productions alone.
structure Surfaces (before after : Parser) (context expected : List Term) (found : Token) (offset : Nat) :
    Prop where
  noted : after.misses ≠ [] → Frontier.ofMisses? after.misses = some ⟨offset, expected, found⟩
  unnoted : after.misses = [] → expected = context ∧ found = before.cursor.current.1 ∧
    offset = before.cursor.current.2.offset ∧ ∀ term ∈ expected, ∀ token, term.fits token = false

theorem Phrase.Tentative.surfaces (tentative : phrase.Tentative) (sound : parser.cursor.Sound tokenizer)
    (unnoted : (phrase.run parser).1 = .ok false → (phrase.run parser).2.misses = [] →
      ∀ term ∈ phrase.terms, ∀ token, term.fits token = false)
    (ran : (Phrase.required phrase).run parser = (.error (.mismatch context expected found offset), after)) :
    Surfaces parser after context expected found offset := by
  obtain ⟨rfl, missed, tried, told⟩ := tentative.fails ran
  have back := tentative.restores parser sound.within (congrArg Prod.fst tried)
  have kept := (phrase.keeping_run parser).cursor
  rw [tried] at back kept unnoted
  by_cases empty : missed.misses = []
  · rw [Parser.mismatch_unnoted empty] at told
    obtain ⟨error, rfl⟩ := Prod.mk.inj told
    cases error
    obtain ⟨answer, ended, also, _, reading⟩ := phrase.reflects_run tokenizer parser sound
    obtain ⟨_, rfl⟩ := Prod.mk.inj (tried.symm.trans also)
    have same : missed.cursor.plain = parser.cursor.plain := by
      rw [Cursor.plain, Cursor.plain, kept.tokenizer, kept.source, kept.ignoreComments, back]
    obtain ⟨token, place⟩ := sound.current_same reading same
    exact ⟨fun noted => absurd empty noted, fun _ => ⟨rfl, token, place, unnoted rfl empty⟩⟩
  · obtain ⟨frontier, farthest, same⟩ := Parser.mismatch_noted empty phrase.terms
    obtain ⟨error, rfl⟩ := Prod.mk.inj (same.symm.trans told)
    cases error
    exact ⟨fun _ => farthest, fun none => absurd none empty⟩

-- A group that is rejected has missed something.
theorem Parser.frontier_parseSelectorsGroup (sound : parser.cursor.Sound tokenizer)
    (outside : parser.depth = 0)
    (failed : parser.parseSelectorsGroup.1 = .error (.mismatch context expected found offset)) :
    Frontier.ofMisses? parser.parseSelectorsGroup.2.misses = some ⟨offset, expected, found⟩ := by
  rw [parseSelectorsGroup_decided outside] at failed ⊢
  have outcome := attempt_outcome .selectorsGroup Phrase.selectorsGroupBody.run parser.commentless
  have misses := attempt_misses .selectorsGroup Phrase.selectorsGroupBody.run parser.commentless
  have ran : (Phrase.selectorsGroupBody.run parser.commentless.clearTrace).1 =
      .error (.mismatch context expected found offset) := by
    rw [← outcome]
    unfold groupAttempt at failed
    cases result : (attempt .selectorsGroup Phrase.selectorsGroupBody.run parser.commentless).1 with
    | ok => simp [result, Except.map] at failed
    | error failure => simpa [result, Except.map] using failed
  have whole : Phrase.selectorsGroupBody.run parser.commentless.clearTrace =
      (.error (.mismatch context expected found offset), _) := Prod.ext ran rfl
  have within : parser.commentless.clearTrace.cursor.offset ≤ parser.commentless.clearTrace.cursor.size :=
    sound.within
  have farthest := (Phrase.selectorsGroupBody_givesUp rfl within whole).farthest
  rw [← misses] at farthest
  exact farthest

theorem Parser.surfaces_parseSelectorsGroup (sound : parser.cursor.Sound tokenizer)
    (outside : parser.depth = 0)
    (failed : parser.parseSelectorsGroup.1 = .error (.mismatch context expected found offset)) :
    Surfaces parser parser.parseSelectorsGroup.2 context expected found offset := by
  have farthest := Parser.frontier_parseSelectorsGroup sound outside failed
  refine ⟨fun _ => farthest, fun none => ?_⟩
  rw [none] at farthest
  cases farthest

-- The error that an operation answers with.
def Answer.failure? : Answer → Option SelectorError
  | .recognized (.error failure) => some failure
  | .judged (.error failure) => some failure
  | _ => none

namespace Operation

theorem failure_recognizing {recognizer : Recognizer}
    (failed : (recognizing recognizer parser).1.failure? = some failure) :
    (recognizer parser).1 = .error failure := by
  simp only [recognizing] at failed
  cases outcome : (recognizer parser).1 with
  | error other =>
      rw [outcome] at failed
      rw [Option.some.inj failed]
  | ok => rw [outcome] at failed; cases failed

theorem surfaces_run {operation : Operation} (sound : parser.cursor.Sound tokenizer)
    (outside : parser.depth = 0)
    (failed : (operation.run parser).1.failure? = some (.mismatch context expected found offset)) :
    operation.continues = true ∧ Surfaces parser (operation.run parser).2 context expected found offset := by
  cases operation with
  | accept term =>
      exact absurd (failure_recognizing failed) ((Phrase.tentative_term term).quiet _ _ _ _ _)
  | acceptChoice terms =>
      exact absurd (failure_recognizing failed) ((Phrase.tentative_choice terms).quiet _ _ _ _ _)
  | expect term =>
      refine ⟨rfl, (Phrase.tentative_term term).surfaces sound ?_ (Prod.ext (failure_recognizing failed) rfl)⟩
      intro missed unnoted
      rw [term.terms_phrase]
      exact List.forall_mem_singleton.mpr (Phrase.term_unnoted missed unnoted)
  | expectChoice terms =>
      refine ⟨rfl,
        (Phrase.tentative_choice terms).surfaces sound ?_ (Prod.ext (failure_recognizing failed) rfl)⟩
      rw [Phrase.terms_choice]
      exact Phrase.choice_unnoted
  | selectorsGroup =>
      refine ⟨rfl, Parser.surfaces_parseSelectorsGroup sound outside ?_⟩
      simp only [run] at failed
      cases result : parser.parseSelectorsGroup.1 with
      | error other =>
          rw [result] at failed
          rw [Option.some.inj failed]
      | ok => rw [result] at failed; cases failed
  | _ => cases failed

theorem callsAll_concat (operations : List Operation) (operation : Operation) (parser : Parser) :
    callsAll (operations ++ [operation]) parser =
      callsAll operations parser ++ operation.calls (reached operations parser) := by
  induction operations generalizing parser with
  | nil => exact List.append_nil _
  | cons first rest ih =>
      show first.calls parser ++ callsAll (rest ++ [operation]) (first.run parser).2 = _
      rw [ih, ← List.append_assoc]
      rfl

-- Where a parser begins that is made after some operations.
def begun (tokenizer : Tokenizer) (earlier : List Operation) : Parser :=
  Parser.on (reached earlier (Parser.on (Cursor.on tokenizer))).cursor

-- The calls of operations on such a parser that were in vain, the oldest first.
def missesOf (operations : List Operation) (parser : Parser) : List Call :=
  (callsAll operations parser).filter Call.missed

-- What an error says of all misses there were: where the farthest of them is, what was tried there, and what
-- the tokenizer says there. Without any miss it speaks of the current token. What it expects is never what it
-- has found.
structure Accounts (tokenizer : Tokenizer) (text : String) (misses : List Call) (before : Parser)
    (context expected : List Term) (found : Token) (offset : Nat) : Prop where
  greatest : ∀ miss ∈ misses, miss.offset ≤ offset
  farthest : misses ≠ [] → (∃ miss ∈ misses, miss.offset = offset) ∧ expected = Call.triedAt misses offset ∧
    Term.displayChoice expected = " | ".intercalate ((Call.triedAt misses offset).map Term.display) ∧
    found = tokenizer text offset
  current : misses = [] → expected = context ∧ found = before.cursor.current.1 ∧
    offset = before.cursor.current.2.offset
  unfit : ∀ term ∈ expected, term.fits found = false

theorem accounts_run {earlier operations : List Operation} {operation : Operation}
    (goes : ∀ operation ∈ operations, operation.continues = true)
    (failed : (operation.run (reached operations (begun tokenizer earlier))).1.failure? =
      some (.mismatch context expected found offset)) :
    Accounts tokenizer (begun tokenizer earlier).cursor.source
      (missesOf (operations ++ [operation]) (begun tokenizer earlier))
      (reached operations (begun tokenizer earlier)) context expected found offset := by
  have sound : (begun tokenizer earlier).cursor.Sound tokenizer :=
    sound_reached earlier (Cursor.sound_on tokenizer)
  have worked := works_reached goes ⟨sound, rfl⟩
  have outside : (reached operations (begun tokenizer earlier)).depth = 0 := reached_depth operations rfl
  obtain ⟨continues, surfaces⟩ := surfaces_run worked.holds.sound outside failed
  have working := works_run continues worked.holds
  have listed := callsAll_concat operations operation (begun tokenizer earlier)
  have log : (operation.run (reached operations (begun tokenizer earlier))).2.misses =
      Call.noted (callsAll (operations ++ [operation]) (begun tokenizer earlier)) := by
    rw [listed, Call.noted_append, working.log, worked.log]
    exact congrArg _ (List.append_nil _)
  have faced : ∀ call ∈ missesOf (operations ++ [operation]) (begun tokenizer earlier),
      call.found = tokenizer (begun tokenizer earlier).cursor.source call.offset := by
    intro call present
    have among := List.mem_of_mem_filter present
    rw [listed] at among
    exact (List.mem_append.mp among).elim (worked.faced call) (working.faced call)
  obtain ⟨noted, unnoted⟩ := surfaces
  rw [log] at noted unnoted
  by_cases none : missesOf (operations ++ [operation]) (begun tokenizer earlier) = []
  · have empty : Call.noted (callsAll (operations ++ [operation]) (begun tokenizer earlier)) = [] := by
      rw [Call.noted, ← missesOf, none]
      rfl
    obtain ⟨expects, token, place, unfit⟩ := unnoted empty
    rw [none]
    exact ⟨by simp, fun some => absurd rfl some, fun _ => ⟨expects, token, place⟩,
      fun term present => unfit term present found⟩
  · have some : Call.noted (callsAll (operations ++ [operation]) (begun tokenizer earlier)) ≠ [] := by
      rw [Call.noted, ← missesOf]
      simpa using none
    obtain ⟨greatest, reached, expects, token, unfit⟩ := Call.farthest (noted some) faced
    exact ⟨greatest, fun _ => ⟨reached, expects, congrArg Term.displayChoice expects, token⟩,
      fun empty => absurd empty none, unfit⟩

-- With any tokenizer, and whatever was done with the cursor before, an error accounts for all misses since
-- the parser was made. The program finds a combinator just where the token at an error is one.
theorem mismatch_farthest :
    (∀ (tokenizer : Tokenizer) (earlier operations : List Operation) (operation : Operation)
        (context expected : List Term) (found : Token) (offset : Nat),
      (∀ operation ∈ operations, operation.continues = true) →
      (operation.run (reached operations (begun tokenizer earlier))).1.failure? =
        some (.mismatch context expected found offset) →
      Accounts tokenizer (begun tokenizer earlier).cursor.source
        (missesOf (operations ++ [operation]) (begun tokenizer earlier))
        (reached operations (begun tokenizer earlier)) context expected found offset) ∧
    ∀ (text : String) (failure : SelectorError), validate text = .error failure →
      ∀ name, Cli.unsupportedCombinator text failure = some name ↔
        name ∈ [Symbol.space, Symbol.plus, Symbol.greater, Symbol.tilde] ∧
          ∃ lexeme, tokenAt text failure.offset = .symbol name lexeme := by
  refine ⟨fun _ _ _ _ _ _ _ _ goes failed => accounts_run goes failed, ?_⟩
  intro text failure rejected name
  obtain ⟨shapes, spells⟩ := exists_spells text
  have parsed := validate_eq spells
  rw [rejected] at parsed
  have mismatch : failure.isMismatch = true := by
    cases recognized : recognize shapes with
    | ok => rw [recognized] at parsed; cases parsed
    | error fault => rw [recognized] at parsed; cases parsed; rfl
  have combinator : ∀ name : Symbol, name.isCombinator = true ↔
      name ∈ [Symbol.space, Symbol.plus, Symbol.greater, Symbol.tilde] := by
    intro name
    cases name <;> decide
  rw [Cli.unsupportedCombinator, if_pos mismatch, Option.filter_eq_some_iff, combinator, and_comm,
    Token.symbol?_iff]

-- A call that looks beyond the combinator, which the recognition of the group does not come to again.
def lookedBeyond : List Operation :=
  [.accept (.char '*'), .seek 2, .ignoreComments false, .accept (.symbol .ident), .seek 0]

theorem mismatch_farthest_beyond :
    (∀ operation ∈ lookedBeyond, operation.continues = true) ∧
      (selectorsGroup.run (reached lookedBeyond (begun tokenAt [.load "a >b"]))).1.failure? =
        some (.mismatch [.symbol .comma] [.symbol .ident] (.symbol .greater ">") 2) ∧
      Accounts tokenAt (begun tokenAt [.load "a >b"]).cursor.source
        (missesOf (lookedBeyond ++ [selectorsGroup]) (begun tokenAt [.load "a >b"]))
        (reached lookedBeyond (begun tokenAt [.load "a >b"]))
        [.symbol .comma] [.symbol .ident] (.symbol .greater ">") 2 ∧
      validate "a >b" = .error (.mismatch [.symbol .comma]
        [.char '|', .symbol .hash, .char '.', .char '[', .char ':', .symbol .not, .symbol .comma]
        (.symbol .greater " >") 1) ∧
      Cli.unsupportedCombinator "a >b" (.mismatch [.symbol .comma]
        [.char '|', .symbol .hash, .char '.', .char '[', .char ':', .symbol .not, .symbol .comma]
        (.symbol .greater " >") 1) = some .greater := by
  have goes : ∀ operation ∈ lookedBeyond, operation.continues = true := by decide
  have failed : (selectorsGroup.run (reached lookedBeyond (begun tokenAt [.load "a >b"]))).1.failure? =
      some (.mismatch [.symbol .comma] [.symbol .ident] (.symbol .greater ">") 2) := by decide +kernel
  have rejected : validate "a >b" = .error (.mismatch [.symbol .comma]
      [.char '|', .symbol .hash, .char '.', .char '[', .char ':', .symbol .not, .symbol .comma]
      (.symbol .greater " >") 1) := by decide +kernel
  have there : tokenAt "a >b" 1 = .symbol .greater " >" := by decide +kernel
  obtain ⟨accounts, finds⟩ := mismatch_farthest
  exact ⟨goes, failed, accounts _ _ _ _ _ _ _ _ goes failed, rejected,
    (finds _ _ rejected .greater).mpr ⟨by decide, " >", there⟩⟩

end Operation

end CssSelectors
