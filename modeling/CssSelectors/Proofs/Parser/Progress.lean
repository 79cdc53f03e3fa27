import CssSelectors.Proofs.Cursor.Visiting
import CssSelectors.Proofs.Parser.Backtracking
import CssSelectors.Proofs.Parser.Reading
import CssSelectors.Validator

-- Reading comes to an end on any text that its tokenizer ends where its bytes do, whatever is reported
-- before: what matches has brought the end nearer.
namespace CssSelectors

namespace Cursor

-- A position in a text that ends, for a reader, where its bytes do.
structure Ending (cursor : Cursor) : Prop where
  within : cursor.offset ≤ cursor.size
  ends : cursor.reported cursor.size = .endOfText

variable {cursor before after : Cursor} {tokenizer : Tokenizer}

theorem Grows.ending (grows : before.Grows after) (ending : before.Ending) : after.Ending := by
  refine ⟨grows.within ending.within, ?_⟩
  rw [grows.size, grows.reported]
  exact ending.ends

theorem Ending.ignoringComments (ending : cursor.Ending) (ignore : Bool) :
    (cursor.ignoringComments ignore).Ending := ⟨ending.within, ending.ends⟩

theorem Sound.ending (sound : cursor.Sound tokenizer)
    (ends : tokenizer cursor.source cursor.source.utf8ByteSize = .endOfText) : cursor.Ending := by
  refine ⟨sound.within, ?_⟩
  rw [sound.reported, size, ends]

theorem current_onward (cursor : Cursor) : cursor.offset ≤ cursor.current.2.offset := by
  obtain ⟨token, after, read, _, _, comments⟩ := cursor.current_spec
  rw [read]
  exact comments.le

theorem current_reported (cursor : Cursor) :
    cursor.current.2.reported cursor.current.2.offset = cursor.current.1 := by
  obtain ⟨token, after, read, stands, grows, _⟩ := cursor.current_spec
  rw [read, grows.reported]
  exact stands.symm

theorem current_ending (ending : cursor.Ending) : cursor.current.2.Ending := by
  obtain ⟨token, after, read, _, grows, _⟩ := cursor.current_spec
  rw [read]
  exact grows.ending ending

-- A step stays at the end, fails at a token that covers nothing, or goes past the token that is read.
theorem Ending.next_cases (ending : cursor.Ending) :
    (cursor.next.1 = .ok () ∧ cursor.next.2 = cursor.current.2 ∧ cursor.current.1 = .endOfText) ∨
      (∃ failure, cursor.next = (.error failure, cursor.current.2)) ∨
        (cursor.next.1 = .ok () ∧ cursor.current.2.offset < cursor.next.2.offset) := by
  have stands := cursor.current_reported
  obtain ⟨within, ends⟩ := current_ending ending
  unfold next
  dsimp only
  split
  · rename_i last
    exact .inl ⟨rfl, rfl, last⟩
  · rename_i running
    split
    · exact .inr (.inl ⟨_, rfl⟩)
    · rename_i solid
      have before : cursor.current.2.offset ≠ cursor.current.2.size := by
        intro same
        rw [same, ends] at stands
        exact running stands.symm
      refine .inr (.inr ⟨rfl, ?_⟩)
      rw [offset_moveTo, after]
      omega

theorem Ending.next_onward (ending : cursor.Ending) : cursor.offset ≤ cursor.next.2.offset := by
  have near := cursor.current_onward
  rcases ending.next_cases with ⟨_, stays, _⟩ | ⟨failure, failed⟩ | ⟨_, further⟩
  · rwa [stays]
  · rwa [failed]
  · exact Nat.le_trans near (Nat.le_of_lt further)

-- Where a token stands a step goes on, past the comments before the next one if not past that one.
theorem Ending.next_further (ending : cursor.Ending) (running : cursor.reported cursor.offset ≠ .endOfText)
    (moved : cursor.next.1 = .ok ()) : cursor.offset < cursor.next.2.offset := by
  have near := cursor.current_onward
  rcases ending.next_cases with ⟨_, stays, last⟩ | ⟨failure, failed⟩ | ⟨_, further⟩
  · have apart : cursor.offset ≠ cursor.current.2.offset := by
      intro same
      obtain ⟨token, after, read, stands, grows, _⟩ := cursor.current_spec
      rw [read] at last same
      rw [same, ← stands] at running
      exact running last
    rw [stays]
    omega
  · rw [failed] at moved
    cases moved
  · exact Nat.lt_of_le_of_lt near further

theorem remaining_lt (grows : before.Grows after) (ending : before.Ending)
    (further : before.offset < after.offset) : after.remaining < before.remaining := by
  have within := grows.within ending.within
  have size := grows.size
  unfold remaining
  omega

end Cursor

namespace Parser

-- A result that is one: no repetition has gone on for ever.
def Finished {α : Type} (result : Except SelectorError α) : Prop :=
  ∀ offset, result ≠ .error (.endless offset)

-- What a step of recognition has come to: it went on from where it was, further than that if it has matched
-- something that takes something, and not for ever.
structure Onward (consuming : Bool) (before : Parser) (ran : Outcome × Parser) : Prop where
  onward : before.cursor.offset ≤ ran.2.cursor.offset
  further : consuming = true → ran.1 = .ok true → before.cursor.offset < ran.2.cursor.offset
  ends : Finished ran.1

def Progressing (consuming : Bool) (recognizer : Recognizer) : Prop :=
  ∀ parser : Parser, parser.cursor.Ending → Onward consuming parser (recognizer parser)

variable {parser before middle after : Parser} {recognizer head tail : Recognizer}
  {consuming first second : Bool} {ran : Outcome × Parser}

theorem Keeping.ending (keeping : Keeping recognizer) (ending : parser.cursor.Ending) :
    (recognizer parser).2.cursor.Ending := (keeping parser).cursor.ending ending

theorem Onward.behind (early : before.cursor.offset ≤ middle.cursor.offset)
    (late : Onward consuming middle ran) : Onward consuming before ran :=
  ⟨Nat.le_trans early late.onward,
    fun sure matched => Nat.lt_of_le_of_lt early (late.further sure matched), late.ends⟩

theorem Onward.both (one : Onward first before (.ok true, middle)) (two : Onward second middle ran) :
    Onward (first || second) before ran := by
  refine ⟨Nat.le_trans one.onward two.onward, fun sure matched => ?_, two.ends⟩
  rcases Bool.or_eq_true_iff.mp sure with early | late
  · exact Nat.lt_of_lt_of_le (one.further early rfl) two.onward
  · exact Nat.lt_of_le_of_lt one.onward (two.further late matched)

theorem Onward.unmatched (onward : Onward consuming before ran) (missed : ran.1 ≠ .ok true) :
    Onward first before ran :=
  ⟨onward.onward, fun _ matched => absurd matched missed, onward.ends⟩

theorem Onward.anyway (onward : Onward consuming before ran) : Onward false before ran :=
  ⟨onward.onward, nofun, onward.ends⟩

theorem finished_ok {α : Type} (answer : α) : Finished (.ok answer) := fun _ => nofun

theorem onward_decided (near : before.cursor.offset ≤ after.cursor.offset) (matched : Bool) :
    Onward false before (.ok matched, after) := ⟨near, nofun, finished_ok matched⟩

theorem onward_missed (near : before.cursor.offset ≤ after.cursor.offset) :
    Onward consuming before (.ok false, after) := ⟨near, fun _ => nofun, finished_ok false⟩

theorem onward_failed {failure : SelectorError} (near : before.cursor.offset ≤ after.cursor.offset)
    (ends : Finished (.error failure : Outcome)) : Onward consuming before (.error failure, after) :=
  ⟨near, fun _ => nofun, ends⟩

theorem finished_malformed {α : Type} (token : MalformedToken) :
    Finished (.error (.malformed token) : Except SelectorError α) := fun _ => nofun

theorem onward_consume (ending : parser.cursor.Ending)
    (running : parser.cursor.reported parser.cursor.offset ≠ .endOfText) :
    Onward true parser (consume parser) := by
  have onward := ending.next_onward
  have further := ending.next_further running
  unfold consume
  split
  · rename_i moved came
    rw [came] at onward further
    exact ⟨onward, fun _ _ => further rfl, finished_ok true⟩
  · rename_i failure stopped came
    rw [came] at onward
    exact onward_failed onward (finished_malformed failure)

-- The token that is read is passed if it is not the end.
theorem onward_token (ending : parser.cursor.Ending) (running : parser.cursor.current.1 ≠ .endOfText) :
    Onward true parser (consume (parser.withCursor parser.cursor.current.2)) := by
  have stands := parser.cursor.current_reported
  have there : (parser.withCursor parser.cursor.current.2).cursor.Ending := Cursor.current_ending ending
  exact .behind parser.cursor.current_onward (onward_consume there (stands ▸ running))

theorem progressing_acceptToken (term : Term) : Progressing true (acceptToken term) := by
  intro parser ending
  obtain ⟨token, after, read, _, grows, _⟩ := parser.cursor.current_spec
  have onward := onward_token ending
  unfold acceptToken
  dsimp only
  split
  · rename_i fits
    apply onward
    intro last
    rw [last] at fits
    cases term <;> cases fits
  · apply onward_missed
    rw [read]
    exact Nat.le_of_eq (offset_seek_back ending.within grows).symm

theorem progressing_acceptSpace : Progressing true acceptSpace := by
  intro parser ending
  have onward := onward_token ending
  unfold acceptSpace
  dsimp only
  split
  · rename_i space
    apply onward
    intro last
    rw [last] at space
    cases space
  · exact onward_missed parser.cursor.current_onward

theorem progressing_moreText : Progressing false moreText :=
  fun parser _ => onward_decided parser.cursor.current_onward _

theorem progressing_pass : Progressing false pass := fun _ _ => onward_decided (Nat.le_refl _) true

-- A round of a repetition of which one step or the other takes something brings the end nearer.
theorem Progressing.round {next : Parser} (headed : Progressing first head) (heading : Keeping head)
    (tailed : Progressing second tail) (tailing : Keeping tail) (solid : (first || second) = true)
    (ending : parser.cursor.Ending) (ran : head parser = (.ok true, middle)) (came : tail middle = (.ok true, next)) :
    parser.cursor.offset < next.cursor.offset ∧ next.remaining < parser.remaining ∧ next.cursor.Ending := by
  have one := headed parser ending
  have there := heading.ending ending
  have kept := (heading parser).cursor
  rw [ran] at one there kept
  have two := tailed middle there
  have onward := (tailing middle).cursor
  rw [came] at two onward
  have further := (one.both two).further solid rfl
  exact ⟨further, Cursor.remaining_lt (kept.trans onward) ending further, onward.ending there⟩

theorem Progressing.repeatWhile (headed : Progressing first head) (heading : Keeping head)
    (tailed : Progressing second tail) (tailing : Keeping tail) (solid : (first || second) = true) :
    Progressing false (Parser.repeatWhile head tail) := by
  intro parser ending
  induction size : parser.remaining using Nat.strongRecOn generalizing parser with
  | _ left ih =>
      have one := headed parser ending
      have there := heading.ending ending
      rw [Parser.repeatWhile]
      split
      · rename_i middle matched
        rw [matched] at one there
        have two := tailed middle there
        split
        · rename_i next came
          obtain ⟨further, nearer, beyond⟩ := headed.round heading tailed tailing solid ending matched came
          rw [if_pos nearer]
          exact .behind (Nat.le_of_lt further) (ih _ (size ▸ nearer) next beyond rfl)
        · rename_i unmatched
          exact (one.both two).unmatched fun again => unmatched _ (Prod.ext again rfl)
      · rename_i ended missed
        rw [missed] at one
        exact onward_decided one.onward true
      · rename_i unmatched _
        exact one.unmatched fun again => unmatched _ (Prod.ext again rfl)

theorem Progressing.attempt (production : Production) (progressing : Progressing consuming recognizer) :
    Progressing consuming (Parser.attempt production recognizer) := by
  intro parser ending
  unfold Parser.attempt
  split
  · exact progressing parser ending
  · have ran := progressing { parser with trace := some [] } ending
    exact ⟨ran.onward, ran.further, ran.ends⟩

theorem Progressing.acceptProduction (production : Production) (progressing : Progressing consuming recognizer)
    (keeping : Keeping recognizer) :
    Progressing consuming (Parser.acceptProduction production recognizer) := by
  intro parser ending
  have ran := progressing.attempt production { parser with depth := parser.depth + 1 } ending
  have kept := (keeping.attempt production { parser with depth := parser.depth + 1 }).cursor
  unfold Parser.acceptProduction
  dsimp only
  split
  · rename_i missed
    rw [missed]
    exact onward_missed (Nat.le_of_eq (offset_seek_back ending.within kept).symm)
  · exact ⟨ran.onward, ran.further, ran.ends⟩

theorem finished_mismatch {α : Type} (context : List Term) (parser : Parser) :
    Finished (.error (parser.mismatch context).1 : Except SelectorError α) := by
  intro offset endless
  unfold mismatch at endless
  split at endless
  · cases endless
  · cases endless

theorem onward_mismatch (context : List Term) (parser : Parser) :
    Onward consuming parser (.error (parser.mismatch context).1, (parser.mismatch context).2) :=
  onward_failed (parser.mismatch_spec context).2.le (parser.finished_mismatch context)

variable {left right phrase : Phrase}

theorem Progressing.either (one : Progressing first left.run) (two : Progressing second right.run) :
    Progressing (first && second) (Phrase.either left right).run := by
  intro parser ending
  have tried := one parser ending
  have there := left.keeping_run.ending ending
  simp only [Phrase.run]
  split
  · rename_i missed ran
    rw [ran] at tried there
    have again := two missed there
    refine .behind tried.onward ⟨again.onward, fun sure => ?_, again.ends⟩
    exact again.further (Bool.and_eq_true_iff.mp sure).2
  · refine ⟨tried.onward, fun sure => ?_, tried.ends⟩
    exact tried.further (Bool.and_eq_true_iff.mp sure).1

theorem Progressing.both (one : Progressing first left.run) (two : Progressing second right.run) :
    Progressing (first || second) (Phrase.both left right).run := by
  intro parser ending
  have tried := one parser ending
  have there := left.keeping_run.ending ending
  simp only [Phrase.run]
  split
  · rename_i matched ran
    rw [ran] at tried there
    exact tried.both (two matched there)
  · rename_i unmatched
    exact tried.unmatched fun matched => unmatched _ (Prod.ext matched rfl)

theorem Progressing.optional (progressing : Progressing consuming phrase.run) :
    Progressing false (Phrase.optional phrase).run := by
  intro parser ending
  have tried := progressing parser ending
  simp only [Phrase.run]
  split
  · rename_i ran
    rw [ran] at tried
    exact onward_decided tried.onward true
  · exact tried.anyway

theorem Progressing.absent (progressing : Progressing consuming phrase.run) :
    Progressing false (Phrase.absent phrase).run := by
  intro parser ending
  have tried := progressing parser ending
  simp only [Phrase.run]
  split
  · rename_i ran
    rw [ran] at tried
    exact onward_decided tried.onward _
  · exact tried.anyway

theorem Progressing.required (progressing : Progressing consuming phrase.run) :
    Progressing consuming (Phrase.required phrase).run := by
  intro parser ending
  have tried := progressing parser ending
  simp only [Phrase.run]
  split
  · rename_i missed ran
    rw [ran] at tried
    split
    · exact .behind tried.onward (missed.onward_mismatch phrase.terms)
    · exact onward_missed tried.onward
  · exact ⟨tried.onward, tried.further, tried.ends⟩

end Parser

-- A productive phrase makes progress, and a match of one that takes something has taken something.
theorem Phrase.progressing_run {phrase : Phrase} (productive : phrase.productive = true) :
    Parser.Progressing phrase.consumes phrase.run := by
  induction phrase with
  | char c => exact Parser.progressing_acceptToken _
  | symbol name => exact Parser.progressing_acceptToken _
  | production name body ih => exact (ih productive).acceptProduction name body.keeping_run
  | spaces =>
      exact Parser.progressing_acceptSpace.repeatWhile Parser.keeping_acceptSpace Parser.progressing_pass
        Parser.keeping_pass rfl
  | fail => exact fun _ _ => Parser.onward_missed (Nat.le_refl _)
  | either first second one two =>
      obtain ⟨left, right⟩ := Bool.and_eq_true_iff.mp productive
      exact (one left).either (two right)
  | both first second one two =>
      obtain ⟨left, right⟩ := Bool.and_eq_true_iff.mp productive
      exact (one left).both (two right)
  | optional phrase ih => exact (ih productive).optional
  | absent phrase ih => exact (ih productive).absent
  | many phrase ih =>
      obtain ⟨inside, solid⟩ := Bool.and_eq_true_iff.mp productive
      exact (ih inside).repeatWhile phrase.keeping_run Parser.progressing_pass Parser.keeping_pass (by
        rw [solid]
        rfl)
  | toEnd phrase ih =>
      obtain ⟨inside, solid⟩ := Bool.and_eq_true_iff.mp productive
      exact Parser.progressing_moreText.repeatWhile Parser.keeping_moreText (ih inside) phrase.keeping_run (by
        rw [solid]
        rfl)
  | required phrase ih => exact (ih productive).required

-- Every term takes something, as do all terms of a choice.
theorem Term.phrase_consumes (term : Term) :
    term.phrase.productive = true ∧ term.phrase.consumes = true := by
  cases term with
  | char c => exact ⟨rfl, rfl⟩
  | symbol name => exact ⟨rfl, rfl⟩
  | production name => cases name <;> exact ⟨by decide, by decide⟩

theorem Phrase.choice_consumes {phrases : List Phrase}
    (each : ∀ phrase ∈ phrases, phrase.productive = true ∧ phrase.consumes = true) :
    (choice phrases).productive = true ∧ (choice phrases).consumes = true := by
  induction phrases with
  | nil => exact ⟨rfl, rfl⟩
  | cons phrase phrases ih =>
      obtain ⟨⟨productive, consumes⟩, others⟩ := List.forall_mem_cons.mp each
      obtain ⟨left, right⟩ := ih others
      exact ⟨Bool.and_eq_true_iff.mpr ⟨productive, left⟩, Bool.and_eq_true_iff.mpr ⟨consumes, right⟩⟩

theorem Phrase.progressing_required {phrase : Phrase}
    (sure : phrase.productive = true ∧ phrase.consumes = true) :
    Parser.Progressing true (required phrase).run := by
  obtain ⟨productive, consumes⟩ := sure
  have inside : (required phrase).productive = true := productive
  exact consumes ▸ Phrase.progressing_run inside

namespace Parser

variable {parser : Parser} {recognizer : Recognizer} {tokenizer : Tokenizer}

theorem choice_consumes (terms : List Term) :
    (Phrase.choice (terms.map Term.phrase)).productive = true ∧
      (Phrase.choice (terms.map Term.phrase)).consumes = true := by
  apply Phrase.choice_consumes
  intro phrase present
  obtain ⟨term, _, rfl⟩ := List.mem_map.mp present
  exact term.phrase_consumes

theorem Accepting.progressing (accepting : Accepting recognizer) : Progressing true recognizer := by
  cases accepting with
  | term term => exact term.phrase_consumes.2 ▸ Phrase.progressing_run term.phrase_consumes.1
  | choice terms => exact (choice_consumes terms).2 ▸ Phrase.progressing_run (choice_consumes terms).1

theorem Expecting.progressing (expecting : Expecting recognizer) : Progressing true recognizer := by
  cases expecting with
  | term term => exact Phrase.progressing_required term.phrase_consumes
  | choice terms => exact Phrase.progressing_required (choice_consumes terms)

theorem finished_parseSelectorsGroup (parser : Parser) (ending : parser.cursor.Ending) :
    Finished parser.parseSelectorsGroup.1 := by
  have productive : Phrase.selectorsGroupBody.productive = true := by decide
  have tried := (Phrase.progressing_run productive).attempt .selectorsGroup
    (parser.withCursor (parser.cursor.ignoringComments true)) (ending.ignoringComments true)
  unfold parseSelectorsGroup
  dsimp only
  split
  · exact finished_ok ()
  · exact finished_mismatch _ _
  · rename_i failure failed
    intro offset endless
    cases endless
    exact tried.ends offset failed

-- Whatever the tokenizer reports before the end, every recognition and every walk comes to a result wherever
-- it starts, what matches has gone on, and so has a step that has not failed and is not at the end.
theorem recognition_ends (tokenizer : Tokenizer) :
    (∀ operations, (Operation.reached operations (on (Cursor.on tokenizer))).cursor.Sound tokenizer) ∧
    (∀ parser : Parser, parser.cursor.Sound tokenizer →
      tokenizer parser.cursor.source parser.cursor.source.utf8ByteSize = .endOfText →
      (∀ recognizer, Accepting recognizer ∨ Expecting recognizer → Finished (recognizer parser).1 ∧
        ((recognizer parser).1 = .ok true →
          parser.cursor.offset < (recognizer parser).2.cursor.offset)) ∧
      Finished parser.parseSelectorsGroup.1 ∧
      (∃ items ended, parser.cursor.tokens.drain? = some (items, ended)) ∧
      (parser.cursor.offset < parser.cursor.next.2.offset ∨
        (∃ failure, parser.cursor.next.1 = .error failure) ∨ parser.cursor.current.1 = .endOfText)) ∧
    ∀ (validator : Validator) (text : String), validator.cursor.tokenizer = tokenizer →
      tokenizer text text.utf8ByteSize = .endOfText →
      Finished (validator.parse text).1 ∧ Finished (validator.parseTraced text).1 := by
  refine ⟨fun operations => Operation.sound_reached operations (Cursor.sound_on tokenizer), ?parser,
    ?validator⟩
  case parser =>
    intro parser sound ends
    have ending := sound.ending ends
    have within : parser.cursor.offset ≤ parser.cursor.source.utf8ByteSize := sound.within
    obtain ⟨tokens, close, visits⟩ := exists_visits ends parser.cursor.ignoreComments within
    obtain ⟨ended, drained, _⟩ := sound.walks.drain? ends visits
    refine ⟨?_, finished_parseSelectorsGroup parser ending, ⟨_, ended, drained⟩, ?_⟩
    · intro recognizer kind
      have ran := kind.elim Accepting.progressing Expecting.progressing parser ending
      exact ⟨ran.ends, ran.further rfl⟩
    · rcases ending.next_cases with ⟨_, _, last⟩ | ⟨failure, failed⟩ | ⟨_, further⟩
      · exact .inr (.inr last)
      · exact .inr (.inl ⟨failure, congrArg Prod.fst failed⟩)
      · exact .inl (Nat.lt_of_le_of_lt parser.cursor.current_onward further)
  case validator =>
    intro validator text asks ends
    have sound : (validator.cursor.load text).Sound tokenizer := ⟨asks, Nat.zero_le _, nofun⟩
    have ending := sound.ending ends
    exact ⟨finished_parseSelectorsGroup (on (validator.cursor.load text)) ending,
      finished_parseSelectorsGroup ((on (validator.cursor.load text)).tracing true) ending⟩

-- A comment in front, a name longer than the text, a token that covers nothing, and only then the end.
def unruly : Tokenizer := fun text offset =>
  if offset = 0 then .symbol .comment "x"
  else if offset = 1 then .symbol .ident "longer than it should be"
  else if offset < text.utf8ByteSize then .symbol .space ""
  else .endOfText

def unrulyParser (offset : Nat) : Parser :=
  on (((Cursor.on unruly).load "abc").seek offset)

theorem recognition_ends_unruly :
    (∀ offset, (unrulyParser offset).cursor.Sound unruly) ∧
    unruly "abc" "abc".utf8ByteSize = .endOfText ∧
    (accept (.symbol .ident) (unrulyParser 0)).1 = .ok true ∧
    0 < (accept (.symbol .ident) (unrulyParser 0)).2.cursor.offset ∧
    (unrulyParser 2).cursor.next.1 = .error ⟨.symbol .space "", 2⟩ ∧
    (∃ items ended, (unrulyParser 2).cursor.tokens.drain? = some (items, ended)) ∧
    Finished ((Validator.on unruly).parse "abc").1 := by
  have sound (offset : Nat) : (unrulyParser offset).cursor.Sound unruly :=
    ((Cursor.sound_on unruly).load "abc").seek offset
  have ends : unruly "abc" "abc".utf8ByteSize = .endOfText := by decide +kernel
  have accepted : (accept (.symbol .ident) (unrulyParser 0)).1 = .ok true := by decide +kernel
  have stopped : (unrulyParser 2).cursor.next.1 = .error ⟨.symbol .space "", 2⟩ := by decide +kernel
  obtain ⟨_, ended, judged⟩ := recognition_ends unruly
  obtain ⟨kinds, _⟩ := ended _ (sound 0) ends
  obtain ⟨_, _, drained, _⟩ := ended _ (sound 2) ends
  exact ⟨sound, ends, accepted, (kinds _ (.inl (.term (.symbol .ident)))).2 accepted, stopped, drained,
    (judged (.on unruly) "abc" rfl ends).1⟩

end Parser

end CssSelectors
