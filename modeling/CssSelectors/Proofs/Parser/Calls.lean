import CssSelectors.Proofs.Parser.Backtracking
import CssSelectors.Proofs.Parser.Route

-- All comparisons of tokens that a parser makes, listed apart from the log that it keeps of misses.
namespace CssSelectors

-- A token is asked for in a state of the parser.
structure Call where
  term : Term
  parser : Parser

namespace Call

-- What stands there, past comments that are ignored.
def found (call : Call) : Token := call.parser.cursor.current.1

def offset (call : Call) : Nat := call.parser.cursor.current.2.offset

-- Whether the answer is that it does not match.
def missed (call : Call) : Bool :=
  match (call.parser.acceptToken call.term).1 with
  | .ok matched => !matched
  | .error _ => false

def miss (call : Call) : Miss := ⟨call.term, call.offset, call.found⟩

-- The misses among calls, of which the oldest comes first, as a log has them.
def noted (calls : List Call) : List Miss := ((calls.filter missed).map miss).reverse

variable {one two : List Call} {call : Call}

theorem noted_nil : noted [] = [] := by simp [noted]

theorem noted_append : noted (one ++ two) = noted two ++ noted one := by
  simp only [noted, List.filter_append, List.map_append, List.reverse_append]

theorem mem_noted {miss : Miss} : miss ∈ noted one ↔ ∃ call ∈ one.filter missed, call.miss = miss := by
  rw [noted, List.mem_reverse, List.mem_map]

theorem missed_iff : call.missed = true ↔ call.term.fits call.found = false := by
  unfold missed found
  simp only [Parser.acceptToken]
  cases fits : call.term.fits call.parser.cursor.current.1 with
  | false => simp
  | true =>
      simp only [if_true]
      cases outcome : (Parser.consume (call.parser.withCursor call.parser.cursor.current.2)).1 with
      | error => simp
      | ok matched =>
          cases matched with
          | true => simp
          | false => exact absurd outcome (Parser.consume_ne_missed _)

end Call

namespace Parser

-- The calls of a repetition, round by round.
def callsWhile (head tail : Recognizer) (first second : Parser → List Call) (parser : Parser) : List Call :=
  first parser ++
    match head parser with
    | (.ok true, headed) =>
      second headed ++
        match tail headed with
        | (.ok true, next) =>
          if next.remaining < parser.remaining then callsWhile head tail first second next else []
        | _ => []
    | _ => []
termination_by parser.remaining

end Parser

namespace Phrase

-- The calls that recognizing a phrase makes, one after another.
def calls : Phrase → Parser → List Call
  | .char c, parser => [⟨.char c, parser⟩]
  | .symbol name, parser => [⟨.symbol name, parser⟩]
  | .production _ body, parser => body.calls parser.entered
  | .spaces, _ => []
  | .fail, _ => []
  | .either first second, parser =>
    first.calls parser ++
      match first.run parser with
      | (.ok false, missed) => second.calls missed
      | _ => []
  | .both first second, parser =>
    first.calls parser ++
      match first.run parser with
      | (.ok true, matched) => second.calls matched
      | _ => []
  | .optional phrase, parser => phrase.calls parser
  | .absent phrase, parser => phrase.calls parser
  | .many phrase, parser => parser.callsWhile phrase.run Parser.pass phrase.calls fun _ => []
  | .toEnd phrase, parser => parser.callsWhile Parser.moreText phrase.run (fun _ => []) phrase.calls
  | .required phrase, parser => phrase.calls parser

end Phrase

namespace Parser

variable {recognizer head tail : Recognizer} {calls first second : Parser → List Call}
  {before middle after : Parser} {one two : List Call}

-- Reading leads from one state to another, and to where calls are made on the way. The log has those of them
-- that missed.
structure Notes (before after : Parser) (calls : List Call) : Prop where
  onward : before.cursor.Leads after.cursor
  log : after.misses = Call.noted calls ++ before.misses
  leads : ∀ call ∈ calls, before.cursor.Leads call.parser.cursor

theorem Notes.nothing (onward : before.cursor.Leads after.cursor) (same : after.misses = before.misses) :
    before.Notes after [] :=
  ⟨onward, by rw [Call.noted_nil, same, List.nil_append], by simp⟩

theorem Notes.trans (early : before.Notes middle one) (late : middle.Notes after two) :
    before.Notes after (one ++ two) := by
  refine ⟨early.onward.trans late.onward, ?_, fun call present => ?_⟩
  · rw [late.log, early.log, Call.noted_append, List.append_assoc]
  · rcases List.mem_append.mp present with here | later
    · exact early.leads call here
    · exact early.onward.trans (late.leads call later)

-- Wherever a recognizer starts, these are the calls that it makes.
def Lists (recognizer : Recognizer) (calls : Parser → List Call) : Prop :=
  ∀ parser : Parser, parser.Notes (recognizer parser).2 (calls parser)

theorem consume_misses (parser : Parser) : (consume parser).2.misses = parser.misses := by
  unfold consume
  split <;> rfl

theorem lists_acceptToken (term : Term) : Lists (acceptToken term) fun parser => [⟨term, parser⟩] := by
  intro parser
  have kind : Call.missed ⟨term, parser⟩ = true ↔ term.fits parser.cursor.current.1 = false := Call.missed_iff
  refine ⟨leading_acceptToken term parser, ?log, ?leads⟩
  case log =>
    unfold acceptToken
    simp only
    split
    · rename_i fits
      have matched : Call.missed ⟨term, parser⟩ = false := by
        rw [← Bool.not_eq_true, kind, fits]
        exact Bool.noConfusion
      simp [Call.noted, matched, consume_misses, withCursor]
    · rename_i unfit
      have missed := kind.mpr (Bool.not_eq_true _ ▸ unfit)
      simp [Call.noted, missed, Call.miss, Call.offset, Call.found]
  case leads =>
    intro call present
    obtain rfl := List.mem_singleton.mp present
    exact .stay

theorem lists_acceptSpace : Lists acceptSpace fun _ => [] := by
  intro parser
  refine .nothing (leading_acceptSpace parser) ?_
  unfold acceptSpace
  simp only
  split
  · exact consume_misses _
  · rfl

theorem lists_moreText : Lists moreText fun _ => [] := fun parser => .nothing (leading_moreText parser) rfl

theorem recordWhile_calls (parser : Parser) :
    parser.recordWhile head tail first second = parser.callsWhile head tail first second := by
  induction size : parser.remaining using Nat.strongRecOn generalizing parser with
  | _ left ih =>
      rw [recordWhile, callsWhile]
      obtain ⟨failure | _ | _, middle⟩ := head parser
      · rfl
      · rfl
      · dsimp only
        obtain ⟨failure | _ | _, next⟩ := tail middle
        · rfl
        · rfl
        · dsimp only
          split
          · rename_i nearer
            rw [ih _ (size ▸ nearer) next rfl]
          · rfl

theorem recordWhile_nothing {α : Type} (parser : Parser) :
    parser.recordWhile head tail (fun _ => []) (fun _ => ([] : List α)) = [] := by
  induction size : parser.remaining using Nat.strongRecOn generalizing parser with
  | _ left ih =>
      rw [recordWhile]
      split
      · split
        · split
          · rename_i nearer
            exact ih _ (size ▸ nearer) _ rfl
          · rfl
        · rfl
      · rfl

theorem attempt_misses (production : Production) (recognizer : Recognizer) (parser : Parser) :
    (attempt production recognizer parser).2.misses = (recognizer parser.clearTrace).2.misses := by
  obtain ⟨cursor, depth, misses, trace⟩ := parser
  cases trace <;> rfl

theorem Lists.leading (lists : Lists recognizer calls) : Leading recognizer :=
  fun parser => (lists parser).onward

theorem Lists.attempt (production : Production) (lists : Lists recognizer calls) :
    Lists (Parser.attempt production recognizer) fun parser => calls parser.clearTrace := by
  intro parser
  obtain ⟨_, log, leads⟩ := lists parser.clearTrace
  exact ⟨lists.leading.attempt production parser,
    (attempt_misses production recognizer parser).trans log, leads⟩

theorem Lists.acceptProduction (production : Production) (lists : Lists recognizer calls) :
    Lists (Parser.acceptProduction production recognizer) fun parser => calls parser.entered := by
  intro parser
  obtain ⟨_, log, leads⟩ := lists.attempt production { parser with depth := parser.depth + 1 }
  exact ⟨lists.leading.acceptProduction production parser, log, leads⟩

theorem notes_mismatch (context : List Term) (parser : Parser) :
    parser.Notes (parser.mismatch context).2 [] := by
  refine .nothing (leads_mismatch context parser) ?_
  unfold mismatch
  split <;> rfl

end Parser

namespace Phrase

def callScribe : Scribe Call where
  token term parser := [⟨term, parser⟩]

theorem record_calls (phrase : Phrase) : phrase.record callScribe = phrase.calls := by
  induction phrase with
  | char c => rfl
  | symbol name => rfl
  | production name body ih =>
      funext parser
      exact congrFun ih parser.entered
  | spaces =>
      funext parser
      exact parser.recordWhile_nothing
  | fail => rfl
  | either first second one two | both first second one two =>
      funext parser
      rw [record, calls]
      obtain ⟨failure | _ | _, middle⟩ := first.run parser
      all_goals simp only [one, two]
  | optional phrase ih | absent phrase ih | required phrase ih => exact ih
  | many phrase ih | toEnd phrase ih =>
      funext parser
      rw [record, calls, ih, Parser.recordWhile_calls]

end Phrase

theorem Parser.account_notes : Account Phrase.callScribe fun before ran => before.Notes ran.2 where
  token := lists_acceptToken
  space := lists_acceptSpace
  more := lists_moreText
  stay _ _ := .nothing .stay rfl
  endless _ := .nothing .stay rfl
  mismatch context parser _ := notes_mismatch context parser
  trans := .trans
  production name _ lists := Lists.acceptProduction name lists

theorem Phrase.lists_run (phrase : Phrase) : Parser.Lists phrase.run phrase.calls := by
  intro parser
  rw [← phrase.record_calls]
  exact Parser.account_notes.run phrase parser

namespace Cursor

variable {cursor after : Cursor} {tokenizer : Tokenizer} {text : String}

-- A sound cursor on a text.
structure Holds (cursor : Cursor) (tokenizer : Tokenizer) (text : String) : Prop where
  sound : cursor.Sound tokenizer
  source : cursor.source = text

theorem stable_holds (tokenizer : Tokenizer) (text : String) : Stable (·.Holds tokenizer text) where
  looked cursor holds := by
    obtain ⟨after, fetched, _, sound⟩ := holds.sound.fetch
    exact ⟨fetched ▸ sound, cursor.fetch_source.trans holds.source⟩
  passed cursor holds := by
    obtain ⟨after, fetched, _, sound⟩ := holds.sound.fetch
    have grows := cursor.passed_grows
    have looked : cursor.fetch.2.Sound tokenizer := fetched ▸ sound
    have bounded : cursor.after cursor.fetch.1 ≤ cursor.fetch.2.size :=
      cursor.fetch_size.symm ▸ Nat.min_le_right _ _
    exact ⟨looked.moveTo bounded, grows.source.trans holds.source⟩
  returned visited cursor grows _ holds := ⟨holds.sound.seek visited.offset, holds.source⟩

theorem Holds.leads (holds : cursor.Holds tokenizer text) (leads : cursor.Leads after) :
    after.Holds tokenizer text := leads.keeps (stable_holds tokenizer text) holds

theorem Holds.ignoringComments (holds : cursor.Holds tokenizer text) (ignore : Bool) :
    (cursor.ignoringComments ignore).Holds tokenizer text :=
  ⟨holds.sound.ignoringComments ignore, holds.source⟩

-- What is read is what the tokenizer says where the reader has come to.
theorem Holds.current (holds : cursor.Holds tokenizer text) :
    cursor.current.1 = tokenizer text cursor.current.2.offset := by
  obtain ⟨after, read, same, sound⟩ := holds.sound.current
  have source : after.source = text := by
    have looked := (holds.leads cursor.leads_current).source
    rwa [read] at looked
  rw [read, ← same, PlainCursor.here, plain, sound.asks, source]

end Cursor

namespace Parser

variable {parser after : Parser} {calls : List Call} {tokenizer : Tokenizer} {text : String}

-- From one state to another the parser has worked on the same text, and the log has grown by the misses.
structure Works (before after : Parser) (tokenizer : Tokenizer) (text : String) (calls : List Call) :
    Prop where
  holds : after.cursor.Holds tokenizer text
  log : after.misses = Call.noted calls ++ before.misses
  faced : ∀ call ∈ calls, call.found = tokenizer text call.offset

theorem Works.still (holds : after.cursor.Holds tokenizer text) (same : after.misses = parser.misses) :
    parser.Works after tokenizer text [] :=
  ⟨holds, by rw [Call.noted_nil, same, List.nil_append], by simp⟩

theorem Notes.works (notes : parser.Notes after calls) (holds : parser.cursor.Holds tokenizer text) :
    parser.Works after tokenizer text calls :=
  ⟨holds.leads notes.onward, notes.log, fun call present => (holds.leads (notes.leads call present)).current⟩

theorem works_parseSelectorsGroup (holds : parser.cursor.Holds tokenizer text) :
    parser.Works parser.parseSelectorsGroup.2 tokenizer text
      (Phrase.selectorsGroupBody.calls
        (parser.withCursor (parser.cursor.ignoringComments true)).clearTrace) := by
  have tried := ((Phrase.lists_run Phrase.selectorsGroupBody).attempt .selectorsGroup
    (parser.withCursor (parser.cursor.ignoringComments true))).works (holds.ignoringComments true)
  unfold parseSelectorsGroup
  generalize attempt .selectorsGroup Phrase.selectorsGroupBody.run
    (parser.withCursor (parser.cursor.ignoringComments true)) = ran at tried ⊢
  obtain ⟨failure | _ | _, after⟩ := ran
  · exact ⟨tried.holds.ignoringComments _, tried.log, tried.faced⟩
  · have told :=
      ((after.withCursor (after.cursor.ignoringComments parser.cursor.ignoreComments)).notes_mismatch
        [.production .selectorsGroup]).works (tried.holds.ignoringComments _)
    exact ⟨told.holds, told.log.trans tried.log, tried.faced⟩
  · exact ⟨tried.holds.ignoringComments _, tried.log, tried.faced⟩

end Parser

namespace Operation

-- The calls that an operation makes. A group is read from where the parser is, with comments ignored.
def calls : Operation → Parser → List Call
  | .accept term => term.phrase.calls
  | .acceptChoice terms => (Phrase.choice (terms.map Term.phrase)).calls
  | .expect term => term.phrase.calls
  | .expectChoice terms => (Phrase.choice (terms.map Term.phrase)).calls
  | .selectorsGroup => fun parser =>
    Phrase.selectorsGroupBody.calls (parser.withCursor (parser.cursor.ignoringComments true)).clearTrace
  | _ => fun _ => []

-- All calls of operations one after another.
def callsAll : List Operation → Parser → List Call
  | [], _ => []
  | operation :: rest, parser => operation.calls parser ++ callsAll rest (operation.run parser).2

-- Another text begins anew, and so does another parser.
def continues : Operation → Bool
  | .load _ | .newParser => false
  | _ => true

variable {operation : Operation} {operations : List Operation} {parser : Parser} {tokenizer : Tokenizer}
  {text : String}

theorem works_run (goes : operation.continues = true) (holds : parser.cursor.Holds tokenizer text) :
    parser.Works (operation.run parser).2 tokenizer text (operation.calls parser) := by
  have read {after : Cursor} (leads : parser.cursor.Leads after) :
      parser.Works (parser.withCursor after) tokenizer text [] := .still (holds.leads leads) rfl
  cases operation with
  | load text => cases goes
  | newParser => cases goes
  | seek position => exact .still ⟨holds.sound.seek position, holds.source⟩ rfl
  | rewind => exact .still ⟨holds.sound.rewind, holds.source⟩ rfl
  | ignoreComments ignore => exact .still (holds.ignoringComments ignore) rfl
  | current => exact read parser.cursor.leads_current
  | next => exact read parser.cursor.leads_next
  | valid => exact read parser.cursor.leads_valid
  | tokens count => exact read (Tokens.leads_take count parser.cursor.tokens)
  | tracing enabled => exact .still holds rfl
  | clearTrace => exact .still holds rfl
  | accept term => exact (term.phrase.lists_run parser).works holds
  | acceptChoice terms => exact ((Phrase.choice (terms.map Term.phrase)).lists_run parser).works holds
  | expect term => exact ((Phrase.required term.phrase).lists_run parser).works holds
  | expectChoice terms =>
      exact ((Phrase.required (Phrase.choice (terms.map Term.phrase))).lists_run parser).works holds
  | selectorsGroup => exact Parser.works_parseSelectorsGroup holds

theorem works_reached (goes : ∀ operation ∈ operations, operation.continues = true)
    (holds : parser.cursor.Holds tokenizer text) :
    parser.Works (reached operations parser) tokenizer text (callsAll operations parser) := by
  induction operations generalizing parser with
  | nil => exact .still holds rfl
  | cons operation rest ih =>
      obtain ⟨first, others⟩ := List.forall_mem_cons.mp goes
      have early := works_run first holds
      have late := ih others early.holds
      refine ⟨late.holds, ?_, fun call present => ?_⟩
      · rw [callsAll, Call.noted_append, List.append_assoc, ← early.log]
        exact late.log
      · rcases List.mem_append.mp present with here | later
        · exact early.faced call here
        · exact late.faced call later

end Operation

end CssSelectors
