import CssSelectors.Proofs.Parser.Route
import CssSelectors.Validator
import Mathlib.Data.List.Perm.Subperm

-- The tokenizer is asked for each token of a text once, whatever is done with the cursor.
namespace CssSelectors

namespace Cursor

-- Since the log was as it is given here, the tokenizer was asked for what is remembered now, for each
-- token once and for none outside of the text.
structure Counted (cursor : Cursor) (begun : List Nat) : Prop where
  within : cursor.offset ≤ cursor.size
  logged : cursor.queries = cursor.cache.map Prod.fst ++ begun
  once : (cursor.cache.map Prod.fst).Nodup
  inside : ∀ entry ∈ cursor.cache, entry.1 ≤ cursor.size

variable {cursor before after : Cursor} {begun : List Nat}

-- A cursor that has forgotten everything starts a count of its own.
theorem counted_rewind (cursor : Cursor) : cursor.rewind.Counted cursor.queries :=
  ⟨Nat.zero_le _, rfl, List.nodup_nil, nofun⟩

theorem Counted.moveTo (counted : cursor.Counted begun) {position : Nat}
    (within : position ≤ cursor.size) : (cursor.moveTo position).Counted begun :=
  ⟨within, counted.logged, counted.once, counted.inside⟩

theorem Counted.seek (counted : cursor.Counted begun) (position : Nat) :
    (cursor.seek position).Counted begun :=
  counted.moveTo (Nat.min_le_right _ _)

theorem Counted.ignoringComments (counted : cursor.Counted begun) (ignore : Bool) :
    (cursor.ignoringComments ignore).Counted begun :=
  ⟨counted.within, counted.logged, counted.once, counted.inside⟩

-- The tokenizer is asked only where nothing is remembered.
theorem Counted.fetch (counted : cursor.Counted begun) : cursor.fetch.2.Counted begun := by
  cases known : cursor.cache.lookup cursor.offset with
  | some token => simpa only [Cursor.fetch, known] using counted
  | none =>
      have fresh : cursor.offset ∉ cursor.cache.map Prod.fst := by
        intro present
        obtain ⟨entry, remembered, same⟩ := List.mem_map.mp present
        have other := List.lookup_eq_none_iff.mp known entry remembered
        simp [same] at other
      simp only [Cursor.fetch, known, ask]
      exact {
        within := counted.within
        logged := congrArg (cursor.offset :: ·) counted.logged
        once := List.nodup_cons.mpr ⟨fresh, counted.once⟩
        inside := List.forall_mem_cons.mpr ⟨counted.within, counted.inside⟩ }

theorem Counted.passed (counted : cursor.Counted begun) : cursor.passed.Counted begun := by
  have bounded : cursor.after cursor.fetch.1 ≤ cursor.size := Nat.min_le_right _ _
  exact counted.fetch.moveTo (cursor.fetch_size.symm ▸ bounded)

theorem stable_counted (begun : List Nat) : Stable (·.Counted begun) where
  looked _ counted := counted.fetch
  passed _ counted := counted.passed
  returned visited _ _ _ counted := counted.seek visited.offset

theorem Counted.leads (counted : before.Counted begun) (leads : before.Leads after) :
    after.Counted begun := leads.keeps (stable_counted begun) counted

-- There are no more places in a text than its bytes and its end.
theorem Counted.length_le (counted : cursor.Counted begun) : cursor.cache.length ≤ cursor.size + 1 := by
  have places : cursor.cache.map Prod.fst ⊆ List.range (cursor.size + 1) := by
    intro offset present
    obtain ⟨entry, remembered, rfl⟩ := List.mem_map.mp present
    exact List.mem_range.mpr (Nat.lt_succ_of_le (counted.inside entry remembered))
  simpa using (counted.once.subperm places).length_le

end Cursor

variable {begun : List Nat}

theorem Parser.cursor_on (cursor : Cursor) : (Parser.on cursor).cursor = cursor := rfl

theorem Parser.counted_parseSelectorsGroup (parser : Parser) (counted : parser.cursor.Counted begun) :
    parser.parseSelectorsGroup.2.cursor.Counted begun := by
  obtain ⟨middle, tried, told⟩ := parser.leads_parseSelectorsGroup
  have read := (counted.ignoringComments true).leads tried
  exact (read.ignoringComments _).leads told

-- Whether an operation forgets what is remembered.
def Operation.forgets : Operation → Bool
  | .load _ | .rewind => true
  | _ => false

-- What is done with a cursor: by itself, through a parser on it, or through the validator that it is in.
inductive Use where
  | work (operation : Operation)
  | parse (text : String)
  | parseTraced (text : String)

namespace Use

def forgets : Use → Bool
  | .work operation => operation.forgets
  | .parse _ | .parseTraced _ => true

-- A validator makes a parser of its own, and leaves the cursor.
def run : Use → Parser → Parser
  | .work operation, parser => (operation.run parser).2
  | .parse text, parser => Parser.on ((Validator.mk parser.cursor).parse text).2.cursor
  | .parseTraced text, parser => Parser.on ((Validator.mk parser.cursor).parseTraced text).2.2.cursor

theorem counted_run (use : Use) (parser : Parser) (counted : parser.cursor.Counted begun) :
    (use.run parser).cursor.Counted (if use.forgets then parser.cursor.queries else begun) := by
  have loaded (text : String) : (parser.cursor.load text).Counted parser.cursor.queries :=
    Cursor.counted_rewind { parser.cursor with source := text }
  have recognized (phrase : Phrase) : (phrase.run parser).2.cursor.Counted begun :=
    counted.leads (phrase.leading_run parser)
  cases use with
  | parse text =>
      simp only [run, forgets, if_true, Validator.parse, Parser.cursor_on]
      exact Parser.counted_parseSelectorsGroup (Parser.on (parser.cursor.load text)) (loaded text)
  | parseTraced text =>
      simp only [run, forgets, if_true, Validator.parseTraced, Parser.cursor_on]
      exact Parser.counted_parseSelectorsGroup ((Parser.on (parser.cursor.load text)).tracing true)
        (loaded text)
  | work operation =>
      cases operation with
      | load text => exact loaded text
      | rewind => exact Cursor.counted_rewind parser.cursor
      | seek position => exact counted.seek position
      | ignoreComments ignore => exact counted.ignoringComments ignore
      | current => exact counted.leads parser.cursor.leads_current
      | next => exact counted.leads parser.cursor.leads_next
      | valid => exact counted.leads parser.cursor.leads_valid
      | tokens count => exact counted.leads (Tokens.leads_take count parser.cursor.tokens)
      | newParser => exact counted
      | tracing enabled => exact counted
      | clearTrace => exact counted
      | accept term => exact recognized term.phrase
      | acceptChoice terms => exact recognized (.choice (terms.map Term.phrase))
      | expect term => exact recognized (.required term.phrase)
      | expectChoice terms => exact recognized (.required (.choice (terms.map Term.phrase)))
      | selectorsGroup => exact Parser.counted_parseSelectorsGroup parser counted

end Use

-- A cursor at work, with the log as it was when everything was forgotten last.
structure Session where
  parser : Parser
  begun : List Nat := []

namespace Session

def on (tokenizer : Tokenizer) : Session := { parser := Parser.on (Cursor.on tokenizer) }

-- One use after another. A tokenizer that changes its mind is another one by then.
def step (session : Session) (tokenizer : Tokenizer) (use : Use) : Session where
  parser := use.run (session.parser.withCursor { session.parser.cursor with tokenizer })
  begun := if use.forgets then session.parser.cursor.queries else session.begun

def reached (steps : List (Tokenizer × Use)) (session : Session) : Session :=
  steps.foldl (fun session step => session.step step.1 step.2) session

def Valid (session : Session) : Prop := session.parser.cursor.Counted session.begun

theorem Valid.step {session : Session} (valid : session.Valid) (tokenizer : Tokenizer) (use : Use) :
    (session.step tokenizer use).Valid := by
  have counted : Cursor.Counted { session.parser.cursor with tokenizer } session.begun :=
    ⟨valid.within, valid.logged, valid.once, valid.inside⟩
  exact use.counted_run (session.parser.withCursor { session.parser.cursor with tokenizer }) counted

theorem Valid.reached {session : Session} (valid : session.Valid) (steps : List (Tokenizer × Use)) :
    (reached steps session).Valid := by
  induction steps generalizing session with
  | nil => exact valid
  | cons step rest ih => exact ih (valid.step step.1 step.2)

-- Whatever is done with a cursor, and whatever its tokenizers report: since all was forgotten last there
-- were as many questions as there are tokens remembered, one about each of their offsets and no two about
-- the same, and not more than the text has offsets.
theorem asked_once (tokenizer : Tokenizer) (steps : List (Tokenizer × Use)) :
    ∃ (session : Session) (asked : List Nat), reached steps (on tokenizer) = session ∧
      session.parser.cursor.queries = asked ++ session.begun ∧
      asked = session.parser.cursor.cache.map Prod.fst ∧
      asked.length = session.parser.cursor.cache.length ∧ asked.Nodup ∧
      session.parser.cursor.cache.length ≤ session.parser.cursor.source.utf8ByteSize + 1 := by
  have start : (on tokenizer).Valid := ⟨Nat.zero_le _, rfl, List.nodup_nil, nofun⟩
  have valid := start.reached steps
  exact ⟨_, _, rfl, valid.logged, rfl, List.length_map _, valid.once, valid.length_le⟩

end Session

end CssSelectors
