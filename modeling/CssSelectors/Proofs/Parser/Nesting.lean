import CssSelectors.Proofs.Parser.Attempts
import CssSelectors.Proofs.Parser.Progress

-- A trace lists attempts inside attempts, as the productions of the grammar stand in one another.
namespace CssSelectors

namespace Phrase

-- The productions that a phrase attempts itself, without those in their bodies.
def productions : Phrase → List Production
  | .production name _ => [name]
  | .either first second | .both first second => first.productions ++ second.productions
  | .optional phrase | .absent phrase | .many phrase | .toEnd phrase | .required phrase =>
    phrase.productions
  | .char _ | .symbol _ | .spaces | .fail => []

-- How many productions stand in one another.
def height : Phrase → Nat
  | .production _ body => body.height + 1
  | .either first second | .both first second => max first.height second.height
  | .optional phrase | .absent phrase | .many phrase | .toEnd phrase | .required phrase => phrase.height
  | .char _ | .symbol _ | .spaces | .fail => 0

-- Whether every production in a phrase has the body that the grammar gives it.
def grammatical : Phrase → Bool
  | .production name body => name.phrase == .production name body && body.grammatical
  | .either first second | .both first second => first.grammatical && second.grammatical
  | .optional phrase | .absent phrase | .many phrase | .toEnd phrase | .required phrase =>
    phrase.grammatical
  | .char _ | .symbol _ | .spaces | .fail => true

end Phrase

namespace Production

-- What the body of a production may attempt.
def invokes (production : Production) : List Production :=
  match production.phrase with
  | .production _ body => body.productions
  | _ => []

def height (production : Production) : Nat := production.phrase.height

theorem height_invokes (production : Production) :
    ∀ name ∈ production.invokes, name.height < production.height := by
  cases production <;> decide

theorem height_pos (production : Production) : 0 < production.height := by
  cases production <;> decide

end Production

namespace TraceEntry

-- The attempt in which another one at a depth was made: the last one that is one level higher.
def parent? (earlier : List TraceEntry) (depth : Nat) : Option TraceEntry :=
  earlier.reverse.find? fun entry => entry.depth + 1 == depth

-- The last attempt at a depth, as long as none is higher after it.
def sibling? (earlier : List TraceEntry) (depth : Nat) : Option TraceEntry :=
  (earlier.reverse.takeWhile fun entry => depth ≤ entry.depth).find? fun entry => entry.depth == depth

-- What an attempt has to do with the earlier ones: it is made inside one of them that allows it, and behind
-- the one that was made there before it.
structure Nested (earlier : List TraceEntry) (entry : TraceEntry) : Prop where
  inside : 1 ≤ entry.depth
  bounded : entry.depth ≤ 8
  stepwise : ∀ last ∈ earlier.getLast?, entry.depth ≤ last.depth + 1
  parent : ∃ parent, parent? earlier entry.depth = some parent ∧
    entry.production ∈ parent.production.invokes ∧ parent.offset ≤ entry.offset
  sibling : ∀ sibling ∈ sibling? earlier entry.depth, sibling.offset ≤ entry.offset ∧
    (sibling.matched = true → sibling.offset < entry.offset)
  combinator : entry.production = .combinator → entry.matched = false

end TraceEntry

-- The attempts that a body makes at a depth between two offsets, each with those inside it, newest first.
inductive Row : List Production → Nat → Nat → List TraceEntry → Nat → Prop where
  | none {names : List Production} {depth start stop : Nat} (onward : start ≤ stop) :
      Row names depth start [] stop
  | next {names : List Production} {depth start near far stop : Nat} {earlier inside : List TraceEntry}
      {entry : TraceEntry} (before : Row names depth start earlier near)
      (named : entry.production ∈ names) (deep : entry.depth = depth) (begins : near ≤ entry.offset)
      (calls : Row entry.production.invokes (depth + 1) entry.offset inside far)
      (onward : entry.offset ≤ stop) (further : entry.matched = true → entry.offset < stop)
      (combinator : entry.production = .combinator → entry.matched = false) :
      Row names depth start (inside ++ entry :: earlier) stop

namespace Row

variable {names : List Production} {depth start middle stop later : Nat}
  {entries one two outer : List TraceEntry} {parent : TraceEntry}

theorem onward (row : Row names depth start entries stop) : start ≤ stop := by
  induction row with
  | none onward => exact onward
  | next _ _ _ begins _ onward _ _ before _ => exact Nat.le_trans before (Nat.le_trans begins onward)

theorem extend (row : Row names depth start entries stop) (onward : stop ≤ later) :
    Row names depth start entries later := by
  cases row with
  | none near => exact .none (Nat.le_trans near onward)
  | next before named deep begins calls near further combinator =>
      exact .next before named deep begins calls (Nat.le_trans near onward)
        (fun matched => Nat.lt_of_lt_of_le (further matched) onward) combinator

theorem widen (row : Row names depth start entries stop) {more : List Production} (wider : names ⊆ more) :
    Row more depth start entries stop := by
  induction row with
  | none onward => exact .none onward
  | next _ named deep begins calls onward further combinator ih =>
      exact .next (ih wider) (wider named) deep begins calls onward further combinator

theorem trans (early : Row names depth start one middle) (late : Row names depth middle two stop) :
    Row names depth start (two ++ one) stop := by
  induction late with
  | none onward => exact early.extend onward
  | next _ named deep begins calls onward further combinator ih =>
      rw [List.append_assoc, List.cons_append]
      exact .next (ih early) named deep begins calls onward further combinator

theorem deep (row : Row names depth start entries stop) : ∀ entry ∈ entries, depth ≤ entry.depth := by
  induction row with
  | none => exact nofun
  | next _ _ deep _ _ _ _ _ before inside =>
      refine List.forall_mem_append.mpr ⟨fun entry present => ?_, List.forall_mem_cons.mpr ⟨?_, before⟩⟩
      · exact Nat.le_of_succ_le (inside entry present)
      · exact Nat.le_of_eq deep.symm

-- What was attempted last at the depth of the row itself.
theorem newest (row : Row names depth start entries stop) {entry : TraceEntry}
    (found : (entries.find? fun entry => entry.depth == depth) = some entry) :
    entry.offset ≤ stop ∧ (entry.matched = true → entry.offset < stop) := by
  cases row with
  | none => cases found
  | next before named deep begins calls onward further combinator =>
      have deeper : (List.find? (fun entry : TraceEntry => entry.depth == depth) _) = Option.none :=
        List.find?_eq_none.mpr fun entry present => by
          have below := calls.deep entry present
          simp only [beq_iff_eq]
          omega
      rw [List.find?_append, deeper, Option.none_or, List.find?_cons_of_pos (by simpa using deep)] at found
      cases found
      exact ⟨onward, further⟩

theorem parent?_eq (row : Row names depth start entries stop) (above : parent.depth + 1 = depth) :
    TraceEntry.parent? (entries ++ parent :: outer).reverse depth = some parent := by
  have deeper : (entries.find? fun entry : TraceEntry => entry.depth + 1 == depth) = Option.none :=
    List.find?_eq_none.mpr fun entry present => by
      have below := row.deep entry present
      simp only [beq_iff_eq]
      omega
  rw [TraceEntry.parent?, List.reverse_reverse, List.find?_append, deeper, Option.none_or,
    List.find?_cons_of_pos (by simpa using above)]

theorem sibling?_eq (row : Row names depth start entries stop) (above : parent.depth + 1 = depth) :
    TraceEntry.sibling? (entries ++ parent :: outer).reverse depth =
      entries.find? fun entry => entry.depth == depth := by
  have within : ∀ entry ∈ entries, decide (depth ≤ entry.depth) = true :=
    fun entry present => decide_eq_true (row.deep entry present)
  have higher : ¬ decide (depth ≤ parent.depth) = true := by
    rw [decide_eq_true_iff]
    omega
  have stopped : List.takeWhile (fun entry : TraceEntry => decide (depth ≤ entry.depth))
      (parent :: outer) = [] := List.takeWhile_cons_of_neg higher
  rw [TraceEntry.sibling?, List.reverse_reverse, List.takeWhile_append_of_pos within, stopped,
    List.append_nil]

end Row

namespace TraceEntry

-- Each attempt of a row, newest first, stands to those before it and to the outer ones as it should.
def AllNested (outer : List TraceEntry) : List TraceEntry → Prop
  | [] => True
  | entry :: older => Nested (older ++ outer).reverse entry ∧ AllNested outer older

theorem allNested_append {outer newer older : List TraceEntry} :
    AllNested outer (newer ++ older) ↔ AllNested (older ++ outer) newer ∧ AllNested outer older := by
  induction newer with
  | nil => simp [AllNested]
  | cons entry newer ih => simp [AllNested, ih, and_assoc]

end TraceEntry

namespace Row

variable {names : List Production} {depth start stop : Nat} {entries outer : List TraceEntry}
  {parent entry : TraceEntry}

-- One more attempt behind a row that its parent makes. The grammar is nine productions high, which bounds the
-- depth.
theorem nested (row : Row names depth start entries stop) (above : parent.depth + 1 = depth)
    (invoked : names ⊆ parent.production.invokes) (inside : parent.offset ≤ start)
    (high : ∀ name ∈ names, depth + name.height ≤ 9) (named : entry.production ∈ names)
    (deep : entry.depth = depth) (begins : stop ≤ entry.offset)
    (combinator : entry.production = .combinator → entry.matched = false) :
    TraceEntry.Nested (entries ++ parent :: outer).reverse entry := by
  have room := high _ named
  have solid := entry.production.height_pos
  have onward := row.onward
  refine ⟨by omega, by omega, ?stepwise, ⟨parent, deep ▸ row.parent?_eq above, invoked named, by omega⟩,
    ?sibling, combinator⟩
  case stepwise =>
    intro last newest
    rw [List.getLast?_reverse] at newest
    rcases entries with _ | ⟨newer, older⟩
    · cases newest
      omega
    · cases newest
      have below := row.deep last List.mem_cons_self
      omega
  case sibling =>
    intro sibling found
    rw [deep, row.sibling?_eq above] at found
    obtain ⟨near, past⟩ := row.newest found
    exact ⟨Nat.le_trans near begins, fun matched => Nat.lt_of_lt_of_le (past matched) begins⟩

theorem allNested (row : Row names depth start entries stop) (above : parent.depth + 1 = depth)
    (invoked : names ⊆ parent.production.invokes) (inside : parent.offset ≤ start)
    (high : ∀ name ∈ names, depth + name.height ≤ 9) :
    TraceEntry.AllNested (parent :: outer) entries := by
  induction row generalizing parent outer with
  | none => trivial
  | @next _ _ _ _ _ _ earlier _ entry before named deep begins _ _ _ combinator siblings children =>
      have child : TraceEntry.Nested (earlier ++ parent :: outer).reverse entry :=
        before.nested above invoked inside high named deep begins combinator
      refine TraceEntry.allNested_append.mpr ⟨?_, child, siblings above invoked inside high⟩
      refine children (congrArg (· + 1) deep) (fun _ => id) (Nat.le_refl _) fun name invoked => ?_
      have room := high _ named
      have lower := entry.production.height_invokes name invoked
      omega

end Row

namespace Parser

-- What a step has attempted: a row of attempts between where it began and where it has come to.
structure Attempts (names : List Production) (before after : Parser) : Prop where
  depth : after.depth = before.depth
  ending : after.cursor.Ending
  row : ∀ earlier, before.trace = some earlier → ∃ entries, after.trace = some (entries ++ earlier) ∧
    Row names (before.depth + 1) before.cursor.offset entries after.cursor.offset

def Attempting (names : List Production) (recognizer : Recognizer) : Prop :=
  ∀ parser : Parser, parser.cursor.Ending → Attempts names parser (recognizer parser).2

variable {names : List Production} {parser before middle after : Parser} {recognizer head tail : Recognizer}
  {consuming : Bool}

theorem Attempts.trans (one : Attempts names before middle) (two : Attempts names middle after) :
    Attempts names before after := by
  refine ⟨two.depth.trans one.depth, two.ending, fun earlier traced => ?_⟩
  obtain ⟨first, begun, early⟩ := one.row earlier traced
  obtain ⟨second, ended, late⟩ := two.row _ begun
  refine ⟨second ++ first, by rw [ended, List.append_assoc], ?_⟩
  rw [one.depth] at late
  exact early.trans late

theorem Attempts.none (grows : before.cursor.Grows after.cursor) (ending : before.cursor.Ending)
    (depth : after.depth = before.depth) (same : after.trace = before.trace)
    (onward : before.cursor.offset ≤ after.cursor.offset) : Attempts names before after :=
  ⟨depth, grows.ending ending, fun _ traced => ⟨[], same.trans traced, .none onward⟩⟩

theorem Attempting.untraced (keeping : Keeping recognizer) (progressing : Progressing consuming recognizer)
    (same : ∀ parser, (recognizer parser).2.trace = parser.trace) : Attempting names recognizer := by
  intro parser ending
  have kept := keeping parser
  exact .none kept.cursor ending kept.depth (same parser) (progressing parser ending).onward

theorem attempting_pass : Attempting names pass :=
  .untraced keeping_pass progressing_pass fun _ => rfl

theorem Attempting.repeatWhile (first : Attempting names head) (second : Attempting names tail) :
    Attempting names (Parser.repeatWhile head tail) := by
  intro parser ending
  induction size : parser.remaining using Nat.strongRecOn generalizing parser with
  | _ left ih =>
      have headed := first parser ending
      rw [Parser.repeatWhile]
      split
      · rename_i middle ran
        rw [ran] at headed
        have tailed := second middle headed.ending
        split
        · rename_i next came
          rw [came] at tailed
          have round := headed.trans tailed
          split
          · rename_i nearer
            exact round.trans (ih _ (size ▸ nearer) next round.ending rfl)
          · exact round
        · exact headed.trans tailed
      · rename_i ended ran
        rwa [ran] at headed
      · exact headed

-- An attempt stands before those inside it.
theorem Attempting.acceptProduction {production : Production} {inside : List Production}
    (keeping : Keeping recognizer) (progressing : Progressing true recognizer)
    (attempting : Attempting inside recognizer) (invokes : inside ⊆ production.invokes)
    (named : production ∈ names)
    (combinator : production = .combinator → ∀ parser, (recognizer parser).1 = .ok false) :
    Attempting names (Parser.acceptProduction production recognizer) := by
  intro parser ending
  have kept := keeping.acceptProduction production parser
  have came := progressing.acceptProduction production keeping parser ending
  refine ⟨kept.depth, kept.cursor.ending ending, fun earlier traced => ?_⟩
  have ran := attempting { parser with depth := parser.depth + 1, trace := some [] } ending
  obtain ⟨entries, told, calls⟩ := ran.row [] rfl
  have never := fun same =>
    combinator same { parser with depth := parser.depth + 1, trace := some [] }
  have further := came.further rfl
  have onward := came.onward
  simp only [Parser.acceptProduction, attempt, traced] at further onward ⊢
  refine ⟨entries ++ [_], by rw [told]; simp; rfl, ?_⟩
  refine Row.next (.none (Nat.le_refl _)) named rfl (Nat.le_refl _) (calls.widen invokes) onward ?_ ?_
  · intro matched
    refine further ?_
    dsimp only at matched
    split at matched
    · rename_i same
      rw [same, matched]
    · cases matched
  · intro same
    dsimp only at same ⊢
    rw [never same]

variable {left right phrase : Phrase}

theorem Attempting.either (one : Attempting names left.run) (two : Attempting names right.run) :
    Attempting names (Phrase.either left right).run := by
  intro parser ending
  have tried := one parser ending
  simp only [Phrase.run]
  split
  · rename_i missed ran
    rw [ran] at tried
    exact tried.trans (two missed tried.ending)
  · exact tried

theorem Attempting.both (one : Attempting names left.run) (two : Attempting names right.run) :
    Attempting names (Phrase.both left right).run := by
  intro parser ending
  have tried := one parser ending
  simp only [Phrase.run]
  split
  · rename_i matched ran
    rw [ran] at tried
    exact tried.trans (two matched tried.ending)
  · exact tried

theorem Attempting.optional (attempting : Attempting names phrase.run) :
    Attempting names (Phrase.optional phrase).run := by
  intro parser ending
  have tried := attempting parser ending
  simp only [Phrase.run]
  split
  · rename_i ran
    rwa [ran] at tried
  · exact tried

theorem Attempting.absent (attempting : Attempting names phrase.run) :
    Attempting names (Phrase.absent phrase).run := by
  intro parser ending
  have tried := attempting parser ending
  simp only [Phrase.run]
  split
  · rename_i ran
    rwa [ran] at tried
  · exact tried

theorem Attempting.required (attempting : Attempting names phrase.run) :
    Attempting names (Phrase.required phrase).run := by
  intro parser ending
  have tried := attempting parser ending
  simp only [Phrase.run]
  split
  · rename_i missed ran
    rw [ran] at tried
    split
    · obtain ⟨kept, comments⟩ := missed.mismatch_spec phrase.terms
      exact tried.trans
        (.none kept.cursor tried.ending kept.depth (trace_mismatch _ _) comments.le)
    · exact tried
  · exact tried

-- In the grammar a production attempts what stands in its own body, and has read something if it matches.
theorem Attempting.production {name : Production} {body : Phrase} (named : name ∈ names)
    (whole : name.phrase = .production name body) (productive : body.productive = true)
    (attempting : Attempting body.productions body.run) :
    Attempting names (Phrase.production name body).run := by
  have invokes : name.invokes = body.productions := by rw [Production.invokes, whole]
  have consumes := (Term.phrase_consumes (.production name)).2
  rw [Term.phrase, whole] at consumes
  have further : Progressing true body.run := by
    have progressing : Progressing body.consumes body.run := Phrase.progressing_run productive
    rwa [show body.consumes = true from consumes] at progressing
  refine .acceptProduction body.keeping_run further attempting (invokes ▸ fun _ => id) named ?_
  rintro rfl
  cases whole
  exact fun _ => rfl

end Parser

-- A phrase of the grammar attempts what it names, and each of these what stands in its own body.
theorem Phrase.attempting_run {phrase : Phrase} {names : List Production}
    (productive : phrase.productive = true) (grammatical : phrase.grammatical = true)
    (named : phrase.productions ⊆ names) : Parser.Attempting names phrase.run := by
  induction phrase generalizing names with
  | char c =>
      exact .untraced (Parser.keeping_acceptToken _) (Parser.progressing_acceptToken _)
        (Parser.trace_acceptToken _)
  | symbol name =>
      exact .untraced (Parser.keeping_acceptToken _) (Parser.progressing_acceptToken _)
        (Parser.trace_acceptToken _)
  | production name body ih =>
      obtain ⟨whole, inside⟩ := Bool.and_eq_true_iff.mp grammatical
      exact .production (named List.mem_cons_self) (eq_of_beq whole) productive
        (ih productive inside fun _ => id)
  | spaces =>
      exact .repeatWhile (.untraced Parser.keeping_acceptSpace Parser.progressing_acceptSpace
        Parser.trace_acceptSpace) Parser.attempting_pass
  | fail => exact .untraced Parser.Keeps.refl (progressing_run productive) fun _ => rfl
  | either first second one two =>
      obtain ⟨left, right⟩ := Bool.and_eq_true_iff.mp productive
      obtain ⟨lawful, also⟩ := Bool.and_eq_true_iff.mp grammatical
      obtain ⟨early, late⟩ := List.append_subset.mp named
      exact (one left lawful early).either (two right also late)
  | both first second one two =>
      obtain ⟨left, right⟩ := Bool.and_eq_true_iff.mp productive
      obtain ⟨lawful, also⟩ := Bool.and_eq_true_iff.mp grammatical
      obtain ⟨early, late⟩ := List.append_subset.mp named
      exact (one left lawful early).both (two right also late)
  | optional phrase ih => exact (ih productive grammatical named).optional
  | absent phrase ih => exact (ih productive grammatical named).absent
  | many phrase ih =>
      obtain ⟨inside, _⟩ := Bool.and_eq_true_iff.mp productive
      exact (ih inside grammatical named).repeatWhile Parser.attempting_pass
  | toEnd phrase ih =>
      obtain ⟨inside, _⟩ := Bool.and_eq_true_iff.mp productive
      exact Parser.Attempting.repeatWhile (.untraced Parser.keeping_moreText Parser.progressing_moreText
        fun _ => rfl) (ih inside grammatical named)
  | required phrase ih => exact (ih productive grammatical named).required

theorem Phrase.selectorsGroupBody_attempting :
    Parser.Attempting Production.selectorsGroup.invokes selectorsGroupBody.run :=
  attempting_run (by decide) (by decide) fun _ => id

end CssSelectors
