import CssSelectors.Proofs.Parser.Parallel

-- Nothing looks at the log of what the tokenizer was asked for.
namespace CssSelectors

namespace Cursor

-- The same cursor with another log.
def logged (cursor : Cursor) (log : List Nat) : Cursor := { cursor with queries := log }

-- Another log makes another log of it and nothing else.
def Blind {α : Type} (read : Cursor → α × Cursor) : Prop :=
  ∀ (cursor : Cursor) (log : List Nat), ∃ later,
    read (cursor.logged log) = ((read cursor).1, (read cursor).2.logged later)

theorem blind_fetch : Blind fetch := by
  intro cursor log
  unfold fetch
  have same : (cursor.logged log).cache.lookup (cursor.logged log).offset =
      cursor.cache.lookup cursor.offset := rfl
  rw [same]
  cases cursor.cache.lookup cursor.offset with
  | some token => exact ⟨log, rfl⟩
  | none => exact ⟨cursor.offset :: log, rfl⟩

theorem skipComments_logged (cursor : Cursor) (log : List Nat) :
    ∃ later, (cursor.logged log).skipComments = cursor.skipComments.logged later := by
  induction size : cursor.remaining using Nat.strongRecOn generalizing cursor log with
  | _ left ih =>
      obtain ⟨later, fetched⟩ := blind_fetch cursor log
      have behind : ∀ token, (cursor.logged log).after token = cursor.after token := fun _ => rfl
      have place : (cursor.logged log).offset = cursor.offset := rfl
      have moved : ∀ position, (cursor.fetch.2.logged later).moveTo position =
        (cursor.fetch.2.moveTo position).logged later := fun _ => rfl
      rw [skipComments.eq_def (cursor.logged log), skipComments.eq_def cursor]
      simp only [fetched, behind, place, moved]
      split
      · split
        · rename_i advances
          have bounded : cursor.after cursor.fetch.1 ≤ cursor.size := Nat.min_le_right _ _
          have nearer : (cursor.fetch.2.moveTo (cursor.after cursor.fetch.1)).remaining < left := by
            rw [← size, remaining, remaining, size_moveTo, offset_moveTo, fetch_size]
            omega
          exact ih _ nearer _ later rfl
        · exact ⟨later, rfl⟩
      · exact ⟨later, rfl⟩

theorem blind_current : Blind current := by
  intro cursor log
  have mode : (cursor.logged log).ignoreComments = cursor.ignoreComments := rfl
  unfold current
  rw [mode]
  split
  · obtain ⟨middle, skipped⟩ := cursor.skipComments_logged log
    rw [skipped]
    exact blind_fetch _ middle
  · exact blind_fetch cursor log

theorem blind_next : Blind next := by
  intro cursor log
  obtain ⟨later, read⟩ := blind_current cursor log
  unfold next
  simp only [read]
  split
  · exact ⟨later, rfl⟩
  · split
    · exact ⟨later, rfl⟩
    · exact ⟨later, rfl⟩

theorem blind_valid : Blind valid := by
  intro cursor log
  obtain ⟨later, read⟩ := blind_current cursor log
  exact ⟨later, by simp only [valid, read]⟩

end Cursor

namespace Parser

def logged (parser : Parser) (log : List Nat) : Parser := parser.withCursor (parser.cursor.logged log)

def Blind {α : Type} (run : Parser → α × Parser) : Prop :=
  ∀ (parser : Parser) (log : List Nat), ∃ later,
    run (parser.logged log) = ((run parser).1, (run parser).2.logged later)

variable {recognizer : Recognizer}

theorem cursor_logged (parser : Parser) (log : List Nat) :
    (parser.logged log).cursor = parser.cursor.logged log := rfl

theorem blind_mismatch (context : List Term) : Blind (mismatch context) := by
  intro parser log
  have same : (parser.logged log).misses = parser.misses := rfl
  unfold mismatch
  rw [same]
  cases Frontier.ofMisses? parser.misses with
  | some frontier => exact ⟨log, rfl⟩
  | none =>
      obtain ⟨later, read⟩ := Cursor.blind_current parser.cursor log
      simp only [cursor_logged, read]
      exact ⟨later, rfl⟩

theorem blind_consume : Blind consume := by
  intro parser log
  obtain ⟨later, stepped⟩ := Cursor.blind_next parser.cursor log
  simp only [consume, cursor_logged, stepped]
  rcases parser.cursor.next with ⟨failure | _, moved⟩
  · exact ⟨later, rfl⟩
  · exact ⟨later, rfl⟩

theorem blind_acceptToken (term : Term) : Blind (acceptToken term) := by
  intro parser log
  obtain ⟨later, read⟩ := Cursor.blind_current parser.cursor log
  simp only [acceptToken, cursor_logged, read]
  split
  · exact blind_consume (parser.withCursor parser.cursor.current.2) later
  · exact ⟨later, rfl⟩

theorem blind_acceptSpace : Blind acceptSpace := by
  intro parser log
  obtain ⟨later, read⟩ := Cursor.blind_current parser.cursor log
  simp only [acceptSpace, cursor_logged, read]
  split
  · exact blind_consume (parser.withCursor parser.cursor.current.2) later
  · exact ⟨later, rfl⟩

theorem blind_moreText : Blind moreText := by
  intro parser log
  obtain ⟨later, read⟩ := Cursor.blind_valid parser.cursor log
  simp only [moreText, cursor_logged, read]
  exact ⟨later, rfl⟩

theorem Blind.attempt (production : Production) (blind : Blind recognizer) :
    Blind (Parser.attempt production recognizer) := by
  intro parser log
  have same : (parser.logged log).trace = parser.trace := rfl
  unfold Parser.attempt
  rw [same]
  cases parser.trace with
  | none => exact blind parser log
  | some before =>
      obtain ⟨later, ran⟩ := blind { parser with trace := some [] } log
      have begun : { parser.logged log with trace := some [] } =
        ({ parser with trace := some [] } : Parser).logged log := rfl
      simp only [begun, ran]
      exact ⟨later, rfl⟩

-- One parser has another log than the other.
def Relogged (one two : Parser) : Prop := ∃ log, two = one.logged log

theorem Blind.agrees (blind : Blind recognizer) : Agrees Relogged id recognizer := by
  rintro one _ ⟨log, rfl⟩
  obtain ⟨later, ran⟩ := blind one log
  exact ⟨_, _, _, rfl, by rw [ran, mapError_id], later, rfl⟩

theorem Agrees.blind (agrees : Agrees Relogged id recognizer) : Blind recognizer := by
  intro parser log
  obtain ⟨outcome, first, _, ran, also, later, rfl⟩ := agrees parser _ ⟨log, rfl⟩
  exact ⟨later, by rw [also, ran, mapError_id]⟩

theorem parallel_relogged : Parallel Relogged id where
  outside := by
    rintro one _ ⟨log, rfl⟩
    rfl
  round := by
    rintro one _ first _ ⟨log, rfl⟩ ⟨later, rfl⟩
    rfl
  endless := by
    rintro one _ ⟨log, rfl⟩
    rfl
  token term := (blind_acceptToken term).agrees
  space := blind_acceptSpace.agrees
  more := blind_moreText.agrees
  mismatch := by
    rintro one _ context ⟨log, rfl⟩
    obtain ⟨later, ran⟩ := blind_mismatch context one log
    exact ⟨_, _, _, rfl, ran, later, rfl⟩
  attempt production _ agrees := (agrees.blind.attempt production).agrees
  deeper := by
    rintro one _ ⟨log, rfl⟩
    exact ⟨log, rfl⟩
  back := by
    rintro one _ first _ ⟨log, rfl⟩ ⟨later, rfl⟩
    exact ⟨later, rfl⟩
  higher := by
    rintro one _ first _ ⟨log, rfl⟩ ⟨later, rfl⟩ _ _
    exact ⟨later, rfl⟩

end Parser

theorem Phrase.blind_run (phrase : Phrase) : Parser.Blind phrase.run :=
  (phrase.agrees_run Parser.parallel_relogged).blind

end CssSelectors
