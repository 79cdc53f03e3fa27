import CssSelectors.Proofs.Cursor.Plain
import CssSelectors.Proofs.Cursor.Scanning

-- What a walk visits, of tokens of any kind: a tokenizer may report a token that covers nothing, that reaches
-- past the end, or that has little to do with the text.
namespace CssSelectors

-- Where reading looks that has come to an offset: there, or behind the run of comments there if comments are
-- ignored. A comment that covers nothing ends the run.
inductive Settles (tokenizer : Tokenizer) (text : String) (ignore : Bool) : Nat → Nat → Prop where
  | here {offset : Nat} (stays : ignore = true → (tokenizer text offset).isComment = true →
      (tokenizer text offset).byteLength = 0) : Settles tokenizer text ignore offset offset
  | comment {offset stop : Nat} (ignoring : ignore = true)
      (ignorable : (tokenizer text offset).isComment = true)
      (solid : (tokenizer text offset).byteLength ≠ 0)
      (rest : Settles tokenizer text ignore (past tokenizer text offset) stop) :
      Settles tokenizer text ignore offset stop

-- The tokens that are passed one after another from an offset on, up to the first that covers nothing.
inductive Visits (tokenizer : Tokenizer) (text : String) (ignore : Bool) :
    Nat → List (Nat × Token) → Nat → Prop where
  | closed {offset close : Nat} (settles : Settles tokenizer text ignore offset close)
      (empty : (tokenizer text close).byteLength = 0) : Visits tokenizer text ignore offset [] close
  | token {offset place close : Nat} {tokens : List (Nat × Token)}
      (settles : Settles tokenizer text ignore offset place)
      (solid : (tokenizer text place).byteLength ≠ 0)
      (rest : Visits tokenizer text ignore (past tokenizer text place) tokens close) :
      Visits tokenizer text ignore offset ((place, tokenizer text place) :: tokens) close

variable {tokenizer : Tokenizer} {text : String} {ignore : Bool} {offset place stop close : Nat}
  {tokens : List (Nat × Token)}

theorem le_past (within : offset ≤ text.utf8ByteSize) : offset ≤ past tokenizer text offset :=
  Nat.le_min.mpr ⟨Nat.le_add_right _ _, within⟩

-- What covers something stands before the end, and what comes behind it is farther on.
theorem lt_past (ends : tokenizer text text.utf8ByteSize = .endOfText) (within : offset ≤ text.utf8ByteSize)
    (solid : (tokenizer text offset).byteLength ≠ 0) :
    offset < text.utf8ByteSize ∧ offset < past tokenizer text offset := by
  have inside : offset ≠ text.utf8ByteSize := by
    rintro rfl
    exact solid (Token.byteLength_eq_zero.mpr (.inl ends))
  unfold past
  omega

theorem solid_of_advances (advances : offset < past tokenizer text offset) :
    (tokenizer text offset).byteLength ≠ 0 := by
  intro empty
  rw [past, empty] at advances
  omega

namespace Settles

-- There is one such place.
theorem unique (one : Settles tokenizer text ignore offset place)
    (two : Settles tokenizer text ignore offset stop) : place = stop := by
  induction one with
  | here stays =>
      cases two with
      | here => rfl
      | comment ignoring ignorable solid => exact absurd (stays ignoring ignorable) solid
  | comment ignoring ignorable solid _ ih =>
      cases two with
      | here stays => exact absurd (stays ignoring ignorable) solid
      | comment _ _ _ rest => exact ih rest

-- Where reading looks there is no comment that it would skip.
theorem kept (settles : Settles tokenizer text ignore offset place) (ignoring : ignore = true)
    (ignorable : (tokenizer text place).isComment = true) : (tokenizer text place).byteLength = 0 := by
  induction settles with
  | here stays => exact stays ignoring ignorable
  | comment _ _ _ _ ih => exact ih ignorable

theorem shown : Settles tokenizer text false offset offset := .here nofun

theorem again (settles : Settles tokenizer text ignore offset place) :
    Settles tokenizer text ignore place place := .here settles.kept

theorem within (settles : Settles tokenizer text ignore offset place) (inside : offset ≤ text.utf8ByteSize) :
    place ≤ text.utf8ByteSize := by
  induction settles with
  | here => exact inside
  | comment _ _ _ _ ih => exact ih past_le

theorem le (settles : Settles tokenizer text ignore offset place) (inside : offset ≤ text.utf8ByteSize) :
    offset ≤ place := by
  induction settles with
  | here => exact Nat.le_refl _
  | comment _ _ _ _ ih => exact Nat.le_trans (le_past inside) (ih past_le)

theorem scans (settles : Settles tokenizer text true offset place)
    (ends : tokenizer text text.utf8ByteSize = .endOfText) (inside : offset ≤ text.utf8ByteSize)
    (there : Scans tokenizer text place tokens close) : Scans tokenizer text offset tokens close := by
  induction settles with
  | here => exact there
  | comment _ ignorable solid _ ih =>
      exact .comment ignorable (lt_past ends inside solid).2 (ih past_le there)

end Settles

theorem exists_settles (ends : tokenizer text text.utf8ByteSize = .endOfText) (ignore : Bool)
    (within : offset ≤ text.utf8ByteSize) : ∃ place, Settles tokenizer text ignore offset place := by
  induction size : text.utf8ByteSize - offset using Nat.strongRecOn generalizing offset with
  | _ left ih =>
      by_cases skipped : ignore = true ∧ (tokenizer text offset).isComment = true ∧
        (tokenizer text offset).byteLength ≠ 0
      · obtain ⟨ignoring, ignorable, solid⟩ := skipped
        obtain ⟨inside, further⟩ := lt_past ends within solid
        have nearer : text.utf8ByteSize - past tokenizer text offset < left := by omega
        obtain ⟨place, rest⟩ := ih _ nearer past_le rfl
        exact ⟨place, .comment ignoring ignorable solid rest⟩
      · exact ⟨offset, .here fun ignoring ignorable =>
          Classical.not_not.mp fun solid => skipped ⟨ignoring, ignorable, solid⟩⟩

-- Every walk comes to a token that covers nothing.
theorem exists_visits (ends : tokenizer text text.utf8ByteSize = .endOfText) (ignore : Bool)
    (within : offset ≤ text.utf8ByteSize) : ∃ tokens close, Visits tokenizer text ignore offset tokens close := by
  induction size : text.utf8ByteSize - offset using Nat.strongRecOn generalizing offset with
  | _ left ih =>
      obtain ⟨place, settles⟩ := exists_settles ends ignore within
      by_cases empty : (tokenizer text place).byteLength = 0
      · exact ⟨[], place, .closed settles empty⟩
      · have near := settles.le within
        obtain ⟨inside, further⟩ := lt_past ends (settles.within within) empty
        have nearer : text.utf8ByteSize - past tokenizer text place < left := by omega
        obtain ⟨tokens, close, rest⟩ := ih _ nearer past_le rfl
        exact ⟨_, close, .token settles empty rest⟩

namespace Visits

theorem empty_close (visits : Visits tokenizer text ignore offset tokens close) :
    (tokenizer text close).byteLength = 0 := by
  induction visits with
  | closed _ empty => exact empty
  | token _ _ _ ih => exact ih

-- Every token that is passed is one the tokenizer reports, covers something and is none that is ignored.
theorem passed (visits : Visits tokenizer text ignore offset tokens close)
    (ends : tokenizer text text.utf8ByteSize = .endOfText) (within : offset ≤ text.utf8ByteSize) :
    ∀ item ∈ tokens, item.1 < text.utf8ByteSize ∧ item.2 = tokenizer text item.1 ∧ item.2.byteLength ≠ 0 ∧
      (ignore = true → item.2.isComment = false) := by
  induction visits with
  | closed => exact nofun
  | token settles solid _ ih =>
      have inside := (lt_past ends (settles.within within) solid).1
      refine List.forall_mem_cons.mpr ⟨⟨inside, rfl, solid, fun ignoring => ?_⟩, ih past_le⟩
      exact Bool.eq_false_iff.mpr fun ignorable => solid (settles.kept ignoring ignorable)

theorem ahead (visits : Visits tokenizer text ignore offset tokens close) (within : offset ≤ text.utf8ByteSize) :
    ∀ item ∈ tokens, offset ≤ item.1 := by
  induction visits with
  | closed => exact nofun
  | @token _ place _ _ settles _ _ ih =>
      have near := settles.le within
      have beyond : place ≤ past tokenizer text place := le_past (settles.within within)
      refine List.forall_mem_cons.mpr ⟨near, fun item later => ?_⟩
      exact Nat.le_trans (Nat.le_trans near beyond) (ih past_le item later)

theorem increasing (visits : Visits tokenizer text ignore offset tokens close)
    (ends : tokenizer text text.utf8ByteSize = .endOfText) (within : offset ≤ text.utf8ByteSize) :
    tokens.Pairwise fun one two => one.1 < two.1 := by
  induction visits with
  | closed => exact .nil
  | token settles solid rest ih =>
      have further := (lt_past ends (settles.within within) solid).2
      refine .cons (fun item later => ?_) (ih past_le)
      exact Nat.lt_of_lt_of_le further (rest.ahead past_le item later)

-- The walk goes on where the token before it has ended, from the first token to where it stops.
theorem settles_front (visits : Visits tokenizer text ignore offset tokens close) :
    Settles tokenizer text ignore offset (front tokens close).1 := by
  cases visits with
  | closed settles => exact settles
  | token settles => exact settles

-- Passed over, a comment makes no difference to what is visited behind it.
theorem comment (ignoring : ignore = true) (ignorable : (tokenizer text offset).isComment = true)
    (solid : (tokenizer text offset).byteLength ≠ 0)
    (rest : Visits tokenizer text ignore (past tokenizer text offset) tokens close) :
    Visits tokenizer text ignore offset tokens close := by
  cases rest with
  | closed settles empty => exact .closed (.comment ignoring ignorable solid settles) empty
  | token settles covers rest => exact .token (.comment ignoring ignorable solid settles) covers rest

-- To ignore comments is to leave them out of what is visited.
theorem ignoring (visits : Visits tokenizer text false offset tokens close) :
    Visits tokenizer text true offset (tokens.filter fun token => !token.2.isComment) close := by
  induction visits with
  | closed settles empty =>
      cases settles with
      | here => exact .closed (.here fun _ _ => empty) empty
      | comment ignoring => cases ignoring
  | token settles solid _ ih =>
      cases settles with
      | comment ignoring => cases ignoring
      | here =>
          rw [List.filter_cons]
          split
          · rename_i shown
            refine .token (.here fun _ ignorable => ?_) solid ih
            simp [ignorable] at shown
          · rename_i hidden
            exact ih.comment rfl (by simpa using hidden) solid

theorem inMode (visits : Visits tokenizer text false offset tokens close) (ignore : Bool) :
    Visits tokenizer text ignore offset (tokens.filter fun token => !(ignore && token.2.isComment)) close := by
  cases ignore with
  | true => exact visits.ignoring
  | false =>
      have whole : (tokens.filter fun token => !(false && token.2.isComment)) = tokens :=
        List.filter_eq_self.mpr fun _ _ => rfl
      rwa [whole]

-- A walk that ends where the end is reported meets what a reader of the text meets.
theorem scans (visits : Visits tokenizer text true offset tokens close)
    (ends : tokenizer text text.utf8ByteSize = .endOfText) (within : offset ≤ text.utf8ByteSize)
    (last : tokenizer text close = .endOfText) : Scans tokenizer text offset tokens close := by
  induction visits with
  | closed settles => exact settles.scans ends within (.ended last)
  | @token _ place _ _ settles solid _ ih =>
      have further := (lt_past ends (settles.within within) solid).2
      have significant : (tokenizer text place).isComment = false :=
        Bool.eq_false_iff.mpr fun ignorable => solid (settles.kept rfl ignorable)
      have running : tokenizer text place ≠ .endOfText :=
        fun final => solid (Token.byteLength_eq_zero.mpr (.inl final))
      exact settles.scans ends within (.token significant running further (ih past_le last))

end Visits

-- Where the end is reported nothing is visited.
theorem visits_end (last : tokenizer text offset = .endOfText) (ignore : Bool) :
    Visits tokenizer text ignore offset [] offset := by
  have empty : (tokenizer text offset).byteLength = 0 := Token.byteLength_eq_zero.mpr (.inl last)
  exact .closed (.here fun _ _ => empty) empty

theorem Scans.visits (scans : Scans tokenizer text offset tokens close) :
    Visits tokenizer text true offset tokens close ∧ tokenizer text close = .endOfText := by
  induction scans with
  | ended stop => exact ⟨visits_end stop true, stop⟩
  | comment ignorable advances _ ih => exact ⟨ih.1.comment rfl ignorable (solid_of_advances advances), ih.2⟩
  | token significant _ advances _ ih =>
      refine ⟨.token (.here fun _ ignorable => ?_) (solid_of_advances advances) ih.1, ih.2⟩
      exact absurd (significant.symm.trans ignorable) nofun

namespace PlainCursor

theorem skipComments_settles (ends : tokenizer text text.utf8ByteSize = .endOfText)
    (within : offset ≤ text.utf8ByteSize) (settles : Settles tokenizer text true offset place) :
    skipComments ⟨tokenizer, text, offset, true⟩ = ⟨tokenizer, text, place, true⟩ := by
  induction settles with
  | @here offset stays =>
      rw [skipComments]
      split
      · rename_i ignorable
        have empty : (tokenizer text offset).byteLength = 0 := stays rfl ignorable
        rw [if_neg]
        simp only [behind, here, empty]
        omega
      · rfl
  | @comment offset stop _ ignorable solid _ ih =>
      have further : offset < past tokenizer text offset := (lt_past ends within solid).2
      rw [skipComments]
      simp only [here, behind, ignorable, if_true]
      exact (if_pos further).trans (ih past_le)

-- In either mode a cursor reads where reading settles.
theorem settle_settles (ends : tokenizer text text.utf8ByteSize = .endOfText)
    (within : offset ≤ text.utf8ByteSize) (settles : Settles tokenizer text ignore offset place) :
    settle ⟨tokenizer, text, offset, ignore⟩ = ⟨tokenizer, text, place, ignore⟩ := by
  cases ignore with
  | true => exact skipComments_settles ends within settles
  | false =>
      cases settles with
      | here => rfl
      | comment ignoring => cases ignoring

end PlainCursor

namespace Cursor

-- A cursor at an offset of a text, in a mode. What it remembers is what its tokenizer says.
structure Walks (cursor : Cursor) (tokenizer : Tokenizer) (text : String) (ignore : Bool) (offset : Nat) : Prop
    extends Sound cursor tokenizer where
  plain : cursor.plain = ⟨tokenizer, text, offset, ignore⟩

variable {cursor : Cursor}

theorem Sound.walks (sound : cursor.Sound tokenizer) :
    cursor.Walks tokenizer cursor.source cursor.ignoreComments cursor.offset :=
  ⟨sound, by rw [Cursor.plain, sound.asks]⟩

theorem Walks.position (walks : cursor.Walks tokenizer text ignore offset) : cursor.offset = offset :=
  congrArg PlainCursor.offset walks.plain

theorem Walks.source (walks : cursor.Walks tokenizer text ignore offset) : cursor.source = text :=
  congrArg PlainCursor.source walks.plain

theorem Walks.size (walks : cursor.Walks tokenizer text ignore offset) : cursor.size = text.utf8ByteSize :=
  congrArg PlainCursor.size walks.plain

theorem Walks.inside (walks : cursor.Walks tokenizer text ignore offset) : offset ≤ text.utf8ByteSize := by
  rw [← walks.position, ← walks.size]
  exact walks.within

theorem Walks.remaining (walks : cursor.Walks tokenizer text ignore offset) :
    cursor.remaining = text.utf8ByteSize - offset := congrArg PlainCursor.remaining walks.plain

theorem Walks.current (walks : cursor.Walks tokenizer text ignore offset)
    (ends : tokenizer text text.utf8ByteSize = .endOfText) (settles : Settles tokenizer text ignore offset place) :
    ∃ after, cursor.current = (tokenizer text place, after) ∧ after.Walks tokenizer text ignore place := by
  obtain ⟨after, read, same, sound⟩ := walks.toSound.current
  rw [walks.plain, PlainCursor.settle_settles ends walks.inside settles] at read same
  exact ⟨after, read, sound, same⟩

-- A step at a place where reading has settled, and where the text does not end.
theorem Walks.next_settled (walks : cursor.Walks tokenizer text ignore place)
    (ends : tokenizer text text.utf8ByteSize = .endOfText) (settles : Settles tokenizer text ignore place place)
    (running : tokenizer text place ≠ .endOfText) : ∃ answer after, cursor.next = (answer, after) ∧
      ((tokenizer text place).byteLength = 0 → answer = .error ⟨tokenizer text place, place⟩ ∧
        after.Walks tokenizer text ignore place) ∧
      ((tokenizer text place).byteLength ≠ 0 → answer = .ok () ∧
        after.Walks tokenizer text ignore (past tokenizer text place)) := by
  obtain ⟨answer, after, stepped, plainly, sound⟩ := reflects_next tokenizer cursor walks.toSound
  rw [walks.plain, PlainCursor.next, PlainCursor.settle_settles ends walks.inside settles] at plainly
  have here : (⟨tokenizer, text, place, ignore⟩ : PlainCursor).here = tokenizer text place := rfl
  simp only [here, if_neg running] at plainly
  refine ⟨answer, after, stepped, fun empty => ?_, fun solid => ?_⟩
  · rw [if_pos empty] at plainly
    obtain ⟨rfl, same⟩ := Prod.mk.inj plainly
    exact ⟨rfl, sound, same.symm⟩
  · rw [if_neg solid] at plainly
    obtain ⟨rfl, same⟩ := Prod.mk.inj plainly
    exact ⟨rfl, sound, same.symm⟩

-- A walk ends where the end of the text is reported.
theorem Walks.next?_end (walks : cursor.Walks tokenizer text ignore offset)
    (ends : tokenizer text text.utf8ByteSize = .endOfText) (settles : Settles tokenizer text ignore offset place)
    (last : tokenizer text place = .endOfText) :
    ∃ after : Cursor, cursor.tokens.next? = (none, after.tokens) ∧ after.Walks tokenizer text ignore place := by
  obtain ⟨after, read, walking⟩ := walks.current ends settles
  refine ⟨after, ?_, walking⟩
  simp [Tokens.next?, tokens, read, last]

-- It breaks where another token covers nothing.
theorem Walks.next?_empty (walks : cursor.Walks tokenizer text ignore offset)
    (ends : tokenizer text text.utf8ByteSize = .endOfText) (settles : Settles tokenizer text ignore offset place)
    (running : tokenizer text place ≠ .endOfText) (empty : (tokenizer text place).byteLength = 0) :
    ∃ after : Cursor, cursor.tokens.next? = (some (.error ⟨tokenizer text place, place⟩), ⟨after, true⟩) ∧
      after.Walks tokenizer text ignore place := by
  obtain ⟨there, read, walking⟩ := walks.current ends settles
  obtain ⟨answer, after, stepped, failed, _⟩ := walking.next_settled ends settles.again running
  obtain ⟨rfl, standing⟩ := failed empty
  refine ⟨after, ?_, standing⟩
  simp [Tokens.next?, tokens, read, running, stepped]

-- It goes on behind any other one.
theorem Walks.next?_solid (walks : cursor.Walks tokenizer text ignore offset)
    (ends : tokenizer text text.utf8ByteSize = .endOfText) (settles : Settles tokenizer text ignore offset place)
    (solid : (tokenizer text place).byteLength ≠ 0) :
    ∃ after : Cursor, cursor.tokens.next? = (some (.ok (place, tokenizer text place)), after.tokens) ∧
      after.Walks tokenizer text ignore (past tokenizer text place) := by
  have running : tokenizer text place ≠ .endOfText :=
    fun last => solid (Token.byteLength_eq_zero.mpr (.inl last))
  obtain ⟨there, read, walking⟩ := walks.current ends settles
  obtain ⟨answer, after, stepped, _, moved⟩ := walking.next_settled ends settles.again running
  obtain ⟨rfl, standing⟩ := moved solid
  refine ⟨after, ?_, standing⟩
  simp [Tokens.next?, tokens, read, running, stepped, walking.position]

-- What a walk yields at the token that covers nothing, before it ends.
def failure (token : Token) (offset : Nat) : List TokenItem :=
  if token = .endOfText then [] else [.error ⟨token, offset⟩]

-- All that is visited is yielded, then at most a failure, and nothing after that.
theorem Walks.drain? (walks : cursor.Walks tokenizer text ignore offset)
    (ends : tokenizer text text.utf8ByteSize = .endOfText) (visits : Visits tokenizer text ignore offset tokens close) :
    ∃ ended : Tokens, cursor.tokens.drain? = some (tokens.map .ok ++ failure (tokenizer text close) close, ended) ∧
      ended.cursor.offset = close ∧ ∀ count, (ended.take count).1 = [] := by
  induction visits generalizing cursor with
  | @closed offset close settles empty =>
      by_cases last : tokenizer text close = .endOfText
      · obtain ⟨after, stepped, standing⟩ := walks.next?_end ends settles last
        refine ⟨after.tokens, ?_, standing.position, fun count => ?_⟩
        · rw [Tokens.drain?]
          simp [stepped, failure, last]
        · cases count with
          | zero => rfl
          | succ count =>
              obtain ⟨again, spent, _⟩ := standing.next?_end ends settles.again last
              simp [Tokens.take, spent]
      · obtain ⟨after, stepped, standing⟩ := walks.next?_empty ends settles last empty
        refine ⟨⟨after, true⟩, ?_, standing.position, fun count => ?_⟩
        · rw [Tokens.drain?]
          simp [stepped, failure, last]
        · rw [take_failed]
  | @token offset place close tokens settles solid _ ih =>
      obtain ⟨after, stepped, standing⟩ := walks.next?_solid ends settles solid
      obtain ⟨ended, others, position, spent⟩ := ih standing
      refine ⟨ended, ?_, position, spent⟩
      have nearer : after.remaining < cursor.remaining := by
        have near := settles.le walks.inside
        obtain ⟨inside, further⟩ := lt_past ends (settles.within walks.inside) solid
        rw [standing.remaining, walks.remaining]
        omega
      rw [Tokens.drain?]
      simp only [stepped, others]
      exact if_pos nearer

-- No failure is yielded by a walk that stops at an end of the text.
theorem Walks.drain?_ended (walks : cursor.Walks tokenizer text ignore offset)
    (ends : tokenizer text text.utf8ByteSize = .endOfText) (visits : Visits tokenizer text ignore offset tokens close)
    (last : tokenizer text close = .endOfText) :
    ∃ ended : Tokens, cursor.tokens.drain? = some (tokens.map .ok, ended) ∧ ended.cursor.offset = close := by
  obtain ⟨ended, drained, position, _⟩ := walks.drain? ends visits
  have silent : failure (tokenizer text close) close = [] := if_pos last
  rw [silent, List.append_nil] at drained
  exact ⟨ended, drained, position⟩

end Cursor

end CssSelectors
