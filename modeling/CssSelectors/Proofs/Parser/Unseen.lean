import CssSelectors.Proofs.Parser.Parallel

-- Nothing looks at the trace, nor at the depth but for whether an attempt is under way.
namespace CssSelectors.Parser

-- Two parsers at the same place, of which nothing is said how deep they are.
structure Level (one two : Parser) : Prop where
  cursor : two.cursor = one.cursor
  misses : two.misses = one.misses

-- Both are inside an attempt, or neither is.
structure Beside (one two : Parser) : Prop extends Level one two where
  outside : two.depth = 0 ↔ one.depth = 0

variable {one two three : Parser} {recognizer : Recognizer}

theorem Level.withCursor (level : Level one two) (cursor : Cursor) :
    Level (one.withCursor cursor) (two.withCursor cursor) := ⟨rfl, level.misses⟩

theorem Beside.refl (parser : Parser) : Beside parser parser := ⟨⟨rfl, rfl⟩, .rfl⟩

theorem Beside.symm (beside : Beside one two) : Beside two one :=
  ⟨⟨beside.cursor.symm, beside.misses.symm⟩, beside.outside.symm⟩

theorem Beside.trans (left : Beside one two) (right : Beside two three) : Beside one three :=
  ⟨⟨right.cursor.trans left.cursor, right.misses.trans left.misses⟩, right.outside.trans left.outside⟩

theorem Beside.withCursor (beside : Beside one two) (cursor : Cursor) :
    Beside (one.withCursor cursor) (two.withCursor cursor) :=
  ⟨beside.toLevel.withCursor cursor, beside.outside⟩

theorem Level.deeper (level : Level one two) :
    Beside { one with depth := one.depth + 1 } { two with depth := two.depth + 1 } :=
  ⟨⟨level.cursor, level.misses⟩, by simp⟩

theorem level_consume : Agrees Level id consume := by
  intro one two level
  simp only [consume, level.cursor]
  rcases one.cursor.next with ⟨failure | _, moved⟩
  · exact ⟨_, _, _, rfl, rfl, level.withCursor moved⟩
  · exact ⟨_, _, _, rfl, rfl, level.withCursor moved⟩

theorem level_acceptToken (term : Term) : Agrees Level id (acceptToken term) := by
  intro one two level
  simp only [acceptToken, level.cursor]
  split
  · exact level_consume _ _ (level.withCursor _)
  · exact ⟨_, _, _, rfl, rfl, rfl, congrArg (List.cons _) level.misses⟩

theorem level_acceptSpace : Agrees Level id acceptSpace := by
  intro one two level
  simp only [acceptSpace, level.cursor]
  split
  · exact level_consume _ _ (level.withCursor _)
  · exact ⟨_, _, _, rfl, rfl, level.withCursor _⟩

theorem level_moreText : Agrees Level id moreText := by
  intro one two level
  simp only [moreText, level.cursor]
  exact ⟨_, _, _, rfl, rfl, level.withCursor _⟩

-- What does not look at the depth stays beside itself, as it keeps the depth.
theorem Agrees.beside (agrees : Agrees Level id recognizer) (keeping : Keeping recognizer) :
    Agrees Beside id recognizer := by
  intro one two beside
  obtain ⟨outcome, first, second, ran, also, ended⟩ := agrees one two beside.toLevel
  have deep := (keeping one).depth
  have deeper := (keeping two).depth
  rw [ran] at deep
  rw [also] at deeper
  exact ⟨outcome, first, second, ran, also, ended, by rw [deep, deeper, beside.outside]⟩

-- With a trace an attempt starts an empty one for what it is to try, without one it goes on as it is.
theorem attempt_beside (production : Production) (recognizer : Recognizer) (parser : Parser) :
    ∃ begun : Parser, Beside parser begun ∧
      (attempt production recognizer parser).1 = (recognizer begun).1 ∧
      Beside (recognizer begun).2 (attempt production recognizer parser).2 := by
  unfold attempt
  cases parser.trace with
  | none => exact ⟨parser, .refl parser, rfl, .refl _⟩
  | some before =>
      exact ⟨{ parser with trace := some [] }, ⟨⟨rfl, rfl⟩, .rfl⟩, rfl, ⟨rfl, rfl⟩, .rfl⟩

theorem agrees_attempt (production : Production) (agrees : Agrees Beside id recognizer) :
    Agrees Beside id (attempt production recognizer) := by
  intro one two beside
  obtain ⟨first, start, answer, ended⟩ := attempt_beside production recognizer one
  obtain ⟨second, begun, also, last⟩ := attempt_beside production recognizer two
  obtain ⟨outcome, after, other, ran, came, close⟩ :=
    agrees first second (start.symm.trans (beside.trans begun))
  rw [ran] at answer ended
  rw [came] at also last
  exact ⟨outcome, (attempt production recognizer one).2, (attempt production recognizer two).2,
    Prod.ext answer rfl, Prod.ext also rfl, ended.symm.trans (close.trans last)⟩

theorem parallel_beside : Parallel Beside id where
  outside beside := beside.outside
  round begun ended := by rw [remaining, remaining, remaining, remaining, begun.cursor, ended.cursor]
  endless beside := by rw [beside.cursor, id]
  token term := (level_acceptToken term).beside (keeping_acceptToken term)
  space := level_acceptSpace.beside keeping_acceptSpace
  more := level_moreText.beside keeping_moreText
  mismatch := by
    intro one two context beside
    simp only [mismatch, beside.misses, beside.cursor]
    split
    · exact ⟨_, _, _, rfl, rfl, beside⟩
    · exact ⟨_, _, _, rfl, rfl, beside.withCursor _⟩
  attempt production _ agrees := agrees_attempt production agrees
  deeper beside := beside.toLevel.deeper
  back begun ended := by
    rw [begun.cursor, ended.cursor]
    exact ended.withCursor _
  higher begun ended deep also := by
    refine ⟨⟨ended.cursor, ended.misses⟩, ?_⟩
    have outside := begun.outside
    simp only [deep, also]
    omega

-- A production is gone into at whatever depth, so it does not matter at which.
theorem level_acceptProduction (production : Production) (agrees : Agrees Beside id recognizer) :
    Agrees Level id (acceptProduction production recognizer) := by
  intro one two level
  obtain ⟨outcome, first, second, ran, also, ended⟩ := agrees_attempt production agrees _ _ level.deeper
  simp only [acceptProduction, ran, also]
  rcases outcome with failure | _ | _
  · exact ⟨_, _, _, rfl, rfl, ended.cursor, ended.misses⟩
  · refine ⟨_, _, _, rfl, rfl, ?_, ended.misses⟩
    simp only [Except.mapError, ended.cursor, level.cursor]
  · exact ⟨_, _, _, rfl, rfl, ended.cursor, ended.misses⟩

end CssSelectors.Parser
