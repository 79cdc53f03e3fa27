import CssSelectors.Parser.Run
import CssSelectors.Proofs.Cursor.Scanning
import CssSelectors.Proofs.Parser.Reading

namespace CssSelectors

theorem Token.shape?_eq_none {token : Token} : token.shape? = none ↔ token = .endOfText := by
  cases token <;> simp [Token.shape?]

theorem Token.shape?_symbol {token : Token} {name : Symbol} :
    token.shape? = some (.symbol name) ↔ token.symbol? = some name := by
  cases token <;> simp [Token.shape?, Token.symbol?]

theorem Token.symbol?_iff {token : Token} {name : Symbol} :
    token.symbol? = some name ↔ ∃ lexeme, token = .symbol name lexeme := by
  cases token <;> simp [Token.symbol?]

theorem Shape.term_fits {shape : Shape} {token : Token} :
    shape.term.fits token = true ↔ token.shape? = some shape := by
  cases shape <;> cases token <;> simp [Shape.term, Term.fits, Token.shape?, Token.symbol?]

def Spells (tokens : List (Nat × Token)) (shapes : List Shape) : Prop :=
  tokens.map (fun token => token.2.shape?) = shapes.map some

theorem Spells.length {tokens : List (Nat × Token)} {shapes : List Shape}
    (spells : Spells tokens shapes) : tokens.length = shapes.length := by
  simpa using congrArg List.length spells

theorem Spells.unique {tokens : List (Nat × Token)} {shapes others : List Shape}
    (one : Spells tokens shapes) (two : Spells tokens others) : shapes = others :=
  (List.map_inj_right fun _ _ => Option.some.inj).mp (one.symm.trans two)

theorem Scans.spells {tokenizer : Tokenizer} {text : String} {offset close : Nat}
    {tokens : List (Nat × Token)} (scans : Scans tokenizer text offset tokens close) :
    ∃ shapes, Spells tokens shapes := by
  induction scans with
  | ended => exact ⟨[], rfl⟩
  | comment _ _ _ ih => exact ih
  | @token offset close tokens _ running _ _ ih =>
      obtain ⟨shapes, spells⟩ := ih
      obtain ⟨shape, seen⟩ := Option.ne_none_iff_exists'.mp (mt Token.shape?_eq_none.mp running)
      exact ⟨shape :: shapes, by simp only [Spells, List.map_cons, seen]; rw [spells]⟩

-- Everything that a reader of a text is to meet, comments apart.
structure Course where
  tokenizer : Tokenizer
  text : String
  tokens : List (Nat × Token)
  close : Nat

namespace Course

-- The token that is met when a number of them are left.
def ahead (course : Course) (left : Nat) : Nat × Token :=
  front (course.tokens.drop (course.tokens.length - left)) course.close

theorem ahead_map {one two : Course} {move : Nat × Token → Nat × Token}
    (tokens : two.tokens = one.tokens.map move)
    (ends : move (one.close, .endOfText) = (two.close, .endOfText)) (left : Nat) :
    two.ahead left = move (one.ahead left) := by
  rw [ahead, ahead, tokens, List.length_map, ← List.map_drop]
  exact front_map ends

def missAt (course : Course) (miss : Shape × Nat) : Miss :=
  ⟨miss.1.term, (course.ahead miss.2).1, (course.ahead miss.2).2⟩

-- A cursor on the course before its last tokens, which spell the shapes.
def Stands (course : Course) (cursor : Cursor) (shapes : List Shape) : Prop :=
  ∃ tokens, tokens <:+ course.tokens ∧ Spells tokens shapes ∧
    cursor.Stands course.tokenizer course.text tokens course.close

variable {course : Course} {cursor other : Cursor} {shapes rest : List Shape} {shape : Shape}

theorem ahead_eq {tokens : List (Nat × Token)} (part : tokens <:+ course.tokens)
    (spells : Spells tokens shapes) : course.ahead shapes.length = front tokens course.close := by
  rw [ahead, ← spells.length, ← List.suffix_iff_eq_drop.mp part]

theorem Stands.current (stands : course.Stands cursor shapes) :
    cursor.current.1 = (course.ahead shapes.length).2 ∧
      cursor.current.2.offset = (course.ahead shapes.length).1 ∧
      cursor.current.1.shape? = shapes.head? ∧ cursor.offset ≤ cursor.current.2.offset ∧
      course.Stands cursor.current.2 shapes := by
  obtain ⟨tokens, part, spells, standing⟩ := stands
  obtain ⟨read, position, moved⟩ := standing.current
  rw [ahead_eq part spells]
  refine ⟨read, position, ?_, position ▸ standing.scans.le_front, tokens, part, spells, moved⟩
  rw [read]
  cases tokens with
  | nil =>
      cases shapes with
      | nil => rfl
      | cons => cases spells
  | cons token tokens =>
      cases shapes with
      | nil => cases spells
      | cons shape shapes => exact (List.cons.inj spells).1

theorem Stands.next (stands : course.Stands cursor (shape :: shapes)) :
    ∃ moved, cursor.next = (.ok (), moved) ∧ course.Stands moved shapes ∧
      cursor.offset < moved.offset := by
  obtain ⟨tokens, part, spells, standing⟩ := stands
  cases tokens with
  | nil => cases spells
  | cons token tokens =>
      obtain ⟨moved, stepped, after, further⟩ := standing.next
      refine ⟨moved, stepped, ⟨tokens, ?_, (List.cons.inj spells).2, after⟩, ?_⟩
      · exact (List.suffix_cons _ _).trans part
      · exact Nat.lt_of_le_of_lt standing.scans.le_front further

theorem Stands.seek (stands : course.Stands cursor shapes) (reading : course.Stands other rest) :
    course.Stands (other.seek cursor.offset) shapes ∧
      (other.seek cursor.offset).offset = cursor.offset := by
  obtain ⟨tokens, part, spells, standing⟩ := stands
  obtain ⟨_, _, _, reads⟩ := reading
  obtain ⟨sought, position⟩ := standing.seek reads.toReads
  exact ⟨⟨tokens, part, spells, sought⟩, position⟩

theorem Stands.remaining (stands : course.Stands cursor shapes) (others : course.Stands other rest)
    (less : cursor.offset < other.offset) : other.remaining < cursor.remaining := by
  obtain ⟨_, _, _, standing⟩ := stands
  obtain ⟨_, _, _, moved⟩ := others
  exact standing.toReads.remaining_lt moved.toReads moved.within less

end Course

def blame (context : List Term) (misses : List Miss) (here : Nat × Token) : SelectorError :=
  match Frontier.ofMisses? misses with
  | some frontier => .mismatch context frontier.expected frontier.found frontier.offset
  | none => .mismatch context context here.2 here.1

-- What a recognizer answers when a reading of the course comes to its verdict.
def Course.Answers (course : Course) (reading : Reading) (misses : List Miss) (outcome : Outcome) :
    Prop :=
  match reading.verdict with
  | .matched => outcome = .ok true
  | .missed => outcome = .ok false
  | .failed context => outcome = .error (blame context misses (course.ahead reading.rest.length))
  | .endless => False

-- A recognizer has done on the cursor what a reading does with the shapes.
structure Follows (course : Course) (before : Parser) (shapes : List Shape)
    (ran : Outcome × Parser) (reading : Reading) : Prop where
  depth : ran.2.depth = before.depth
  misses : ran.2.misses = reading.misses.map course.missAt ++ before.misses
  stands : course.Stands ran.2.cursor reading.rest
  onward : before.cursor.offset ≤ ran.2.cursor.offset
  advances : reading.rest.length < shapes.length → before.cursor.offset < ran.2.cursor.offset
  answers : course.Answers reading ran.2.misses ran.1

-- A recognizer does the same as a reader wherever it starts.
def Simulates (course : Course) (top : Bool) (recognizer : Recognizer) (reader : Reader) : Prop :=
  ∀ parser shapes, decide (parser.depth = 0) = top → course.Stands parser.cursor shapes →
    Follows course parser shapes (recognizer parser) (reader shapes)

variable {course : Course} {top : Bool} {recognizer head tail : Recognizer}
  {reader heading tailing : Reader} {before middle : Parser} {shapes : List Shape}
  {ran : Outcome × Parser} {outcome : Outcome} {reading later : Reading}

theorem Follows.comes (follows : Follows course before shapes ran reading) :
    (∃ after, ran = (.ok true, after) ∧ reading.verdict = .matched) ∨
      (∃ after, ran = (.ok false, after) ∧ reading.verdict = .missed) ∨
      ∃ context after, reading.verdict = .failed context ∧
        ran = (.error (blame context after.misses (course.ahead reading.rest.length)), after) := by
  obtain ⟨outcome, after⟩ := ran
  have answers := follows.answers
  unfold Course.Answers at answers
  cases verdict : reading.verdict with
  | matched => exact .inl ⟨after, by simpa [verdict] using answers, rfl⟩
  | missed => exact .inr (.inl ⟨after, by simpa [verdict] using answers, rfl⟩)
  | failed context => exact .inr (.inr ⟨context, after, rfl, by simpa [verdict] using answers⟩)
  | endless => simp [verdict] at answers

theorem Follows.join (first : Follows course before shapes (outcome, middle) reading)
    (second : Follows course middle reading.rest ran later) :
    Follows course before shapes ran (later.after reading.misses) := by
  refine ⟨second.depth.trans first.depth, ?_, second.stands,
    Nat.le_trans first.onward second.onward, ?_, second.answers⟩
  · rw [second.misses, first.misses, Reading.after, List.map_append, List.append_assoc]
  · intro shorter
    by_cases early : reading.rest.length < shapes.length
    · exact Nat.lt_of_lt_of_le (first.advances early) second.onward
    · have late : later.rest.length < reading.rest.length :=
        Nat.lt_of_lt_of_le shorter (Nat.le_of_not_lt early)
      exact Nat.lt_of_le_of_lt first.onward (second.advances late)

theorem Follows.decided {verdict : Verdict} {answer : Outcome}
    (follows : Follows course before shapes (outcome, middle) reading)
    (answers : course.Answers { reading with verdict } middle.misses answer) :
    Follows course before shapes (answer, middle) { reading with verdict } :=
  ⟨follows.depth, follows.misses, follows.stands, follows.onward, follows.advances, answers⟩

theorem Follows.failing {context : List Term}
    (follows : Follows course before shapes (outcome, middle) reading) :
    Follows course before shapes
      (.error (middle.mismatch context).1, (middle.mismatch context).2)
      { reading with verdict := .failed context } := by
  obtain ⟨depth, misses, stands, onward, advances, _⟩ := follows
  obtain ⟨read, position, _, near, moved⟩ := stands.current
  unfold Parser.mismatch
  cases reached : Frontier.ofMisses? middle.misses with
  | some frontier =>
      refine ⟨depth, misses, stands, onward, advances, ?_⟩
      simp [Course.Answers, blame, reached]
  | none =>
      refine ⟨depth, misses, moved, Nat.le_trans onward near, ?_, ?_⟩
      · exact fun shorter => Nat.lt_of_lt_of_le (advances shorter) near
      · simp [Course.Answers, blame, reached, Parser.withCursor, read, position]

namespace Simulates

theorem consume {parser : Parser} {shape : Shape} {rest : List Shape}
    (stands : course.Stands parser.cursor (shape :: rest)) :
    Follows course parser (shape :: rest) parser.consume ⟨.matched, rest, []⟩ := by
  obtain ⟨moved, stepped, standing, further⟩ := stands.next
  simp only [Parser.consume, stepped]
  exact ⟨rfl, rfl, standing, Nat.le_of_lt further, fun _ => further, rfl⟩

theorem looked {parser : Parser} (stands : course.Stands parser.cursor shapes)
    (follows : Follows course (parser.withCursor parser.cursor.current.2) shapes ran reading) :
    Follows course parser shapes ran reading := by
  obtain ⟨_, _, _, near, _⟩ := stands.current
  exact ⟨follows.depth, follows.misses, follows.stands, Nat.le_trans near follows.onward,
    fun shorter => Nat.lt_of_le_of_lt near (follows.advances shorter), follows.answers⟩

theorem token (shape : Shape) :
    Simulates course top (Parser.acceptToken shape.term) (Reading.take shape) := by
  intro parser shapes _ stands
  obtain ⟨read, position, seen, near, moved⟩ := stands.current
  obtain ⟨sought, back⟩ := stands.seek moved
  cases shapes with
  | nil =>
      have unfit : shape.term.fits parser.cursor.current.1 = false := by
        rw [Bool.eq_false_iff, ne_eq, Shape.term_fits, seen]
        nofun
      simp only [Parser.acceptToken, unfit, Reading.take]
      refine ⟨rfl, ?_, sought, Nat.le_of_eq back.symm, fun shorter => by simp at shorter, rfl⟩
      simp [Course.missAt, position, read]
  | cons first rest =>
      by_cases same : shape = first
      · subst same
        have fits : shape.term.fits parser.cursor.current.1 = true := by
          rw [Shape.term_fits, seen, List.head?_cons]
        simp only [Parser.acceptToken, fits, if_true, Reading.take]
        exact looked stands (consume moved)
      · have unfit : shape.term.fits parser.cursor.current.1 = false := by
          rw [Bool.eq_false_iff, ne_eq, Shape.term_fits, seen, List.head?_cons]
          exact fun other => same (Option.some.inj other).symm
        simp only [Parser.acceptToken, unfit, Reading.take, same, if_false]
        refine ⟨rfl, ?_, sought, Nat.le_of_eq back.symm, fun shorter => absurd shorter ?_, rfl⟩
        · simp [Course.missAt, position, read]
        · exact Nat.lt_irrefl _

theorem space : Simulates course top Parser.acceptSpace Reading.takeSpace := by
  intro parser shapes _ stands
  obtain ⟨_, _, seen, near, moved⟩ := stands.current
  have spaced : parser.cursor.current.1.symbol? = some .space ↔ shapes.head? = some Shape.space := by
    rw [← seen]
    cases parser.cursor.current.1 <;> simp [Token.symbol?, Token.shape?, Shape.space]
  cases shapes with
  | nil =>
      have other : parser.cursor.current.1.symbol? ≠ some .space := by simp [spaced]
      simp only [Parser.acceptSpace, other, if_false, Reading.takeSpace]
      exact ⟨rfl, rfl, moved, near, fun shorter => by simp at shorter, rfl⟩
  | cons first rest =>
      simp only [List.head?_cons, Option.some.injEq] at spaced
      by_cases same : first = Shape.space
      · simp only [Parser.acceptSpace, spaced.mpr same, if_true, Reading.takeSpace]
        subst same
        exact looked stands (consume moved)
      · simp only [Parser.acceptSpace, mt spaced.mp same, if_false, Reading.takeSpace, same]
        exact ⟨rfl, rfl, moved, near, fun shorter => absurd shorter (Nat.lt_irrefl _), rfl⟩

theorem more : Simulates course top Parser.moreText Reading.more := by
  intro parser shapes _ stands
  obtain ⟨_, _, seen, near, moved⟩ := stands.current
  cases shapes with
  | nil =>
      have ended := Token.shape?_eq_none.mp seen
      simp only [Parser.moreText, Cursor.valid, ended, Token.isEnd, Reading.more]
      exact ⟨rfl, rfl, moved, near, fun shorter => by simp at shorter, rfl⟩
  | cons first rest =>
      have running : parser.cursor.current.1 ≠ .endOfText := by
        intro ended
        rw [ended] at seen
        cases seen
      simp only [Parser.moreText, Cursor.valid, Token.isEnd, Reading.more]
      exact ⟨rfl, rfl, moved, near, fun shorter => absurd shorter (Nat.lt_irrefl _), by
        simp [Course.Answers, running]⟩

theorem pass : Simulates course top Parser.pass Reading.pass := by
  intro parser shapes _ stands
  exact ⟨rfl, rfl, stands, Nat.le_refl _, fun shorter => absurd shorter (Nat.lt_irrefl _), rfl⟩

theorem andThen (first : Simulates course top head heading) (second : Simulates course top tail tailing) :
    Simulates course top
      (fun parser => match head parser with
        | (.ok true, matched) => tail matched
        | other => other)
      (fun shapes => (heading shapes).andThen tailing) := by
  intro parser shapes depth stands
  have headed := first parser shapes depth stands
  rcases headed.comes with ⟨middle, ran, verdict⟩ | ⟨middle, ran, verdict⟩ |
    ⟨context, middle, verdict, ran⟩
  · rw [ran] at headed
    have going := second middle (heading shapes).rest (headed.depth ▸ depth) headed.stands
    simpa only [ran, Reading.andThen, verdict] using headed.join going
  · simpa only [ran, Reading.andThen, verdict] using headed
  · simpa only [ran, Reading.andThen, verdict] using headed

theorem orElse (first : Simulates course top head heading) (second : Simulates course top tail tailing) :
    Simulates course top
      (fun parser => match head parser with
        | (.ok false, missed) => tail missed
        | other => other)
      (fun shapes => (heading shapes).orElse tailing) := by
  intro parser shapes depth stands
  have headed := first parser shapes depth stands
  rcases headed.comes with ⟨middle, ran, verdict⟩ | ⟨middle, ran, verdict⟩ |
    ⟨context, middle, verdict, ran⟩
  · simpa only [ran, Reading.orElse, verdict] using headed
  · rw [ran] at headed
    have going := second middle (heading shapes).rest (headed.depth ▸ depth) headed.stands
    simpa only [ran, Reading.orElse, verdict] using headed.join going
  · simpa only [ran, Reading.orElse, verdict] using headed

theorem optional (simulates : Simulates course top recognizer reader) :
    Simulates course top
      (fun parser => match recognizer parser with
        | (.ok _, tried) => (.ok true, tried)
        | other => other)
      (fun shapes => (reader shapes).decided .matched .matched) := by
  intro parser shapes depth stands
  have tried := simulates parser shapes depth stands
  rcases tried.comes with ⟨middle, ran, verdict⟩ | ⟨middle, ran, verdict⟩ |
    ⟨context, middle, verdict, ran⟩
  · simp only [ran, Reading.decided, verdict]
    exact (ran ▸ tried).decided rfl
  · simp only [ran, Reading.decided, verdict]
    exact (ran ▸ tried).decided rfl
  · simpa only [ran, Reading.decided, verdict] using tried

theorem absent (simulates : Simulates course top recognizer reader) :
    Simulates course top
      (fun parser => match recognizer parser with
        | (.ok matched, tried) => (.ok !matched, tried)
        | other => other)
      (fun shapes => (reader shapes).decided .missed .matched) := by
  intro parser shapes depth stands
  have tried := simulates parser shapes depth stands
  rcases tried.comes with ⟨middle, ran, verdict⟩ | ⟨middle, ran, verdict⟩ |
    ⟨context, middle, verdict, ran⟩
  · simp only [ran, Reading.decided, verdict]
    exact (ran ▸ tried).decided rfl
  · simp only [ran, Reading.decided, verdict]
    exact (ran ▸ tried).decided rfl
  · simpa only [ran, Reading.decided, verdict] using tried

theorem required (context : List Term) (simulates : Simulates course top recognizer reader) :
    Simulates course top
      (fun parser => match recognizer parser with
        | (.ok false, missed) =>
          if missed.depth = 0 then
            let failed := missed.mismatch context
            (.error failed.1, failed.2)
          else (.ok false, missed)
        | other => other)
      (fun shapes =>
        (reader shapes).decided .matched (if top then .failed context else .missed)) := by
  intro parser shapes depth stands
  have tried := simulates parser shapes depth stands
  rcases tried.comes with ⟨middle, ran, verdict⟩ | ⟨middle, ran, verdict⟩ |
    ⟨context, middle, verdict, ran⟩
  · simp only [ran, Reading.decided, verdict]
    exact (ran ▸ tried).decided rfl
  · rw [ran] at tried
    rw [← tried.depth] at depth
    simp only [ran, Reading.decided, verdict]
    cases top with
    | false =>
        rw [if_neg (of_decide_eq_false depth)]
        exact tried.decided rfl
    | true =>
        rw [if_pos (of_decide_eq_true depth)]
        exact tried.failing
  · simpa only [ran, Reading.decided, verdict] using tried

theorem attempt (production : Production) (simulates : Simulates course top recognizer reader) :
    Simulates course top (Parser.attempt production recognizer) reader := by
  intro parser shapes depth stands
  unfold Parser.attempt
  split
  · exact simulates parser shapes depth stands
  · have ran := simulates { parser with trace := some [] } shapes depth stands
    exact ⟨ran.depth, ran.misses, ran.stands, ran.onward, ran.advances, ran.answers⟩

theorem production (name : Production) (simulates : Simulates course false recognizer reader) :
    Simulates course top (Parser.acceptProduction name recognizer)
      (fun shapes => (reader shapes).restoring shapes) := by
  intro parser shapes _ stands
  have ran := simulates.attempt name { parser with depth := parser.depth + 1 } shapes
    (by simp) stands
  have depth : ∀ after : Parser, after.depth = parser.depth + 1 → after.depth - 1 = parser.depth := by
    intro after deeper
    omega
  simp only [Parser.acceptProduction]
  rcases ran.comes with ⟨middle, came, verdict⟩ | ⟨middle, came, verdict⟩ |
    ⟨context, middle, verdict, came⟩
  · rw [came] at ran ⊢
    simp only [Reading.restoring, verdict]
    exact ⟨depth _ ran.depth, ran.misses, ran.stands, ran.onward, ran.advances, ran.answers⟩
  · rw [came] at ran ⊢
    obtain ⟨sought, back⟩ := stands.seek ran.stands
    simp only [Reading.restoring, verdict]
    exact ⟨depth _ ran.depth, ran.misses, sought, Nat.le_of_eq back.symm,
      fun shorter => absurd shorter (Nat.lt_irrefl _), rfl⟩
  · rw [came] at ran ⊢
    simp only [Reading.restoring, verdict]
    exact ⟨depth _ ran.depth, ran.misses, ran.stands, ran.onward, ran.advances, ran.answers⟩

theorem repeatWhile (first : Simulates course top head heading)
    (second : Simulates course top tail tailing)
    (ends : ∀ shapes, (Reading.repeatWhile heading tailing shapes).verdict ≠ .endless) :
    Simulates course top (Parser.repeatWhile head tail) (Reading.repeatWhile heading tailing) := by
  intro parser shapes depth stands
  induction size : shapes.length using Nat.strongRecOn generalizing parser shapes with
  | _ size ih =>
      have headed := first parser shapes depth stands
      have ending := ends shapes
      rw [Reading.repeatWhile] at ending ⊢
      rw [Parser.repeatWhile]
      rcases headed.comes with ⟨middle, ran, verdict⟩ | ⟨middle, ran, verdict⟩ |
        ⟨context, middle, verdict, ran⟩
      · rw [ran] at headed
        have tailed := headed.join
          (second middle (heading shapes).rest (headed.depth ▸ depth) headed.stands)
        simp only [ran, verdict] at ending ⊢
        rcases tailed.comes with ⟨next, came, again⟩ | ⟨next, came, again⟩ |
          ⟨context, next, again, came⟩
        · rw [came] at tailed
          simp only [came, again] at ending ⊢
          by_cases less :
              ((tailing (heading shapes).rest).after (heading shapes).misses).rest.length < shapes.length
          · have nearer : next.remaining < parser.remaining :=
              stands.remaining tailed.stands (tailed.advances less)
            rw [if_pos less, if_pos nearer]
            have going := ih _ (size ▸ less) next _ (tailed.depth ▸ depth) tailed.stands rfl
            exact tailed.join going
          · simp [less] at ending
        · simpa only [came, again] using tailed
        · simpa only [came, again] using tailed
      · simp only [ran, verdict]
        exact (ran ▸ headed).decided rfl
      · simpa only [ran, verdict] using headed

end Simulates

-- A productive phrase is recognized on a cursor as it reads shapes.
theorem Phrase.simulates {phrase : Phrase} (productive : phrase.productive = true) (top : Bool) :
    Simulates course top phrase.run (phrase.read top) := by
  induction phrase generalizing top with
  | char c => exact .token (.literal c)
  | symbol name => exact .token (.symbol name)
  | production name body ih => exact .production name (ih productive false)
  | spaces =>
      have whole : Phrase.spaces.productive = true := rfl
      exact .repeatWhile .space .pass fun _ => (Phrase.read_fair whole top _).ends
  | fail =>
      intro parser shapes _ stands
      exact ⟨rfl, rfl, stands, Nat.le_refl _, fun shorter => absurd shorter (Nat.lt_irrefl _), rfl⟩
  | either first second one two =>
      obtain ⟨left, right⟩ := Bool.and_eq_true_iff.mp productive
      exact (one left top).orElse (two right top)
  | both first second one two =>
      obtain ⟨left, right⟩ := Bool.and_eq_true_iff.mp productive
      exact (one left top).andThen (two right top)
  | optional phrase ih => exact (ih productive top).optional
  | absent phrase ih => exact (ih productive top).absent
  | many phrase ih =>
      obtain ⟨inside, _⟩ := Bool.and_eq_true_iff.mp productive
      exact (ih inside top).repeatWhile .pass fun _ =>
        (Phrase.read_fair productive top _).ends
  | toEnd phrase ih =>
      obtain ⟨inside, _⟩ := Bool.and_eq_true_iff.mp productive
      exact Simulates.more.repeatWhile (ih inside top) fun _ =>
        (Phrase.read_fair productive top _).ends
  | required phrase ih => exact (ih productive top).required phrase.terms

end CssSelectors
