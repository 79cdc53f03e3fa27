import CssSelectors.Proofs.Consumption
import CssSelectors.Proofs.Parser.Stopping
import CssSelectors.Proofs.Separation

-- A text that is rejected was read up to the end of a selector group, or behind the comma after one.
namespace CssSelectors

variable {text : String} {shapes rest first last : List Shape} {tokens : List (Nat × Token)} {close : Nat}
  {cursor : Cursor} {shape : Shape}

namespace Spells

theorem parts (spells : Spells tokens (first ++ last)) :
    ∃ before after, tokens = before ++ after ∧ Spells before first ∧ Spells after last := by
  rw [Spells, List.map_append] at spells
  exact List.map_eq_append_iff.mp spells

-- Of the tokens that spell some shapes each has its own, with comments only between them.
theorem at_shape (spells : Spells (significant tokens) (first ++ shape :: last)) :
    ∃ before place token after, tokens = before ++ (place, token) :: after ∧
      Spells (significant before) first ∧ token.shape? = some shape ∧ Spells (significant after) last := by
  obtain ⟨early, late, whole, ahead, behind⟩ := spells.parts
  obtain ⟨before, others, rfl, rfl, rfl⟩ := List.filter_eq_append_iff.mp whole
  obtain ⟨entry, more, opened, seen, further⟩ := List.map_eq_cons_iff.mp behind
  obtain ⟨comments, after, rfl, ignored, _, rfl⟩ := List.filter_eq_cons_iff.mp opened
  have nothing : significant comments = [] := by
    rw [significant, List.filter_eq_nil_iff]
    exact ignored
  refine ⟨before ++ comments, entry.1, entry.2, after, (List.append_assoc ..).symm, ?_, seen, further⟩
  rw [significant_append, nothing, List.append_nil]
  exact ahead

theorem all_gaps (spells : Spells (significant tokens) shapes)
    (spaces : ∀ shape ∈ shapes, shape = Shape.space) :
    ∀ token ∈ tokens, token.2.isGap = true := by
  intro token present
  cases comment : token.2.isComment with
  | true => rw [Token.isGap, comment, Bool.true_or]
  | false =>
      have seen : token.2.shape? ∈ shapes.map some := by
        rw [← spells]
        exact List.mem_map_of_mem (List.mem_filter.mpr ⟨present, by rw [comment]; rfl⟩)
      obtain ⟨shape, among, same⟩ := List.mem_map.mp seen
      rw [isGap_of_shape comment same.symm, spaces shape among]
      rfl

end Spells

-- A reader that has settled is at the token that comes next.
theorem Cursor.Stands.at_front {tokenizer : Tokenizer} (stands : cursor.Stands tokenizer text tokens close)
    (settled : cursor.Settled) : cursor.offset = (CssSelectors.front tokens close).1 :=
  settled.current.2.symm.trans stands.current.2.1

-- A reader cuts the text in two, and has spelled what is in front of it.
theorem Cursor.Covers.parts (covers : cursor.Covers text) (stands : (course text).Stands cursor rest)
    (spells : Spells (significant (tokenize text)) shapes) :
    ∃ (front back : String) (read : List Shape), text = front ++ back ∧ front.utf8ByteSize = cursor.offset ∧
      shapes = read ++ rest ∧ Spells (significant (tokenize front)) read := by
  obtain ⟨done, others, tokens, position, _⟩ := covers.standing
  obtain ⟨front, back, rfl, opened, later, width⟩ := exists_tokenize_split tokens
  rw [← position] at width
  have ahead := scanAll_scans back.toList front.toList
  rw [← String.toList_append, String.ofList_toList, Text.byteLength_toList, Text.byteLength_toList, width]
    at ahead
  rw [tokenize, ← scanAll_add, Nat.zero_add, width] at later
  obtain ⟨remaining, _, spelled, standing⟩ := stands
  obtain ⟨rfl, _⟩ := standing.scans.unique ahead
  rw [later] at spelled
  rw [tokens, significant_append, ← opened] at spells
  obtain ⟨read, left, rfl, before, behind⟩ := spells.split
  exact ⟨front, back, read, rfl, width, by rw [behind.unique spelled], before⟩

-- What was consumed of a text when an error speaks of a context.
inductive Consumed (text : String) : List Term → Nat → Prop where
  | start : Consumed text [.production .selector] 0
  | comma {front back : String} (parts : text = front ++ back) (group : isValid front = true)
      (significant : (tokenAt text front.utf8ByteSize).isComment = false)
      (running : tokenAt text front.utf8ByteSize ≠ .endOfText)
      (other : (tokenAt text front.utf8ByteSize).symbol? ≠ some .comma) :
      Consumed text [.symbol .comma] front.utf8ByteSize
  | selector {front between back lexeme : String} {gaps : List (Nat × Token)}
      (parts : text = front ++ between ++ back) (group : isValid front = true)
      (tokens : tokenize (front ++ between) =
        tokenize front ++ (front.utf8ByteSize, .symbol .comma lexeme) :: gaps)
      (spaces : ∀ token ∈ gaps, token.2.isGap = true) :
      Consumed text [.production .selector] (front ++ between).utf8ByteSize

-- A complete group is in front of a reader that is stuck.
theorem consumed_stuck {context : List Term} {group middle : List Shape} (covers : cursor.Covers text)
    (stands : (course text).Stands cursor rest)
    (spells : Spells (significant (tokenize text)) (group ++ middle))
    (accepted : State.start.accepts group = true) (running : middle ≠ [])
    (stuck : Phrase.Stuck context middle rest)
    (settled : context = [.symbol .comma] → cursor.Settled) :
    Consumed text context cursor.offset := by
  obtain ⟨front, back, read, parts, width, shapes, before⟩ := covers.parts stands spells
  rw [← width]
  cases stuck with
  | comma other =>
      obtain rfl := List.append_cancel_right shapes
      obtain ⟨tokens, _, spelled, standing⟩ := stands
      obtain ⟨shape, more, rfl⟩ := List.exists_cons_of_ne_nil running
      obtain ⟨token, others, rfl, seen, _⟩ := List.map_eq_cons_iff.mp spelled
      obtain ⟨significant, ending, _⟩ := standing.scans.uncons
      have here := standing.at_front (settled rfl)
      have reported : tokenAt text token.1 = token.2 := standing.scans.front_token
      rw [front_cons, ← width] at here
      rw [← here] at reported
      refine .comma parts ((isValid_iff before).mpr accepted) (reported ▸ significant) (reported ▸ ending) ?_
      rw [reported, ne_eq, ← Token.shape?_symbol, seen]
      exact other
  | selector spaces =>
      rw [← List.append_assoc] at shapes
      obtain rfl := List.append_cancel_right shapes
      obtain ⟨early, place, token, after, tokens, ahead, seen, behind⟩ := before.at_shape
      obtain ⟨lexeme, rfl⟩ := Token.symbol?_iff.mp (Token.shape?_symbol.mp seen)
      obtain ⟨first, between, rfl, opened, _, begins⟩ := exists_tokenize_split tokens
      obtain rfl : first.utf8ByteSize = place := begins
      rw [← opened] at tokens
      rw [← opened] at ahead
      exact .selector parts ((isValid_iff ahead).mpr accepted) tokens (behind.all_gaps spaces)

-- The farthest of what was tried is not nearer than where the reading ended.
theorem Course.Begun.behind {course : Course} {reading : Reading} (begun : course.Begun shapes)
    (context : List Term) (stands : course.Stands cursor reading.rest)
    (within : reading.rest.length ≤ shapes.length) (blamed : Phrase.Blamed reading) :
    cursor.offset ≤ (course.ahead (reading.fault context).left).1 := by
  obtain ⟨miss, noted, near⟩ := blamed
  obtain ⟨_, position, _, reached, _⟩ := stands.current
  rw [position] at reached
  obtain ⟨place, found⟩ := Option.ne_none_iff_exists'.mp
    (mt Reading.farthest?_eq_none.mp (List.ne_nil_of_mem noted))
  have left : (reading.fault context).left = place.1 := by rw [Reading.fault, found]
  have least := Nat.le_trans ((Reading.farthest?_spec found).least miss noted) near
  rw [left]
  rcases Nat.lt_or_eq_of_le least with less | same
  · exact Nat.le_trans reached (Nat.le_of_lt (begun.farther less within))
  · rwa [same]

theorem Parser.parseSelectorsGroup_failed {failure : SelectorError} {after : Parser}
    (ran : Phrase.selectorsGroupBody.run (Parser.on (cursor.ignoringComments true)) =
      (.error failure, after)) :
    (Parser.on cursor).parseSelectorsGroup =
      (.error failure, after.withCursor (after.cursor.ignoringComments cursor.ignoreComments)) := by
  have tried : attempt .selectorsGroup Phrase.selectorsGroupBody.run
      ((Parser.on cursor).withCursor (cursor.ignoringComments true)) = (.error failure, after) := ran
  simp only [parseSelectorsGroup, show (Parser.on cursor).cursor = cursor from rfl, tried]

theorem exists_blame (context : List Term) (misses : List Miss) (here : Nat × Token) :
    ∃ expected found offset, blame context misses here = .mismatch context expected found offset := by
  unfold blame
  split
  · exact ⟨_, _, _, rfl⟩
  · exact ⟨_, _, _, rfl⟩

theorem Reading.fault_context (reading : Reading) (context : List Term) :
    (reading.fault context).context = context := by
  unfold fault
  split
  · rfl
  · rfl

-- A parser that misses a comma has just seen that the text goes on.
theorem Course.Stands.settles {course : Course} {failure : SelectorError} {after : Parser}
    (stands : course.Stands cursor shapes)
    (verdict : (Phrase.selectorsGroupBody.read true shapes).verdict = .failed [.symbol .comma])
    (ran : Phrase.selectorsGroupBody.run (Parser.on cursor) = (.error failure, after)) :
    after.cursor.Settled := by
  have followed :=
    Phrase.simulates Phrase.selectorsGroupBody_productive true (Parser.on cursor) shapes rfl stands
  obtain ⟨tokens, _, _, standing⟩ := stands
  have within : cursor.offset ≤ cursor.size := standing.size ▸ standing.within
  have answered := followed.answers
  rw [ran, Course.Answers, verdict] at answered
  obtain ⟨expected, found, offset, named⟩ := exists_blame [.symbol .comma] after.misses
    (course.ahead (Phrase.selectorsGroupBody.read true shapes).rest.length)
  rw [Except.error.inj (answered.trans (congrArg Except.error named))] at ran
  exact (Phrase.selectorsGroupBody_givesUp standing.ignoring within ran).settled rfl

-- What a parser has consumed that has found an error.
theorem Cursor.Covers.consumed {context : List Term} {failure : SelectorError} {after : Parser}
    (covers : cursor.Covers text) (stands : (course text).Stands cursor shapes) (start : cursor.offset = 0)
    (spells : Spells (significant (tokenize text)) shapes)
    (verdict : (Phrase.selectorsGroupBody.read true shapes).verdict = .failed context)
    (ran : Phrase.selectorsGroupBody.run (Parser.on cursor) = (.error failure, after)) :
    Consumed text context after.cursor.offset := by
  have followed :=
    Phrase.simulates Phrase.selectorsGroupBody_productive true (Parser.on cursor) shapes rfl stands
  have reached := covers.leads (Phrase.selectorsGroupBody.leading_run (Parser.on cursor))
  rw [ran] at reached followed
  rcases (Phrase.selectorsGroupBody_fails verdict).1 with
    ⟨rfl, missed⟩ | ⟨front, middle, rfl, accepted, running, stuck⟩
  · have unmoved : (Phrase.selectorsGroupBody.run (Parser.on cursor)).2.cursor.offset = cursor.offset :=
      Phrase.selectorsGroupBody_unmoved stands rfl missed
    rw [ran, start] at unmoved
    rw [unmoved]
    exact .start
  · refine consumed_stuck reached followed.stands spells accepted running stuck ?_
    rintro rfl
    exact stands.settles verdict ran

-- Every rejection is a mismatch, of a comma or of a selector. It lies at the position that is left or
-- behind it, and what is before that position is a selector group, except for a comma and what follows it
-- where a selector is missing.
theorem Validator.parse_rejects (validator : Validator) (text : String) (error : SelectorError)
    (asks : validator.cursor.tokenizer = tokenAt) (rejected : (validator.parse text).1 = .error error) :
    ∃ (context expected : List Term) (found : Token) (offset : Nat),
      error = .mismatch context expected found offset ∧
      (validator.parse text).2.cursor.offset ≤ offset ∧
      Consumed text context (validator.parse text).2.cursor.offset := by
  obtain ⟨shapes, spells⟩ := exists_spells text
  have begun := course_begun spells
  have stands : (course text).Stands ((validator.cursor.load text).ignoringComments true) shapes :=
    begun.loaded asks
  have fair := Phrase.read_fair Phrase.selectorsGroupBody_productive true shapes
  have covers := (Cursor.covers_load asks text).ignoringComments true
  have followed := Phrase.simulates Phrase.selectorsGroupBody_productive true
    (Parser.on ((validator.cursor.load text).ignoringComments true)) shapes rfl stands
  have parsed := Validator.parse_eq asks begun
  rw [show (course text).text = text from rfl, rejected] at parsed
  rcases followed.comes with ⟨after, ran, verdict⟩ | ⟨after, ran, verdict⟩ | ⟨context, after, verdict, ran⟩
  · have accepted : recognize shapes = .ok () := by
      unfold recognize
      simp only [verdict]
    rw [accepted] at parsed
    cases parsed
  · exact absurd verdict (Phrase.selectorsGroupBody_not_missed shapes)
  · rw [recognize_failed verdict] at parsed
    obtain rfl := Except.error.inj parsed
    rw [ran] at followed
    have position : (validator.parse text).2.cursor.offset = after.cursor.offset := by
      rw [Validator.parse, Parser.parseSelectorsGroup_failed ran]
      rfl
    rw [position]
    have blamed := (Phrase.selectorsGroupBody_fails verdict).2
    have behind := begun.behind context followed.stands fair.rest.length_le blamed
    exact ⟨context, _, _, _, by rw [Course.error, Reading.fault_context], behind,
      covers.consumed stands rfl spells verdict ran⟩

-- The first negation is left open, which the comma does not close. The second one is closed, so that it is
-- given back.
def closedSecond : String := "a:not(b , /**/:not(c)"

theorem Validator.parse_rejects_closedSecond :
    (Validator.on tokenAt).cursor.tokenizer = tokenAt ∧
      ((Validator.on tokenAt).parse closedSecond).1 =
        .error (.mismatch [.production .selector] [.char '|'] (.literal ')') 20) ∧
      ((Validator.on tokenAt).parse closedSecond).2.cursor.offset = 14 ∧
      ∃ (context expected : List Term) (found : Token) (offset : Nat),
        SelectorError.mismatch [.production .selector] [.char '|'] (.literal ')') 20 =
          .mismatch context expected found offset ∧
        14 ≤ offset ∧ Consumed closedSecond context 14 := by
  have rejected : ((Validator.on tokenAt).parse closedSecond).1 =
      .error (.mismatch [.production .selector] [.char '|'] (.literal ')') 20) := by decide +kernel
  have position : ((Validator.on tokenAt).parse closedSecond).2.cursor.offset = 14 := by decide +kernel
  have consumed := parse_rejects (Validator.on tokenAt) closedSecond _ rfl rejected
  rw [position] at consumed
  exact ⟨rfl, rejected, position, consumed⟩

end CssSelectors
