import CssSelectors.Proofs.Forgetting
import CssSelectors.Proofs.Parser.Shifted
import CssSelectors.Proofs.Tracing

-- To read on from the middle of a text is to read what is left of it.
namespace CssSelectors

-- A token depends on the text from its own offset on.
theorem tokenAt_append (front back : String) (offset : Nat) :
    tokenAt (front ++ back) (offset + front.utf8ByteSize) = tokenAt back offset := by
  rw [tokenAt, tokenAt, String.toList_append, ← Text.byteLength_toList front, Nat.add_comm,
    Text.dropBytes?_append]

namespace Cursor

-- A cursor that stands before the last part of a text, next to one that has loaded only that.
theorem shifted_load {cursor : Cursor} (asks : cursor.tokenizer = tokenAt) (front back : String) :
    Shifted front.utf8ByteSize (cursor.load back)
      ((cursor.load (front ++ back)).seek front.utf8ByteSize) := by
  have size : (cursor.load (front ++ back)).size = (cursor.load back).size + front.utf8ByteSize :=
    (String.utf8ByteSize_append).trans (Nat.add_comm _ _)
  refine ⟨?_, size, rfl, fun offset => ?_⟩
  · show min front.utf8ByteSize (cursor.load (front ++ back)).size = 0 + front.utf8ByteSize
    omega
  · show cursor.tokenizer (front ++ back) (offset + front.utf8ByteSize) = cursor.tokenizer back offset
    rw [asks, tokenAt_append]

end Cursor

namespace Validator

variable {validator : Validator} {tokenizer : Tokenizer}

-- What a new validator says of a text is said of it by any other one that asks the same tokenizer.
theorem parse_fresh (asks : validator.cursor.tokenizer = tokenizer) (text : String) :
    (validator.parse text).1 = ((Validator.on tokenizer).parse text).1 ∧
      (validator.parse text).2.cursor.offset = ((Validator.on tokenizer).parse text).2.cursor.offset := by
  obtain ⟨log, same⟩ := parse_alike asks text
  rw [same]
  generalize (Validator.on tokenizer).parse text = fresh
  exact ⟨rfl, rfl⟩

theorem parseTraced_fresh (asks : validator.cursor.tokenizer = tokenizer) (text : String) :
    (validator.parseTraced text).2.1 = ((Validator.on tokenizer).parseTraced text).2.1 := by
  obtain ⟨log, same⟩ := traced_alike asks text
  rw [same]

end Validator

-- Where a parser starts in a text shows in the offsets of what it says, and in nothing else.
theorem parseSelectorsGroup_suffix (cursor : Cursor) (asks : cursor.tokenizer = tokenAt)
    (front back : String) (traced : Bool) :
    let start := (cursor.load (front ++ back)).seek front.utf8ByteSize
    let ran := ((Parser.on start).tracing traced).parseSelectorsGroup
    ran.1 = (validate back).mapError (SelectorError.moved front.utf8ByteSize) ∧
    ran.2.cursor.offset = ((Validator.on tokenAt).parse back).2.cursor.offset + front.utf8ByteSize ∧
    (traced = true → ran.2.entries =
      ((Validator.on tokenAt).parseTraced back).2.1.map (TraceEntry.moved front.utf8ByteSize)) := by
  intro start ran
  have beside : Parser.Beside (Parser.on (cursor.load back))
      ((Parser.on (cursor.load back)).tracing traced) := ⟨⟨rfl, rfl⟩, .rfl⟩
  have shifted : Parser.Shifted front.utf8ByteSize ((Parser.on (cursor.load back)).tracing traced)
      ((Parser.on start).tracing traced) := by
    refine ⟨Cursor.shifted_load asks front back, rfl, rfl, ?_⟩
    cases traced <;> rfl
  obtain ⟨result, first, second, judged, also, ended⟩ :=
    (Parser.parallel_shifted front.utf8ByteSize).parseSelectorsGroup
      (fun ignore shifted => shifted.withCursor (shifted.cursor.ignoringComments ignore)) shifted rfl
  obtain ⟨same, place⟩ := beside.parseSelectorsGroup
  have reads : (Validator.mk cursor).cursor.tokenizer = tokenAt := asks
  obtain ⟨found, left⟩ := Validator.parse_fresh reads back
  have told := Validator.parseTraced_fresh reads back
  rw [Validator.parse] at found left
  rw [judged] at same place
  have came : ran = (result.mapError (SelectorError.moved front.utf8ByteSize), second) := also
  rw [came]
  refine ⟨?_, ?_, fun enabled => ?_⟩
  · rw [validate, ← found, ← same]
  · rw [ended.cursor.offset, ← left, place]
  · subst enabled
    rw [Validator.parseTraced, judged] at told
    rw [ended.entries, ← told]

-- From within a comment, of which nothing is left but a stop, an asterisk and a slash.
theorem parseSelectorsGroup_suffix_comment : (Cursor.on tokenAt).tokenizer = tokenAt ∧
    validate ".*/" = .error (.mismatch [.production .selector] [.symbol .ident] (.literal '*') 1) ∧
    (Parser.on (((Cursor.on tokenAt).load ("é/*" ++ ".*/")).seek "é/*".utf8ByteSize)).parseSelectorsGroup.1 =
      .error (.mismatch [.production .selector] [.symbol .ident] (.literal '*') 5) := by
  have judged :
      validate ".*/" = .error (.mismatch [.production .selector] [.symbol .ident] (.literal '*') 1) := by
    decide +kernel
  obtain ⟨found, _⟩ := parseSelectorsGroup_suffix (Cursor.on tokenAt) rfl "é/*" ".*/" false
  rw [judged] at found
  exact ⟨rfl, judged, found⟩

end CssSelectors
