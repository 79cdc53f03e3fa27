import CssSelectors.Proofs.Cursor.Visiting
import CssSelectors.Proofs.Parser.Plain
import CssSelectors.Proofs.Token.Splitting
import Mathlib.Data.List.Chain

-- A cursor that is walked to the end yields what its tokenizer reports, in the order of the text.
namespace CssSelectors

variable {tokenizer : Tokenizer} {text : String} {ignore : Bool} {offset close : Nat} {tokens : List (Nat × Token)}

-- Each token that is visited, and the place where the walk stops, comes where the token before it ends.
theorem Visits.chain (visits : Visits tokenizer text ignore offset tokens close) :
    (tokens.map Prod.fst ++ [close]).IsChain
      fun place next => Settles tokenizer text ignore (past tokenizer text place) next := by
  induction visits with
  | closed => exact .singleton _
  | token _ _ rest ih =>
      cases rest with
      | closed settles => exact .cons_cons settles ih
      | token settles => exact .cons_cons settles ih

namespace Cursor

-- Whatever is reported before the end of the text, a walk yields tokens in order, each of them where the one
-- before it ends or behind the comments there, up to the first that covers nothing. That is a failure, the
-- last thing that is yielded, unless it is an end of the text.
theorem iteration_ordered (tokenizer : Tokenizer) :
    (∀ operations, (Operation.reached operations (Parser.on (on tokenizer))).cursor.Sound tokenizer) ∧
    ∀ cursor : Cursor, cursor.Sound tokenizer →
      tokenizer cursor.source cursor.source.utf8ByteSize = .endOfText →
      ∃ (tokens : List (Nat × Token)) (close : Nat) (ended : Tokens),
        cursor.tokens.drain? =
          some (tokens.map .ok ++ failure (tokenizer cursor.source close) close, ended) ∧
        (∀ count, (ended.take count).1 = []) ∧
        (∀ item ∈ tokens, item.1 < cursor.source.utf8ByteSize ∧ item.2 = tokenizer cursor.source item.1 ∧
          item.2 ≠ .endOfText ∧ item.2.byteLength ≠ 0 ∧
          (cursor.ignoreComments = true → item.2.isComment = false)) ∧
        tokens.Pairwise (fun one two => one.1 < two.1) ∧
        Settles tokenizer cursor.source cursor.ignoreComments cursor.offset (front tokens close).1 ∧
        (tokens.map Prod.fst ++ [close]).IsChain (fun place next =>
          Settles tokenizer cursor.source cursor.ignoreComments (past tokenizer cursor.source place) next) ∧
        (tokenizer cursor.source close).byteLength = 0 := by
  refine ⟨fun operations => Operation.sound_reached operations (sound_on tokenizer), ?_⟩
  intro cursor sound ends
  have within : cursor.offset ≤ cursor.source.utf8ByteSize := sound.within
  obtain ⟨tokens, close, visits⟩ := exists_visits ends cursor.ignoreComments within
  obtain ⟨ended, drained, _, spent⟩ := sound.walks.drain? ends visits
  refine ⟨tokens, close, ended, drained, spent, fun item present => ?_, visits.increasing ends within,
    visits.settles_front, visits.chain, visits.empty_close⟩
  obtain ⟨inside, reported, solid, significant⟩ := visits.passed ends within item present
  have running : item.2 ≠ .endOfText := fun last => solid (Token.byteLength_eq_zero.mpr (.inl last))
  exact ⟨inside, reported, running, solid, significant⟩

-- A comment in front, a token that does not fit where it stands and reaches over the next one, and then one that
-- covers nothing.
def astray : Tokenizer := fun text offset =>
  if offset = 0 then .symbol .comment "!"
  else if offset = 1 then .symbol .number "123"
  else if offset = 2 then .literal 'b'
  else if offset = 4 then .symbol .comment ""
  else if offset < text.utf8ByteSize then .literal 'c'
  else .endOfText

theorem iteration_ordered_astray :
    ((on astray).load "abcdef").Sound astray ∧ astray "abcdef" "abcdef".utf8ByteSize = .endOfText ∧
    ∃ (tokens : List (Nat × Token)) (close : Nat),
      tokens.map Except.ok ++ failure (astray "abcdef" close) close =
        [.ok (1, .symbol .number "123"), .error ⟨.symbol .comment "", 4⟩] ∧
      tokens.Pairwise (fun one two => one.1 < two.1) ∧
      Settles astray "abcdef" true 0 (front tokens close).1 := by
  have sound : ((on astray).load "abcdef").Sound astray := (sound_on astray).load "abcdef"
  have ends : astray "abcdef" "abcdef".utf8ByteSize = .endOfText := by decide +kernel
  obtain ⟨tokens, close, ended, drained, _, _, increasing, first, _⟩ :=
    (iteration_ordered astray).2 ((on astray).load "abcdef") sound ends
  have items : (((on astray).load "abcdef").tokens.drain?.map Prod.fst) =
      some [.ok (1, .symbol .number "123"), .error ⟨.symbol .comment "", 4⟩] := by decide +kernel
  rw [drained] at items
  exact ⟨sound, ends, tokens, close, Option.some.inj items, increasing, first⟩

theorem visits_tokenize (front back : String) :
    Visits tokenAt (front ++ back) false front.utf8ByteSize (moved front.utf8ByteSize (tokenize back))
      (front ++ back).utf8ByteSize := by
  have visits := scanAll_visits back.toList front.toList
  have offsets := scanAll_add front.utf8ByteSize back.toList 0
  rw [Text.byteLength_toList, ← String.toList_append, String.ofList_toList, Text.byteLength_toList] at visits
  rw [Nat.zero_add] at offsets
  rwa [offsets] at visits

-- Loaded with a text and moved to an offset in it, a cursor on the tokenizer of selectors yields the tokens of what
-- is left of the text there, all of them or all but the comments, and never a failure. Within a character and
-- past the end there are none.
theorem drain_tokenize (cursor : Cursor) (asks : cursor.tokenizer = tokenAt) (text : String) (n : Nat) :
    ∃ (tokens : List (Nat × Token)) (ended : Tokens),
      ((cursor.load text).seek n).tokens.drain? = some (tokens.map .ok, ended) ∧
      (¬ String.Pos.Raw.IsValid text ⟨n⟩ → tokens = []) ∧
      (∀ front back : String, text = front ++ back → front.utf8ByteSize = n →
        tokens = (moved n (tokenize back)).filter
          fun token => !(cursor.ignoreComments && token.2.isComment)) ∧
      (text.utf8ByteSize < n ∨ String.Pos.Raw.IsValid text ⟨n⟩ → ended.cursor.offset = text.utf8ByteSize) := by
  have ends := tokenAt_end text
  have loaded : (cursor.load text).Sound tokenAt := ⟨asks, Nat.zero_le _, nofun⟩
  have walks : ((cursor.load text).seek n).Walks tokenAt text cursor.ignoreComments (min n text.utf8ByteSize) :=
    (loaded.seek n).walks
  by_cases valid : String.Pos.Raw.IsValid text ⟨n⟩
  · obtain ⟨front, back, rfl, place⟩ := String.Pos.Raw.isValid_iff_exists_append.mp valid
    obtain rfl : n = front.utf8ByteSize := congrArg String.Pos.Raw.byteIdx place
    have size : min front.utf8ByteSize (front ++ back).utf8ByteSize = front.utf8ByteSize := by
      rw [String.utf8ByteSize_append]
      exact Nat.min_eq_left (Nat.le_add_right _ _)
    rw [size] at walks
    obtain ⟨ended, drained, position⟩ :=
      walks.drain?_ended ends ((visits_tokenize front back).inMode cursor.ignoreComments) ends
    refine ⟨_, ended, drained, fun outside => absurd valid outside, ?_, fun _ => position⟩
    intro first last same covers
    obtain ⟨rfl, rfl⟩ := Text.append_inj same covers.symm
    rfl
  · have last : tokenAt text (min n text.utf8ByteSize) = .endOfText := by
      apply tokenAt_eq_end_iff.mpr
      rcases Nat.le_total text.utf8ByteSize n with past | inside
      · exact .inl (Nat.le_min.mpr ⟨past, Nat.le_refl _⟩)
      · rw [Nat.min_eq_left inside]
        exact .inr valid
    obtain ⟨ended, drained, position⟩ := walks.drain?_ended ends (visits_end last cursor.ignoreComments) last
    refine ⟨[], ended, drained, fun _ => rfl, ?_, ?_⟩
    · intro front back same covers
      have place : String.Pos.Raw.mk n = front.rawEndPos := congrArg String.Pos.Raw.mk covers.symm
      exact absurd (String.Pos.Raw.isValid_iff_exists_append.mpr ⟨front, back, same, place⟩) valid
    · intro known
      have past : text.utf8ByteSize < n := known.resolve_right valid
      rw [position, Nat.min_eq_right (Nat.le_of_lt past)]

-- The first offset is before a comment, the second one within a character.
theorem drain_tokenize_accented : (on tokenAt).tokenizer = tokenAt ∧
    (∃ ended : Tokens, (((on tokenAt).load "é/**/.a").seek 2).tokens.drain? =
      some ([.ok (6, .literal '.'), .ok (7, .symbol .ident "a")], ended) ∧ ended.cursor.offset = 8) ∧
    ∃ ended : Tokens, (((on tokenAt).load "é/**/.a").seek 1).tokens.drain? = some ([], ended) := by
  have outside : ¬ String.Pos.Raw.IsValid "é/**/.a" ⟨1⟩ := by decide +kernel
  obtain ⟨tokens, ended, drained, _, those, position⟩ := drain_tokenize (on tokenAt) rfl "é/**/.a" 2
  obtain ⟨none, stopped, nothing, empty, _⟩ := drain_tokenize (on tokenAt) rfl "é/**/.a" 1
  have left := those "é" "/**/.a" (by decide +kernel) (by decide +kernel)
  have back : (moved 2 (tokenize "/**/.a")).filter (fun token => !(true && token.2.isComment)) =
      [(6, .literal '.'), (7, .symbol .ident "a")] := by decide +kernel
  obtain rfl : tokens = [(6, .literal '.'), (7, .symbol .ident "a")] := left.trans back
  obtain rfl : none = [] := empty outside
  exact ⟨rfl, ⟨ended, drained, position (.inr (by decide +kernel))⟩, stopped, nothing⟩

end Cursor

end CssSelectors
