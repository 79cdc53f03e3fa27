import CssSelectors.Proofs.Cursor.Shifted
import CssSelectors.Proofs.Parser.Parallel

-- What a parser does at a place depends on what it is told from there on, and not on where the place is.
namespace CssSelectors

namespace SelectorError

-- The same error that many bytes further on.
def moved (width : Nat) : SelectorError → SelectorError
  | .mismatch context expected found offset => .mismatch context expected found (offset + width)
  | .malformed failure => .malformed (failure.moved width)
  | .endless offset => .endless (offset + width)

end SelectorError

def Miss.moved (width : Nat) (miss : Miss) : Miss := { miss with offset := miss.offset + width }

def TraceEntry.moved (width : Nat) (entry : TraceEntry) : TraceEntry :=
  { entry with offset := entry.offset + width }

namespace Frontier

def moved (width : Nat) (frontier : Frontier) : Frontier :=
  { frontier with offset := frontier.offset + width }

theorem extend_moved (width : Nat) (reached : Option Frontier) (miss : Miss) :
    extend (reached.map (moved width)) (miss.moved width) = (extend reached miss).moved width := by
  cases reached with
  | none => rfl
  | some frontier =>
      have near : (miss.moved width).offset < (frontier.moved width).offset ↔ miss.offset < frontier.offset :=
        Nat.add_lt_add_iff_right
      have here : (miss.moved width).offset = (frontier.moved width).offset ↔ miss.offset = frontier.offset :=
        Nat.add_right_cancel_iff
      simp only [extend, Option.map_some, near, here]
      split
      · rfl
      · split
        · show (if miss.term ∈ frontier.expected then frontier.moved width else _) = _
          split <;> rfl
        · rfl

-- Which point is the farthest does not depend on where they all lie.
theorem ofMisses?_moved (width : Nat) (misses : List Miss) :
    ofMisses? (misses.map (Miss.moved width)) = (ofMisses? misses).map (moved width) := by
  induction misses with
  | nil => rfl
  | cons miss earlier ih =>
      simp only [ofMisses?, List.map_cons, List.foldr_cons] at ih ⊢
      rw [ih, extend_moved]
      rfl

end Frontier

namespace Parser

structure Shifted (width : Nat) (one two : Parser) : Prop where
  cursor : Cursor.Shifted width one.cursor two.cursor
  depth : two.depth = one.depth
  misses : two.misses = one.misses.map (Miss.moved width)
  trace : two.trace = one.trace.map (List.map (TraceEntry.moved width))

variable {width : Nat} {one two : Parser} {recognizer : Recognizer}

theorem Shifted.withCursor (shifted : Shifted width one two) {near far : Cursor}
    (beside : Cursor.Shifted width near far) : Shifted width (one.withCursor near) (two.withCursor far) :=
  ⟨beside, shifted.depth, shifted.misses, shifted.trace⟩

theorem shifted_consume : Agrees (Shifted width) (SelectorError.moved width) consume := by
  intro one two shifted
  obtain ⟨result, first, second, ran, also, ended⟩ := shifted.cursor.next
  simp only [consume, ran, also]
  cases result with
  | ok => exact ⟨_, _, _, rfl, rfl, shifted.withCursor ended⟩
  | error failure => exact ⟨_, _, _, rfl, rfl, shifted.withCursor ended⟩

theorem shifted_acceptToken (term : Term) :
    Agrees (Shifted width) (SelectorError.moved width) (acceptToken term) := by
  intro one two shifted
  obtain ⟨token, first, second, read, also, ended⟩ := shifted.cursor.current
  simp only [acceptToken, read, also]
  split
  · exact shifted_consume _ _ (shifted.withCursor ended)
  · refine ⟨_, _, _, rfl, rfl, ?_, shifted.depth, ?_, shifted.trace⟩
    · rw [shifted.cursor.offset]
      exact ended.seek _
    · simp only [shifted.misses, ended.offset, List.map_cons, Miss.moved]

theorem shifted_acceptSpace : Agrees (Shifted width) (SelectorError.moved width) acceptSpace := by
  intro one two shifted
  obtain ⟨token, first, second, read, also, ended⟩ := shifted.cursor.current
  simp only [acceptSpace, read, also]
  split
  · exact shifted_consume _ _ (shifted.withCursor ended)
  · exact ⟨_, _, _, rfl, rfl, shifted.withCursor ended⟩

theorem shifted_moreText : Agrees (Shifted width) (SelectorError.moved width) moreText := by
  intro one two shifted
  obtain ⟨more, first, second, ran, also, ended⟩ := shifted.cursor.valid
  simp only [moreText, ran, also]
  exact ⟨_, _, _, rfl, rfl, shifted.withCursor ended⟩

theorem Shifted.mismatch (shifted : Shifted width one two) (context : List Term) :
    ∃ failure first second, one.mismatch context = (failure, first) ∧
      two.mismatch context = (failure.moved width, second) ∧ Shifted width first second := by
  obtain ⟨token, first, second, read, also, ended⟩ := shifted.cursor.current
  simp only [Parser.mismatch, shifted.misses, Frontier.ofMisses?_moved, read, also]
  cases Frontier.ofMisses? one.misses with
  | some frontier => exact ⟨_, _, _, rfl, rfl, shifted⟩
  | none => exact ⟨_, _, _, rfl, by rw [ended.offset]; rfl, shifted.withCursor ended⟩

theorem shifted_attempt (production : Production)
    (agrees : Agrees (Shifted width) (SelectorError.moved width) recognizer) :
    Agrees (Shifted width) (SelectorError.moved width) (attempt production recognizer) := by
  intro one two shifted
  unfold attempt
  rw [shifted.trace]
  cases one.trace with
  | none => exact agrees one two shifted
  | some before =>
      obtain ⟨outcome, first, second, ran, also, ended⟩ := agrees { one with trace := some [] }
        { two with trace := some [] } ⟨shifted.cursor, shifted.depth, shifted.misses, rfl⟩
      simp only [Option.map_some, ran, also]
      refine ⟨_, _, _, rfl, rfl, ended.cursor, ended.depth, ended.misses, ?_⟩
      have inside : second.trace.getD [] = (first.trace.getD []).map (TraceEntry.moved width) := by
        rw [ended.trace]
        cases first.trace <;> rfl
      simp only [inside, Option.map_some, List.map_append, List.map_cons, TraceEntry.moved,
        shifted.cursor.offset, shifted.depth]
      cases outcome <;> rfl

theorem parallel_shifted (width : Nat) : Parallel (Shifted width) (SelectorError.moved width) where
  outside shifted := by rw [shifted.depth]
  round begun ended := by
    rw [remaining, remaining, remaining, remaining, begun.cursor.remaining, ended.cursor.remaining]
  endless shifted := by rw [shifted.cursor.offset, SelectorError.moved]
  token := shifted_acceptToken
  space := shifted_acceptSpace
  more := shifted_moreText
  mismatch context shifted := shifted.mismatch context
  attempt production _ agrees := shifted_attempt production agrees
  deeper shifted := ⟨shifted.cursor, congrArg (· + 1) shifted.depth, shifted.misses, shifted.trace⟩
  back begun ended := by
    rw [begun.cursor.offset]
    exact ended.withCursor (ended.cursor.seek _)
  higher _ ended _ _ := ⟨ended.cursor, congrArg (· - 1) ended.depth, ended.misses, ended.trace⟩

theorem Shifted.entries (shifted : Shifted width one two) :
    two.entries = one.entries.map (TraceEntry.moved width) := by
  unfold Parser.entries
  rw [shifted.trace]
  cases one.trace with
  | none => rfl
  | some trace => exact List.map_reverse.symm

end Parser

end CssSelectors
