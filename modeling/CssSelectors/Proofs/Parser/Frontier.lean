import CssSelectors.Parser.Basic
import CssSelectors.Proofs.Distinct

-- The frontier of misses is the greatest of their offsets, whatever the order in which they came.
namespace CssSelectors.Frontier

-- What was tried in vain at an offset, each once, as it came first. Of the misses the newest is in front.
def tried (misses : List Miss) (offset : Nat) : List Term :=
  ((misses.reverse.filter (·.offset == offset)).map Miss.term).eraseDups

-- A frontier is the farthest of some misses, with all that was tried there and what stood there.
structure Farthest (misses : List Miss) (frontier : Frontier) : Prop where
  greatest : ∀ miss ∈ misses, miss.offset ≤ frontier.offset
  reached : ∃ miss ∈ misses, miss.offset = frontier.offset ∧ miss.found = frontier.found
  expected : frontier.expected = tried misses frontier.offset

variable {misses : List Miss} {miss : Miss} {offset : Nat} {frontier : Frontier}

theorem tried_other (other : miss.offset ≠ offset) : tried (miss :: misses) offset = tried misses offset := by
  simp [tried, List.filter_append, other]

theorem tried_cons : tried (miss :: misses) miss.offset =
    if miss.term ∈ tried misses miss.offset then tried misses miss.offset
    else tried misses miss.offset ++ [miss.term] := by
  have here : [miss].filter (·.offset == miss.offset) = [miss] := by simp
  rw [tried, List.reverse_cons, List.filter_append, List.map_append, here, List.map_cons, List.map_nil,
    eraseDups_concat]
  rfl

theorem tried_nothing (apart : ∀ miss ∈ misses, miss.offset ≠ offset) : tried misses offset = [] := by
  have none : misses.reverse.filter (·.offset == offset) = [] :=
    List.filter_eq_nil_iff.mpr fun miss present => by simpa using apart miss (List.mem_reverse.mp present)
  rw [tried, none]
  rfl

theorem mem_tried {term : Term} :
    term ∈ tried misses offset ↔ ∃ miss ∈ misses, miss.offset = offset ∧ miss.term = term := by
  simp [tried, List.mem_eraseDups, and_assoc]

-- A miss beyond all others is the frontier by itself.
theorem Farthest.beyond (beyond : ∀ other ∈ misses, other.offset < miss.offset) :
    Farthest (miss :: misses) ⟨miss.offset, [miss.term], miss.found⟩ := by
  refine ⟨?_, ⟨miss, List.mem_cons_self, rfl, rfl⟩, ?_⟩
  · exact List.forall_mem_cons.mpr ⟨Nat.le_refl _, fun other present => Nat.le_of_lt (beyond other present)⟩
  · have nothing := tried_nothing fun other present => Nat.ne_of_lt (beyond other present)
    rw [tried_cons, nothing]
    rfl

theorem Farthest.extend (farthest : Farthest misses frontier) (miss : Miss) :
    Farthest (miss :: misses) (extend (some frontier) miss) := by
  obtain ⟨greatest, ⟨witness, noted, there, faced⟩, expected⟩ := farthest
  have stays : ∃ other ∈ miss :: misses, other.offset = frontier.offset ∧ other.found = frontier.found :=
    ⟨witness, List.mem_cons_of_mem _ noted, there, faced⟩
  rcases Nat.lt_trichotomy miss.offset frontier.offset with nearer | same | beyond
  · have kept : Frontier.extend (some frontier) miss = frontier := by simp [Frontier.extend, nearer]
    rw [kept]
    refine ⟨List.forall_mem_cons.mpr ⟨Nat.le_of_lt nearer, greatest⟩, stays, ?_⟩
    rw [tried_other (Nat.ne_of_lt nearer), expected]
  · have bound : ∀ other ∈ miss :: misses, other.offset ≤ frontier.offset :=
      List.forall_mem_cons.mpr ⟨Nat.le_of_eq same, greatest⟩
    rw [← same] at expected
    by_cases known : miss.term ∈ frontier.expected
    · have kept : Frontier.extend (some frontier) miss = frontier := by simp [Frontier.extend, same, known]
      rw [kept]
      refine ⟨bound, stays, ?_⟩
      rw [← same, tried_cons, ← expected, if_pos known]
    · have added : Frontier.extend (some frontier) miss =
          { frontier with expected := frontier.expected ++ [miss.term] } := by
        simp [Frontier.extend, same, known]
      rw [added]
      refine ⟨bound, stays, ?_⟩
      rw [← same, tried_cons, ← expected, if_neg known]
  · have moved : Frontier.extend (some frontier) miss = ⟨miss.offset, [miss.term], miss.found⟩ := by
      simp [Frontier.extend, Nat.lt_asymm beyond, Nat.ne_of_gt beyond]
    rw [moved]
    exact .beyond fun other present => Nat.lt_of_le_of_lt (greatest other present) beyond

theorem ofMisses?_spec (folded : ofMisses? misses = some frontier) : Farthest misses frontier := by
  induction misses generalizing frontier with
  | nil => cases folded
  | cons miss misses ih =>
      cases Option.some.inj folded
      show Farthest (miss :: misses) (Frontier.extend (ofMisses? misses) miss)
      cases before : ofMisses? misses with
      | none =>
          cases misses with
          | nil =>
              have alone : ∀ other ∈ ([] : List Miss), other.offset < miss.offset := by simp
              exact .beyond alone
          | cons => cases before
      | some reached => exact (ih before).extend miss

end CssSelectors.Frontier
