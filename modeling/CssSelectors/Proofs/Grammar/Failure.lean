import CssSelectors.Proofs.Grammar.Derivation
import CssSelectors.Proofs.Grammar.Automaton

-- Where the reading of a selector group goes wrong: at the first selector, or behind a group that is
-- complete by itself.
namespace CssSelectors

namespace Reading

variable {reading : Reading} {head tail next : Reader}

-- Whether a reading ends with an error that a required phrase has raised.
def Fails (reading : Reading) : Prop := ∃ context, reading.verdict = .failed context

theorem fails_restoring {shapes : List Shape} : (reading.restoring shapes).Fails ↔ reading.Fails := by
  rw [Fails, Fails, verdict_restoring]

theorem not_fails_andThen (first : ¬ reading.Fails) (second : ∀ word, ¬ (next word).Fails) :
    ¬ (reading.andThen next).Fails := by
  unfold andThen
  split
  · exact second _
  · exact first

theorem not_fails_orElse (first : ¬ reading.Fails) (second : ∀ word, ¬ (next word).Fails) :
    ¬ (reading.orElse next).Fails := by
  unfold orElse
  split
  · exact second _
  · exact first

theorem not_fails_decided {onMatch onMiss : Verdict} (whole : ¬ reading.Fails)
    (matching : ∀ context, onMatch ≠ .failed context) (missing : ∀ context, onMiss ≠ .failed context) :
    ¬ (reading.decided onMatch onMiss).Fails := by
  rintro ⟨context, failed⟩
  unfold decided at failed
  split at failed
  · exact matching context failed
  · exact missing context failed
  · exact whole ⟨context, failed⟩

theorem not_fails_repeatWhile (first : ∀ word, ¬ (head word).Fails) (second : ∀ word, ¬ (tail word).Fails)
    (word : List Shape) : ¬ (repeatWhile head tail word).Fails := by
  induction size : word.length using Nat.strongRecOn generalizing word with
  | _ size ih =>
      have round := not_fails_andThen (first word) second
      cases verdict : ((head word).andThen tail).verdict with
      | matched =>
          rw [repeatWhile_round verdict]
          split
          · rename_i less
            exact ih _ (size ▸ less) _ rfl
          · rintro ⟨context, failed⟩
            cases failed
      | failed context => exact absurd ⟨context, verdict⟩ round
      | _ =>
          by_cases missed : (head word).verdict = .missed
          · rw [repeatWhile_ended missed]
            rintro ⟨context, failed⟩
            cases failed
          · rw [repeatWhile_stopped missed (by simp [verdict])]
            exact round

theorem not_fails_take (shape : Shape) (word : List Shape) : ¬ (take shape word).Fails := by
  rintro ⟨context, failed⟩
  cases word with
  | nil => cases failed
  | cons first rest =>
      rw [take] at failed
      split at failed <;> cases failed

theorem not_fails_takeSpace (word : List Shape) : ¬ (takeSpace word).Fails := by
  rintro ⟨context, failed⟩
  cases word with
  | nil => cases failed
  | cons first rest =>
      rw [takeSpace] at failed
      split at failed <;> cases failed

theorem not_fails_more (word : List Shape) : ¬ (more word).Fails := by
  rintro ⟨context, failed⟩
  cases word with
  | nil => cases failed
  | cons first rest => cases failed

theorem not_fails_pass (word : List Shape) : ¬ (pass word).Fails := by
  rintro ⟨context, failed⟩
  cases failed

end Reading

namespace Phrase

variable {phrase first second : Phrase} {top : Bool} {word rest shapes : List Shape} {context : List Term}

-- Inside of an attempt nothing that is required raises an error.
theorem read_inside (phrase : Phrase) (word : List Shape) : ¬ (phrase.read false word).Fails := by
  induction phrase generalizing word with
  | char c => exact Reading.not_fails_take _ _
  | symbol name => exact Reading.not_fails_take _ _
  | production name body ih => exact mt Reading.fails_restoring.mp (ih word)
  | spaces => exact Reading.not_fails_repeatWhile Reading.not_fails_takeSpace Reading.not_fails_pass word
  | fail =>
      rintro ⟨context, failed⟩
      cases failed
  | either first second one two => exact Reading.not_fails_orElse (one word) two
  | both first second one two => exact Reading.not_fails_andThen (one word) two
  | optional phrase ih => exact Reading.not_fails_decided (ih word) nofun nofun
  | absent phrase ih => exact Reading.not_fails_decided (ih word) nofun nofun
  | many phrase ih => exact Reading.not_fails_repeatWhile ih Reading.not_fails_pass word
  | toEnd phrase ih => exact Reading.not_fails_repeatWhile Reading.not_fails_more ih word
  | required phrase ih => exact Reading.not_fails_decided (ih word) nofun nofun

-- Whether a phrase that misses has tried something in vain for certain.
def notes : Phrase → Bool
  | .char _ | .symbol _ | .spaces | .optional _ | .many _ => true
  | .fail | .absent _ | .toEnd _ | .required _ => false
  | .production _ body => body.notes
  | .either first second => first.notes || second.notes
  | .both first second => first.notes && second.notes

theorem Misses.noted (misses : phrase.Misses top word rest) (notes : phrase.notes = true) :
    (phrase.read top word).misses ≠ [] := by
  induction phrase generalizing top word rest with
  | char c =>
      obtain ⟨other, _⟩ := misses_char.mp misses
      rw [read_char, Reading.take_other other]
      exact List.cons_ne_nil _ _
  | symbol name =>
      obtain ⟨other, _⟩ := misses_symbol.mp misses
      rw [read_symbol, Reading.take_other other]
      exact List.cons_ne_nil _ _
  | production name body ih =>
      obtain ⟨⟨left, inside⟩, _⟩ := misses_production.mp misses
      simpa using ih inside notes
  | spaces => exact absurd misses misses_spaces
  | fail => cases notes
  | either first second one two =>
      obtain ⟨middle, early, late⟩ := misses_either.mp misses
      simp only [read_either, Reading.orElse, early.1, early.2, Reading.after]
      intro none
      obtain ⟨after, before⟩ := List.append_eq_nil_iff.mp none
      rcases Bool.or_eq_true_iff.mp notes with left | right
      · exact one early left before
      · exact two late right after
  | both first second one two =>
      obtain ⟨left, right⟩ := Bool.and_eq_true_iff.mp notes
      rcases misses_both.mp misses with early | ⟨middle, taken, late⟩
      · simp only [read_both, Reading.andThen, early.1]
        exact one early left
      · simp only [read_both, Reading.andThen, taken.1, taken.2, Reading.after]
        exact fun none => two late right (List.append_eq_nil_iff.mp none).1
  | optional phrase => exact absurd misses misses_optional
  | absent => cases notes
  | many phrase => exact absurd misses misses_many
  | toEnd => cases notes
  | required => cases notes

theorem misses_of_fails (failed : ((Phrase.required phrase).read true word).verdict = .failed context)
    (quiet : ¬ (phrase.read true word).Fails) :
    phrase.Misses true word ((Phrase.required phrase).read true word).rest ∧ context = phrase.terms := by
  simp only [read_required, Reading.decided] at failed ⊢
  split at failed
  · cases failed
  · rename_i missed
    exact ⟨⟨missed, rfl⟩, by simpa using failed.symm⟩
  · exact absurd ⟨context, failed⟩ quiet

theorem fails_both (failed : ((Phrase.both first second).read top word).verdict = .failed context) :
    ((first.read top word).verdict = .failed context ∧
        (Phrase.both first second).read top word = first.read top word) ∨
      ∃ middle, first.Matches top word middle ∧ (second.read top middle).verdict = .failed context ∧
        (Phrase.both first second).read top word =
          (second.read top middle).after (first.read top word).misses := by
  simp only [read_both, Reading.andThen] at failed ⊢
  split at failed
  · rename_i matched
    exact .inr ⟨_, ⟨matched, rfl⟩, failed, rfl⟩
  · rename_i unmatched
    exact .inl ⟨failed, rfl⟩

def nextSelector : Phrase := .both (.required (.symbol .comma)) (.both .spaces (.required selector))

-- What stands between two selectors, or what a selector is missed behind.
inductive Stuck : List Term → List Shape → List Shape → Prop where
  | comma {word : List Shape} (other : word.head? ≠ some (.symbol .comma)) :
      Stuck [.symbol .comma] word word
  | selector {gaps rest : List Shape} (spaces : ∀ shape ∈ gaps, shape = Shape.space) :
      Stuck [.production .selector] (.symbol .comma :: gaps ++ rest) rest

-- Something was tried in vain where the reading ended, or behind that.
def Blamed (reading : Reading) : Prop := ∃ miss ∈ reading.misses, miss.2 ≤ reading.rest.length

theorem Blamed.after {reading : Reading} (blamed : Blamed reading) (earlier : List (Shape × Nat)) :
    Blamed (reading.after earlier) := by
  obtain ⟨miss, present, near⟩ := blamed
  exact ⟨miss, List.mem_append_left _ present, near⟩

-- A required selector that fails leaves everything.
theorem selector_fails (failed : ((Phrase.required selector).read true word).verdict = .failed context) :
    context = [.production .selector] ∧ selector.Misses true word word ∧
      ((Phrase.required selector).read true word).rest = word ∧
      Blamed ((Phrase.required selector).read true word) := by
  obtain ⟨misses, named⟩ := misses_of_fails failed (mt Reading.fails_restoring.mp (read_inside _ word))
  have unread := misses.restored rfl
  obtain ⟨miss, present⟩ := List.exists_mem_of_ne_nil _ (misses.noted rfl)
  have productive : selector.productive = true := by decide
  rw [unread] at misses
  refine ⟨named, misses, unread, miss, by simpa using present, ?_⟩
  rw [unread]
  exact (read_fair productive true word).misses miss present

theorem comma_fails (failed : ((Phrase.required (.symbol .comma)).read true word).verdict = .failed context) :
    context = [.symbol .comma] ∧ word.head? ≠ some (.symbol .comma) ∧
      ((Phrase.required (.symbol .comma)).read true word).rest = word ∧
      Blamed ((Phrase.required (.symbol .comma)).read true word) := by
  obtain ⟨misses, named⟩ := misses_of_fails failed (Reading.not_fails_take _ _)
  obtain ⟨other, unread⟩ := misses_symbol.mp misses
  refine ⟨named, other, unread, (.symbol .comma, word.length), ?_, ?_⟩
  · simp [Reading.take_other other]
  · exact Nat.le_of_eq (congrArg List.length unread).symm

theorem nextSelector_fails (failed : (nextSelector.read true word).verdict = .failed context) :
    Stuck context word (nextSelector.read true word).rest ∧ Blamed (nextSelector.read true word) := by
  rcases fails_both failed with ⟨missed, same⟩ | ⟨middle, taken, further, same⟩
  · obtain ⟨rfl, other, unread, blamed⟩ := comma_fails missed
    rw [nextSelector, same, unread]
    exact ⟨.comma other, blamed⟩
  · obtain rfl := matches_symbol.mp (matches_required.mp taken)
    rcases fails_both further with ⟨spaced, _⟩ | ⟨behind, spaced, missed, whole⟩
    · exact absurd ⟨context, spaced⟩
        (Reading.not_fails_repeatWhile Reading.not_fails_takeSpace Reading.not_fails_pass middle)
    · obtain rfl := matches_spaces.mp spaced
      obtain ⟨rfl, _, unread, blamed⟩ := selector_fails missed
      rw [nextSelector, same, whole]
      refine ⟨?_, (blamed.after _).after _⟩
      have spaces : ∀ shape ∈ middle.takeWhile (· == Shape.space), shape = Shape.space :=
        fun shape present => beq_iff_eq.mp (List.all_eq_true.mp List.all_takeWhile shape present)
      have stuck : Stuck [.production .selector] _ (middle.dropWhile (· == Shape.space)) := .selector spaces
      rw [List.cons_append, List.takeWhile_append_dropWhile] at stuck
      exact unread.symm ▸ stuck

-- A repetition up to the end that is not there yet begins with its phrase.
theorem toEnd_round (phrase : Phrase) (top : Bool) (solid : word ≠ []) : (Reading.more word).verdict ≠ .missed ∧
    (Reading.more word).andThen (phrase.read top) = phrase.read top word := by
  obtain ⟨shape, rest, rfl⟩ := List.exists_cons_of_ne_nil solid
  exact ⟨nofun, by simp [Reading.more, Reading.andThen, Reading.after]⟩

theorem toEnd_stops (solid : word ≠ []) (unmatched : (phrase.read top word).verdict ≠ .matched) :
    (Phrase.toEnd phrase).read top word = phrase.read top word := by
  obtain ⟨begun, round⟩ := toEnd_round phrase top solid
  rw [read_toEnd, Reading.repeatWhile_stopped begun (round.symm ▸ unmatched), round]

theorem toEnd_goes (solid : word ≠ []) (matched : (phrase.read top word).verdict = .matched) :
    (Phrase.toEnd phrase).read top word =
      if (phrase.read top word).rest.length < word.length then
        ((Phrase.toEnd phrase).read top (phrase.read top word).rest).after (phrase.read top word).misses
      else { phrase.read top word with verdict := .endless } := by
  obtain ⟨_, round⟩ := toEnd_round phrase top solid
  rw [read_toEnd, Reading.repeatWhile_round (round.symm ▸ matched), round]

theorem fails_toEnd (failed : ((Phrase.toEnd phrase).read top word).verdict = .failed context) :
    word ≠ [] ∧ (((phrase.read top word).verdict = .failed context ∧
        (Phrase.toEnd phrase).read top word = phrase.read top word) ∨
      ∃ middle, phrase.Matches top word middle ∧ middle.length < word.length ∧
        ((Phrase.toEnd phrase).read top middle).verdict = .failed context ∧
        (Phrase.toEnd phrase).read top word =
          ((Phrase.toEnd phrase).read top middle).after (phrase.read top word).misses) := by
  have solid : word ≠ [] := by
    rintro rfl
    rw [read_toEnd, Reading.repeatWhile_ended rfl] at failed
    cases failed
  refine ⟨solid, ?_⟩
  by_cases matched : (phrase.read top word).verdict = .matched
  · have goes := toEnd_goes solid matched
    split at goes
    · rename_i less
      rw [goes] at failed
      exact .inr ⟨_, ⟨matched, rfl⟩, less, failed, goes⟩
    · rw [goes] at failed
      cases failed
  · have stops := toEnd_stops solid matched
    rw [stops] at failed
    exact .inl ⟨failed, stops⟩

def nextForm : Form := Form.inTurn [Form.symbol .comma, Form.spaces, Form.sequence]

theorem nextSelector_derives : Derives nextSelector nextForm :=
  .both (.required (.symbol _)) (.both .spaces (.last (.required .selector)))

theorem toEnd_stuck (failed : ((Phrase.toEnd nextSelector).read true word).verdict = .failed context) :
    (∃ middle, middle ≠ [] ∧ (Form.star nextForm).Leaves word middle ∧
      Stuck context middle ((Phrase.toEnd nextSelector).read true word).rest) ∧
      Blamed ((Phrase.toEnd nextSelector).read true word) := by
  induction size : word.length using Nat.strongRecOn generalizing word with
  | _ size ih =>
      obtain ⟨solid, ⟨early, same⟩ | ⟨middle, taken, less, later, same⟩⟩ := fails_toEnd failed
      · obtain ⟨stuck, blamed⟩ := nextSelector_fails early
        rw [same]
        exact ⟨⟨word, solid, .stop, stuck⟩, blamed⟩
      · obtain ⟨⟨last, running, leaves, stuck⟩, blamed⟩ := ih _ (size ▸ less) later rfl
        rw [same]
        exact ⟨⟨last, running, .again (nextSelector_derives _ _ _ taken) leaves, stuck⟩, blamed.after _⟩

end Phrase

variable {shapes rest word : List Shape} {context : List Term}

-- What a derivation takes is a group by itself.
theorem Form.Leaves.accepts_front (leaves : Form.group.Leaves word rest) :
    ∃ front, word = front ++ rest ∧ State.start.accepts front = true := by
  obtain ⟨states, leads, final⟩ := (Option.any_eq_true _ _).mp Form.group_post
  obtain ⟨front, next, same, reached, present⟩ := leaves.run leads
  exact ⟨front, same, State.accepts_iff.mpr ⟨next, reached, List.all_eq_true.mp final next present⟩⟩

-- The first selector is missed, or what was read before is a group by itself.
theorem Phrase.selectorsGroupBody_fails
    (failed : (Phrase.selectorsGroupBody.read true shapes).verdict = .failed context) :
    (context = [.production .selector] ∧ Phrase.selector.Misses true shapes shapes ∨
      ∃ front middle, shapes = front ++ middle ∧ State.start.accepts front = true ∧ middle ≠ [] ∧
        Phrase.Stuck context middle (Phrase.selectorsGroupBody.read true shapes).rest) ∧
      Phrase.Blamed (Phrase.selectorsGroupBody.read true shapes) := by
  rcases Phrase.fails_both failed with ⟨missed, same⟩ | ⟨after, taken, further, same⟩
  · obtain ⟨named, misses, _, blamed⟩ := Phrase.selector_fails missed
    exact ⟨.inl ⟨named, misses⟩, (congrArg Phrase.Blamed same).mpr blamed⟩
  · obtain ⟨⟨middle, running, leaves, stuck⟩, blamed⟩ := Phrase.toEnd_stuck further
    have first := Phrase.Derives.selector _ _ _ (Phrase.matches_required.mp taken)
    obtain ⟨front, parts, accepted⟩ := (Form.Leaves.seq first leaves).accepts_front
    have rest := congrArg Reading.rest same
    refine ⟨.inr ⟨front, middle, parts, accepted, running, ?_⟩,
      (congrArg Phrase.Blamed same).mpr (blamed.after _)⟩
    exact rest ▸ stuck

end CssSelectors
