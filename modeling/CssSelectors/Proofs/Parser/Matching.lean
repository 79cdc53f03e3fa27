import CssSelectors.Proofs.Parser.Reading

namespace CssSelectors.Phrase

-- A phrase takes the front of a word and leaves the rest, or cannot and leaves what it leaves.

def Matches (phrase : Phrase) (top : Bool) (word rest : List Shape) : Prop :=
  (phrase.read top word).verdict = .matched ∧ (phrase.read top word).rest = rest

def Misses (phrase : Phrase) (top : Bool) (word rest : List Shape) : Prop :=
  (phrase.read top word).verdict = .missed ∧ (phrase.read top word).rest = rest

variable {phrase first second : Phrase} {top : Bool} {word rest : List Shape} {shape : Shape}
  {name : Symbol} {c : Char} {production : Production}

-- Something that leaves a rest, and what holds of that rest.
theorem through {takes : Prop} {left : List Shape} {onward : List Shape → Prop} :
    (∃ middle, (takes ∧ left = middle) ∧ onward middle) ↔ takes ∧ onward left := by
  constructor
  · rintro ⟨_, ⟨one, rfl⟩, two⟩
    exact ⟨one, two⟩
  · rintro ⟨one, two⟩
    exact ⟨left, ⟨one, rfl⟩, two⟩

theorem take_matched :
    ((Reading.take shape word).verdict = .matched ∧ (Reading.take shape word).rest = rest) ↔
      word = shape :: rest := by
  cases word with
  | nil => simp [Reading.take]
  | cons next word =>
      by_cases same : shape = next
      · simp [Reading.take, same]
      · simp [Reading.take, same, Ne.symm same]

theorem take_missed :
    ((Reading.take shape word).verdict = .missed ∧ (Reading.take shape word).rest = rest) ↔
      word.head? ≠ some shape ∧ rest = word := by
  cases word with
  | nil => simp [Reading.take, eq_comm]
  | cons next word =>
      by_cases same : shape = next
      · simp [Reading.take, same]
      · simp [Reading.take, same, eq_comm]

theorem andThen_matched {reading : Reading} {next : Reader} :
    ((reading.andThen next).verdict = .matched ∧ (reading.andThen next).rest = rest) ↔
      reading.verdict = .matched ∧ (next reading.rest).verdict = .matched ∧
        (next reading.rest).rest = rest := by
  cases verdict : reading.verdict <;> simp [Reading.andThen, Reading.after, verdict]

theorem andThen_missed {reading : Reading} {next : Reader} :
    ((reading.andThen next).verdict = .missed ∧ (reading.andThen next).rest = rest) ↔
      (reading.verdict = .missed ∧ reading.rest = rest) ∨
        (reading.verdict = .matched ∧ (next reading.rest).verdict = .missed ∧
          (next reading.rest).rest = rest) := by
  cases verdict : reading.verdict <;> simp [Reading.andThen, Reading.after, verdict]

theorem orElse_matched {reading : Reading} {next : Reader} :
    ((reading.orElse next).verdict = .matched ∧ (reading.orElse next).rest = rest) ↔
      (reading.verdict = .matched ∧ reading.rest = rest) ∨
        (reading.verdict = .missed ∧ (next reading.rest).verdict = .matched ∧
          (next reading.rest).rest = rest) := by
  cases verdict : reading.verdict <;> simp [Reading.orElse, Reading.after, verdict]

theorem orElse_missed {reading : Reading} {next : Reader} :
    ((reading.orElse next).verdict = .missed ∧ (reading.orElse next).rest = rest) ↔
      reading.verdict = .missed ∧ (next reading.rest).verdict = .missed ∧
        (next reading.rest).rest = rest := by
  cases verdict : reading.verdict <;> simp [Reading.orElse, Reading.after, verdict]

@[simp] theorem matches_char :
    (Phrase.char c).Matches top word rest ↔ word = .literal c :: rest := take_matched

@[simp] theorem misses_char :
    (Phrase.char c).Misses top word rest ↔ word.head? ≠ some (.literal c) ∧ rest = word := take_missed

@[simp] theorem matches_symbol :
    (Phrase.symbol name).Matches top word rest ↔ word = .symbol name :: rest := take_matched

@[simp] theorem misses_symbol :
    (Phrase.symbol name).Misses top word rest ↔ word.head? ≠ some (.symbol name) ∧ rest = word :=
  take_missed

@[simp] theorem matches_production :
    (Phrase.production production phrase).Matches top word rest ↔ phrase.Matches false word rest := by
  simp only [Matches, read_production, Reading.restoring]
  cases verdict : (phrase.read false word).verdict <;> simp [verdict]

@[simp] theorem misses_production :
    (Phrase.production production phrase).Misses top word rest ↔
      (∃ left, phrase.Misses false word left) ∧ rest = word := by
  simp only [Misses, read_production, Reading.restoring]
  cases verdict : (phrase.read false word).verdict <;> simp [verdict, eq_comm]

@[simp] theorem matches_fail : ¬ Phrase.fail.Matches top word rest := by simp [Matches, read_fail]

@[simp] theorem misses_fail : Phrase.fail.Misses top word rest ↔ rest = word := by
  simp [Misses, read_fail, eq_comm]

@[simp] theorem matches_both :
    (Phrase.both first second).Matches top word rest ↔
      ∃ middle, first.Matches top word middle ∧ second.Matches top middle rest := by
  simp only [Matches, read_both, andThen_matched, through]

@[simp] theorem misses_both :
    (Phrase.both first second).Misses top word rest ↔
      first.Misses top word rest ∨
        ∃ middle, first.Matches top word middle ∧ second.Misses top middle rest := by
  simp only [Matches, Misses, read_both, andThen_missed, through]

@[simp] theorem matches_either :
    (Phrase.either first second).Matches top word rest ↔
      first.Matches top word rest ∨
        ∃ middle, first.Misses top word middle ∧ second.Matches top middle rest := by
  simp only [Matches, Misses, read_either, orElse_matched, through]

@[simp] theorem misses_either :
    (Phrase.either first second).Misses top word rest ↔
      ∃ middle, first.Misses top word middle ∧ second.Misses top middle rest := by
  simp only [Misses, read_either, orElse_missed, through]

@[simp] theorem matches_optional :
    (Phrase.optional phrase).Matches top word rest ↔
      phrase.Matches top word rest ∨ phrase.Misses top word rest := by
  simp only [Matches, Misses, read_optional, Reading.decided]
  cases verdict : (phrase.read top word).verdict <;> simp [verdict]

@[simp] theorem misses_optional : ¬ (Phrase.optional phrase).Misses top word rest := by
  simp only [Misses, read_optional, Reading.decided]
  cases verdict : (phrase.read top word).verdict <;> simp [verdict]

@[simp] theorem matches_absent :
    (Phrase.absent phrase).Matches top word rest ↔ phrase.Misses top word rest := by
  simp only [Matches, Misses, read_absent, Reading.decided]
  cases verdict : (phrase.read top word).verdict <;> simp [verdict]

@[simp] theorem misses_absent :
    (Phrase.absent phrase).Misses top word rest ↔ phrase.Matches top word rest := by
  simp only [Matches, Misses, read_absent, Reading.decided]
  cases verdict : (phrase.read top word).verdict <;> simp [verdict]

@[simp] theorem matches_required :
    (Phrase.required phrase).Matches top word rest ↔ phrase.Matches top word rest := by
  simp only [Matches, read_required, Reading.decided]
  cases verdict : (phrase.read top word).verdict <;> cases top <;> simp [verdict]

theorem repeatWhile_matched (word : List Shape) {head tail : Reader} :
    ((Reading.repeatWhile head tail word).verdict = .matched ∧
        (Reading.repeatWhile head tail word).rest = rest) ↔
      ((head word).verdict = .missed ∧ (head word).rest = rest) ∨
        ((head word).verdict = .matched ∧ (tail (head word).rest).verdict = .matched ∧
          (tail (head word).rest).rest.length < word.length ∧
          (Reading.repeatWhile head tail (tail (head word).rest).rest).verdict = .matched ∧
          (Reading.repeatWhile head tail (tail (head word).rest).rest).rest = rest) := by
  rw [Reading.repeatWhile]
  cases first : (head word).verdict with
  | matched =>
      cases second : (tail (head word).rest).verdict with
      | matched =>
          by_cases less : (tail (head word).rest).rest.length < word.length
          · simp [Reading.after, second, less]
          · simp [Reading.after, second, less]
      | missed => simp [Reading.after, second]
      | failed => simp [Reading.after, second]
      | endless => simp [Reading.after, second]
  | missed => simp
  | failed => simp [first]
  | endless => simp [first]

theorem matches_many :
    (Phrase.many phrase).Matches top word rest ↔
      phrase.Misses top word rest ∨
        ∃ middle, phrase.Matches top word middle ∧ middle.length < word.length ∧
          (Phrase.many phrase).Matches top middle rest := by
  simp only [Matches, Misses, read_many, repeatWhile_matched word]
  refine or_congr Iff.rfl ⟨?_, ?_⟩
  · rintro ⟨one, _, less, more⟩
    exact ⟨_, ⟨one, rfl⟩, less, more⟩
  · rintro ⟨_, ⟨one, rfl⟩, less, more⟩
    exact ⟨one, rfl, less, more⟩

theorem matches_toEnd :
    (Phrase.toEnd phrase).Matches top word rest ↔
      (word = [] ∧ rest = []) ∨
        (word ≠ [] ∧ ∃ middle, phrase.Matches top word middle ∧ middle.length < word.length ∧
          (Phrase.toEnd phrase).Matches top middle rest) := by
  simp only [Matches, read_toEnd, repeatWhile_matched word]
  cases word with
  | nil => simp [Reading.more, eq_comm]
  | cons shape word =>
      simp only [Reading.more]
      constructor
      · rintro (⟨missed, _⟩ | ⟨_, one, less, more⟩)
        · cases missed
        · exact .inr ⟨nofun, _, ⟨one, rfl⟩, less, more⟩
      · rintro (⟨empty, _⟩ | ⟨_, _, ⟨one, rfl⟩, less, more⟩)
        · cases empty
        · exact .inr ⟨trivial, one, less, more⟩

@[simp] theorem matches_spaces :
    Phrase.spaces.Matches top word rest ↔ rest = word.dropWhile (· == Shape.space) := by
  simp only [Matches, read_spaces]
  induction word with
  | nil =>
      rw [repeatWhile_matched]
      simp [Reading.takeSpace, eq_comm]
  | cons shape word ih =>
      rw [repeatWhile_matched]
      by_cases same : shape = Shape.space
      · simp [Reading.takeSpace, Reading.pass, same, ih]
      · have kept : (shape :: word).dropWhile (· == Shape.space) = shape :: word := by simp [same]
        rw [kept, Reading.takeSpace, if_neg same]
        simp [eq_comm]

@[simp] theorem misses_spaces : ¬ Phrase.spaces.Misses top word rest := by
  rintro ⟨missed, _⟩
  have matched : Phrase.spaces.Matches top word (word.dropWhile (· == Shape.space)) :=
    matches_spaces.mpr rfl
  rw [matched.1] at missed
  cases missed

-- Whether a phrase cannot miss.
def always : Phrase → Bool
  | .spaces | .optional _ | .many _ => true
  | _ => false

-- Whether a phrase cannot match.
def hopeless : Phrase → Bool
  | .fail => true
  | .production _ body => body.hopeless
  | _ => false

-- Whether a miss takes nothing for certain.
def restores : Phrase → Bool
  | .char _ | .symbol _ | .production _ _ | .spaces | .fail | .optional _ | .many _ => true
  | .either first second => first.restores && second.restores
  | .both first second => first.restores && (first.hopeless || second.always)
  | .required phrase => phrase.restores
  | .absent _ | .toEnd _ => false

theorem misses_many : ¬ (Phrase.many phrase).Misses top word rest := by
  refine fun misses => absurd misses.1 (Reading.repeatWhile_not_missed ?_ _)
  intro rest
  simp [Reading.pass]

theorem Misses.not_always (misses : phrase.Misses top word rest) : phrase.always = false := by
  cases phrase with
  | spaces => exact absurd misses misses_spaces
  | optional => exact absurd misses misses_optional
  | many => exact absurd misses misses_many
  | _ => rfl

theorem Matches.not_hopeless (matched : phrase.Matches top word rest) : phrase.hopeless = false := by
  induction phrase generalizing top with
  | fail => exact absurd matched matches_fail
  | production name body ih => exact ih (matches_production.mp matched)
  | _ => rfl

theorem Misses.restored (misses : phrase.Misses top word rest) (restores : phrase.restores = true) :
    rest = word := by
  induction phrase generalizing top word rest with
  | char c => exact (misses_char.mp misses).2
  | symbol name => exact (misses_symbol.mp misses).2
  | production name body => exact (misses_production.mp misses).2
  | spaces => exact absurd misses misses_spaces
  | fail => exact misses_fail.mp misses
  | either first second one two =>
      obtain ⟨left, right⟩ := Bool.and_eq_true_iff.mp restores
      obtain ⟨middle, early, late⟩ := misses_either.mp misses
      exact (two late right).trans (one early left)
  | both first second one two =>
      obtain ⟨left, right⟩ := Bool.and_eq_true_iff.mp restores
      rcases misses_both.mp misses with early | ⟨middle, taken, late⟩
      · exact one early left
      · simp [taken.not_hopeless, late.not_always] at right
  | optional phrase => exact absurd misses misses_optional
  | absent => cases restores
  | many phrase => exact absurd misses misses_many
  | toEnd => cases restores
  | required phrase ih =>
      have missed : (phrase.read top word).verdict = .missed := by
        have missed := misses.1
        simp only [read_required, Reading.decided] at missed
        split at missed
        · cases missed
        · assumption
        · exact missed
      have unread : (phrase.read top word).rest = rest := by
        have left := misses.2
        simp only [read_required, Reading.decided] at left
        split at left <;> exact left
      have inside : phrase.Misses top word rest := ⟨missed, unread⟩
      exact ih inside restores

theorem Matches.shorter (matched : phrase.Matches top word rest)
    (productive : phrase.productive = true) (consumes : phrase.consumes = true) :
    rest.length < word.length :=
  matched.2 ▸ (read_fair productive top word).shorter consumes matched.1

-- The first phrase of a choice that does not miss decides.
theorem Matches.choice (earlier : List Phrase) {later : List Phrase} (matched : phrase.Matches top word rest)
    (missed : ∀ other ∈ earlier, other.Misses top word word) :
    (choice (earlier ++ phrase :: later)).Matches top word rest := by
  induction earlier with
  | nil => exact matches_either.mpr (.inl matched)
  | cons first earlier ih =>
      have before := missed first List.mem_cons_self
      exact matches_either.mpr (.inr ⟨word, before,
        ih fun other present => missed other (List.mem_cons_of_mem _ present)⟩)

theorem Misses.choice {phrases : List Phrase}
    (missed : ∀ phrase ∈ phrases, phrase.Misses top word word) :
    (choice phrases).Misses top word word := by
  induction phrases with
  | nil => exact misses_fail.mpr rfl
  | cons first phrases ih =>
      exact misses_either.mpr ⟨word, missed first List.mem_cons_self,
        ih fun other present => missed other (List.mem_cons_of_mem _ present)⟩

end CssSelectors.Phrase
