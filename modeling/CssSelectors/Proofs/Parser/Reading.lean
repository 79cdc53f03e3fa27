import CssSelectors.Grammar.Phrase
import CssSelectors.Token.Basic

namespace CssSelectors

-- What the grammar sees of a token: its class, or the character that stands for itself.
inductive Shape where
  | symbol (name : Symbol)
  | literal (c : Char)
deriving DecidableEq, Repr

namespace Shape

-- The term that matches such a token and no other.
def term : Shape → Term
  | .symbol name => .symbol name
  | .literal c => .char c

def space : Shape := .symbol .space

theorem term_injective {left right : Shape} (same : left.term = right.term) : left = right := by
  cases left <;> cases right <;> simp_all [term]

end Shape

def Token.shape? : Token → Option Shape
  | .symbol name _ => some (.symbol name)
  | .literal c => some (.literal c)
  | .endOfText => none

-- The three ways in which recognition ends, with the terms an error names as its context. A
-- repetition is endless when a round of it takes nothing.
inductive Verdict where
  | matched
  | missed
  | failed (context : List Term)
  | endless
deriving DecidableEq, Repr

-- What comes of reading shapes: the verdict, what is left, and each shape that was tried in vain
-- with the number of shapes that were left there, newest first.
structure Reading where
  verdict : Verdict
  rest : List Shape
  misses : List (Shape × Nat) := []
deriving DecidableEq, Repr

abbrev Reader := List Shape → Reading

namespace Reading

def after (reading : Reading) (earlier : List (Shape × Nat)) : Reading :=
  { reading with misses := reading.misses ++ earlier }

def andThen (reading : Reading) (next : Reader) : Reading :=
  match reading.verdict with
  | .matched => (next reading.rest).after reading.misses
  | _ => reading

def orElse (reading : Reading) (next : Reader) : Reading :=
  match reading.verdict with
  | .missed => (next reading.rest).after reading.misses
  | _ => reading

-- The reading with another answer to whether something matched. Errors stay as they are.
def decided (reading : Reading) (onMatch onMiss : Verdict) : Reading :=
  match reading.verdict with
  | .matched => { reading with verdict := onMatch }
  | .missed => { reading with verdict := onMiss }
  | _ => reading

def restoring (reading : Reading) (shapes : List Shape) : Reading :=
  match reading.verdict with
  | .missed => { reading with rest := shapes }
  | _ => reading

def take (shape : Shape) : Reader
  | [] => ⟨.missed, [], [(shape, 0)]⟩
  | first :: rest =>
    if shape = first then ⟨.matched, rest, []⟩
    else ⟨.missed, first :: rest, [(shape, rest.length + 1)]⟩

-- White space is never expected.
def takeSpace : Reader
  | [] => ⟨.missed, [], []⟩
  | first :: rest =>
    if first = Shape.space then ⟨.matched, rest, []⟩ else ⟨.missed, first :: rest, []⟩

def more : Reader
  | [] => ⟨.missed, [], []⟩
  | first :: rest => ⟨.matched, first :: rest, []⟩

def pass : Reader := fun shapes => ⟨.matched, shapes, []⟩

def repeatWhile (head tail : Reader) (shapes : List Shape) : Reading :=
  let headed := head shapes
  match headed.verdict with
  | .matched =>
    let round := (tail headed.rest).after headed.misses
    match round.verdict with
    | .matched =>
      if round.rest.length < shapes.length then
        (repeatWhile head tail round.rest).after round.misses
      else { round with verdict := .endless }
    | _ => round
  | .missed => { headed with verdict := .matched }
  | _ => headed
termination_by shapes.length

end Reading

namespace Reading

variable {shape : Shape} {shapes : List Shape}

theorem take_self : take shape (shape :: shapes) = ⟨.matched, shapes, []⟩ := by simp [take]

theorem take_other (other : shapes.head? ≠ some shape) :
    take shape shapes = ⟨.missed, shapes, [(shape, shapes.length)]⟩ := by
  cases shapes with
  | nil => rfl
  | cons first rest =>
      have different : shape ≠ first := by
        rintro rfl
        exact other rfl
      simp [take, different]

theorem takeSpace_self : takeSpace (Shape.space :: shapes) = ⟨.matched, shapes, []⟩ := by
  simp [takeSpace]

theorem takeSpace_other (other : shapes.head? ≠ some Shape.space) :
    takeSpace shapes = ⟨.missed, shapes, []⟩ := by
  cases shapes with
  | nil => rfl
  | cons first rest =>
      have different : first ≠ Shape.space := by
        rintro rfl
        exact other rfl
      simp [takeSpace, different]

theorem takeSpace_restores (shapes : List Shape) (missed : (takeSpace shapes).verdict = .missed) :
    (takeSpace shapes).rest = shapes := by
  cases shapes with
  | nil => rfl
  | cons first rest =>
      by_cases same : first = Shape.space
      · simp [takeSpace, same] at missed
      · simp [takeSpace, same]

theorem more_restores (shapes : List Shape) : (more shapes).rest = shapes := by
  cases shapes with
  | nil => rfl
  | cons => rfl

variable {reading : Reading} {onMatch onMiss : Verdict}

@[simp] theorem rest_decided : (reading.decided onMatch onMiss).rest = reading.rest := by
  unfold decided
  split <;> rfl

@[simp] theorem misses_decided : (reading.decided onMatch onMiss).misses = reading.misses := by
  unfold decided
  split <;> rfl

theorem verdict_decided {other : Reading} (same : other.verdict = reading.verdict) :
    (other.decided onMatch onMiss).verdict = (reading.decided onMatch onMiss).verdict := by
  unfold decided
  rw [same]
  cases verdict : reading.verdict <;> simp [same, verdict]

@[simp] theorem verdict_restoring : (reading.restoring shapes).verdict = reading.verdict := by
  unfold restoring
  split <;> rfl

@[simp] theorem misses_restoring : (reading.restoring shapes).misses = reading.misses := by
  unfold restoring
  split <;> rfl

theorem andThen_kept {next : Reader} (unmatched : reading.verdict ≠ .matched) :
    reading.andThen next = reading := by
  unfold andThen
  split
  · rename_i matched
    exact absurd matched unmatched
  · rfl

theorem misses_andThen (next : Reader) {miss : Shape × Nat} (noted : miss ∈ reading.misses) :
    miss ∈ (reading.andThen next).misses := by
  unfold andThen
  split
  · exact List.mem_append_right _ noted
  · exact noted

theorem orElse_kept {next : Reader} (other : reading.verdict ≠ .missed) :
    reading.orElse next = reading := by
  unfold orElse
  split
  · rename_i missed
    exact absurd missed other
  · rfl

theorem restoring_kept (other : reading.verdict ≠ .missed) : reading.restoring shapes = reading := by
  unfold restoring
  split
  · rename_i missed
    exact absurd missed other
  · rfl

variable {head tail : Reader}

theorem repeatWhile_ended (missed : (head shapes).verdict = .missed) :
    repeatWhile head tail shapes = { head shapes with verdict := .matched } := by
  rw [repeatWhile]
  simp only [missed]

theorem repeatWhile_stopped (other : (head shapes).verdict ≠ .missed)
    (unmatched : ((head shapes).andThen tail).verdict ≠ .matched) :
    repeatWhile head tail shapes = (head shapes).andThen tail := by
  rw [repeatWhile]
  unfold andThen at unmatched ⊢
  cases first : (head shapes).verdict with
  | matched =>
      simp only [first] at unmatched ⊢
      split
      · rename_i second
        exact absurd second unmatched
      · rfl
  | missed => exact absurd first other
  | failed => rfl
  | endless => rfl

theorem repeatWhile_round (matched : ((head shapes).andThen tail).verdict = .matched) :
    repeatWhile head tail shapes =
      if ((head shapes).andThen tail).rest.length < shapes.length then
        (repeatWhile head tail ((head shapes).andThen tail).rest).after
          ((head shapes).andThen tail).misses
      else { (head shapes).andThen tail with verdict := .endless } := by
  rw [repeatWhile]
  unfold andThen at matched ⊢
  cases first : (head shapes).verdict with
  | matched =>
      simp only [first] at matched ⊢
      simp only [matched]
  | missed => simp [first] at matched
  | failed => simp [first] at matched
  | endless => simp [first] at matched

theorem repeatWhile_endless (matched : ((head shapes).andThen tail).verdict = .matched)
    (stays : ¬ ((head shapes).andThen tail).rest.length < shapes.length) :
    repeatWhile head tail shapes = { (head shapes).andThen tail with verdict := .endless } :=
  (repeatWhile_round matched).trans (if_neg stays)

end Reading

namespace Phrase

-- What a phrase makes of shapes when nothing else matters: neither offsets nor comments nor what a
-- cursor remembers. `top` tells whether it is read outside of every attempt.
def read (top : Bool) : Phrase → Reader
  | .char c => Reading.take (.literal c)
  | .symbol name => Reading.take (.symbol name)
  | .production _ body => fun shapes => (body.read false shapes).restoring shapes
  | .spaces => Reading.repeatWhile Reading.takeSpace Reading.pass
  | .fail => fun shapes => ⟨.missed, shapes, []⟩
  | .either first second => fun shapes => (first.read top shapes).orElse (second.read top)
  | .both first second => fun shapes => (first.read top shapes).andThen (second.read top)
  | .optional phrase => fun shapes => (phrase.read top shapes).decided .matched .matched
  | .absent phrase => fun shapes => (phrase.read top shapes).decided .missed .matched
  | .many phrase => Reading.repeatWhile (phrase.read top) Reading.pass
  | .toEnd phrase => Reading.repeatWhile Reading.more (phrase.read top)
  | .required phrase => fun shapes =>
    (phrase.read top shapes).decided .matched (if top then .failed phrase.terms else .missed)

variable {top : Bool} {c : Char} {symbol : Symbol} {production : Production}
  {phrase first second : Phrase}

@[simp] theorem read_char : (Phrase.char c).read top = Reading.take (.literal c) := rfl

@[simp] theorem read_symbol : (Phrase.symbol symbol).read top = Reading.take (.symbol symbol) := rfl

@[simp] theorem read_production : (Phrase.production production phrase).read top =
    fun shapes => (phrase.read false shapes).restoring shapes := rfl

@[simp] theorem read_spaces :
    Phrase.spaces.read top = Reading.repeatWhile Reading.takeSpace Reading.pass := rfl

@[simp] theorem read_fail : Phrase.fail.read top = fun shapes => ⟨.missed, shapes, []⟩ := rfl

@[simp] theorem read_either : (Phrase.either first second).read top =
    fun shapes => (first.read top shapes).orElse (second.read top) := rfl

@[simp] theorem read_both : (Phrase.both first second).read top =
    fun shapes => (first.read top shapes).andThen (second.read top) := rfl

@[simp] theorem read_optional : (Phrase.optional phrase).read top =
    fun shapes => (phrase.read top shapes).decided .matched .matched := rfl

@[simp] theorem read_absent : (Phrase.absent phrase).read top =
    fun shapes => (phrase.read top shapes).decided .missed .matched := rfl

@[simp] theorem read_many :
    (Phrase.many phrase).read top = Reading.repeatWhile (phrase.read top) Reading.pass := rfl

@[simp] theorem read_toEnd :
    (Phrase.toEnd phrase).read top = Reading.repeatWhile Reading.more (phrase.read top) := rfl

@[simp] theorem read_required : (Phrase.required phrase).read top = fun shapes =>
    (phrase.read top shapes).decided .matched (if top then .failed phrase.terms else .missed) := rfl

-- Whether a match takes something for certain.
def consumes : Phrase → Bool
  | .char _ | .symbol _ | .fail => true
  | .production _ body => body.consumes
  | .either first second => first.consumes && second.consumes
  | .both first second => first.consumes || second.consumes
  | .required phrase => phrase.consumes
  | .spaces | .optional _ | .absent _ | .many _ | .toEnd _ => false

-- Whether every round of every repetition takes something.
def productive : Phrase → Bool
  | .char _ | .symbol _ | .fail | .spaces => true
  | .production _ body => body.productive
  | .either first second | .both first second => first.productive && second.productive
  | .optional phrase | .absent phrase | .required phrase => phrase.productive
  | .many phrase | .toEnd phrase => phrase.productive && phrase.consumes

end Phrase

namespace Reading

-- What holds of every reading of a productive phrase: it leaves an end of what it was given, less
-- than all of it if a match is sure to take something; it has missed nothing but inside that; and it
-- comes to a verdict.
structure Fair (consuming : Bool) (reading : Reading) (shapes : List Shape) : Prop where
  rest : reading.rest <:+ shapes
  misses : ∀ miss ∈ reading.misses, miss.2 ≤ shapes.length
  ends : reading.verdict ≠ .endless
  shorter : consuming = true → reading.verdict = .matched → reading.rest.length < shapes.length

variable {consuming other : Bool} {reading : Reading} {shapes wider : List Shape} {next : Reader}

theorem Fair.after {earlier : List (Shape × Nat)} (fair : Fair consuming reading shapes)
    (part : shapes <:+ wider) (bounded : ∀ miss ∈ earlier, miss.2 ≤ wider.length) :
    Fair consuming (reading.after earlier) wider := by
  refine ⟨fair.rest.trans part, ?_, fair.ends, ?_⟩
  · intro miss present
    rcases List.mem_append.mp present with new | old
    · exact Nat.le_trans (fair.misses miss new) part.length_le
    · exact bounded miss old
  · intro sure matched
    exact Nat.lt_of_lt_of_le (fair.shorter sure matched) part.length_le

theorem Fair.andThen (fair : Fair consuming reading shapes)
    (onward : ∀ rest, Fair other (next rest) rest) :
    Fair (consuming || other) (reading.andThen next) shapes := by
  unfold Reading.andThen
  split
  · rename_i matched
    have going := (onward reading.rest).after fair.rest fair.misses
    refine ⟨going.rest, going.misses, going.ends, ?_⟩
    intro sure again
    rcases Bool.or_eq_true_iff.mp sure with first | second
    · exact Nat.lt_of_le_of_lt (onward reading.rest).rest.length_le (fair.shorter first matched)
    · exact going.shorter second again
  · rename_i unmatched
    exact ⟨fair.rest, fair.misses, fair.ends, fun _ matched => absurd matched (unmatched)⟩

theorem Fair.orElse (fair : Fair consuming reading shapes)
    (onward : ∀ rest, Fair other (next rest) rest) :
    Fair (consuming && other) (reading.orElse next) shapes := by
  unfold Reading.orElse
  split
  · have going := (onward reading.rest).after fair.rest fair.misses
    refine ⟨going.rest, going.misses, going.ends, ?_⟩
    intro sure matched
    exact going.shorter (Bool.and_eq_true_iff.mp sure).2 matched
  · refine ⟨fair.rest, fair.misses, fair.ends, ?_⟩
    intro sure matched
    exact fair.shorter (Bool.and_eq_true_iff.mp sure).1 matched

theorem Fair.decided {onMatch onMiss : Verdict} (fair : Fair consuming reading shapes)
    (matching : onMatch ≠ .endless) (missing : onMiss ≠ .endless) :
    Fair false (reading.decided onMatch onMiss) shapes := by
  unfold Reading.decided
  split
  · exact ⟨fair.rest, fair.misses, matching, nofun⟩
  · exact ⟨fair.rest, fair.misses, missing, nofun⟩
  · exact ⟨fair.rest, fair.misses, fair.ends, nofun⟩

theorem Fair.required {onMiss : Verdict} (fair : Fair consuming reading shapes)
    (unmatched : onMiss ≠ .matched) (missing : onMiss ≠ .endless) :
    Fair consuming (reading.decided .matched onMiss) shapes := by
  unfold Reading.decided
  split
  · rename_i matched
    exact ⟨fair.rest, fair.misses, nofun, fun sure _ => fair.shorter sure matched⟩
  · exact ⟨fair.rest, fair.misses, missing, fun _ matched => absurd matched unmatched⟩
  · exact fair

theorem Fair.restoring (fair : Fair consuming reading shapes) :
    Fair consuming (reading.restoring shapes) shapes := by
  unfold Reading.restoring
  split
  · rename_i missed
    refine ⟨List.suffix_refl _, fair.misses, fair.ends, ?_⟩
    intro _ matched
    rw [missed] at matched
    cases matched
  · exact fair

theorem Fair.take (shape : Shape) (shapes : List Shape) : Fair true (take shape shapes) shapes := by
  cases shapes with
  | nil => exact ⟨List.suffix_refl _, by simp [Reading.take], nofun, nofun⟩
  | cons first rest =>
      by_cases same : shape = first
      · rw [Reading.take, if_pos same]
        exact ⟨List.suffix_cons _ _, nofun, nofun, fun _ _ => Nat.lt_succ_self _⟩
      · rw [Reading.take, if_neg same]
        exact ⟨List.suffix_refl _, by simp, nofun, nofun⟩

theorem Fair.takeSpace (shapes : List Shape) : Fair true (takeSpace shapes) shapes := by
  cases shapes with
  | nil => exact ⟨List.suffix_refl _, nofun, nofun, nofun⟩
  | cons first rest =>
      by_cases same : first = Shape.space
      · rw [Reading.takeSpace, if_pos same]
        exact ⟨List.suffix_cons _ _, nofun, nofun, fun _ _ => Nat.lt_succ_self _⟩
      · rw [Reading.takeSpace, if_neg same]
        exact ⟨List.suffix_refl _, nofun, nofun, nofun⟩

theorem Fair.more (shapes : List Shape) : Fair false (more shapes) shapes := by
  cases shapes with
  | nil => exact ⟨List.suffix_refl _, nofun, nofun, nofun⟩
  | cons first rest => exact ⟨List.suffix_refl _, nofun, nofun, nofun⟩

theorem Fair.pass (shapes : List Shape) : Fair false (pass shapes) shapes :=
  ⟨List.suffix_refl _, nofun, nofun, nofun⟩

theorem Fair.repeatWhile {head tail : Reader} (heading : ∀ shapes, Fair consuming (head shapes) shapes)
    (tailing : ∀ shapes, Fair other (tail shapes) shapes) (solid : (consuming || other) = true)
    (shapes : List Shape) : Fair false (repeatWhile head tail shapes) shapes := by
  induction size : shapes.length using Nat.strongRecOn generalizing shapes with
  | _ size ih =>
      have headed := heading shapes
      have round := headed.andThen tailing
      rw [Reading.repeatWhile]
      unfold Reading.andThen at round
      cases first : (head shapes).verdict with
      | matched =>
          simp only [first] at round ⊢
          cases second : ((tail (head shapes).rest).after (head shapes).misses).verdict with
          | matched =>
              have less := round.shorter solid second
              simp only [less, if_true]
              have going := ih _ (size ▸ less) _ rfl
              exact going.after round.rest round.misses
          | missed => exact ⟨round.rest, round.misses, round.ends, nofun⟩
          | failed => exact ⟨round.rest, round.misses, round.ends, nofun⟩
          | endless => exact absurd second round.ends
      | missed => exact ⟨headed.rest, headed.misses, nofun, nofun⟩
      | failed => exact ⟨headed.rest, headed.misses, headed.ends, nofun⟩
      | endless => exact absurd first headed.ends

theorem andThen_not_missed (first : reading.verdict ≠ .missed)
    (second : ∀ rest, (next rest).verdict ≠ .missed) : (reading.andThen next).verdict ≠ .missed := by
  unfold andThen
  split
  · exact second _
  · exact first

theorem repeatWhile_not_missed {head tail : Reader} (second : ∀ rest, (tail rest).verdict ≠ .missed)
    (shapes : List Shape) : (repeatWhile head tail shapes).verdict ≠ .missed := by
  induction size : shapes.length using Nat.strongRecOn generalizing shapes with
  | _ size ih =>
      rw [repeatWhile]
      cases first : (head shapes).verdict with
      | matched =>
          simp only
          split
          · split
            · rename_i less
              exact ih _ (size ▸ less) _ rfl
            · nofun
          · exact second _
      | missed => nofun
      | failed => simp [first]
      | endless => simp [first]

end Reading

theorem Phrase.read_fair {phrase : Phrase} (productive : phrase.productive = true) (top : Bool)
    (shapes : List Shape) : Reading.Fair phrase.consumes (phrase.read top shapes) shapes := by
  induction phrase generalizing top shapes with
  | char c => exact .take _ _
  | symbol name => exact .take _ _
  | production name body ih => exact (ih productive false shapes).restoring
  | spaces => exact .repeatWhile .takeSpace .pass rfl _
  | fail => exact ⟨List.suffix_refl _, nofun, nofun, nofun⟩
  | either first second one two =>
      obtain ⟨left, right⟩ := Bool.and_eq_true_iff.mp productive
      exact (one left top shapes).orElse (two right top)
  | both first second one two =>
      obtain ⟨left, right⟩ := Bool.and_eq_true_iff.mp productive
      exact (one left top shapes).andThen (two right top)
  | optional phrase ih => exact (ih productive top shapes).decided nofun nofun
  | absent phrase ih => exact (ih productive top shapes).decided nofun nofun
  | many phrase ih =>
      obtain ⟨inside, solid⟩ := Bool.and_eq_true_iff.mp productive
      exact .repeatWhile (ih inside top) .pass (by simp [solid]) _
  | toEnd phrase ih =>
      obtain ⟨inside, solid⟩ := Bool.and_eq_true_iff.mp productive
      exact .repeatWhile .more (ih inside top) (by simp [solid]) _
  | required phrase ih =>
      refine (ih productive top shapes).required ?_ ?_
      · cases top <;> simp
      · cases top <;> simp

end CssSelectors
