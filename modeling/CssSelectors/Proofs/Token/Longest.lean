import CssSelectors.Token.Pattern
import Mathlib.Computability.Language

open scoped Computability

namespace CssSelectors.Pattern

-- A pattern finds the longest word of a language at the front of a text, if there is one.
structure Longest (pattern : Pattern) (language : Language Char) : Prop where
  sound : ∀ cs n, pattern cs = some n →
    ∃ word rest, cs = word ++ rest ∧ word.length = n ∧ word ∈ language
  complete : ∀ word rest, word ∈ language → ∃ n, pattern (word ++ rest) = some n ∧ word.length ≤ n

def either (first second : Pattern) : Pattern := fun cs => (first cs).or (second cs)

def single (check : Char → Bool) : Pattern
  | c :: _ => if check c then some 1 else none
  | [] => none

-- Taking more of the first language costs nothing: what the second could take after less, it can
-- still take as far after more.
def Yields (first second : Language Char) : Prop :=
  ∀ early late word behind after, early ∈ first → early ++ late ∈ first → word ∈ second →
    word ++ behind = late ++ after →
    (∃ rest ∈ second, word = late ++ rest) ∨ (word <+: late ∧ [] ∈ second)

-- Of two ways to cut a text, the longer front goes through the rest of the other.
theorem split_longer {short rest word after : List Char} (same : short ++ rest = word ++ after)
    (longer : short.length ≤ word.length) : ∃ late, word = short ++ late ∧ rest = late ++ after := by
  rcases List.append_eq_append_iff.mp same with ⟨late, parts, remains⟩ | ⟨late, parts, remains⟩
  · exact ⟨late, parts, remains⟩
  · have none : late = [] := by
      rw [parts, List.length_append] at longer
      exact List.length_eq_zero_iff.mp (by omega)
    subst none
    exact ⟨[], by simpa using parts.symm, by simpa using remains.symm⟩

variable {first second : Pattern} {left right language : Language Char} {word rest : List Char}

theorem Longest.bounded (longest : Longest first language) {cs : List Char} {n : Nat}
    (found : first cs = some n) : n ≤ cs.length := by
  obtain ⟨word, rest, rfl, rfl, _⟩ := longest.sound cs n found
  simp

theorem Longest.take (longest : Longest first language) {cs : List Char} {n : Nat}
    (found : first cs = some n) : cs.take n ∈ language := by
  obtain ⟨word, rest, rfl, rfl, member⟩ := longest.sound cs n found
  simpa using member

theorem Longest.followedBy (one : Longest first left) (two : Longest second right)
    (yields : Yields left right) : Longest (followedBy first second) (left * right) := by
  refine ⟨?_, ?_⟩
  · intro cs n found
    unfold Pattern.followedBy at found
    cases early : first cs with
    | none => simp [early] at found
    | some taken =>
        obtain ⟨word, rest, rfl, rfl, member⟩ := one.sound cs taken early
        simp only [early, List.drop_left, Option.map_eq_some_iff] at found
        obtain ⟨more, late, rfl⟩ := found
        obtain ⟨other, behind, rfl, rfl, inside⟩ := two.sound rest more late
        exact ⟨word ++ other, behind, by simp, by simp, Language.append_mem_mul member inside⟩
  · intro whole behind member
    obtain ⟨short, shorter, other, inside, rfl⟩ := Language.mem_mul.mp member
    rw [List.append_assoc]
    obtain ⟨taken, early, within⟩ := one.complete short (other ++ behind) shorter
    obtain ⟨word, after, same, length, longer⟩ := one.sound _ _ early
    obtain ⟨late, rfl, follows⟩ := split_longer same (length ▸ within)
    have dropped : (short ++ (other ++ behind)).drop taken = after := by
      rw [same, ← length, List.drop_left]
    unfold Pattern.followedBy
    simp only [early, dropped]
    rcases yields short late other behind after shorter longer inside follows with
      ⟨rest, tail, rfl⟩ | ⟨part, empty⟩
    · have remains : after = rest ++ behind := by simpa using follows.symm
      obtain ⟨more, found, covers⟩ := two.complete rest behind tail
      rw [remains, found]
      refine ⟨taken + more, rfl, ?_⟩
      simp only [List.length_append] at length ⊢
      omega
    · obtain ⟨more, found, _⟩ := two.complete [] after empty
      rw [List.nil_append] at found
      rw [found]
      refine ⟨taken + more, rfl, ?_⟩
      have short := part.length_le
      simp only [List.length_append] at length ⊢
      omega

theorem Longest.either (one : Longest first left) (two : Longest second right)
    (covers : ∀ cs n m, first cs = some n → second cs = some m → m ≤ n) :
    Longest (either first second) (left + right) := by
  refine ⟨?_, ?_⟩
  · intro cs n found
    rcases Option.or_eq_some_iff.mp found with early | ⟨_, late⟩
    · obtain ⟨word, rest, parts, length, member⟩ := one.sound cs n early
      exact ⟨word, rest, parts, length, .inl member⟩
    · obtain ⟨word, rest, parts, length, member⟩ := two.sound cs n late
      exact ⟨word, rest, parts, length, .inr member⟩
  · intro word rest member
    rcases member with member | member
    · obtain ⟨n, early, within⟩ := one.complete word rest member
      exact ⟨n, Option.or_eq_some_iff.mpr (.inl early), within⟩
    · obtain ⟨m, late, within⟩ := two.complete word rest member
      cases early : first (word ++ rest) with
      | none => exact ⟨m, Option.or_eq_some_iff.mpr (.inr ⟨early, late⟩), within⟩
      | some n =>
          refine ⟨n, Option.or_eq_some_iff.mpr (.inl early), ?_⟩
          exact Nat.le_trans within (covers _ n m early late)

theorem Longest.single {check : Char → Bool}
    (same : ∀ word, word ∈ language ↔ ∃ c, word = [c] ∧ check c = true) :
    Longest (single check) language := by
  refine ⟨?_, ?_⟩
  · intro cs n found
    cases cs with
    | nil => cases found
    | cons c rest =>
        simp only [Pattern.single, Option.ite_none_right_eq_some, Option.some.injEq] at found
        obtain ⟨holds, rfl⟩ := found
        exact ⟨[c], rest, rfl, rfl, (same _).mpr ⟨c, rfl, holds⟩⟩
  · intro word rest member
    obtain ⟨c, rfl, holds⟩ := (same word).mp member
    exact ⟨1, if_pos holds, Nat.le_refl _⟩

-- Nothing of the second language begins like what more of the first may add.
theorem Yields.of_heads (apart : ∀ early c late word, early ∈ left → early ++ c :: late ∈ left →
    c :: word ∉ right) : Yields left right := by
  intro early late word behind after shorter longer member follows
  cases late with
  | nil => exact .inl ⟨word, member, rfl⟩
  | cons c late =>
      cases word with
      | nil => exact .inr ⟨List.nil_prefix, member⟩
      | cons d word =>
          obtain rfl := (List.cons.inj follows).1
          exact absurd member (apart early _ late word shorter longer)

theorem Yields.of_subset {fewer : Language Char} (yields : Yields left right)
    (within : ∀ word ∈ fewer, word ∈ left) : Yields fewer right :=
  fun early late word behind after shorter longer =>
    yields early late word behind after (within early shorter) (within _ longer)

theorem Yields.of_same_length {n : Nat} (same : ∀ word ∈ left, word.length = n) :
    Yields left right := by
  apply Yields.of_heads
  intro early c late word shorter longer
  have one := same _ shorter
  have two := same _ longer
  simp only [List.length_append, List.length_cons] at two
  omega

theorem star_induction {motive : List Char → Prop} (nil : motive [])
    (piece : ∀ first rest, first ∈ language → rest ∈ language∗ → motive rest → motive (first ++ rest))
    (member : word ∈ language∗) : motive word := by
  obtain ⟨pieces, rfl, inside⟩ := Language.mem_kstar.mp member
  induction pieces with
  | nil => exact nil
  | cons first pieces ih =>
      have others : ∀ word ∈ pieces, word ∈ language :=
        fun word present => inside word (List.mem_cons_of_mem _ present)
      have rest := Language.join_mem_kstar others
      exact piece first _ (inside first List.mem_cons_self) rest (ih others rest)

theorem star_cons {piece : List Char} (first : piece ∈ language) (others : rest ∈ language∗) :
    piece ++ rest ∈ language∗ := by
  obtain ⟨pieces, rfl, inside⟩ := Language.mem_kstar.mp others
  exact Language.mem_kstar.mpr ⟨piece :: pieces, rfl, List.forall_mem_cons.mpr ⟨first, inside⟩⟩

theorem star_cases (member : word ∈ language∗) :
    word = [] ∨ ∃ piece rest, word = piece ++ rest ∧ piece ∈ language ∧ rest ∈ language∗ :=
  star_induction (motive := fun word => word = [] ∨
    ∃ piece rest, word = piece ++ rest ∧ piece ∈ language ∧ rest ∈ language∗) (.inl rfl)
    (fun first rest one others _ => .inr ⟨first, rest, rfl, one, others⟩) member

-- What an escape may take along or leave: a digit of its code, or the white space that ends it.
def isTrailing (c : Char) : Bool := isHexDigit c || isSpace c

theorem isTrailing_ne {c : Char} (trailing : isTrailing c = true) : c ≠ '\\' := by
  rintro rfl
  revert trailing
  decide

-- The pieces that names and quoted texts consist of: a single character, or a backslash with a
-- character and whatever of an escape may follow.
structure Pieces (language : Language Char) : Prop where
  shape : ∀ word ∈ language, (∃ c, word = [c] ∧ c ≠ '\\') ∨
    ∃ c tail, word = '\\' :: c :: tail ∧ ∀ d ∈ tail, isTrailing d = true

theorem Pieces.solid (pieces : Pieces language) (member : word ∈ language) : word ≠ [] := by
  rcases pieces.shape word member with ⟨c, rfl, _⟩ | ⟨c, tail, rfl, _⟩
  · exact nofun
  · exact nofun

theorem Pieces.single {c : Char} (pieces : Pieces language) (plain : c ≠ '\\')
    (member : c :: word ∈ language) : word = [] := by
  rcases pieces.shape _ member with ⟨d, same, _⟩ | ⟨d, tail, same, _⟩
  · exact (List.cons.inj same).2
  · exact absurd (List.cons.inj same).1 plain

theorem Pieces.longer {late : List Char} (pieces : Pieces language) (short : word ∈ language)
    (long : word ++ late ∈ language) : ∀ c ∈ late, isTrailing c = true := by
  rcases pieces.shape _ short with ⟨c, rfl, plain⟩ | ⟨c, tail, rfl, _⟩
  · obtain rfl := pieces.single plain long
    exact nofun
  · rcases pieces.shape _ long with ⟨d, same, _⟩ | ⟨d, others, same, trailing⟩
    · cases same
    · intro e present
      apply trailing e
      rw [← (List.cons.inj (List.cons.inj same).2).2]
      exact List.mem_append_right _ present

theorem Pieces.absorb {late behind after : List Char} (pieces : Pieces language)
    (trailing : ∀ c ∈ late, isTrailing c = true) (member : word ∈ language∗)
    (same : word ++ behind = late ++ after) :
    (∃ rest ∈ language∗, word = late ++ rest) ∨ word <+: late := by
  induction late generalizing word with
  | nil => exact .inl ⟨word, member, rfl⟩
  | cons c late ih =>
      rcases star_cases member with rfl | ⟨piece, rest, rfl, one, others⟩
      · exact .inr List.nil_prefix
      · cases piece with
        | nil => exact absurd rfl (pieces.solid one)
        | cons d piece =>
            obtain ⟨rfl, remains⟩ := List.cons.inj same
            have plain := isTrailing_ne (trailing d List.mem_cons_self)
            obtain rfl := pieces.single plain one
            rcases ih (fun e present => trailing e (List.mem_cons_of_mem _ present)) others remains with
              ⟨tail, inside, rfl⟩ | part
            · exact .inl ⟨tail, inside, rfl⟩
            · exact .inr (List.cons_prefix_cons.mpr ⟨rfl, part⟩)

-- Pieces in a row go on with new pieces, or with more of the last one.
theorem Pieces.onward {late : List Char} (pieces : Pieces language) (short : word ∈ language∗)
    (long : word ++ late ∈ language∗) :
    late ∈ language∗ ∨ ∃ c tail, late = c :: tail ∧ isTrailing c = true := by
  induction size : word.length using Nat.strongRecOn generalizing word with
  | _ size ih =>
      subst size
      rcases star_cases short with rfl | ⟨first, rest, rfl, one, others⟩
      · exact .inl long
      · have solid := List.length_pos_iff.mpr (pieces.solid one)
        rcases star_cases long with empty | ⟨other, behind, same, two, further⟩
        · simp only [List.append_eq_nil_iff] at empty
          exact .inl (empty.2 ▸ Language.nil_mem_kstar _)
        · rw [List.append_assoc] at same
          rcases Nat.le_total first.length other.length with shorter | shorter
          · obtain ⟨more, rfl, follows⟩ := split_longer same shorter
            have trailing := pieces.longer one two
            rcases pieces.absorb trailing others follows with ⟨tail, inside, rfl⟩ | ⟨left, rfl⟩
            · have remains : tail ++ late = behind := by simpa using follows
              exact ih tail.length (by simp; omega) inside (remains ▸ further) rfl
            · have remains : late = left ++ behind := by simpa using follows
              cases left with
              | nil => exact .inl (remains ▸ further)
              | cons c left => exact .inr ⟨c, left ++ behind, remains, trailing c (by simp)⟩
          · obtain ⟨more, rfl, follows⟩ := split_longer same.symm shorter
            have trailing := pieces.longer two one
            have whole : behind ++ [] = more ++ (rest ++ late) := by simpa using follows
            rcases pieces.absorb trailing further whole with ⟨tail, inside, rfl⟩ | part
            · have remains : tail = rest ++ late := by simpa using follows
              exact ih rest.length (by rw [List.length_append]; omega) others (remains ▸ inside) rfl
            · have covered := part.length_le
              rw [follows] at covered
              simp only [List.length_append] at covered
              have none : late = [] := List.length_eq_zero_iff.mp (by omega)
              exact .inl (none ▸ Language.nil_mem_kstar _)

theorem Pieces.head {c : Char} (pieces : Pieces language) (member : c :: word ∈ language∗) :
    ∃ piece others, word = piece ++ others ∧ c :: piece ∈ language ∧ others ∈ language∗ := by
  rcases star_cases member with empty | ⟨first, others, same, one, rest⟩
  · cases empty
  · cases first with
    | nil => exact absurd rfl (pieces.solid one)
    | cons d piece =>
        obtain ⟨rfl, rfl⟩ := List.cons.inj same
        exact ⟨piece, others, rfl, one, rest⟩

theorem Pieces.continues {late : List Char} (pieces : Pieces language) (short : word ∈ language∗)
    (long : word ++ late ∈ language∗) :
    late = [] ∨ ∃ c tail, late = c :: tail ∧ (isTrailing c = true ∨ ∃ piece, c :: piece ∈ language) := by
  cases late with
  | nil => exact .inl rfl
  | cons c tail =>
      right
      refine ⟨c, tail, rfl, ?_⟩
      rcases pieces.onward short long with member | ⟨d, others, same, trailing⟩
      · obtain ⟨piece, _, _, one, _⟩ := pieces.head member
        exact .inr ⟨piece, one⟩
      · exact .inl ((List.cons.inj same).1 ▸ trailing)

-- A character that begins no escape is a piece of its own.
theorem Pieces.tail {c : Char} (pieces : Pieces language) (plain : c ≠ '\\')
    (member : c :: word ∈ language∗) : word ∈ language∗ := by
  obtain ⟨piece, others, rfl, one, rest⟩ := pieces.head member
  obtain rfl := pieces.single plain one
  exact rest

theorem Pieces.yields (pieces : Pieces language) : Yields language language∗ := by
  intro early late word behind after short long member same
  rcases pieces.absorb (pieces.longer short long) member same with covered | part
  · exact .inl covered
  · exact .inr ⟨part, Language.nil_mem_kstar _⟩

theorem Longest.greedy_eq {unit : Pattern} (longest : Longest unit language)
    (pieces : Pieces language) {cs : List Char} {n : Nat} (found : unit cs = some n) :
    greedy unit cs = n + greedy unit (cs.drop n) := by
  obtain ⟨word, rest, rfl, rfl, member⟩ := longest.sound cs n found
  cases word with
  | nil => exact absurd rfl (pieces.solid member)
  | cons c word =>
      rw [List.cons_append, List.length_cons] at found
      rw [List.drop_left, List.cons_append, greedy, found]
      simp

theorem greedy_none {unit : Pattern} {cs : List Char} (missed : unit cs = none) :
    greedy unit cs = 0 := by
  cases cs with
  | nil => rw [greedy]
  | cons c rest => rw [greedy, missed]

theorem Longest.star {unit : Pattern} (longest : Longest unit language) (pieces : Pieces language) :
    Longest (fun cs => some (greedy unit cs)) language∗ := by
  refine ⟨?_, ?_⟩
  · intro cs n found
    cases Option.some.inj found
    induction size : cs.length using Nat.strongRecOn generalizing cs with
    | _ size ih =>
        cases taken : unit cs with
        | none => exact ⟨[], cs, rfl, by simp [greedy_none taken], Language.nil_mem_kstar _⟩
        | some n =>
            have goes := longest.greedy_eq pieces taken
            obtain ⟨word, rest, rfl, rfl, member⟩ := longest.sound cs n taken
            have solid := List.length_pos_iff.mpr (pieces.solid member)
            rw [List.drop_left] at goes
            obtain ⟨others, behind, parts, length, inside⟩ := ih rest.length
              (by rw [← size, List.length_append]; omega) rest rfl rfl
            refine ⟨word ++ others, behind, ?_, ?_, star_cons member inside⟩
            · rw [parts, List.append_assoc]
            · rw [List.length_append, length, goes]
  · intro word rest member
    refine ⟨_, rfl, ?_⟩
    induction size : word.length using Nat.strongRecOn generalizing word with
    | _ size ih =>
        subst size
        rcases star_cases member with rfl | ⟨piece, tail, rfl, one, others⟩
        · exact Nat.zero_le _
        · have solid := List.length_pos_iff.mpr (pieces.solid one)
          rw [List.append_assoc]
          obtain ⟨n, found, within⟩ := longest.complete piece (tail ++ rest) one
          obtain ⟨long, after, same, rfl, longer⟩ := longest.sound _ _ found
          have goes := longest.greedy_eq pieces found
          rw [same, List.drop_left] at goes
          obtain ⟨late, rfl, follows⟩ := split_longer same within
          rw [same, goes]
          rcases pieces.absorb (pieces.longer one longer) others follows with
            ⟨remains, inside, rfl⟩ | part
          · have near := ih remains.length (by simp; omega) remains inside rfl
            have behind : remains ++ rest = after := by simpa using follows
            rw [behind] at near
            simp only [List.length_append] at near ⊢
            omega
          · have short := part.length_le
            simp only [List.length_append]
            omega

end CssSelectors.Pattern
