import CssSelectors.Proofs.Token.Negation
import CssSelectors.Proofs.Token.Quoted
import CssSelectors.Token.Scan

open scoped Computability

-- The scanner reports what its rules give: the longest match, and the first rule among equals.
namespace CssSelectors

namespace Pattern

variable {c : Char} {rest : List Char}

theorem commentEnd_step (going : ¬ ['*', '/'] <+: c :: rest) :
    commentEnd (c :: rest) = (commentEnd rest).map (1 + ·) := by
  rw [commentEnd]
  rintro behind rfl rfl
  exact going (List.prefix_append ['*', '/'] behind)

theorem commentEnd_inside {inside : List Char} (going : ¬ ['*', '/'] <:+: inside ++ ['*']) :
    commentEnd (inside ++ '*' :: '/' :: rest) = some (inside.length + 2) := by
  induction inside with
  | nil => rfl
  | cons c inside ih =>
      rw [List.cons_append, List.infix_cons_iff, not_or] at going
      rw [List.cons_append, commentEnd_step, ih going.2]
      · simp only [Option.map_some, List.length_cons, Option.some.injEq]
        omega
      · intro front
        apply going.1
        cases inside with
        | nil => cases (List.cons_prefix_cons.mp (List.cons_prefix_cons.mp front).2).1
        | cons d inside =>
            obtain ⟨rfl, second⟩ := List.cons_prefix_cons.mp front
            obtain ⟨rfl, _⟩ := List.cons_prefix_cons.mp second
            exact List.prefix_append ['*', '/'] _

theorem commentEnd_sound {cs : List Char} {n : Nat} (found : commentEnd cs = some n) :
    ∃ inside rest, cs = inside ++ '*' :: '/' :: rest ∧ inside.length + 2 = n ∧
      ¬ ['*', '/'] <:+: inside ++ ['*'] := by
  induction cs generalizing n with
  | nil => cases found
  | cons c cs ih =>
      by_cases ends : ['*', '/'] <+: c :: cs
      · obtain ⟨rest, same⟩ := ends
        rw [← same] at found
        cases Option.some.inj found
        exact ⟨[], rest, same.symm, rfl, by decide⟩
      · rw [commentEnd_step ends] at found
        obtain ⟨more, late, rfl⟩ := Option.map_eq_some_iff.mp found
        obtain ⟨inside, rest, rfl, rfl, going⟩ := ih late
        refine ⟨c :: inside, rest, rfl, by simp only [List.length_cons]; omega, ?_⟩
        rw [List.cons_append, List.infix_cons_iff, not_or]
        refine ⟨fun front => ends ?_, going⟩
        exact front.trans (List.cons_prefix_cons.mpr ⟨rfl, List.prefix_append_right_inj inside |>.mpr ⟨'/' :: rest, rfl⟩⟩)

theorem comment_open {cs : List Char} :
    comment ('/' :: '*' :: cs) = (commentEnd cs).map (2 + ·) := rfl

theorem longest_comment : Longest comment Flex.comment := by
  refine ⟨?_, ?_⟩
  · intro cs n found
    unfold comment followedBy at found
    cases start : literal "/*" cs with
    | none => simp [start] at found
    | some opening =>
        simp only [start] at found
        obtain ⟨more, late, rfl⟩ := Option.map_eq_some_iff.mp found
        obtain ⟨front, behind, rfl, rfl, one⟩ := (longest_literal (by decide)).sound cs opening start
        obtain rfl := (mem_text (by decide)).mp one
        rw [List.drop_left] at late
        obtain ⟨inside, rest, rfl, rfl, going⟩ := commentEnd_sound late
        exact ⟨'/' :: '*' :: (inside ++ ['*', '/']), rest, by simp, by simp; omega, inside, rfl, going⟩
  · rintro word rest ⟨inside, rfl, going⟩
    refine ⟨2 + (inside.length + 2), ?_, ?_⟩
    · simp only [List.cons_append, List.append_assoc]
      rw [comment_open, List.nil_append, commentEnd_inside going]
      rfl
    · simp only [List.length_cons, List.length_append, List.length_nil]
      omega

theorem Longest.takes {pattern : Pattern} {language : Language Char} {cs : List Char} {n : Nat}
    (longest : Longest pattern language) (found : pattern cs = some n) :
    n ≤ cs.length ∧ cs.take n ∈ language ∧
      ∀ word, word ∈ language → word <+: cs → word.length ≤ n := by
  refine ⟨longest.bounded found, longest.take found, ?_⟩
  rintro word member ⟨rest, rfl⟩
  obtain ⟨m, other, within⟩ := longest.complete word rest member
  rw [found] at other
  cases other
  exact within

theorem Longest.missed {pattern : Pattern} {language : Language Char} {cs : List Char}
    (longest : Longest pattern language) (missed : pattern cs = none) :
    ∀ word, word ∈ language → ¬ word <+: cs := by
  rintro word member ⟨rest, rfl⟩
  obtain ⟨m, other, _⟩ := longest.complete word rest member
  rw [missed] at other
  cases other

end Pattern

open Pattern

abbrev Languages := List (Symbol × Language Char)

variable {rules : List (Symbol × Pattern)} {languages : Languages} {cs word : List Char}
  {symbol name : Symbol} {index n : Nat} {language : Language Char} {pattern : Pattern}

def Agree (rules : List (Symbol × Pattern)) (languages : Languages) : Prop :=
  List.Forall₂ (fun rule entry => rule.1 = entry.1 ∧ Longest rule.2 entry.2) rules languages

theorem scanRules_agree : Agree Token.scanRules (Flex.rulesWith Flex.comment) :=
  .cons ⟨rfl, longest_space⟩ <|
  .cons ⟨rfl, longest_literal (by decide)⟩ <|
  .cons ⟨rfl, longest_literal (by decide)⟩ <|
  .cons ⟨rfl, longest_literal (by decide)⟩ <|
  .cons ⟨rfl, longest_literal (by decide)⟩ <|
  .cons ⟨rfl, longest_literal (by decide)⟩ <|
  .cons ⟨rfl, longest_ident⟩ <|
  .cons ⟨rfl, longest_string⟩ <|
  .cons ⟨rfl, longest_function⟩ <|
  .cons ⟨rfl, longest_number⟩ <|
  .cons ⟨rfl, longest_behind (by decide) longest_name⟩ <|
  .cons ⟨rfl, longest_delimiter (by decide) (by decide)⟩ <|
  .cons ⟨rfl, longest_delimiter (by decide) (by decide)⟩ <|
  .cons ⟨rfl, longest_delimiter (by decide) (by decide)⟩ <|
  .cons ⟨rfl, longest_delimiter (by decide) (by decide)⟩ <|
  .cons ⟨rfl, longest_negation⟩ <|
  .cons ⟨rfl, longest_behind (by decide) longest_ident⟩ <|
  .cons ⟨rfl, longest_unclosed⟩ <|
  .cons ⟨rfl, longest_percentage⟩ <|
  .cons ⟨rfl, longest_dimension⟩ <|
  .cons ⟨rfl, longest_literal (by decide)⟩ <|
  .cons ⟨rfl, longest_literal (by decide)⟩ <|
  .cons ⟨rfl, longest_comment⟩ .nil

-- What is best so far among the rules that were tried.
inductive Best (languages : Languages) (cs : List Char) : Option (Symbol × Nat) → Prop where
  | untaken (missed : ∀ index name word, ¬ Flex.Takes languages cs index name word) :
      Best languages cs none
  | taken {index n : Nat} {name : Symbol} (within : n ≤ cs.length)
      (takes : Flex.Takes languages cs index name (cs.take n))
      (best : ∀ other symbol word, Flex.Takes languages cs other symbol word →
        word.length < n ∨ (word.length = n ∧ index ≤ other)) :
      Best languages cs (some (name, n))

theorem takes_append : Flex.Takes (languages ++ [(symbol, language)]) cs index name word ↔
    Flex.Takes languages cs index name word ∨
      (index = languages.length ∧ name = symbol ∧ word ∈ language ∧ word <+: cs ∧ word ≠ []) := by
  constructor
  · rintro ⟨⟨other, found, member⟩, front, solid⟩
    rcases Nat.lt_or_ge index languages.length with before | past
    · rw [List.getElem?_append_left before] at found
      exact .inl ⟨⟨other, found, member⟩, front, solid⟩
    · rw [List.getElem?_append_right past] at found
      cases gap : index - languages.length with
      | zero =>
          rw [gap] at found
          cases Option.some.inj found
          exact .inr ⟨by omega, rfl, member, front, solid⟩
      | succ more =>
          rw [gap] at found
          cases found
  · rintro (⟨⟨other, found, member⟩, front, solid⟩ | ⟨rfl, rfl, member, front, solid⟩)
    · have before := (List.getElem?_eq_some_iff.mp found).1
      exact ⟨⟨other, (List.getElem?_append_left before).trans found, member⟩, front, solid⟩
    · exact ⟨⟨language, by simp, member⟩, front, solid⟩

theorem Flex.Takes.lt_length (takes : Flex.Takes languages cs index name word) :
    index < languages.length := by
  obtain ⟨other, found, _⟩ := takes.rule
  exact (List.getElem?_eq_some_iff.mp found).1

variable {best : Option (Symbol × Nat)}

-- A rule that takes nothing here changes nothing.
theorem Best.idle (sofar : Best languages cs best) (idle : ∀ word ∈ language, word <+: cs → word = []) :
    Best (languages ++ [(symbol, language)]) cs best := by
  have earlier {index : Nat} {name : Symbol} {word : List Char}
      (takes : Flex.Takes (languages ++ [(symbol, language)]) cs index name word) :
      Flex.Takes languages cs index name word := by
    rcases takes_append.mp takes with old | ⟨_, _, member, front, solid⟩
    · exact old
    · exact absurd (idle word member front) solid
  cases sofar with
  | untaken nothing => exact .untaken fun index name word takes => nothing index name word (earlier takes)
  | taken within takes best =>
      exact .taken within (takes_append.mpr (.inl takes)) fun index name word also =>
        best index name word (earlier also)

theorem Best.most (sofar : Best languages cs (some (name, n)))
    (takes : Flex.Takes languages cs index symbol word) : word.length ≤ n := by
  cases sofar with
  | taken _ _ best =>
      rcases best index symbol word takes with less | ⟨same, _⟩
      · exact Nat.le_of_lt less
      · exact Nat.le_of_eq same

-- A rule that takes no more than the best one comes behind it.
theorem Best.behind (sofar : Best languages cs (some (name, n)))
    (few : ∀ word ∈ language, word <+: cs → word.length ≤ n) :
    Best (languages ++ [(symbol, language)]) cs (some (name, n)) := by
  cases sofar with
  | taken within takes best =>
      apply Best.taken within (takes_append.mpr (.inl takes))
      intro other name word also
      rcases takes_append.mp also with old | ⟨rfl, _, member, front, _⟩
      · exact best other name word old
      · rcases Nat.lt_or_eq_of_le (few word member front) with less | same
        · exact .inl less
        · exact .inr ⟨same, Nat.le_of_lt takes.lt_length⟩

-- A rule wins where it takes more than all before.
theorem Best.wins (bounded : n ≤ cs.length) (member : cs.take n ∈ language) (positive : 0 < n)
    (most : ∀ word ∈ language, word <+: cs → word.length ≤ n)
    (shorter : ∀ index name word, Flex.Takes languages cs index name word → word.length < n) :
    Best (languages ++ [(symbol, language)]) cs (some (symbol, n)) := by
  have solid : cs.take n ≠ [] := by
    apply List.length_pos_iff.mp
    rw [List.length_take]
    omega
  refine .taken bounded
    (takes_append.mpr (.inr ⟨rfl, rfl, member, List.take_prefix n cs, solid⟩)) ?_
  intro other name word takes
  rcases takes_append.mp takes with old | ⟨rfl, _, inside, front, _⟩
  · exact .inl (shorter other name word old)
  · rcases Nat.lt_or_eq_of_le (most word inside front) with less | same
    · exact .inl less
    · exact .inr ⟨same, Nat.le_refl _⟩

theorem Best.step (sofar : Best languages cs best) (longest : Longest pattern language) :
    Best (languages ++ [(symbol, language)]) cs (Token.better best symbol (pattern cs)) := by
  cases found : pattern cs with
  | none => exact sofar.idle fun word member front => absurd front (longest.missed found word member)
  | some n =>
      obtain ⟨bounded, member, most⟩ := longest.takes found
      cases best with
      | none =>
          cases sofar with
          | untaken nothing =>
              rw [Token.better]
              split
              · rename_i positive
                exact .wins bounded member positive most fun index name word old =>
                  absurd old (nothing index name word)
              · rename_i zero
                refine (Best.untaken nothing).idle fun word inside front => List.length_eq_zero_iff.mp ?_
                have few := most word inside front
                omega
      | some before =>
          obtain ⟨name, size⟩ := before
          rw [Token.better]
          split
          · rename_i longer
            refine .wins bounded member (by omega) most fun index name word old => ?_
            exact Nat.lt_of_le_of_lt (sofar.most old) longer
          · rename_i enough
            exact sofar.behind fun word inside front =>
              Nat.le_trans (most word inside front) (Nat.le_of_not_lt enough)

theorem Best.foldl {done : Languages} (sofar : Best done cs best)
    (agree : Agree rules languages) : Best (done ++ languages) cs
      (rules.foldl (fun best rule => Token.better best rule.1 (rule.2 cs)) best) := by
  induction agree generalizing best done with
  | nil => simpa using sofar
  | @cons rule entry _ others same _ ih =>
      obtain ⟨name, longest⟩ := same
      have next : Best (done ++ [entry]) cs (Token.better best rule.1 (rule.2 cs)) :=
        name ▸ sofar.step longest
      have further := ih next
      rwa [List.append_assoc] at further

theorem Best.longestMatch (cs : List Char) :
    Best (Flex.rulesWith Flex.comment) cs (Token.longestMatch cs) := by
  have start : Best [] cs none := by
    apply Best.untaken
    intro index name word takes
    cases takes.lt_length
  exact start.foldl scanRules_agree

-- The scanner's token covers at least one character, and no more than there are.
theorem Token.scanFront_bounds (c : Char) (rest : List Char) :
    0 < (Token.scanFront c rest).2 ∧ (Token.scanFront c rest).2 ≤ rest.length + 1 := by
  have best := Best.longestMatch (c :: rest)
  unfold Token.scanFront
  cases found : Token.longestMatch (c :: rest) with
  | none => exact ⟨Nat.one_pos, Nat.le_add_left 1 _⟩
  | some longest =>
      obtain ⟨name, n⟩ := longest
      rw [found] at best
      cases best with
      | taken within takes _ =>
          refine ⟨Nat.pos_of_ne_zero ?_, within⟩
          rintro rfl
          exact takes.solid rfl

theorem Token.scanFront_gives (c : Char) (rest : List Char) :
    Flex.Gives (Flex.rulesWith Flex.comment) (c :: rest) (Token.scanFront c rest).1 := by
  have best := Best.longestMatch (c :: rest)
  unfold Token.scanFront
  cases found : Token.longestMatch (c :: rest) with
  | none =>
      rw [found] at best
      cases best with
      | untaken missed => exact .literal rfl missed
  | some longest =>
      obtain ⟨name, n⟩ := longest
      rw [found] at best
      cases best with
      | taken within takes best =>
          apply Flex.Gives.symbol takes
          intro other symbol word also
          rw [List.length_take_of_le within]
          exact best other symbol word also

theorem Flex.Gives.unique {one two : Token} (first : Flex.Gives languages cs one)
    (second : Flex.Gives languages cs two) : one = two := by
  cases first with
  | @symbol index name word takes best =>
      cases second with
      | @symbol other symbol lexeme also better =>
          have one := best other symbol lexeme also
          have two := better index name word takes
          obtain rfl : index = other := by omega
          have front := List.prefix_of_prefix_length_le takes.front also.front (by omega)
          obtain rfl := front.eq_of_length (by omega)
          obtain ⟨_, found, _⟩ := takes.rule
          obtain ⟨_, same, _⟩ := also.rule
          rw [found] at same
          cases same
          rfl
      | literal _ none => exact absurd takes (none _ _ _)
  | literal first none =>
      cases second with
      | symbol takes => exact absurd takes (none _ _ _)
      | literal second =>
          cases first
          cases second
          rfl

theorem tokenAt_scanFront (front : List Char) (c : Char) (rest : List Char) :
    tokenAt (String.ofList (front ++ c :: rest)) (Text.byteLength front) =
      (Token.scanFront c rest).1 := by
  have dropped : Text.dropBytes? (Text.byteLength front) (front ++ c :: rest) = some (c :: rest) :=
    Text.dropBytes?_eq_some_iff.mpr ⟨front, rfl, rfl⟩
  rw [tokenAt, String.toList_ofList, dropped]
  rfl

-- The tokenizer reports, wherever a character starts, the token that the rules give there.
theorem tokenAt_eq_iff (front : List Char) (c : Char) (rest : List Char) (token : Token) :
    tokenAt (String.ofList (front ++ c :: rest)) (Text.byteLength front) = token ↔
      Flex.Gives (Flex.rulesWith Flex.comment) (c :: rest) token := by
  rw [tokenAt_scanFront]
  constructor
  · rintro rfl
    exact Token.scanFront_gives c rest
  · exact (Token.scanFront_gives c rest).unique

-- By the regular expression for comments, a slash ends one that has a star anywhere before it.
theorem mem_writtenComment : "/*a*b/".toList ∈ Flex.writtenComment := by
  have other : ['a'] ∈ Flex.noneOf (· == '*') := ⟨'a', rfl, rfl⟩
  have a : ['a'] ∈ (Flex.noneOf (· == '*'))∗ := star_cons other (Language.nil_mem_kstar _)
  have star : ['*'] ∈ Flex.plus (Flex.text "*") :=
    Language.append_mem_mul (show ['*'] ∈ Flex.text "*" from rfl) (Language.nil_mem_kstar _)
  have plain : ['b'] ∈ Flex.noneOf (fun c => c == '/' || c == '*') := ⟨'b', rfl, rfl⟩
  have b : ['b'] ∈ (Flex.noneOf (fun c => c == '/' || c == '*') * (Flex.noneOf (· == '*'))∗)∗ :=
    star_cons (Language.append_mem_mul plain (Language.nil_mem_kstar _)) (Language.nil_mem_kstar _)
  have slash : ['/'] ∈ Flex.text "/" := rfl
  have opening : ['/', '*'] ∈ Flex.text "/*" := rfl
  exact Language.append_mem_mul opening (Language.append_mem_mul a
    (Language.append_mem_mul star (Language.append_mem_mul b slash)))

-- The scanner goes by the first `*/` instead.
theorem tokenAt_not_writtenComment : ¬ ∀ front c rest token,
    tokenAt (String.ofList (front ++ c :: rest)) (Text.byteLength front) = token ↔
      Flex.Gives (Flex.rulesWith Flex.writtenComment) (c :: rest) token := by
  intro claimed
  have scanned : tokenAt (String.ofList "/*a*b/".toList) 0 = .literal '/' := rfl
  have takes : Flex.Takes (Flex.rulesWith Flex.writtenComment) "/*a*b/".toList 22 .comment
      "/*a*b/".toList := ⟨⟨_, rfl, mem_writtenComment⟩, List.prefix_rfl, by decide⟩
  cases (claimed [] '/' "*a*b/".toList (.literal '/')).mp scanned with
  | literal _ none => exact none _ _ _ takes

end CssSelectors
