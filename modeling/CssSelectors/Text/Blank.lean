import CssSelectors.Text.CodePoint

namespace CssSelectors.Text

-- Unicode's property White_Space, as inclusive ranges of code points. It is wider than the white
-- space of selectors, which is ASCII alone.
def blankRanges : List (Nat × Nat) := [
  (0x9, 0xD), (0x20, 0x20), (0x85, 0x85), (0xA0, 0xA0), (0x1680, 0x1680), (0x2000, 0x200A),
  (0x2028, 0x2029), (0x202F, 0x202F), (0x205F, 0x205F), (0x3000, 0x3000)
]

def isBlank (c : Char) : Bool := inRanges blankRanges c

-- A text without the blanks at its two ends.
def trim (cs : List Char) : List Char :=
  ((cs.dropWhile isBlank).reverse.dropWhile isBlank).reverse

-- A front word joins the words after it, unless it is empty.
def joinFront (word : List Char) (others : List (List Char)) : List (List Char) :=
  if word.isEmpty then others else word :: others

-- The word that touches the front of a text, possibly empty, and the other words after it.
def frontWord : List Char → List Char × List (List Char)
  | [] => ([], [])
  | c :: rest =>
    let split := frontWord rest
    if isBlank c then ([], joinFront split.1 split.2) else (c :: split.1, split.2)

-- The maximal runs without a blank, in order.
def words (cs : List Char) : List (List Char) := joinFront (frontWord cs).1 (frontWord cs).2

theorem words_nil : words [] = [] := rfl

theorem words_blank {c : Char} (blank : isBlank c = true) (rest : List Char) :
    words (c :: rest) = words rest := by
  simp [words, frontWord, blank, joinFront]

theorem frontWord_append_blank {c : Char} (blank : isBlank c = true) (front rest : List Char) :
    frontWord (front ++ c :: rest) =
      ((frontWord front).1, (frontWord front).2 ++ words rest) := by
  induction front with
  | nil => simp [frontWord, blank, words]
  | cons d others ih =>
      by_cases space : isBlank d = true
      · cases shape : (frontWord others).1 <;> simp [frontWord, ih, space, joinFront, shape]
      · simp [frontWord, ih, space]

-- A blank ends a word, whatever stands on its two sides.
theorem words_append_blank {c : Char} (blank : isBlank c = true) (front rest : List Char) :
    words (front ++ c :: rest) = words front ++ words rest := by
  rw [words, frontWord_append_blank blank]
  cases shape : (frontWord front).1 <;> simp [words, joinFront, shape]

theorem joinFront_nonempty {word : List Char} {others : List (List Char)}
    (nonempty : ∀ other ∈ others, other ≠ []) : ∀ other ∈ joinFront word others, other ≠ [] := by
  cases word with
  | nil => simpa [joinFront] using nonempty
  | cons c rest => simpa [joinFront] using nonempty

theorem frontWord_others_nonempty (cs : List Char) : ∀ other ∈ (frontWord cs).2, other ≠ [] := by
  induction cs with
  | nil => simp [frontWord]
  | cons c rest ih =>
      by_cases blank : isBlank c = true
      · simpa [frontWord, blank] using joinFront_nonempty ih
      · simpa [frontWord, blank] using ih

theorem words_nonempty (cs : List Char) : ∀ word ∈ words cs, word ≠ [] :=
  joinFront_nonempty (frontWord_others_nonempty cs)

end CssSelectors.Text
