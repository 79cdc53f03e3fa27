namespace CssSelectors.Text

-- A line feed ends a line, and takes a carriage return directly before it along.
def closeLine : List Char → List Char
  | '\r' :: earlier => earlier.reverse
  | line => line.reverse

-- The lines of a text, where `line` holds what was read of the first one, backwards. What follows
-- the last line feed is a line only if there is something, and keeps its carriage return.
def linesFrom (line : List Char) : List Char → List (List Char)
  | [] => if line.isEmpty then [] else [line.reverse]
  | c :: rest =>
    if c = '\n' then closeLine line :: linesFrom [] rest else linesFrom (c :: line) rest

def lines (cs : List Char) : List (List Char) := linesFrom [] cs

-- Each line with a line feed after it.
def unlines (texts : List String) : String := String.join (texts.map fun line => line ++ "\n")

theorem unlines_append (front back : List String) : unlines (front ++ back) = unlines front ++ unlines back := by
  simp [unlines]

theorem linesFrom_append (line front rest : List Char) (unbroken : '\n' ∉ front) :
    linesFrom line (front ++ '\n' :: rest) = closeLine (front.reverse ++ line) :: lines rest := by
  induction front generalizing line with
  | nil => simp [linesFrom, lines]
  | cons c others ih =>
      have visible : c ≠ '\n' := fun same => unbroken (by simp [same])
      have later : '\n' ∉ others := fun member => unbroken (by simp [member])
      simp [linesFrom, visible, ih _ later]

theorem closeLine_reverse {line : List Char} (plain : line.getLast? ≠ some '\r') :
    closeLine line.reverse = line := by
  rw [List.getLast?_eq_head?_reverse] at plain
  unfold closeLine
  split
  · rename_i earlier shape
    simp [shape] at plain
  · simp

end CssSelectors.Text
