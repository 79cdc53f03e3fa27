import CssSelectors.Proofs.Cli.Batch
import CssSelectors.Proofs.Distinct
import Mathlib.Data.Set.Function

-- The store of warnings, when many are given.
namespace CssSelectors.Warnings

variable {warnings : Warnings} {given : List Warning}

-- Warnings given one after another.
def warnAll (warnings : Warnings) (given : List Warning) : Warnings :=
  given.foldl (fun before warning => (before.warnOnce warning).2) warnings

theorem warnAll_append (warnings : Warnings) (given others : List Warning) :
    warnings.warnAll (given ++ others) = (warnings.warnAll given).warnAll others := List.foldl_append

-- Where no two of them share a key, each is noted once, in the order in which they are first given.
theorem warnAll_eq (forgotten : warnings.seen = [])
    (apart : Set.InjOn Warning.key { warning | warning ∈ given }) :
    warnings.warnAll given = { warnings with
      seen := (given.eraseDups.map Warning.key).reverse
      written := (if warnings.enabled then given.eraseDups.reverse else []) ++ warnings.written } := by
  induction given using List.reverseRecOn with
  | nil =>
      cases warnings
      cases forgotten
      simp [warnAll]
  | append_singleton given warning ih =>
      have before := ih (apart.mono fun other member => List.mem_append_left _ member)
      have seen : warning.key ∈ (given.eraseDups.map Warning.key).reverse ↔ warning ∈ given.eraseDups := by
        rw [List.mem_reverse, List.mem_map]
        constructor
        · rintro ⟨other, member, same⟩
          have there := List.mem_append_left [warning] (List.mem_eraseDups.mp member)
          rwa [← apart there (List.mem_append_right _ (.head _)) same]
        · intro there
          exact ⟨warning, there, rfl⟩
      rw [warnAll_append, before, eraseDups_concat, warnAll, List.foldl_cons, List.foldl_nil]
      by_cases again : warning ∈ given.eraseDups
      · simp [warnOnce, seen, again]
      · cases warnings.enabled <;> simp [warnOnce, seen, again]

end CssSelectors.Warnings

-- A run warns of the blank lines of its file, and once of each combinator that a selector stops at.
namespace CssSelectors.Cli

variable {arguments : List String} {readFile : String → Except ReadFailure String} {options : Options}
variable {file : String} {selectors : List String} {warnings : Warnings} {warning : Warning}
variable {lines : List (List Char)} {number : Nat}

-- The combinator that a selector is rejected at.
def stoppedAt (selector : String) : Option Symbol :=
  match validate selector with
  | .ok _ => none
  | .error failure => unsupportedCombinator selector failure

-- The different combinators that selectors are rejected at, in the order in which they are first met.
def unsupported (selectors : List String) : List Symbol := (selectors.filterMap stoppedAt).eraseDups

-- The warnings for the blank ones among lines counted from a number on.
def blankWarnings (file : String) (number : Nat) (lines : List (List Char)) : List Warning :=
  (lines.zipIdx number).filterMap fun (line, place) =>
    if (Text.trim line).isEmpty then some (blankLine place file) else none

-- The warnings for the blank lines of the file, if there is one.
def skippedLines (options : Options) (readFile : String → Except ReadFailure String) : List Warning :=
  match options.file with
  | none => []
  | some file =>
    match readFile file with
    | .error _ => []
    | .ok content => blankWarnings file 1 (Text.lines content.toList)

theorem combinatorFound_key {one other : Symbol}
    (same : (combinatorFound one).key = (combinatorFound other).key) : one = other := by
  have names : one.name = other.name := by
    simpa [combinatorFound, Warning.key, String.append_assoc] using same
  exact Symbol.name_injective names

theorem blankLine_key {one other : Nat} (same : (blankLine one file).key = (blankLine other file).key) :
    one = other := by
  have shown : toString one = toString other := by
    simpa [blankLine, Warning.key, String.append_assoc] using same
  have digits : Nat.toDigits 10 one = Nat.toDigits 10 other := String.ofList_injective shown
  rw [← Nat.ofDigitChars_ten_toDigits (n := one), digits, Nat.ofDigitChars_ten_toDigits]

theorem mem_blankWarnings (member : warning ∈ blankWarnings file number lines) :
    ∃ place, number ≤ place ∧ warning = blankLine place file := by
  obtain ⟨⟨line, place⟩, listed, chosen⟩ := List.mem_filterMap.mp member
  dsimp only at chosen
  split at chosen
  · exact ⟨place, (List.mem_zipIdx listed).1, (Option.some.inj chosen).symm⟩
  · cases chosen

theorem blankWarnings_cons (file : String) (number : Nat) (line : List Char) (lines : List (List Char)) :
    blankWarnings file number (line :: lines) =
      (if (Text.trim line).isEmpty then [blankLine number file] else []) ++
        blankWarnings file (number + 1) lines := by
  rw [blankWarnings, List.zipIdx_cons, List.filterMap_cons, blankWarnings]
  by_cases blank : (Text.trim line).isEmpty
  · simp only [if_pos blank, List.singleton_append]
  · simp only [if_neg blank, List.nil_append]

theorem blankWarnings_nodup (file : String) (number : Nat) (lines : List (List Char)) :
    (blankWarnings file number lines).Nodup := by
  induction lines generalizing number with
  | nil => exact List.nodup_nil
  | cons line lines ih =>
      have later : blankLine number file ∉ blankWarnings file (number + 1) lines := by
        intro member
        obtain ⟨place, bound, same⟩ := mem_blankWarnings member
        have equal := blankLine_key (congrArg Warning.key same)
        omega
      rw [blankWarnings_cons]
      split
      · exact List.nodup_cons.mpr ⟨later, ih _⟩
      · exact ih _

theorem collectLines_warnings (file : String) (number : Nat) (warnings : Warnings) (lines : List (List Char)) :
    (collectLines file number warnings lines).2 = warnings.warnAll (blankWarnings file number lines) := by
  induction lines generalizing number warnings with
  | nil => rfl
  | cons line lines ih =>
      rw [collectLines, blankWarnings_cons]
      split
      · rw [ih]
        rfl
      · exact ih _ _

theorem warnAll_blank (forgotten : warnings.seen = []) (file : String) (number : Nat)
    (lines : List (List Char)) : warnings.warnAll (blankWarnings file number lines) = { warnings with
      seen := ((blankWarnings file number lines).map Warning.key).reverse
      written := (if warnings.enabled then (blankWarnings file number lines).reverse else []) ++
        warnings.written } := by
  rw [Warnings.warnAll_eq forgotten, eraseDups_of_nodup (blankWarnings_nodup file number lines)]
  intro one here other there same
  obtain ⟨place, _, rfl⟩ := mem_blankWarnings here
  obtain ⟨place', _, rfl⟩ := mem_blankWarnings there
  rw [blankLine_key same]

theorem foldl_warned (warnings : Warnings) (selectors : List String) :
    selectors.foldl warned warnings =
      warnings.warnAll ((selectors.filterMap stoppedAt).map combinatorFound) := by
  induction selectors generalizing warnings with
  | nil => rfl
  | cons selector selectors ih =>
      have first : warned warnings selector =
          warnings.warnAll ((stoppedAt selector).toList.map combinatorFound) := by
        unfold warned warnedOf stoppedAt
        cases validate selector with
        | ok => rfl
        | error failure =>
            dsimp only
            cases unsupportedCombinator selector failure <;> rfl
      rw [List.foldl_cons, ih, first, ← Warnings.warnAll_append, ← List.map_append]
      cases stopped : stoppedAt selector <;> simp [stopped]

theorem foldl_warned_eq (forgotten : warnings.seen = []) (selectors : List String) :
    selectors.foldl warned warnings = { warnings with
      seen := ((unsupported selectors).map fun symbol => (combinatorFound symbol).key).reverse
      written := (if warnings.enabled then ((unsupported selectors).map combinatorFound).reverse else []) ++
        warnings.written } := by
  have apart : Function.Injective combinatorFound := fun _ _ same =>
    combinatorFound_key (congrArg Warning.key same)
  rw [foldl_warned, Warnings.warnAll_eq forgotten, eraseDups_map apart, List.map_map]
  · rfl
  · intro one here other there same
    obtain ⟨symbol, _, rfl⟩ := List.mem_map.mp here
    obtain ⟨symbol', _, rfl⟩ := List.mem_map.mp there
    rw [combinatorFound_key same]

theorem collectSelectors_eq {others : List String} (adds : Adds readFile options.file others)
    (warnings : Warnings) : collectSelectors options readFile warnings =
      .ok (options.selectors ++ others, warnings.warnAll (skippedLines options readFile)) := by
  unfold collectSelectors skippedLines
  generalize options.file = named at adds
  cases adds with
  | nothing =>
      rw [List.append_nil]
      rfl
  | lines readable => simp only [readable, collectLines_selectors, collectLines_warnings]

-- The warnings before anything is done with the selectors.
def warnedLines (options : Options) (readFile : String → Except ReadFailure String) : Warnings :=
  (({} : Warnings).setEnabled (!options.quiet)).warnAll (skippedLines options readFile)

theorem warnedLines_eq (options : Options) (readFile : String → Except ReadFailure String) :
    warnedLines options readFile = {
      seen := ((skippedLines options readFile).map Warning.key).reverse
      enabled := !options.quiet
      written := if options.quiet then [] else (skippedLines options readFile).reverse } := by
  have lines : ∃ file lines, skippedLines options readFile = blankWarnings file 1 lines := by
    unfold skippedLines
    split
    · exact ⟨"", [], rfl⟩
    · split
      · exact ⟨"", [], rfl⟩
      · exact ⟨_, _, rfl⟩
  obtain ⟨file, lines, blank⟩ := lines
  rw [warnedLines, blank, warnAll_blank rfl]
  cases options.quiet with
  | false => exact congrArg (Warnings.mk _ _) (List.append_nil _)
  | true => rfl

theorem Batch.skipped_eq (batch : Batch arguments readFile options selectors) :
    skipped options readFile = warnedLines options readFile := by
  obtain ⟨others, adds, _⟩ := batch.gathered
  rw [skipped, collectSelectors_eq adds]
  rfl

-- The notes of a run: what was skipped, then what is not supported, or how many of the latter.
theorem Batch.notes_eq (batch : Batch arguments readFile options selectors) :
    notes options (selectors.foldl warned (skipped options readFile).clear) =
      if options.quiet then
        if unsupported selectors = [] then []
        else [toString (unsupported selectors).length ++ " warnings suppressed"]
      else (skippedLines options readFile ++ (unsupported selectors).map combinatorFound).map
        Warning.display := by
  rw [batch.skipped_eq, warnedLines_eq, foldl_warned_eq rfl]
  cases quiet : options.quiet with
  | false => simp [notes, quiet, warningLines, Warnings.clear]
  | true => simp [notes, quiet, warningLines, Warnings.clear, Warnings.emitted, List.length_pos_iff]

theorem mem_unsupported {symbol : Symbol} : symbol ∈ unsupported selectors ↔
    ∃ selector ∈ selectors, ∃ failure, validate selector = .error failure ∧
      unsupportedCombinator selector failure = some symbol := by
  rw [unsupported, List.mem_eraseDups, List.mem_filterMap]
  refine exists_congr fun selector => and_congr_right fun _ => ?_
  unfold stoppedAt
  cases validate selector <;> simp

theorem unsupported_nodup (selectors : List String) : (unsupported selectors).Nodup :=
  nodup_eraseDups _

theorem unsupported_length (selectors : List String) : (unsupported selectors).length ≤ 4 := by
  have combinators : unsupported selectors ⊆ Symbol.all.filter Symbol.isCombinator := by
    intro symbol member
    obtain ⟨selector, _, failure, _, stopped⟩ := mem_unsupported.mp member
    unfold unsupportedCombinator at stopped
    split at stopped
    · exact List.mem_filter.mpr ⟨symbol.mem_all, (Option.filter_eq_some_iff.mp stopped).2⟩
    · cases stopped
  exact (List.subperm_of_subset (unsupported_nodup selectors) combinators).length_le

-- So standard error holds a warning for each blank line and each different combinator, or only says how
-- many combinators there were.
theorem run_warns (batch : Batch arguments readFile options selectors) :
    (run arguments readFile).errors = Text.unlines ((if options.quiet then
          if unsupported selectors = [] then []
          else [toString (unsupported selectors).length ++ " warnings suppressed"]
        else (skippedLines options readFile ++ (unsupported selectors).map combinatorFound).map
          Warning.display) ++
        if 0 < rejected selectors then [invalidLine (rejected selectors) selectors.length] else []) ∧
      (unsupported selectors).Nodup ∧
      (∀ symbol, symbol ∈ unsupported selectors ↔ ∃ selector ∈ selectors, ∃ failure,
        validate selector = .error failure ∧ unsupportedCombinator selector failure = some symbol) ∧
      (unsupported selectors).length ≤ 4 := by
  refine ⟨?_, unsupported_nodup selectors, fun _ => mem_unsupported, unsupported_length selectors⟩
  rw [batch.run_eq, checkAll_eq, batch.notes_eq]

-- Two of three selectors stop at white space, and two lines are blank.
theorem run_warns_repeated :
    let readFile : String → Except ReadFailure String := fun _ => .ok "\nc>d\n  \ne f\n"
    (run ["a b", "-f", "list"] readFile).errors = Text.unlines [(blankLine 1 "list").display,
        (blankLine 3 "list").display, (combinatorFound .space).display, (combinatorFound .greater).display,
        invalidLine 3 3] ∧
      (run ["-q", "a b", "-f", "list"] readFile).errors =
        Text.unlines ["2 warnings suppressed", invalidLine 3 3] := by
  intro readFile
  have lines : ((Text.lines "\nc>d\n  \ne f\n".toList).filter fun line => !(Text.trim line).isEmpty).map
      String.ofList = ["c>d", "e f"] := by decide +kernel
  have adds : Adds readFile (some "list") ["c>d", "e f"] := by
    rw [← lines]
    exact .lines rfl
  have loud : Batch ["a b", "-f", "list"] readFile { selectors := ["a b"], file := some "list" }
      ["a b", "c>d", "e f"] := ⟨by decide +kernel, rfl, ⟨_, adds, rfl⟩, by decide⟩
  have quiet : Batch ["-q", "a b", "-f", "list"] readFile
      { selectors := ["a b"], file := some "list", quiet := true } ["a b", "c>d", "e f"] :=
    ⟨by decide +kernel, rfl, ⟨_, adds, rfl⟩, by decide⟩
  have found : unsupported ["a b", "c>d", "e f"] = [.space, .greater] := by decide +kernel
  have blank : skippedLines { selectors := ["a b"], file := some "list" } readFile =
      [blankLine 1 "list", blankLine 3 "list"] := by decide +kernel
  have all : rejected ["a b", "c>d", "e f"] = 3 := by decide +kernel
  refine ⟨(run_warns loud).1.trans ?_, (run_warns quiet).1.trans ?_⟩
  · rw [found, blank, all]
    rfl
  · rw [found, all]
    rfl

end CssSelectors.Cli
