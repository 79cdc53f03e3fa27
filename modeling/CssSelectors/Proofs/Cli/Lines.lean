import CssSelectors.Proofs.Cli.Arguments
import CssSelectors.Proofs.Cli.Warnings
import Mathlib.Data.List.DropRight

namespace CssSelectors.Text

variable {cs front rest line : List Char}

theorem lines_append (rest : List Char) (unbroken : '\n' ∉ front) :
    lines (front ++ '\n' :: rest) = closeLine front.reverse :: lines rest := by
  rw [lines, linesFrom_append _ _ _ unbroken, List.append_nil]

theorem linesFrom_unbroken (unbroken : '\n' ∉ cs) :
    linesFrom line cs = if line.isEmpty && cs.isEmpty then [] else [line.reverse ++ cs] := by
  induction cs generalizing line with
  | nil => simp [linesFrom]
  | cons c rest ih =>
      obtain ⟨other, later⟩ := not_or.mp (mt List.mem_cons.mpr unbroken)
      rw [linesFrom, if_neg (Ne.symm other), ih later]
      simp

theorem lines_unbroken (unbroken : '\n' ∉ cs) : lines cs = if cs.isEmpty then [] else [cs] := by
  rw [lines, linesFrom_unbroken unbroken]
  rfl

theorem trim_eq_nil_iff : trim cs = [] ↔ ∀ c ∈ cs, isBlank c = true := by
  rw [trim, List.reverse_eq_nil_iff, List.dropWhile_eq_nil_iff]
  constructor
  · intro behind
    have gone : (cs.dropWhile isBlank).dropWhile isBlank = [] :=
      List.dropWhile_eq_nil_iff.mpr fun c member => behind c (List.mem_reverse.mpr member)
    rw [List.dropWhile_idempotent] at gone
    exact List.dropWhile_eq_nil_iff.mp gone
  · intro all c member
    exact all c ((List.dropWhile_sublist isBlank).subset (List.mem_reverse.mp member))

-- What ends a line leaves a blank line blank.
theorem trim_closeLine (blank : trim cs = []) : trim (closeLine cs.reverse) = [] := by
  rw [trim_eq_nil_iff] at blank ⊢
  intro c member
  refine blank c (List.mem_reverse.mp ?_)
  unfold closeLine at member
  split at member
  · rename_i earlier shape
    rw [shape]
    exact List.mem_cons_of_mem _ (List.mem_reverse.mp member)
  · exact List.mem_reverse.mp member

end CssSelectors.Text

-- A file of selectors is read like the selectors themselves.
namespace CssSelectors.Cli

variable {file content : String} {texts : List String} {options : Options}
variable {readFile : String → Except ReadFailure String}

-- A selector that can stand in a line of its own.
structure Solid (text : String) : Prop where
  something : Text.trim text.toList ≠ []
  unbroken : '\n' ∉ text.toList
  unreturned : text.toList.getLast? ≠ some '\r'

structure Blank (line : List Char) : Prop where
  nothing : Text.trim line = []
  unbroken : '\n' ∉ line

inductive Ending : List Char → Prop where
  | feed : Ending ['\n']
  | returned : Ending ['\r', '\n']

-- The contents of a file that holds some selectors: each in a line, with blank lines anywhere, and with
-- or without an ending of the last line.
inductive Holds : List String → List Char → Prop where
  | nothing : Holds [] []
  | last {text : String} (solid : Solid text) : Holds [text] text.toList
  | lastBlank {line : List Char} (blank : Blank line) : Holds [] line
  | line {text : String} {ending rest : List Char} {texts : List String} (solid : Solid text)
      (ended : Ending ending) (others : Holds texts rest) : Holds (text :: texts) (text.toList ++ ending ++ rest)
  | blank {line ending rest : List Char} {texts : List String} (blank : Blank line)
      (ended : Ending ending) (others : Holds texts rest) : Holds texts (line ++ ending ++ rest)

theorem Ending.lines {line ending : List Char} (ended : Ending ending) (unbroken : '\n' ∉ line)
    (rest : List Char) : ∃ first, Text.lines (line ++ ending ++ rest) = first :: Text.lines rest ∧
      (line.getLast? ≠ some '\r' → first = line) ∧ (Text.trim line = [] → Text.trim first = []) := by
  cases ended with
  | feed =>
      refine ⟨_, ?_, Text.closeLine_reverse, Text.trim_closeLine⟩
      rw [List.append_assoc]
      exact Text.lines_append rest unbroken
  | returned =>
      have visible : '\n' ∉ line ++ ['\r'] := by simp [unbroken]
      refine ⟨line, ?_, fun _ => rfl, id⟩
      have cut : line ++ ['\r', '\n'] ++ rest = line ++ ['\r'] ++ '\n' :: rest := by simp
      have back : (line ++ ['\r']).reverse = '\r' :: line.reverse := by simp
      rw [cut, Text.lines_append rest visible, back, Text.closeLine, List.reverse_reverse]

-- No line is lost, changed or given twice.
theorem Holds.collected {cs : List Char} (holds : Holds texts cs) :
    ((Text.lines cs).filter fun line => !(Text.trim line).isEmpty).map String.ofList = texts := by
  induction holds with
  | nothing => rfl
  | @last text solid =>
      have shown : text.toList ≠ [] := fun none => solid.something (by rw [none]; rfl)
      simp [Text.lines_unbroken solid.unbroken, shown, solid.something]
  | lastBlank blank =>
      rw [Text.lines_unbroken blank.unbroken]
      split <;> simp [blank.nothing]
  | line solid ended _ ih =>
      obtain ⟨first, lines, same, _⟩ := ended.lines solid.unbroken _
      rw [lines, same solid.unreturned, List.filter_cons_of_pos (by simp [solid.something]), List.map_cons, ih,
        String.ofList_toList]
  | blank blank ended _ ih =>
      obtain ⟨first, lines, _, empty⟩ := ended.lines blank.unbroken _
      rw [lines, List.filter_cons_of_neg (by simp [empty blank.nothing]), ih]

theorem Holds.adds (readable : readFile file = .ok content) (holds : Holds texts content.toList) :
    Adds readFile (some file) texts := by
  rw [← holds.collected]
  exact .lines readable

-- What a run does with its selectors, when it has them all.
def settle (options : Options) (selectors : List String) (warnings : Warnings) : Report :=
  if selectors.isEmpty then failed .noSelectors [] warnings
  else if options.tokens then
    match listAll options selectors with
    | (output, some failure) => failed failure output warnings
    | (output, none) =>
      { exitCode := 0, output := Text.unlines output, errors := Text.unlines (warningLines warnings) }
  else checkAll options selectors warnings

theorem listAll_same (options : Options) (given : List String) (named : Option String) (texts : List String) :
    listAll { options with selectors := given, file := named } texts = listAll options texts := by
  induction texts with
  | nil => rfl
  | cons text texts ih => rw [listAll, listAll, ih]

-- Only flags matter then.
theorem settle_same (options : Options) (given : List String) (named : Option String) (texts : List String)
    (warnings : Warnings) :
    settle { options with selectors := given, file := named } texts warnings = settle options texts warnings := by
  rw [settle, settle, listAll_same]
  rfl

theorem runOptions_file (readable : readFile file = .ok content) (holds : Holds texts content.toList) :
    runOptions { options with file := some file } readFile = settle options (options.selectors ++ texts)
      (warnedLines { options with file := some file } readFile) := by
  rw [runOptions, collectSelectors_eq (holds.adds readable)]
  exact settle_same options options.selectors (some file) _ _

theorem runOptions_given (unnamed : options.file = none) (selectors : List String) :
    runOptions { options with selectors } readFile =
      settle options selectors (({} : Warnings).setEnabled (!options.quiet)) := by
  simp only [runOptions, collectSelectors, unnamed]
  exact settle_same options selectors none _ _

theorem notes_warned (options : Options) (selectors : List String) (warnings : Warnings) :
    notes options (selectors.foldl warned warnings.clear) = warningLines warnings ++
      notes options (selectors.foldl warned (({} : Warnings).setEnabled warnings.enabled).clear) := by
  obtain ⟨seen, enabled, written⟩ := warnings
  rw [foldl_warned_eq rfl, foldl_warned_eq rfl]
  cases enabled <;> simp [notes, warningLines, Warnings.clear, Warnings.setEnabled, Warnings.emitted]

-- What was warned of before stands in front of the rest.
theorem settle_warned (options : Options) (selectors : List String) (warnings : Warnings) :
    settle options selectors warnings =
      let report := settle options selectors (({} : Warnings).setEnabled warnings.enabled)
      { report with errors := Text.unlines (warningLines warnings) ++ report.errors } := by
  have silent : warningLines (({} : Warnings).setEnabled warnings.enabled) = [] := rfl
  unfold settle
  split
  · simp only [failed, silent, List.nil_append, Text.unlines_append]
  · split
    · split
      · simp only [failed, silent, List.nil_append, Text.unlines_append]
      · simp only [silent, ← Text.unlines_append, List.append_nil]
    · rw [checkAll_eq, checkAll_eq, notes_warned]
      simp only [← Text.unlines_append, List.append_assoc]

theorem warningLines_blank (readable : readFile file = .ok content) :
    warningLines (warnedLines { options with file := some file } readFile) =
      if options.quiet then [] else
        (blankWarnings file 1 (Text.lines content.toList)).map Warning.display := by
  have lines : skippedLines { options with file := some file } readFile =
      blankWarnings file 1 (Text.lines content.toList) := by simp only [skippedLines, readable]
  rw [warnedLines_eq, lines]
  cases options.quiet <;> simp [warningLines]

-- A file of selectors does what the same selectors do as arguments, after any arguments that name no
-- file. Only its blank lines are warned of as well, in front of all else.
theorem run_file {front : List String} (opening : Opening front options) (named : file ≠ "")
    (undashed : ∀ c cs, file.toList ≠ '-' :: c :: cs) (readable : readFile file = .ok content)
    (holds : Holds texts content.toList) :
    (run (front ++ ["-f", file]) readFile).exitCode = (run (front ++ "--" :: texts) readFile).exitCode ∧
      (run (front ++ ["-f", file]) readFile).output = (run (front ++ "--" :: texts) readFile).output ∧
      (run (front ++ ["-f", file]) readFile).errors =
        Text.unlines (if options.quiet then [] else
          (blankWarnings file 1 (Text.lines content.toList)).map Warning.display) ++
        (run (front ++ "--" :: texts) readFile).errors ∧
      ∀ warnings, (collectSelectors { options with file := some file } readFile warnings).map Prod.fst =
        .ok (options.selectors ++ texts) := by
  obtain ⟨filed, admitted⟩ := Options.read_append opening.unclosed opening.understood ["-f", file]
  obtain ⟨given, _⟩ := Options.read_append opening.unclosed opening.understood ("--" :: texts)
  rw [Options.read_file admitted opening.unnamed named undashed] at filed
  rw [Options.read_rest admitted] at given
  have fromFile : run (front ++ ["-f", file]) readFile =
      settle options (options.selectors ++ texts) (warnedLines { options with file := some file } readFile) := by
    rw [run, readArguments, filed]
    exact runOptions_file readable holds
  have fromArguments : run (front ++ "--" :: texts) readFile =
      settle options (options.selectors ++ texts) (({} : Warnings).setEnabled (!options.quiet)) := by
    rw [run, readArguments, given]
    exact runOptions_given opening.unnamed _
  rw [fromFile, fromArguments, settle_warned, warningLines_blank readable, warnedLines_eq]
  refine ⟨rfl, rfl, rfl, fun warnings => ?_⟩
  rw [collectSelectors_eq (holds.adds readable)]
  rfl

-- Both ways to end a line, a blank line between them, and a last line that is left open and holds a
-- carriage return.
theorem run_file_mixed :
    let readFile : String → Except ReadFailure String := fun _ => .ok " a\r\n\t\n>\r/**/ "
    (run ["-t", "--comments", "-f", "list"] readFile).exitCode =
        (run ["-t", "--comments", "--", " a", ">\r/**/ "] readFile).exitCode ∧
      (run ["-t", "--comments", "-f", "list"] readFile).output =
        (run ["-t", "--comments", "--", " a", ">\r/**/ "] readFile).output ∧
      (run ["-t", "--comments", "-f", "list"] readFile).errors =
        Text.unlines [(blankLine 2 "list").display] ++
          (run ["-t", "--comments", "--", " a", ">\r/**/ "] readFile).errors := by
  intro readFile
  have understood : readArguments ["-t", "--comments"] = .ok (.check { tokens := true, comments := true }) := by
    decide +kernel
  have first : Solid " a" := ⟨by decide, by decide, by decide⟩
  have last : Solid ">\r/**/ " := ⟨by decide, by decide, by decide⟩
  have between : Blank ['\t'] := ⟨by decide, by decide⟩
  have holds : Holds [" a", ">\r/**/ "] " a\r\n\t\n>\r/**/ ".toList :=
    .line first .returned (.blank between .feed (.last last))
  have blank : blankWarnings "list" 1 (Text.lines " a\r\n\t\n>\r/**/ ".toList) = [blankLine 2 "list"] := by
    decide +kernel
  obtain ⟨code, output, errors, _⟩ := run_file (opening_plain (by decide) understood) (by decide) (by simp)
    (show readFile "list" = _ from rfl) holds
  rw [blank] at errors
  exact ⟨code, output, errors⟩

end CssSelectors.Cli
