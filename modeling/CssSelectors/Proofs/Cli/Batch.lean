import CssSelectors.Cli.Run
import CssSelectors.Proofs.Forgetting
import CssSelectors.Proofs.Validation

-- A run on many selectors says of each what a new validator says of it alone.
namespace CssSelectors.Cli

-- The attempts at a selector, one in each line.
def traceBlock (selector : String) : List String :=
  ((Validator.on tokenAt).parseTraced selector).2.1.map traceLine

-- What a run writes of a selector.
def block (trace : Bool) (selector : String) : List String :=
  (if trace then traceBlock selector else []) ++
    match validate selector with
    | .ok _ => [Text.green "✓" ++ " " ++ selector]
    | .error failure => [Text.red "✗" ++ " " ++ selector, "    " ++ Text.dimmed failure.message]

-- How many of some selectors are rejected, each as often as it is given.
def rejected (selectors : List String) : Nat := selectors.countP fun selector => !isValid selector

def invalidLine (count total : Nat) : String :=
  toString count ++ " of " ++ toString total ++ " selector groups invalid"

-- The warnings after a verdict on a selector.
def warnedOf (warnings : Warnings) (selector : String) : Except SelectorError Unit → Warnings
  | .ok _ => warnings
  | .error failure =>
    match unsupportedCombinator selector failure with
    | none => warnings
    | some symbol => (warnings.warnOnce (combinatorFound symbol)).2

def warned (warnings : Warnings) (selector : String) : Warnings :=
  warnedOf warnings selector (validate selector)

variable {validator : Validator} {selector : String} {selectors : List String} {session : Session}

-- A validator judges a selector as a new one does, traced or not.
theorem judged (reached : validator.Reached tokenAt) (trace : Bool) (selector : String) :
    ∃ entries after, (if trace then validator.parseTraced selector else
        ((validator.parse selector).1, [], (validator.parse selector).2)) =
          (validate selector, entries, after) ∧
      entries.map traceLine = (if trace then traceBlock selector else []) ∧ after.Reached tokenAt := by
  cases trace with
  | false =>
      obtain ⟨log, same⟩ := Validator.parse_alike reached.sound.asks selector
      have verdict : (validator.parse selector).1 = validate selector := by
        rw [same]
        rfl
      exact ⟨[], _, by rw [← verdict]; rfl, rfl, .parsed selector reached⟩
  | true =>
      obtain ⟨shapes, spells⟩ := exists_spells selector
      have traced := Validator.parseTraced_eq validator reached.sound.asks (course_begun spells)
      have verdict : (validator.parseTraced selector).1 = validate selector := by
        rw [validate_eq spells]
        exact traced
      obtain ⟨log, same⟩ := Validator.traced_alike reached.sound.asks selector
      have entries := congrArg (fun ran => ran.2.1.map traceLine) same
      exact ⟨_, _, by rw [← verdict]; rfl, entries, .traced selector reached⟩

-- What checking selectors adds to a session, whatever its validator was used for.
structure Session.Checked (before after : Session) (trace : Bool) (selectors : List String) : Prop where
  reached : after.validator.Reached tokenAt
  output : after.output = before.output ++ selectors.flatMap (block trace)
  warnings : after.warnings = selectors.foldl warned before.warnings
  invalid : after.invalid = before.invalid + rejected selectors

theorem Session.check_verdict {trace : Bool} {result : Except SelectorError Unit} {entries : List TraceEntry}
    (ran : (if trace then session.validator.parseTraced selector else
      ((session.validator.parse selector).1, [], (session.validator.parse selector).2)) =
        (result, entries, validator)) :
    session.check trace selector = {
      validator
      warnings := warnedOf session.warnings selector result
      output := session.output ++ entries.map traceLine ++ verdictLines selector result
      invalid := session.invalid + if result.isOk then 0 else 1 } := by
  unfold Session.check
  dsimp only
  rw [ran]
  cases result with
  | ok => rfl
  | error failure => rfl

theorem block_eq (trace : Bool) (selector : String) :
    block trace selector =
      (if trace then traceBlock selector else []) ++ verdictLines selector (validate selector) := by
  unfold block
  cases validate selector with
  | ok => rfl
  | error failure => rfl

theorem rejected_singleton (selector : String) :
    rejected [selector] = if (validate selector).isOk then 0 else 1 := by
  simp only [rejected, List.countP_singleton, isValid]
  cases (validate selector).isOk <;> rfl

theorem Session.checked_check (reached : session.validator.Reached tokenAt) (trace : Bool)
    (selector : String) :
    session.Checked (session.check trace selector) trace [selector] := by
  obtain ⟨entries, after, ran, traced, going⟩ := judged reached trace selector
  rw [Session.check_verdict ran]
  refine ⟨going, ?_, rfl, ?_⟩
  · rw [List.flatMap_singleton, block_eq, ← traced, ← List.append_assoc]
  · rw [rejected_singleton]

theorem Session.Checked.trans {before middle after : Session} {trace : Bool} {first second : List String}
    (one : before.Checked middle trace first) (two : middle.Checked after trace second) :
    before.Checked after trace (first ++ second) := by
  refine ⟨two.reached, ?_, ?_, ?_⟩
  · rw [two.output, one.output, List.flatMap_append, List.append_assoc]
  · rw [two.warnings, one.warnings, List.foldl_append]
  · rw [two.invalid, one.invalid, rejected, rejected, rejected, List.countP_append, Nat.add_assoc]

theorem Session.checked_foldl (reached : session.validator.Reached tokenAt) (trace : Bool)
    (selectors : List String) :
    session.Checked (selectors.foldl (Session.check trace) session) trace selectors := by
  induction selectors generalizing session with
  | nil => exact ⟨reached, (List.append_nil _).symm, rfl, rfl⟩
  | cons selector selectors ih =>
      have first := Session.checked_check reached trace selector
      exact first.trans (ih first.reached)

-- The lines on standard error but for the last one.
def notes (options : Options) (warnings : Warnings) : List String :=
  warningLines warnings ++
    if options.quiet && 0 < warnings.emitted then [toString warnings.emitted ++ " warnings suppressed"]
    else []

theorem checkAll_eq (options : Options) (selectors : List String) (warnings : Warnings) :
    checkAll options selectors warnings = {
      exitCode := if 0 < rejected selectors then 1 else 0
      output := Text.unlines (selectors.flatMap (block options.trace))
      errors := Text.unlines (notes options (selectors.foldl warned warnings.clear) ++
        if 0 < rejected selectors then [invalidLine (rejected selectors) selectors.length] else []) } := by
  have checked : Session.Checked { validator := Validator.on tokenAt, warnings := warnings.clear }
      (selectors.foldl (Session.check options.trace) _) options.trace selectors :=
    Session.checked_foldl .created options.trace selectors
  obtain ⟨_, output, warned, invalid⟩ := checked
  rw [List.nil_append] at output
  rw [Nat.zero_add] at invalid
  simp only [checkAll, output, warned, invalid]
  rfl

theorem collectLines_selectors (file : String) (number : Nat) (warnings : Warnings)
    (lines : List (List Char)) :
    (collectLines file number warnings lines).1 =
      (lines.filter fun line => !(Text.trim line).isEmpty).map String.ofList := by
  induction lines generalizing number warnings with
  | nil => rfl
  | cons line lines ih =>
      rw [collectLines]
      split
      · rename_i blank
        rw [ih, List.filter_cons_of_neg (by simp [blank])]
      · rename_i solid
        rw [List.filter_cons_of_pos (by simp [solid]), List.map_cons, ← ih (number + 1) warnings]

-- The selectors that a file adds, one in each line that is not blank.
inductive Adds (readFile : String → Except ReadFailure String) : Option String → List String → Prop where
  | nothing : Adds readFile none []
  | lines {file content : String} (readable : readFile file = .ok content) : Adds readFile (some file)
      (((Text.lines content.toList).filter fun line => !(Text.trim line).isEmpty).map String.ofList)

-- What a command line has checked: the selectors that it names itself, then those of its file.
structure Batch (arguments : List String) (readFile : String → Except ReadFailure String) (options : Options)
    (selectors : List String) : Prop where
  understood : readArguments arguments = .ok (.check options)
  checking : options.tokens = false
  gathered : ∃ others, Adds readFile options.file others ∧ selectors = options.selectors ++ others
  solid : selectors ≠ []

variable {arguments : List String} {readFile : String → Except ReadFailure String} {options : Options}

-- The warnings that are given before anything is checked.
def skipped (options : Options) (readFile : String → Except ReadFailure String) : Warnings :=
  match collectSelectors options readFile (({} : Warnings).setEnabled (!options.quiet)) with
  | .ok gathered => gathered.2
  | .error _ => {}

theorem Batch.collected (batch : Batch arguments readFile options selectors) (warnings : Warnings) :
    ∃ after, collectSelectors options readFile warnings = .ok (selectors, after) := by
  obtain ⟨others, adds, rfl⟩ := batch.gathered
  unfold collectSelectors
  generalize options.file = named at adds
  cases adds with
  | nothing => exact ⟨warnings, by rw [List.append_nil]⟩
  | lines readable =>
      simp only [readable, collectLines_selectors]
      exact ⟨_, rfl⟩

theorem Batch.run_eq (batch : Batch arguments readFile options selectors) :
    run arguments readFile = checkAll options selectors (skipped options readFile) := by
  obtain ⟨after, collected⟩ := batch.collected (({} : Warnings).setEnabled (!options.quiet))
  have solid : selectors.isEmpty = false := List.isEmpty_eq_false_iff.mpr batch.solid
  simp only [run, batch.understood, runOptions, skipped, collected, solid, batch.checking]
  rfl

theorem unlines_concat (lines : List String) (last : String) :
    (Text.unlines (lines ++ [last])).toList = (Text.unlines lines).toList ++ last.toList ++ ['\n'] := by
  simp [Text.unlines]

-- A note ends with the end of a colour, or says what was suppressed.
theorem notes_ending {warnings : Warnings} {line : String} (noted : line ∈ notes options warnings) :
    ∃ rest, line.toList.reverse = 'm' :: rest ∨ line.toList.reverse = 'd' :: 'e' :: rest := by
  rcases List.mem_append.mp noted with warning | suppressed
  · obtain ⟨warning, _, rfl⟩ := List.mem_map.mp warning
    exact ⟨_, .inl (by simp [Warning.display, Text.yellow]; rfl)⟩
  · split at suppressed
    · rw [List.mem_singleton.mp suppressed]
      exact ⟨_, .inr (by simp; rfl)⟩
    · cases suppressed

theorem invalidLine_ending (count total : Nat) :
    ∃ rest, (invalidLine count total).toList.reverse = 'd' :: 'i' :: rest :=
  ⟨_, by simp [invalidLine]; rfl⟩

-- So none is taken for the line that counts what is invalid.
theorem notes_not_invalid {warnings : Warnings} {lines : List String} {count total : Nat} :
    Text.unlines (notes options warnings) ≠ Text.unlines (lines ++ [invalidLine count total]) := by
  intro same
  obtain ⟨invalid, counted⟩ := invalidLine_ending count total
  have ends := congrArg (fun text => text.toList.reverse) same
  rw [unlines_concat, List.reverse_append, List.reverse_append, counted] at ends
  rcases List.eq_nil_or_concat (notes options warnings) with silent | ⟨front, last, noted⟩
  · simp [silent, Text.unlines] at ends
  · rw [List.concat_eq_append] at noted
    have member : last ∈ notes options warnings := by simp [noted]
    rw [noted, unlines_concat, List.reverse_append, List.reverse_append] at ends
    obtain ⟨rest, colour | suppressed⟩ := notes_ending member
    · simp [colour] at ends
    · simp [suppressed] at ends

theorem errors_end_iff {warnings : Warnings} {count total : Nat} :
    (∃ lines, Text.unlines (notes options warnings ++ if 0 < count then [invalidLine count total] else []) =
      Text.unlines (lines ++ [invalidLine count total])) ↔ 0 < count := by
  constructor
  · rintro ⟨lines, ending⟩
    by_contra accepted
    rw [if_neg accepted, List.append_nil] at ending
    exact notes_not_invalid ending
  · intro invalid
    exact ⟨_, by rw [if_pos invalid]⟩

theorem rejected_pos_iff : 0 < rejected selectors ↔ ∃ selector ∈ selectors, validate selector ≠ .ok () := by
  rw [rejected, List.countP_pos_iff]
  refine exists_congr fun selector => and_congr_right fun _ => ?_
  rw [Ne, ← isValid_iff_ok, Bool.not_eq_true', Bool.not_eq_true]

-- A report that is the map of single validations.
structure Report.Maps (report : Report) (trace : Bool) (selectors : List String) : Prop where
  output : report.output = Text.unlines (selectors.map (block trace)).flatten
  counted : (∃ lines, report.errors =
    Text.unlines (lines ++ [invalidLine (rejected selectors) selectors.length])) ↔ 0 < rejected selectors
  accepted : report.exitCode = 0 ↔ ∀ selector ∈ selectors, validate selector = .ok ()
  refused : report.exitCode = 1 ↔ ∃ selector ∈ selectors, validate selector ≠ .ok ()

theorem checkAll_maps (options : Options) (selectors : List String) (warnings : Warnings) :
    (checkAll options selectors warnings).Maps options.trace selectors := by
  rw [checkAll_eq]
  have all_accepted : ¬0 < rejected selectors ↔ ∀ selector ∈ selectors, validate selector = .ok () := by
    rw [rejected_pos_iff]
    push Not
    rfl
  refine ⟨rfl, errors_end_iff, ?_, ?_⟩
  · rw [← all_accepted]
    dsimp only
    split <;> simp [*]
  · rw [← rejected_pos_iff]
    dsimp only
    split <;> simp [*]

-- So it matters in no other way in which order selectors are given, and a trace only adds to the output.
theorem run_batch (batch : Batch arguments readFile options selectors) :
    (run arguments readFile).Maps options.trace selectors ∧
      (∀ {arguments' readFile' options' selectors'}, Batch arguments' readFile' options' selectors' →
        options'.trace = options.trace → selectors.Perm selectors' →
        (∃ blocks, (run arguments' readFile').output = Text.unlines blocks.flatten ∧
          (selectors.map (block options.trace)).Perm blocks) ∧
        rejected selectors' = rejected selectors ∧ selectors'.length = selectors.length ∧
        (run arguments' readFile').exitCode = (run arguments readFile).exitCode) ∧
      ∀ {arguments'}, Batch arguments' readFile { options with trace := true } selectors →
        options.trace = false →
        (run arguments' readFile).output =
          Text.unlines (selectors.map fun selector => traceBlock selector ++ block false selector).flatten ∧
        (run arguments' readFile).errors = (run arguments readFile).errors ∧
        (run arguments' readFile).exitCode = (run arguments readFile).exitCode := by
  refine ⟨?maps, ?permuted, ?traced⟩
  case maps =>
    rw [batch.run_eq]
    exact checkAll_maps options selectors _
  case permuted =>
    intro arguments' readFile' options' selectors' other same perm
    have count : rejected selectors' = rejected selectors := (perm.countP_eq _).symm
    rw [batch.run_eq, other.run_eq, checkAll_eq, checkAll_eq, same, count]
    exact ⟨⟨_, rfl, perm.map _⟩, rfl, perm.length_eq.symm, rfl⟩
  case traced =>
    intro arguments' traced untraced
    rw [batch.run_eq, traced.run_eq, checkAll_eq, checkAll_eq]
    exact ⟨rfl, rfl, rfl⟩

theorem run_batch_file :
    let readFile : String → Except ReadFailure String := fun _ => .ok "b\n\n  \nc >d\n"
    (run ["a", "-f", "list", "a b"] readFile).Maps false ["a", "a b", "b", "c >d"] ∧
      (run ["c >d", "a", "b", "a b"] readFile).exitCode = (run ["a", "-f", "list", "a b"] readFile).exitCode ∧
      (run ["--trace", "a", "-f", "list", "a b"] readFile).errors =
        (run ["a", "-f", "list", "a b"] readFile).errors := by
  intro readFile
  have lines : ((Text.lines "b\n\n  \nc >d\n".toList).filter fun line => !(Text.trim line).isEmpty).map
      String.ofList = ["b", "c >d"] := by decide +kernel
  have adds : Adds readFile (some "list") ["b", "c >d"] := by
    rw [← lines]
    exact .lines rfl
  have batch : Batch ["a", "-f", "list", "a b"] readFile { selectors := ["a", "a b"], file := some "list" }
      ["a", "a b", "b", "c >d"] :=
    ⟨by decide +kernel, rfl, ⟨_, adds, rfl⟩, by decide⟩
  have permuted : Batch ["c >d", "a", "b", "a b"] readFile { selectors := ["c >d", "a", "b", "a b"] }
      ["c >d", "a", "b", "a b"] :=
    ⟨by decide +kernel, rfl, ⟨[], .nothing, rfl⟩, by decide⟩
  have traced : Batch ["--trace", "a", "-f", "list", "a b"] readFile
      { selectors := ["a", "a b"], file := some "list", trace := true } ["a", "a b", "b", "c >d"] :=
    ⟨by decide +kernel, rfl, ⟨_, adds, rfl⟩, by decide⟩
  obtain ⟨maps, order, trace⟩ := run_batch batch
  exact ⟨maps, (order permuted rfl (by decide)).2.2.2, (trace traced rfl).2.1⟩

end CssSelectors.Cli
