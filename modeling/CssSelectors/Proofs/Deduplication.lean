import CssSelectors.Warning
import Mathlib.Data.List.DropRight
import Mathlib.Data.List.Induction
import Mathlib.Data.List.TakeDrop

-- Over a whole run, a warning is answered, written and counted once between two times of forgetting.
namespace CssSelectors

namespace Warning

variable {one other : Warning}

theorem toList_key (warning : Warning) :
    warning.key.toList = '[' :: warning.component.toList ++ ']' :: ' ' :: warning.message.toList := by
  simp [key, String.toList_append]

-- The first closing bracket of a key ends its component.
theorem key_inj (bare : ']' ∉ one.component.toList) (also : ']' ∉ other.component.toList) :
    one.key = other.key ↔ one = other := by
  refine ⟨fun same => ?_, congrArg key⟩
  have ends (warning : Warning) (bare : ']' ∉ warning.component.toList) :
      warning.key.toList.span (· ≠ ']') =
        ('[' :: warning.component.toList, ']' :: ' ' :: warning.message.toList) := by
    have inside : ∀ c ∈ '[' :: warning.component.toList, decide (c ≠ ']') = true := by
      refine List.forall_mem_cons.mpr ⟨by decide, fun c among => decide_eq_true fun bracket => ?_⟩
      exact bare (bracket ▸ among)
    rw [toList_key, List.span_eq_takeWhile_dropWhile, List.takeWhile_append_of_pos inside,
      List.dropWhile_append_of_pos inside]
    simp
  have parts := ends one bare
  rw [same, ends other also] at parts
  simp only [Prod.mk.injEq, List.cons.injEq, String.toList_inj, true_and] at parts
  cases one
  cases other
  rw [Warning.mk.injEq]
  exact ⟨parts.1.symm, parts.2.symm⟩

end Warning

namespace Warnings

-- What can be asked of the warnings.
inductive Command where
  | warn (warning : Warning)
  | clear
  | setEnabled (enabled : Bool)
deriving DecidableEq, Repr

namespace Command

-- Only a warning is answered.
def run : Command → Warnings → Option Bool × Warnings
  | .warn warning, warnings =>
    let ran := warnings.warnOnce warning
    (some ran.1, ran.2)
  | .clear, warnings => (none, warnings.clear)
  | .setEnabled enabled, warnings => (none, warnings.setEnabled enabled)

def setting? : Command → Option Bool
  | .setEnabled enabled => some enabled
  | _ => none

end Command

-- Where commands lead, one after another.
def reached (past : List Command) (warnings : Warnings) : Warnings :=
  past.foldl (fun warnings command => (command.run warnings).2) warnings

-- Every command with its answer.
def transcript : List Command → Warnings → List (Command × Option Bool)
  | [], _ => []
  | command :: rest, warnings => (command, (command.run warnings).1) :: transcript rest (command.run warnings).2

-- The commands, or those with their answers, since the warnings were last forgotten.
def recent (past : List Command) : List Command := past.rtakeWhile (· ≠ .clear)

def recentAnswers (past : List Command) : List (Option Bool) :=
  ((transcript past {}).rtakeWhile (·.1 ≠ .clear)).map Prod.snd

-- Whether the last setting, if there was one, is not to write.
def silenced (past : List Command) : Bool := (past.filterMap Command.setting?).getLast? == some false

variable {past : List Command} {command : Command} {warning : Warning} {warnings one two : Warnings}

theorem reached_concat (past : List Command) (command : Command) (warnings : Warnings) :
    reached (past ++ [command]) warnings = (command.run (reached past warnings)).2 := List.foldl_concat ..

theorem transcript_concat (past : List Command) (command : Command) (warnings : Warnings) :
    transcript (past ++ [command]) warnings =
      transcript past warnings ++ [(command, (command.run (reached past warnings)).1)] := by
  induction past generalizing warnings with
  | nil => rfl
  | cons first past ih =>
      show _ :: transcript (past ++ [command]) _ = _
      rw [ih]
      rfl

-- What warnings know of the commands that led to them: which keys were given since they were forgotten, how
-- many of them were new, and the last setting.
structure Recalls (past : List Command) (warnings : Warnings) : Prop where
  seen : ∀ key, key ∈ warnings.seen ↔ ∃ warning, .warn warning ∈ recent past ∧ warning.key = key
  enabled : warnings.enabled = !silenced past
  emitted : warnings.emitted = (recentAnswers past).count (some true)

theorem recent_concat (lasting : command ≠ .clear) : recent (past ++ [command]) = recent past ++ [command] :=
  List.rtakeWhile_concat_pos _ _ _ (decide_eq_true lasting)

theorem recent_clear : recent (past ++ [.clear]) = [] := List.rtakeWhile_concat_neg _ _ _ (by simp)

theorem recentAnswers_concat (lasting : command ≠ .clear) :
    recentAnswers (past ++ [command]) = recentAnswers past ++ [(command.run (reached past {})).1] := by
  rw [recentAnswers, transcript_concat, List.rtakeWhile_concat_pos _ _ _ (by simpa using lasting),
    List.map_append]
  rfl

theorem recentAnswers_clear : recentAnswers (past ++ [.clear]) = [] := by
  rw [recentAnswers, transcript_concat, List.rtakeWhile_concat_neg _ _ _ (by simp)]
  rfl

theorem silenced_concat (unset : command.setting? = none) : silenced (past ++ [command]) = silenced past := by
  simp [silenced, List.filterMap_append, unset]

theorem silenced_setting (enabled : Bool) : silenced (past ++ [.setEnabled enabled]) = !enabled := by
  cases enabled <;> simp [silenced, Command.setting?, List.filterMap_append]

theorem warnOnce_first (known : Recalls past warnings) :
    (warnings.warnOnce warning).1 = true ↔
      ∀ other, .warn other ∈ recent past → other.key ≠ warning.key := by
  have told : (warnings.warnOnce warning).1 = true ↔ warning.key ∉ warnings.seen := by
    unfold warnOnce
    split <;> simp [*]
  rw [told, known.seen]
  simp

theorem emitted_warnOnce (warnings : Warnings) (warning : Warning) :
    (warnings.warnOnce warning).2.emitted =
      warnings.emitted + if (warnings.warnOnce warning).1 = true then 1 else 0 := by
  unfold warnOnce emitted
  split <;> simp

theorem enabled_warnOnce (warnings : Warnings) (warning : Warning) :
    (warnings.warnOnce warning).2.enabled = warnings.enabled := by
  unfold warnOnce
  split <;> rfl

theorem mem_seen_warnOnce (key : String) :
    key ∈ (warnings.warnOnce warning).2.seen ↔ key = warning.key ∨ key ∈ warnings.seen := by
  unfold warnOnce
  split
  · rename_i known
    exact ⟨Or.inr, fun either => either.elim (fun same => same ▸ known) id⟩
  · exact List.mem_cons

theorem recalls_run (known : Recalls past (reached past {})) :
    Recalls (past ++ [command]) (command.run (reached past {})).2 := by
  cases command with
  | warn warning =>
      have lasting : Command.warn warning ≠ .clear := nofun
      refine ⟨fun key => ?_, ?_, ?_⟩
      · rw [recent_concat lasting]
        refine (mem_seen_warnOnce key).trans ?_
        rw [known.seen]
        simp [or_and_right, exists_or, or_comm, eq_comm]
      · rw [silenced_concat rfl, ← known.enabled]
        exact enabled_warnOnce _ warning
      · rw [recentAnswers_concat lasting]
        refine (emitted_warnOnce _ warning).trans ?_
        rw [known.emitted, List.count_append, List.count_singleton]
        simp [Command.run]
  | clear =>
      refine ⟨fun key => ?_, ?_, ?_⟩
      · simp [recent_clear, Command.run, clear]
      · rw [silenced_concat rfl, ← known.enabled]
        rfl
      · rw [recentAnswers_clear]
        rfl
  | setEnabled enabled =>
      have lasting : Command.setEnabled enabled ≠ .clear := nofun
      refine ⟨fun key => ?_, ?_, ?_⟩
      · rw [recent_concat lasting]
        refine (known.seen key).trans ?_
        simp
      · simp [silenced_setting, Command.run, setEnabled]
      · rw [recentAnswers_concat lasting, List.count_append]
        exact known.emitted

theorem recalls_reached (past : List Command) : Recalls past (reached past {}) := by
  induction past using List.reverseRecOn with
  | nil => exact ⟨by simp [recent, reached], rfl, rfl⟩
  | append_singleton past command known =>
      rw [reached_concat]
      exact recalls_run known

theorem written_warnOnce (warnings : Warnings) (warning : Warning) :
    (warnings.warnOnce warning).2.written =
      if (warnings.warnOnce warning).1 = true ∧ warnings.enabled = true then warning :: warnings.written
      else warnings.written := by
  unfold warnOnce
  split <;> simp

-- Only the keys that were seen decide answers.
theorem run_alike (same : one.seen = two.seen) (command : Command) :
    (command.run one).1 = (command.run two).1 ∧ (command.run one).2.seen = (command.run two).2.seen := by
  cases command with
  | warn warning =>
      simp only [Command.run, warnOnce, same]
      split
      · exact ⟨rfl, same⟩
      · exact ⟨rfl, rfl⟩
  | clear => exact ⟨rfl, rfl⟩
  | setEnabled enabled => exact ⟨rfl, same⟩

theorem seen_setting (set : command.setting?.isNone = false) (warnings : Warnings) :
    (command.run warnings).2.seen = warnings.seen := by
  cases command with
  | setEnabled enabled => rfl
  | _ => cases set

theorem unset_alike (same : one.seen = two.seen) (past : List Command) :
    transcript (past.filter (·.setting?.isNone)) one =
        (transcript past two).filter (·.1.setting?.isNone) ∧
      (reached (past.filter (·.setting?.isNone)) one).seen = (reached past two).seen := by
  induction past generalizing one two with
  | nil => exact ⟨rfl, same⟩
  | cons command past ih =>
      cases unset : command.setting?.isNone with
      | true =>
          obtain ⟨answer, next⟩ := run_alike same command
          obtain ⟨answers, last⟩ := ih next
          simp only [transcript, List.filter_cons, unset, if_true]
          exact ⟨by rw [answer, answers], last⟩
      | false =>
          have still := same.trans (seen_setting unset two).symm
          simp only [transcript, List.filter_cons, unset, Bool.false_eq_true, if_false]
          exact ih still

-- After any commands, a warning is answered with yes if none with its key came since they were forgotten, and
-- written if besides the last setting allows it. Those answers are counted, settings change none of them, and
-- a key without another bracket names its warning.
theorem once_since_cleared :
    (∀ (past : List Command) (warning : Warning),
      (((reached past {}).warnOnce warning).1 = true ↔
        ∀ other, .warn other ∈ recent past → other.key ≠ warning.key) ∧
      ((reached past {}).warnOnce warning).2.written =
        if ((reached past {}).warnOnce warning).1 = true ∧ silenced past = false
        then warning :: (reached past {}).written else (reached past {}).written) ∧
    (∀ (past : List Command) (command : Command), (∀ warning, command ≠ .warn warning) →
      (command.run (reached past {})).2.written = (reached past {}).written) ∧
    (∀ past : List Command, (reached past {}).emitted = (recentAnswers past).count (some true)) ∧
    (∀ past : List Command,
      transcript (past.filter (·.setting?.isNone)) {} = (transcript past {}).filter (·.1.setting?.isNone) ∧
      (reached (past.filter (·.setting?.isNone)) {}).emitted = (reached past {}).emitted) ∧
    ∀ one other : Warning, ']' ∉ one.component.toList → ']' ∉ other.component.toList →
      (one.key = other.key ↔ one.component = other.component ∧ one.message = other.message) := by
  refine ⟨fun past warning => ⟨warnOnce_first (recalls_reached past), ?_⟩, ?_, ?_, ?_, ?_⟩
  · simp only [written_warnOnce, (recalls_reached past).enabled, Bool.not_eq_true']
  · intro past command silent
    cases command with
    | warn warning => exact absurd rfl (silent warning)
    | _ => rfl
  · exact fun past => (recalls_reached past).emitted
  · intro past
    have same : ({} : Warnings).seen = ({} : Warnings).seen := rfl
    obtain ⟨answers, seen⟩ := unset_alike same past
    exact ⟨answers, congrArg List.length seen⟩
  · intro one other bare also
    rw [Warning.key_inj bare also, Warning.mk.injEq]

-- A warning is given, another one is given in silence, and after they are forgotten the first is given again.
-- A component with a bracket passes for the one that was given.
def givenAgain : List Command :=
  [.warn ⟨"a", "b] c"⟩, .setEnabled false, .warn ⟨"d", ""⟩, .clear, .warn ⟨"a", "b] c"⟩]

theorem once_since_cleared_again :
    ((reached givenAgain {}).warnOnce ⟨"d", ""⟩).1 = true ∧
      ((reached givenAgain {}).warnOnce ⟨"d", ""⟩).2.written = [⟨"a", "b] c"⟩] ∧
      ((reached givenAgain {}).warnOnce ⟨"a] b", "c"⟩).1 = false ∧
      (reached givenAgain {}).emitted = 1 ∧
      ']' ∉ "a".toList ∧ (⟨"a", "b] c"⟩ : Warning).key ≠ (⟨"a", "c"⟩ : Warning).key := by
  have since : recent givenAgain = [.warn ⟨"a", "b] c"⟩] := by decide +kernel
  have known : ∀ {warning}, .warn warning ∈ recent givenAgain → warning = ⟨"a", "b] c"⟩ := by simp [since]
  have bare : ']' ∉ "a".toList := by decide
  obtain ⟨told, _, counted, _, keys⟩ := once_since_cleared
  obtain ⟨new, writes⟩ := told givenAgain ⟨"d", ""⟩
  have answered := new.mpr fun other among => known among ▸ by decide +kernel
  refine ⟨answered, ?_, ?_, (counted givenAgain).trans (by decide +kernel), bare, ?_⟩
  · have silent : silenced givenAgain = true := by decide +kernel
    rw [writes, if_neg (by simp [silent])]
    decide +kernel
  · have again := mt (told givenAgain ⟨"a] b", "c"⟩).1.mp fun fresh =>
      fresh ⟨"a", "b] c"⟩ (since ▸ List.mem_cons_self) (by decide +kernel)
    simpa using again
  · exact mt (keys ⟨"a", "b] c"⟩ ⟨"a", "c"⟩ bare bare).mp (by decide)

end Warnings

end CssSelectors
