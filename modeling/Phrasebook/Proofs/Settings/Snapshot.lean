import Mathlib.Data.List.TakeWhile
import Mathlib.Tactic
import Phrasebook.Settings

/-!
# The settings are a snapshot

A configuration has a history: variables are set and unset, the settings are forgotten, and they are
read. The first read since they were last forgotten takes a snapshot of the environment, and it
decides what the later reads give.

Results:
* `Environment.get?_set`, `Environment.get?_unset`: an environment as a map from names to texts.
* `read_of_epoch`: a read gives the settings of the environment at the snapshot.
* `answers_filter`: only four variables count.
* `valid_ofEnvironment`: the settings name an interpreter and leave time to run.
* `answers_of_history`: the three together, for every read of every history.
-/

namespace Phrasebook

/-! ## Environments -/

namespace Environment

variable (env : Environment) (name other : String)

theorem get?_unset :
    (env.unset name).get? other = if other = name then none else env.get? other := by
  unfold get? unset
  rw [List.find?_filter]
  by_cases h : other = name
  · rw [if_pos h, h]
    simp
  · rw [if_neg h]
    congr 2
    funext v
    by_cases hv : v.1 = other
    · simp [hv, h]
    · simp [hv]

theorem get?_set (value : String) :
    (env.set name value).get? other = if other = name then some value else env.get? other := by
  by_cases h : other = name
  · rw [if_pos h, h]
    simp [set, get?]
  · have hne : name ≠ other := fun he => h he.symm
    have hrest := env.get?_unset name other
    rw [if_neg h] at hrest ⊢
    rw [← hrest]
    simp [set, get?, hne]

/-- Two environments have the same values for some names. -/
def AgreeOn (names : List String) (a b : Environment) : Prop :=
  ∀ name ∈ names, a.get? name = b.get? name

instance (names : List String) (a b : Environment) : Decidable (AgreeOn names a b) :=
  inferInstanceAs (Decidable (∀ name ∈ names, a.get? name = b.get? name))

end Environment

namespace Settings

/-- The names of the variables that the settings come from. -/
def sourceNames : List String :=
  [logLevelVariable, traceVariable, interpreterVariable, timeoutVariable]

theorem ofEnvironment_congr {a b : Environment} (h : a.AgreeOn sourceNames b) :
    ofEnvironment a = ofEnvironment b := by
  have hlevel := h logLevelVariable (by decide)
  have htrace := h traceVariable (by decide)
  have hinterpreter := h interpreterVariable (by decide)
  have htimeout := h timeoutVariable (by decide)
  unfold ofEnvironment
  rw [hlevel, htrace, hinterpreter, htimeout]

/-- The settings name an interpreter and leave time to run. -/
def Valid (s : Settings) : Prop := s.interpreter ≠ "" ∧ s.timeout.isPositive = true

theorem interpreterOf_ne_empty (name : Option String) : interpreterOf name ≠ "" := by
  unfold interpreterOf
  split_ifs with h
  · decide
  · exact h

theorem isPositive_timeoutOf (text : Option String) : (timeoutOf text).isPositive = true := by
  have hdefault : defaultTimeout.isPositive = true := by decide +kernel
  unfold timeoutOf
  split
  · split_ifs with h
    · exact h
    · exact hdefault
  · exact hdefault

/-- No value of a variable gives settings that are not valid. -/
theorem valid_ofEnvironment (env : Environment) : (ofEnvironment env).Valid :=
  ⟨interpreterOf_ne_empty _, isPositive_timeoutOf _⟩

end Settings

/-! ## Histories -/

namespace Configuration

/-- What can happen to a configuration. -/
inductive Step where
  | set (name value : String)
  | unset (name : String)
  | reset
  | read
  deriving DecidableEq, Repr

/-- The environment after a step. Only the steps on variables change it. -/
def Step.onEnvironment (env : Environment) : Step → Environment
  | .set name value => env.set name value
  | .unset name => env.unset name
  | .reset => env
  | .read => env

/-- The environment after a history. -/
def environmentAfter (env : Environment) (history : List Step) : Environment :=
  history.foldl Step.onEnvironment env

/-- The configuration after a step. -/
def after (c : Configuration) : Step → Configuration
  | .set name value => c.set name value
  | .unset name => c.unset name
  | .reset => c.reset
  | .read => c.read.2

/-- What a step gives. -/
def answer? (c : Configuration) : Step → Option Settings
  | .read => some c.read.1
  | _ => none

/-- The configuration after a history. -/
def run (c : Configuration) (history : List Step) : Configuration := history.foldl after c

/-- What the reads of a history give, in order. -/
def answers (c : Configuration) : List Step → List Settings
  | [] => []
  | step :: steps => (c.answer? step).toList ++ (c.after step).answers steps

theorem run_append (c : Configuration) (front back : List Step) :
    c.run (front ++ back) = (c.run front).run back :=
  List.foldl_append ..

theorem answers_append (c : Configuration) (front back : List Step) :
    c.answers (front ++ back) = c.answers front ++ (c.run front).answers back := by
  induction front generalizing c with
  | nil => rfl
  | cons step front ih =>
    rw [List.cons_append, answers, answers, ih, List.append_assoc]
    rfl

theorem length_answers (c : Configuration) (history : List Step) :
    (c.answers history).length = history.count .read := by
  induction history generalizing c with
  | nil => rfl
  | cons step history ih =>
    rw [answers, List.length_append, ih, List.count_cons]
    cases step <;> simp [answer?, Nat.add_comm]

/-- The answer of a read, by the number of the reads in front of it. -/
theorem getElem?_answers (c : Configuration) (front back : List Step) :
    (c.answers (front ++ .read :: back))[front.count .read]? = some (c.run front).read.1 := by
  rw [answers_append, ← length_answers c front, List.getElem?_append_right le_rfl, Nat.sub_self]
  rfl

/-! ## The snapshot -/

/-- A history up to the present. Its first part ends with the last reset, if there is one; nothing
is read in the second part; and the third one starts with the first read since then. -/
structure Epoch (old quiet later : List Step) : Prop where
  starts : old = [] ∨ ∃ older, old = older ++ [.reset]
  quiet_of_reset : Step.reset ∉ quiet
  quiet_of_read : Step.read ∉ quiet
  later_of_reset : Step.reset ∉ later
  head_later : ∀ step, later.head? = some step → step = .read

/-- Every history is split in this way. -/
theorem exists_epoch (history : List Step) : ∃ old quiet later,
    history = old ++ (quiet ++ later) ∧ Epoch old quiet later := by
  have hsplit : ∃ old recent, history = old ++ recent ∧
      (old = [] ∨ ∃ older, old = older ++ [Step.reset]) ∧ Step.reset ∉ recent := by
    induction history using List.reverseRecOn with
    | nil => exact ⟨[], [], rfl, .inl rfl, List.not_mem_nil⟩
    | append_singleton history step ih =>
      by_cases hstep : step = .reset
      · subst hstep
        exact ⟨history ++ [.reset], [], by simp, .inr ⟨history, rfl⟩, List.not_mem_nil⟩
      · obtain ⟨old, recent, rfl, hold, hrecent⟩ := ih
        refine ⟨old, recent ++ [step], by simp, hold, ?_⟩
        simp [hrecent, Ne.symm hstep]
  obtain ⟨old, recent, rfl, hold, hrecent⟩ := hsplit
  let unread := fun step : Step => decide (step ≠ .read)
  refine ⟨old, recent.takeWhile unread, recent.dropWhile unread, ?_, hold, ?_, ?_, ?_, ?_⟩
  · rw [List.takeWhile_append_dropWhile]
  · exact fun h => hrecent ((List.takeWhile_sublist _).subset h)
  · intro h
    have hunread : unread .read = true := List.mem_takeWhile_imp h
    exact absurd hunread (by decide)
  · exact fun h => hrecent ((List.dropWhile_sublist _).subset h)
  · intro step h
    have hread := List.head?_dropWhile_not unread recent
    rw [h] at hread
    simpa [unread] using hread

theorem environment_after (c : Configuration) (step : Step) :
    (c.after step).environment = step.onEnvironment c.environment := by
  cases step <;> rfl

theorem environment_run (c : Configuration) (history : List Step) :
    (c.run history).environment = environmentAfter c.environment history := by
  induction history generalizing c with
  | nil => rfl
  | cons step history ih =>
    show ((c.after step).run history).environment = _
    rw [ih, environment_after]
    rfl

/-- Without a read, a configuration that keeps no settings goes on keeping none. -/
theorem kept_run_of_unread {c : Configuration} (hc : c.kept = none) {history : List Step}
    (h : Step.read ∉ history) : (c.run history).kept = none := by
  induction history generalizing c with
  | nil => exact hc
  | cons step history ih =>
    rw [List.mem_cons, not_or] at h
    refine ih (c := c.after step) ?_ h.2
    cases step with
    | set name value => exact hc
    | unset name => exact hc
    | reset => rfl
    | read => exact absurd rfl h.1

/-- Without a reset, settings that are kept stay. -/
theorem kept_run_of_unreset {c : Configuration} {s : Settings} (hc : c.kept = some s)
    {history : List Step} (h : Step.reset ∉ history) : (c.run history).kept = some s := by
  induction history generalizing c with
  | nil => exact hc
  | cons step history ih =>
    rw [List.mem_cons, not_or] at h
    refine ih (c := c.after step) ?_ h.2
    cases step with
    | set name value => exact hc
    | unset name => exact hc
    | reset => exact absurd rfl h.1
    | read =>
      show some (c.kept.getD _) = some s
      rw [hc]
      rfl

/-- Right after the start and after a reset nothing is kept. -/
theorem kept_run_of_starts {c : Configuration} (hc : c.kept = none) {old : List Step}
    (h : old = [] ∨ ∃ older, old = older ++ [.reset]) : (c.run old).kept = none := by
  rcases h with rfl | ⟨older, rfl⟩
  · exact hc
  · rw [run_append]
    rfl

/-- A read gives the settings of the environment at the first read of the epoch. -/
theorem read_of_epoch {c : Configuration} (hc : c.kept = none) {old quiet later : List Step}
    (h : Epoch old quiet later) : (c.run (old ++ (quiet ++ later))).read.1 =
      .ofEnvironment (environmentAfter c.environment (old ++ quiet)) := by
  have hnone : (c.run (old ++ quiet)).kept = none := by
    rw [run_append]
    exact kept_run_of_unread (kept_run_of_starts hc h.starts) h.quiet_of_read
  have hread : (c.run (old ++ quiet)).read.1 =
      .ofEnvironment (environmentAfter c.environment (old ++ quiet)) := by
    rw [← environment_run]
    unfold read
    rw [hnone]
    rfl
  rw [← List.append_assoc, run_append]
  cases later with
  | nil => exact hread
  | cons step later =>
    -- the first later step takes the snapshot, and the others keep it
    obtain rfl : step = .read := h.head_later step rfl
    have hreset : Step.reset ∉ later := fun hmem => h.later_of_reset (List.mem_cons_of_mem _ hmem)
    have hkept : ((c.run (old ++ quiet)).run (.read :: later)).kept =
        some (c.run (old ++ quiet)).read.1 := by
      exact kept_run_of_unreset (c := (c.run (old ++ quiet)).read.2) rfl hreset
    rw [← hread]
    show Option.getD _ _ = _
    rw [hkept]
    rfl

/-! ## What counts -/

/-- The step is on one of the variables that the settings come from, or on none. -/
def Step.counts : Step → Bool
  | .set name _ => Settings.sourceNames.contains name
  | .unset name => Settings.sourceNames.contains name
  | .reset => true
  | .read => true

/-- Two configurations keep the same settings, and their environments agree where it counts. -/
structure Alike (c d : Configuration) : Prop where
  kept : c.kept = d.kept
  environment : c.environment.AgreeOn Settings.sourceNames d.environment

namespace Alike

variable {c d : Configuration}

theorem read_eq (h : c.Alike d) : c.read.1 = d.read.1 := by
  unfold Configuration.read
  rw [h.kept, Settings.ofEnvironment_congr h.environment]

theorem answer?_eq (h : c.Alike d) (step : Step) : c.answer? step = d.answer? step := by
  cases step with
  | read => exact congrArg some h.read_eq
  | _ => rfl

theorem after_both (h : c.Alike d) (step : Step) : (c.after step).Alike (d.after step) := by
  cases step with
  | set name value =>
    refine ⟨h.kept, fun other hother => ?_⟩
    show (c.environment.set name value).get? other = (d.environment.set name value).get? other
    rw [Environment.get?_set, Environment.get?_set, h.environment other hother]
  | unset name =>
    refine ⟨h.kept, fun other hother => ?_⟩
    show (c.environment.unset name).get? other = (d.environment.unset name).get? other
    rw [Environment.get?_unset, Environment.get?_unset, h.environment other hother]
  | reset => exact ⟨rfl, h.environment⟩
  | read => exact ⟨congrArg some h.read_eq, h.environment⟩

/-- A step on another variable goes unnoticed. -/
theorem after_left (h : c.Alike d) {step : Step} (hstep : step.counts = false) :
    (c.after step).Alike d ∧ c.answer? step = none := by
  have hne : ∀ {name other}, Settings.sourceNames.contains name = false →
      other ∈ Settings.sourceNames → other ≠ name := by
    rintro name other hname hother rfl
    simp [hother] at hname
  cases step with
  | set name value =>
    refine ⟨⟨h.kept, fun other hother => ?_⟩, rfl⟩
    show (c.environment.set name value).get? other = _
    rw [Environment.get?_set, if_neg (hne hstep hother), h.environment other hother]
  | unset name =>
    refine ⟨⟨h.kept, fun other hother => ?_⟩, rfl⟩
    show (c.environment.unset name).get? other = _
    rw [Environment.get?_unset, if_neg (hne hstep hother), h.environment other hother]
  | reset => cases hstep
  | read => cases hstep

end Alike

/-- The steps on other variables can be left out. -/
theorem answers_filter {c d : Configuration} (h : c.Alike d) (history : List Step) :
    c.answers history = d.answers (history.filter Step.counts) := by
  induction history generalizing c d with
  | nil => rfl
  | cons step history ih =>
    by_cases hstep : step.counts = true
    · rw [List.filter_cons_of_pos hstep, answers, answers, h.answer?_eq, ih (h.after_both step)]
    · rw [List.filter_cons_of_neg hstep, answers]
      obtain ⟨hafter, hnone⟩ := h.after_left (Bool.eq_false_iff.2 hstep)
      rw [hnone, ih hafter]
      rfl

/-- Kept settings are valid, if there are any. -/
theorem valid_kept {c : Configuration} (hc : ∀ s, c.kept = some s → s.Valid) (history : List Step) :
    ∀ s, (c.run history).kept = some s → s.Valid := by
  induction history generalizing c with
  | nil => exact hc
  | cons step history ih =>
    refine ih (c := c.after step) ?_
    cases step with
    | set name value => exact hc
    | unset name => exact hc
    | reset =>
      intro s hs
      cases hs
    | read =>
      intro s hs
      obtain rfl : c.kept.getD (.ofEnvironment c.environment) = s := Option.some.inj hs
      cases hkept : c.kept with
      | none => exact Settings.valid_ofEnvironment c.environment
      | some s => exact hc s hkept

/-- Every read of a history gives the settings of the environment at the first read since the last
reset, or since the start; what happens to the environment later does not count, and neither do
other variables. In every state the settings that are kept are valid. -/
theorem answers_of_history (env : Environment) :
    (∀ front : List Step, ∃ old quiet later, front = old ++ (quiet ++ later) ∧
      Epoch old quiet later) ∧
    (∀ old quiet later back, Epoch old quiet later →
      (answers ⟨env, none⟩ (old ++ (quiet ++ later) ++ .read :: back))[
          (old ++ (quiet ++ later)).count .read]? =
        some (.ofEnvironment (environmentAfter env (old ++ quiet)))) ∧
    (∀ env' history, env.AgreeOn Settings.sourceNames env' →
      answers ⟨env, none⟩ history = answers ⟨env', none⟩ (history.filter Step.counts)) ∧
    ∀ history s, (run ⟨env, none⟩ history).kept = some s →
      s.interpreter ≠ "" ∧ s.timeout.isPositive = true := by
  refine ⟨exists_epoch, ?_, ?_, ?_⟩
  · intro old quiet later back h
    rw [getElem?_answers, read_of_epoch rfl h]
  · intro env' history hagree
    have halike : Alike ⟨env, none⟩ ⟨env', none⟩ := ⟨rfl, hagree⟩
    exact answers_filter halike history
  · intro history s hs
    refine valid_kept ?_ history s hs
    rintro s ⟨⟩

/-- A read after a change gives what the first read after the reset gave. -/
theorem answers_after_late_change :
    let old : List Step := [.set "NLCODE_PYTHON" "a", .read, .reset]
    let quiet : List Step := [.set "NLCODE_PYTHON" "b"]
    let later : List Step := [.read, .unset "NLCODE_PYTHON"]
    let history : List Step := old ++ (quiet ++ later) ++ [.read]
    Epoch old quiet later ∧
      (answers ⟨[], none⟩ history)[2]? = some
        { logLevel := .info, traceMatches := false, interpreter := "b", timeout := .ofNat 5000 } ∧
      Environment.AgreeOn Settings.sourceNames [] [("HOME", "/")] ∧
      answers ⟨[], none⟩ history =
        answers ⟨[("HOME", "/")], none⟩ (history.filter Step.counts) := by
  intro old quiet later history
  have hepoch : Epoch old quiet later :=
    ⟨.inr ⟨[.set "NLCODE_PYTHON" "a", .read], rfl⟩, by decide, by decide, by decide, by decide⟩
  have hagree : Environment.AgreeOn Settings.sourceNames [] [("HOME", "/")] := by decide
  obtain ⟨-, hread, hothers, -⟩ := answers_of_history []
  exact ⟨hepoch, hread old quiet later [] hepoch, hagree, hothers _ history hagree⟩

end Configuration

end Phrasebook
