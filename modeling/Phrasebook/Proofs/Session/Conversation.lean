import Phrasebook.Proofs.Console
import Phrasebook.Proofs.Session.Answer

/-!
# Sessions

A session answers line after line until one leaves it. Whatever the interpreter does, every line up
to that one is answered. What is shown for a line and which call is made for it goes by the line
alone; what came before, and how earlier runs ended, is known only to what runs the commands.

Results:
* `results_conversation`, `calls_conversation`: how the lines are answered, and which calls are
  made.
* `answers_of_getElem?`: each answer, by its line and the calls made before.
* `conversation_of_attempts`: a session, whatever the attempts to run its commands end with.
-/

namespace Phrasebook.Session

/-- The lines in front of the first one that leaves. -/
def heard (lines : List String) : List String := lines.takeWhile (¬ Leaves ·)

section

variable {settings : Settings} {options : Options} {runners : List Call → Runner}

/-- One line of a session. -/
theorem conversation_cons (made : List Call) (line : String) (lines : List String) :
    conversation settings options runners made (line :: lines) =
      let t := answer settings options (runners made) line
      if Leaves line then [t]
      else t :: conversation settings options runners (made ++ t.calls) lines := by
  have hresult := (answers_answer settings options (runners made) line).result_eq
  by_cases h : Leaves line
  · rw [if_pos h] at hresult
    simp [conversation, hresult, h]
  · rw [if_neg h] at hresult
    simp [conversation, hresult, h]

theorem heard_cons (line : String) (lines : List String) :
    heard (line :: lines) = if Leaves line then [] else line :: heard lines := by
  by_cases h : Leaves line
  · simp [heard, h]
  · simp [heard, h]

/-- Every line is answered up to the first one that leaves, and none after it. -/
theorem results_conversation (made : List Call) (lines : List String) :
    (conversation settings options runners made lines).map (·.result) =
      (heard lines).map (fun _ => .ok .stay) ++
        if ∃ line ∈ lines, Leaves line then [.ok .leave] else [] := by
  induction lines generalizing made with
  | nil => simp [conversation, heard]
  | cons line lines ih =>
    have hresult := (answers_answer settings options (runners made) line).result_eq
    rw [conversation_cons, heard_cons]
    by_cases h : Leaves line
    · simp [h, hresult]
    · simp [h, hresult, ih]

/-- The calls are those of the lines in front of the one that leaves, in order. -/
theorem calls_conversation (made : List Call) (lines : List String) :
    (conversation settings options runners made lines).flatMap (·.calls) =
      if options.execute then (heard lines).filterMap (callOf? settings options) else [] := by
  induction lines generalizing made with
  | nil => simp [conversation, heard]
  | cons line lines ih =>
    have hcalls := (answers_answer settings options (runners made) line).calls_eq
    rw [conversation_cons, heard_cons]
    by_cases h : Leaves line
    · simp [h, hcalls]
    · cases hexecute : options.execute with
      | true =>
        simp only [hexecute, if_true] at ih
        simp only [h, hexecute, not_false_eq_true, and_self, if_true, if_false] at hcalls ⊢
        rw [List.flatMap_cons, ih, hcalls]
        cases hcall : callOf? settings options line with
        | none =>
          rw [List.filterMap_cons_none hcall]
          rfl
        | some call =>
          rw [List.filterMap_cons_some hcall]
          rfl
      | false =>
        simp only [hexecute, Bool.false_eq_true, if_false] at ih
        simp [h, hexecute, hcalls, ih]

/-- Each answer goes by its line, and what runs its command by the calls made before. -/
theorem answers_of_getElem? {made : List Call} {lines : List String} {i : Nat}
    {t : Transcript Next}
    (ht : (conversation settings options runners made lines)[i]? = some t) :
    ∃ line, lines[i]? = some line ∧
      Answers settings options
        (runners (made ++
          ((conversation settings options runners made lines).take i).flatMap (·.calls)))
        line t := by
  induction lines generalizing made i with
  | nil => simp [conversation] at ht
  | cons line lines ih =>
    have hanswers := answers_answer settings options (runners made) line
    rw [conversation_cons] at ht ⊢
    cases i with
    | zero =>
      refine ⟨line, rfl, ?_⟩
      by_cases h : Leaves line
      · simp only [h, if_true, List.getElem?_cons_zero, Option.some.injEq] at ht
        simpa [ht] using hanswers
      · simp only [h, if_false, List.getElem?_cons_zero, Option.some.injEq] at ht
        simpa [ht] using hanswers
    | succ i =>
      by_cases h : Leaves line
      · simp [h] at ht
      · simp only [h, if_false, List.getElem?_cons_succ] at ht
        obtain ⟨line', hline', hrest⟩ := ih ht
        refine ⟨line', hline', ?_⟩
        simpa [h] using hrest

end

/-- A session, whatever the attempts to run its commands end with, and however an attempt goes by
the calls before it. No line fails, and only the words for leaving leave. Commands are run only if
that is asked for: then one for each line in front of the one that leaves which a rule renders, in
order, with the program of its code. What is shown for a line before its command is run, and the
command, are functions of the line; the rest is the report of the command. -/
theorem conversation_of_attempts (settings : Settings) (options : Options)
    (attempts : List Call → Call → Except Thrown Subprocess.Outcome) (lines : List String) :
    let talk := conversation settings options (fun made => .catching (attempts made)) [] lines
    talk.map (·.result) = (heard lines).map (fun _ => .ok .stay) ++
      (if ∃ line ∈ lines, Leaves line then [.ok .leave] else []) ∧
    talk.flatMap (·.calls) =
      (if options.execute then (heard lines).filterMap (callOf? settings options) else []) ∧
    ∀ (i : Nat) (t : Transcript Next), talk[i]? = some t → ∃ line, lines[i]? = some line ∧
      t.calls =
        (if options.execute ∧ ¬ Leaves line then (callOf? settings options line).toList else []) ∧
      t.events = shown settings line ++ t.calls.flatMap fun call =>
        reportOf settings call
          ((attempts ((talk.take i).flatMap (·.calls)) call).mapError Thrown.message) := by
  intro talk
  refine ⟨results_conversation [] lines, calls_conversation [] lines, fun i t ht => ?_⟩
  obtain ⟨line, hline, -, hcalls, hevents⟩ := answers_of_getElem? ht
  exact ⟨line, hline, hcalls, hevents⟩

/-- An attempt that ends with a text is a command that could not be started. The session goes on, up
to the line that leaves. -/
theorem conversation_of_thrown_text :
    let settings : Settings := ⟨.info, false, "python3", .ofNat 5000⟩
    let options : Options := { execute := true }
    let lines := ["create dictionary :1", "print hello", "EXIT ", "print later"]
    let talk := conversation settings options
      (fun _ => .catching fun _ => .error (.text "boom")) [] lines
    let call : Call := ⟨"python3",
      ["-c", "my_list = []\nmy_string = \"\"\nmy_dict = \x7b\x7d\nprint(\"hello\")\n"], .ofNat 5000⟩
    let dashes := "\x1b[2m----------------------------------------\x1b[0m"
    talk.map (·.result) = [.ok .stay, .ok .stay, .ok .leave] ∧
    talk.flatMap (·.calls) = [call] ∧
    ∃ t before after, talk[1]? = some t ∧
      t.events = Console.records before ++
        [.line .log dashes, .line .log "print(\"hello\")", .line .log dashes] ++
        (Console.records after ++
          [.line .error "\x1b[31m✗\x1b[0m Cannot start the Python interpreter: boom"]) := by
  intro settings options lines talk call dashes
  obtain ⟨hresults, hcalls, hanswers⟩ :=
    conversation_of_attempts settings options (fun _ _ => .error (.text "boom")) lines
  have hheard : heard lines = ["create dictionary :1", "print hello"] := by decide +kernel
  have hleaves : ∃ line ∈ lines, Leaves line := ⟨"EXIT ", by decide, by decide +kernel⟩
  have hdictionary : callOf? settings options "create dictionary :1" = none := by
    rw [callOf?, standardRules_eq_map]
    decide +kernel
  have htranslate : standardRules.translate "print hello" =
      .ok (.rendered "print-text" "print(\"hello\")") := by
    rw [standardRules_eq_map]
    decide +kernel
  have hprogram : programOf "print(\"hello\")" =
      "my_list = []\nmy_string = \"\"\nmy_dict = \x7b\x7d\nprint(\"hello\")\n" := by decide
  have hhello : callOf? settings options "print hello" = some call := by
    rw [callOf?, htranslate]
    exact congrArg (fun program => some (Call.mk "python3" ["-c", program] (.ofNat 5000))) hprogram
  have hstay : ¬ Leaves "print hello" := by decide +kernel
  have hshown : shown settings "print hello" =
      Console.records (standardRules.translationRecords settings "print hello") ++
        [.line .log dashes, .line .log "print(\"hello\")", .line .log dashes] := by
    have hblank : normalize "print hello" ≠ "" := by decide +kernel
    rw [shown, if_neg (not_or.2 ⟨hstay, hblank⟩), htranslate, ← Console.divider_eq]
    rfl
  have hreport : reportOf settings call (.error "boom") =
      Console.records (executionRecords settings call (.notStarted "boom")) ++
        [.line .error "\x1b[31m✗\x1b[0m Cannot start the Python interpreter: boom"] :=
    congrArg (fun e => _ ++ [e]) (Console.error_eq "Cannot start the Python interpreter: boom")
  rw [hheard, if_pos hleaves] at hresults
  have hlength : talk.length = 3 := by
    rw [← List.length_map (·.result), hresults]
    rfl
  have ht : talk[1]? = some talk[1] := List.getElem?_eq_getElem (by omega)
  obtain ⟨line, hline, hmade, hevents⟩ := hanswers 1 _ ht
  obtain rfl : "print hello" = line := Option.some.inj hline
  rw [if_pos ⟨rfl, hstay⟩, hhello] at hmade
  rw [hmade, hshown] at hevents
  have hcalled : talk.flatMap (·.calls) = [call] := by
    rw [hcalls, hheard, if_pos rfl, List.filterMap_cons_none hdictionary,
      List.filterMap_cons_some hhello, List.filterMap_nil]
  exact ⟨hresults, hcalled, _, _, _, ht,
    hevents.trans (congrArg _ ((List.flatMap_singleton _ call).trans hreport))⟩

end Phrasebook.Session
