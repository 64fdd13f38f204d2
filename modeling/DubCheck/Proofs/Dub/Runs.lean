import DubCheck.Dub.Build
import DubCheck.Dub.Describe
import DubCheck.Issue.Output
import DubCheck.Proofs.Act
import DubCheck.Proofs.Text.Blank
/-!
# What comes of a run of dub

Asking dub about a project and building it are one run of dub each.  What comes of it depends on
nothing but the reply: `answerOf` is what dub prints when it is asked, and `checkOf` is what a build
gives that only looks for issues.

* `ask_apply`: asking dub is one run, with the answer in its reply.
* `generate_of_start`: building is one run, and what comes of it depends on what it prints and on
  who receives that.
* `generate_apply`: the same with the issues in the reply, when they are all that is looked for.
* `flagsVariable_eq`: the flags for the compiler of a build that writes no output.
-/

namespace DubCheck

/-! ## Hosts -/

/-- Nobody interrupts dub. -/
def Host.Quiet (h : Host) : Prop :=
  ∀ arguments, h.dub arguments ≠ .interrupted

/-- Hosts on which nobody interrupts dub, and which keep the dub that they have. -/
def hostFrame : Act.Frame Host where
  holds := Host.Quiet
  allows h k := k.dub = h.dub
  refl _ := rfl
  trans h k := k.trans h
  keeps h k := by rwa [Host.Quiet, k]

namespace Host

variable {h : Host}

lemma noted_eq (level : Level) (text : String) :
    h.noted level text = { h with log := (h.noted level text).log } := by
  rw [noted]
  split <;> rfl

@[simp] lemma noted_dub (level : Level) (text : String) : (h.noted level text).dub = h.dub := by
  rw [noted_eq]

@[simp] lemma noted_runs (level : Level) (text : String) : (h.noted level text).runs = h.runs := by
  rw [noted_eq]

lemma note_apply (level : Level) (text : String) :
    (note level text).apply h = (.ok (), h.noted level text) := rfl

lemma runDub_apply (run : Dub.Run) :
    (runDub run).apply h = (.ok (h.dub (run.command.drop 1)), { h with runs := h.runs ++ [run] }) :=
  rfl

/-- A host on which dub has been run once more; the log may be another one since. -/
def ran (h : Host) (log : List Note) (run : Dub.Run) : Host :=
  { h with log := log, runs := h.runs ++ [run] }

@[simp] lemma ran_runs (log : List Note) (run : Dub.Run) :
    (h.ran log run).runs = h.runs ++ [run] := rfl

/-- The latest run is the one that is changed. -/
lemma amendRun_apply {runs : List Dub.Run} {run : Dub.Run} (hruns : h.runs = runs ++ [run])
    (change : Dub.Run → Dub.Run) :
    (amendRun change).apply h = (.ok (), { h with runs := runs ++ [change run] }) := by
  simp only [amendRun, Act.apply_modify, hruns, List.getLast?_concat, List.dropLast_concat]

end Host

namespace Dub

/-! ## Asking -/

/-- What dub prints when it is asked, or why that cannot be used. -/
def answerOf (program : String) : Reply → Except Failure (List Char)
  | .noProgram => .error (.describe (.noProgram program))
  | .denied => .error (.describe (.denied program))
  | .timedOut => .error (.describe (.timedOut describeSeconds))
  | .interrupted => .error .interrupted
  | .finished stdout stderr status => do
    let out ← outputText stdout
    let err ← outputText stderr
    if status = 0 then return out
    let complaint := Text.trim err
    let detail := if complaint.isEmpty then Text.trim out else complaint
    throw (.describe (.exited status (String.ofList detail)))

/-- The record of a run that asks dub. -/
def askRun (program : String) (directory : Location) (arguments : List String) : Run :=
  ⟨program :: arguments, directory.text, .describe describeSeconds⟩

variable (program : String) (directory : Location) {h : Host}

lemma ask_apply (arguments : List String) :
    (ask program directory arguments).apply h = (answerOf program (h.dub arguments),
      { h with runs := h.runs ++ [askRun program directory arguments] }) := by
  rw [ask, Act.apply_bind, Host.runDub_apply]
  simp only [List.drop_succ_cons, List.drop_zero]
  cases h.dub arguments with
  | finished stdout stderr status =>
    simp only [answerOf, Act.apply_bind, Act.apply_ofExcept]
    cases outputText stdout with
    | error e => rfl
    | ok out =>
      cases outputText stderr with
      | error e => rfl
      | ok err =>
        simp only [bind, Except.bind]
        split <;> rfl
  | _ => rfl

lemma outputText_ne_interrupted (bytes : List UInt8) :
    outputText bytes ≠ .error .interrupted := by
  rw [outputText]
  cases (Text.Utf8.decode bytes).map Text.translateNewlines <;> simp [Except.mapError]

lemma answerOf_ne_interrupted {reply : Reply} (h : reply ≠ .interrupted) :
    answerOf program reply ≠ .error .interrupted := by
  cases reply with
  | interrupted => exact absurd rfl h
  | finished stdout stderr status =>
    simp only [answerOf]
    cases hout : outputText stdout with
    | error e =>
      rintro ⟨⟩
      exact outputText_ne_interrupted stdout hout
    | ok out =>
      cases herr : outputText stderr with
      | error e =>
        rintro ⟨⟩
        exact outputText_ne_interrupted stderr herr
      | ok err =>
        simp only [bind, Except.bind]
        split <;> rintro ⟨⟩
  | _ => rintro ⟨⟩

lemma readObject_ne_interrupted (text : List Char) : readObject text ≠ .error .interrupted := by
  rw [readObject]
  rcases Document.read text with e | d
  · cases e <;> rintro ⟨⟩
  · simp only [Except.mapError, bind, Except.bind]
    split <;> rintro ⟨⟩

lemma splitLists_ne_interrupted (output : List Char) (count : Nat) :
    splitLists output count ≠ .error .interrupted := by
  rw [splitLists]
  split <;> rintro ⟨⟩

lemma list_apply (settings : Settings) (fields : List String) :
    ((Provider.dub program directory).list settings fields).apply h =
      ((answerOf program (h.dub (listArguments settings fields))).bind (splitLists · fields.length),
        { h with
          runs := h.runs ++ [askRun program directory (listArguments settings fields)] }) := by
  simp only [Provider.dub, Act.apply_bind, ask_apply]
  cases answerOf program (h.dub (listArguments settings fields)) <;> rfl

lemma describe_apply (settings : Settings) :
    ((Provider.dub program directory).describe settings).apply h =
      ((answerOf program (h.dub ("describe" :: settings.selectors))).bind readObject,
        { h with
          runs := h.runs ++ [askRun program directory ("describe" :: settings.selectors)] }) := by
  simp only [Provider.dub, Act.apply_bind, ask_apply]
  cases answerOf program (h.dub ("describe" :: settings.selectors)) <;> rfl

lemma list_sound (settings : Settings) (fields : List String) :
    ((Provider.dub program directory).list settings fields).Sound hostFrame := by
  intro h hquiet
  rw [list_apply]
  exact ⟨bind_ne_interrupted (answerOf_ne_interrupted program (hquiet _))
    fun _ => splitLists_ne_interrupted _ _, rfl⟩

lemma describe_sound (settings : Settings) :
    ((Provider.dub program directory).describe settings).Sound hostFrame := by
  intro h hquiet
  rw [describe_apply]
  exact ⟨bind_ne_interrupted (answerOf_ne_interrupted program (hquiet _))
    readObject_ne_interrupted, rfl⟩

/-! ## Building -/

/-- What a build prints, or why it cannot be started. -/
def startOf (program : String) : Reply → Except Failure Transcript
  | .noProgram => .error (.build (.noProgram program))
  | .denied => .error (.build (.denied program))
  | .timedOut => .error (.build (.exited 124))
  | .interrupted => .error .interrupted
  | .finished stdout stderr status => .ok (transcriptOf (stdout ++ stderr) status)

/-- What a build gives when all that it printed has been received: the issues, if it succeeded or
if dub only reports that the compiler failed. -/
def concluded (found : List Issue) : Option Failure → Except Failure (List Issue)
  | none => .ok found
  | some (.build e) =>
    if reportsCompiler e.message.toList then .ok found else .error (.build e)
  | some e => .error e

/-- What a build gives that only looks for issues, and whether it is killed because a line cannot
be read. -/
def checkOf (program : String) (reply : Reply) : Except Failure (List Issue) × Bool :=
  match startOf program reply with
  | .error e => (concluded [] (some e), false)
  | .ok transcript =>
    match Issue.ofLines transcript.lines with
    | ⟨found, none⟩ => (concluded found transcript.ending, false)
    | ⟨_, some e⟩ => (.error (.ofUnreadable e), true)

/-- The record of a run that builds. -/
def buildRun (program : String) (directory : Location) (arguments : List String)
    (flags : Option String) (killed : Bool) : Run :=
  ⟨program :: arguments, directory.text, .build flags killed⟩

/-- A run was killed. -/
def Run.Killed (r : Run) : Prop :=
  ∃ flags, r.purpose = .build flags true

lemma killed_buildRun_iff {program : String} {directory : Location} {arguments : List String}
    {flags : Option String} {killed : Bool} :
    (buildRun program directory arguments flags killed).Killed ↔ killed = true := by
  constructor
  · rintro ⟨flags', h⟩
    exact (Purpose.build.inj h).2
  · rintro rfl
    exact ⟨flags, rfl⟩

lemma flagsVariable_noted (level : Level) (text : String) (settings : Settings) :
    flagsVariable (h.noted level text) settings = flagsVariable h settings := by
  rw [Host.noted_eq]
  rfl

lemma start_apply (settings : Settings) :
    ∃ log, ((Engine.dub program directory).start settings).apply h =
      (startOf program (h.dub settings.buildArguments),
        h.ran log (buildRun program directory settings.buildArguments (flagsVariable h settings)
          false)) := by
  refine ⟨(h.noted .debug ("Running " ++ " ".intercalate (program :: settings.buildArguments) ++
    " in " ++ directory.text)).log, ?_⟩
  simp only [Engine.dub, Act.apply_bind, Host.note_apply, Act.apply_get, Host.runDub_apply,
    flagsVariable_noted, List.drop_succ_cons, List.drop_zero, Host.noted_dub, Host.noted_runs]
  rw [Host.noted_eq]
  cases h.dub settings.buildArguments <;> rfl

/-- What comes of a build whose lines are handed to a receiver, and whether it is killed because the
receiver fails. -/
def received {τ : Type} (receive : τ → List Char → Except Failure τ) (start : τ)
    (transcript : Transcript) : (τ × Option Failure) × Bool :=
  match feed receive start transcript.lines with
  | (kept, none) => ((kept, transcript.ending), false)
  | (kept, some e) => ((kept, some e), true)

/-- A build that can be started is one run of dub, and what comes of it depends on what it prints
and on the receiver. -/
lemma generate_of_start {settings : Settings} {transcript : Transcript}
    (hstart : startOf program (h.dub settings.buildArguments) = .ok transcript) {τ : Type}
    (receive : τ → List Char → Except Failure τ) (start : τ) :
    ∃ log, ((Engine.dub program directory).generate settings receive start).apply h =
      (.ok (received receive start transcript).1,
        h.ran log (buildRun program directory settings.buildArguments (flagsVariable h settings)
          (received receive start transcript).2)) := by
  obtain ⟨log, happly⟩ := start_apply program directory (h := h) settings
  rw [hstart] at happly
  have hne : (((Engine.dub program directory).start settings).apply h).1 ≠ .error .interrupted := by
    rw [happly]
    rintro ⟨⟩
  refine ⟨log, ?_⟩
  simp only [Engine.generate, Act.apply_bind, Act.apply_outcome_of_ne hne, happly, received]
  rcases feed receive start transcript.lines with ⟨kept, _ | e⟩
  · rfl
  · -- The build is killed, and so says the record of its run.
    have hkill : (Engine.dub program directory).kill = Host.amendRun Run.kill := rfl
    simp only [Act.apply_bind, hkill]
    rw [Host.amendRun_apply rfl]
    rfl

/-- The issues that have been found, backwards, when another line has been received. -/
def receive (found : List Issue) (line : List Char) : Except Failure (List Issue) :=
  ((Issue.ofRawLine line).map (·.reverse ++ found)).mapError .ofUnreadable

/-- Lines are received until one of them cannot be read. -/
lemma feed_receive (found : List Issue) (lines : List (List Char)) :
    feed receive found lines = ((Issue.ofLines lines).issues.reverse ++ found,
      (Issue.ofLines lines).fault.map Failure.ofUnreadable) := by
  induction lines generalizing found with
  | nil => rfl
  | cons line lines ih =>
    rw [feed, receive, Issue.ofLines]
    cases Issue.ofRawLine line with
    | error e => rfl
    | ok new =>
      simp only [Except.map, Except.mapError, ih]
      simp

/-- A build that only looks for issues is one run of dub, and what has been received and how it
ended comes of the reply. -/
lemma generate_apply (settings : Settings)
    (hreply : h.dub settings.buildArguments ≠ .interrupted) :
    ∃ found ending log,
      ((Engine.dub program directory).generate settings receive []).apply h =
        (.ok (found, ending), h.ran log (buildRun program directory settings.buildArguments
          (flagsVariable h settings) (checkOf program (h.dub settings.buildArguments)).2)) ∧
      concluded found.reverse ending = (checkOf program (h.dub settings.buildArguments)).1 := by
  cases hstart : startOf program (h.dub settings.buildArguments) with
  | ok transcript =>
    obtain ⟨log, hgenerate⟩ := generate_of_start program directory hstart receive []
    simp only [checkOf, hstart]
    rw [received, feed_receive, List.append_nil] at hgenerate
    rcases hlines : Issue.ofLines transcript.lines with ⟨found, _ | e⟩
    · rw [hlines] at hgenerate
      exact ⟨_, _, log, hgenerate, congrArg (concluded · _) found.reverse_reverse⟩
    · rw [hlines] at hgenerate
      refine ⟨_, _, log, hgenerate, ?_⟩
      cases e <;> rfl
  | error e =>
    obtain ⟨log, happly⟩ := start_apply program directory (h := h) settings
    have hne : (((Engine.dub program directory).start settings).apply h).1 ≠
        .error .interrupted := by
      rw [happly]
      cases hr : h.dub settings.buildArguments with
      | interrupted => exact absurd hr hreply
      | _ => rintro ⟨⟩
    simp only [Engine.generate, Act.apply_bind, Act.apply_outcome_of_ne hne, happly, checkOf,
      hstart]
    exact ⟨_, _, _, rfl, rfl⟩

/-- A build that is interrupted has received nothing. -/
lemma generate_of_interrupted (settings : Settings)
    (hreply : h.dub settings.buildArguments = .interrupted) :
    ∃ log, ((Engine.dub program directory).generate settings receive []).apply h =
      (.error .interrupted, h.ran log (buildRun program directory settings.buildArguments
        (flagsVariable h settings) false)) := by
  obtain ⟨log, hstart⟩ := start_apply program directory (h := h) settings
  refine ⟨log, ?_⟩
  simp only [Engine.generate, Act.apply_bind, Act.apply_outcome, hstart, hreply, startOf]

lemma concluded_ne_interrupted {found : List Issue} {ending : Option Failure}
    (h : ending ≠ some .interrupted) : concluded found ending ≠ .error .interrupted := by
  cases ending with
  | none => rintro ⟨⟩
  | some e =>
    cases e with
    | build e =>
      rw [concluded]
      split <;> rintro ⟨⟩
    | interrupted => exact absurd rfl h
    | _ => rintro ⟨⟩

lemma transcriptOf_ending_ne_interrupted (output : List UInt8) (status : Int) :
    (transcriptOf output status).ending ≠ some .interrupted := by
  rw [transcriptOf]
  dsimp only
  split <;> rintro ⟨⟩

/-- A build that only looks for issues is not interrupted. -/
lemma checkOf_ne_interrupted {reply : Reply} (h : reply ≠ .interrupted) :
    (checkOf program reply).1 ≠ .error .interrupted := by
  rw [checkOf]
  cases hstart : startOf program reply with
  | error e =>
    refine concluded_ne_interrupted ?_
    rintro ⟨⟩
    cases reply with
    | interrupted => exact h rfl
    | _ => cases hstart
  | ok transcript =>
    have hending : transcript.ending ≠ some .interrupted := by
      cases reply <;> cases hstart
      exact transcriptOf_ending_ne_interrupted _ _
    dsimp only
    split
    · exact concluded_ne_interrupted hending
    · rename_i e _
      cases e <;> rintro ⟨⟩

/-! ## Flags for the compiler -/

/-- The flags that are inherited, without the blanks at their ends, and another flag. -/
def flagsWith (inherited : Option String) (flag : String) : String :=
  let before := Text.trimmed (inherited.getD "")
  if before.isEmpty then flag else before ++ " " ++ flag

/-- A build that writes no output adds one flag to those that are inherited. -/
lemma flagsVariable_eq {settings : Settings} (hquiet : settings.syntaxOnly = true)
    (hflags : settings.flags = []) :
    flagsVariable h settings =
      some (flagsWith (h.setting? "DFLAGS") settings.compiler.family.noOutputFlag) := by
  have hflag : settings.compilerFlags = settings.compiler.family.noOutputFlag := by
    simp [Settings.compilerFlags, hquiet, hflags]
  rw [flagsVariable, hflag, flagsWith]
  cases settings.compiler.family <;>
    refine congrArg some (Text.trimmed_append_space (by decide) ?_ ?_) <;>
    simp [Family.noOutputFlag, Text.isBlank]

end Dub

end DubCheck
