import DubCheck.Proofs.Document.Capacity
import DubCheck.Proofs.Dub.Runs
import DubCheck.Proofs.Text.Utf8
/-!
# How asking dub fails

When dub is asked about a project, it answers with the lists that are asked for or with an object,
or there is a failure that says why dub does not describe the project.  This is what has to come of
every reply of dub.  It does, unless dub prints something that is not text, on either of its
streams, or the reader of documents does not cope with a description.

* `Reply.Legible`, `Reply.Prints`: what dub prints is text, and which text that is.
* `answersLawfully_iff`: when dub is asked lawfully.
-/

namespace DubCheck.Dub

open Text (translateNewlines)
open Text.Utf8 (IsText encode)

/-! ## Replies -/

/-- What dub prints is text, on both of its streams. -/
def Reply.Legible : Reply → Prop
  | .finished stdout stderr _ => IsText stdout ∧ IsText stderr
  | _ => True

/-- dub succeeds and prints a text, in which any line end counts as a newline. -/
def Reply.Prints (reply : Reply) (text : List Char) : Prop :=
  ∃ out err, reply = .finished (encode out) (encode err) 0 ∧ text = translateNewlines out.toList

section

variable {program : String} {reply : Reply} {text : List Char}

lemma outputText_encode (s : String) :
    outputText (encode s) = .ok (translateNewlines s.toList) := by
  rw [outputText, Text.Utf8.decode_encode]
  rfl

lemma outputText_of_not_isText {bytes : List UInt8} (h : ¬ IsText bytes) :
    ∃ f, outputText bytes = .error (.encoding f) := by
  rcases Text.Utf8.decode_cases bytes with ⟨s, hs, -⟩ | ⟨-, f, hf⟩
  · exact absurd ⟨s, hs⟩ h
  · refine ⟨f, ?_⟩
    rw [outputText, hf]
    rfl

/-- Output that is not text is a failure of its own, whatever the status is. -/
lemma answerOf_of_not_legible (program : String) (h : ¬ reply.Legible) :
    ∃ f, answerOf program reply = .error (.encoding f) := by
  cases reply with
  | finished stdout stderr status =>
    rw [Reply.Legible, not_and_or] at h
    rw [answerOf]
    by_cases hout : IsText stdout
    · obtain ⟨f, hf⟩ := outputText_of_not_isText (h.resolve_left (not_not_intro hout))
      obtain ⟨out, rfl⟩ := hout
      refine ⟨f, ?_⟩
      rw [outputText_encode, hf]
      rfl
    · obtain ⟨f, hf⟩ := outputText_of_not_isText hout
      refine ⟨f, ?_⟩
      rw [hf]
      rfl
  | _ => exact absurd trivial h

lemma answerOf_of_prints (program : String) (h : reply.Prints text) :
    answerOf program reply = .ok text := by
  obtain ⟨out, err, rfl, rfl⟩ := h
  rw [answerOf, outputText_encode, outputText_encode]
  rfl

/-- From a legible reply comes the text that is printed, or there is none and the failure says
why. -/
lemma answerOf_of_legible (program : String) (h : reply.Legible) (hreply : reply ≠ .interrupted) :
    (∃ text, reply.Prints text ∧ answerOf program reply = .ok text) ∨
      (∀ text, ¬ reply.Prints text) ∧ ∃ e, answerOf program reply = .error (.describe e) := by
  cases reply with
  | finished stdout stderr status =>
    obtain ⟨⟨out, rfl⟩, err, rfl⟩ := h
    rw [answerOf, outputText_encode, outputText_encode]
    dsimp only [bind, Except.bind]
    by_cases hstatus : status = 0
    · rw [if_pos hstatus, hstatus]
      exact Or.inl ⟨_, ⟨out, err, rfl, rfl⟩, rfl⟩
    · rw [if_neg hstatus]
      refine Or.inr ⟨?_, _, rfl⟩
      rintro text ⟨out', err', heq, -⟩
      exact hstatus (Reply.finished.inj heq).2.2
  | interrupted => exact absurd rfl hreply
  | _ =>
    refine Or.inr ⟨?_, _, rfl⟩
    rintro text ⟨out, err, heq, -⟩
    cases heq

/-- What comes of a reply is lawful just if the reply is legible and what it prints is good. -/
lemma lawful_answerOf_iff {good : List Char → Prop} (hreply : reply ≠ .interrupted) :
    Lawful .describe good (answerOf program reply) ↔
      reply.Legible ∧ ∀ text, reply.Prints text → good text := by
  by_cases hlegible : reply.Legible
  · rw [and_iff_right hlegible]
    rcases answerOf_of_legible program hlegible hreply with
      ⟨text, hprints, hanswer⟩ | ⟨hnone, e, hanswer⟩
    · rw [hanswer, lawful_ok_iff]
      constructor
      · intro hgood text' hprints'
        have heq : .ok text' = Except.ok text :=
          (answerOf_of_prints program hprints').symm.trans hanswer
        cases heq
        exact hgood
      · exact fun hgood => hgood text hprints
    · rw [hanswer]
      exact iff_of_true (lawful_error_iff.mpr ⟨e, rfl⟩)
        fun text hprints => absurd hprints (hnone text)
  · obtain ⟨f, hf⟩ := answerOf_of_not_legible program hlegible
    rw [hf, lawful_error_iff]
    exact iff_of_false (by rintro ⟨e, ⟨⟩⟩) fun h => hlegible h.1

/-! ## Answers -/

lemma lawful_splitLists (output : List Char) (count : Nat) :
    Lawful .describe (fun lists => lists.length = count) (splitLists output count) := by
  rw [splitLists]
  split_ifs with hcount
  · exact lawful_ok_iff.mpr hcount
  · exact lawful_error_iff.mpr ⟨_, rfl⟩

/-- A description is an object or it is malformed, if the reader copes with it. -/
lemma lawful_readObject_iff :
    Lawful .describe (fun d => d.isObject = true) (readObject text) ↔
      ¬ Document.Overtaxes text := by
  have hread := fun good => Document.lawful_read_iff .describe good
    (by rintro e n ⟨⟩) (by rintro e c ⟨⟩) text .malformed
  refine lawful_bind_iff.trans ((hread _).trans (and_iff_left fun d _ => ?_))
  split_ifs with hobject
  · exact lawful_ok_iff.mpr hobject
  · exact lawful_error_iff.mpr ⟨.notObject, rfl⟩

end

/-- dub is asked lawfully: for lists of paths, of which there are as many as are asked for, and for
a description, which is an object. -/
structure AnswersLawfully (program : String) (directory : Location) (settings : Settings)
    (fields : List String) (h : Host) : Prop where
  list : Lawful .describe (fun lists => lists.length = fields.length)
    (((Provider.dub program directory).list settings fields).apply h).1
  describe : Lawful .describe (fun d => d.isObject = true)
    (((Provider.dub program directory).describe settings).apply h).1

/-- dub is asked lawfully just if what it prints is text, on both streams, and the reader copes with
what it prints as a description. -/
theorem answersLawfully_iff {h : Host} (hquiet : h.Quiet) (program : String)
    (directory : Location) (settings : Settings) (fields : List String) :
    AnswersLawfully program directory settings fields h ↔
      (h.dub (listArguments settings fields)).Legible ∧
      (h.dub ("describe" :: settings.selectors)).Legible ∧
      ∀ text, (h.dub ("describe" :: settings.selectors)).Prints text →
        ¬ Document.Overtaxes text := by
  have hlist : Lawful .describe (fun lists => lists.length = fields.length)
      (((Provider.dub program directory).list settings fields).apply h).1 ↔
        (h.dub (listArguments settings fields)).Legible := by
    rw [list_apply]
    refine lawful_bind_iff.trans ((lawful_answerOf_iff (hquiet _)).trans ?_)
    exact and_iff_left fun text _ => lawful_splitLists text fields.length
  have hdescribe : Lawful .describe (fun d => d.isObject = true)
      (((Provider.dub program directory).describe settings).apply h).1 ↔
        (h.dub ("describe" :: settings.selectors)).Legible ∧
        ∀ text, (h.dub ("describe" :: settings.selectors)).Prints text →
          ¬ Document.Overtaxes text := by
    rw [describe_apply]
    refine lawful_bind_iff.trans ((lawful_answerOf_iff (hquiet _)).trans ?_)
    simp only [lawful_readObject_iff]
  exact ⟨fun hlawful => ⟨hlist.mp hlawful.list, hdescribe.mp hlawful.describe⟩,
    fun hreplies => ⟨hlist.mpr hreplies.1, hdescribe.mpr hreplies.2⟩⟩

/-! Projects are described by a dub that prints text, and by one that does not. -/

/-- A host on which dub answers in one way when it is asked for lists, and in another way when it is
asked for a description. -/
def askedHost (list description : List UInt8) : Host where
  files := {}
  directory := []
  environment := []
  machine := "x86_64"
  dub arguments :=
    .finished (if arguments.contains "--data-list" then list else description) [] 0

/-- Settings for a description. -/
def askedSettings : Settings where
  configuration := "app"
  buildType := "debug"
  compiler := { family := .dmd, binary := "dmd", path := "/bin/dmd" }
  archType := none

lemma askedHost_list (list description : List UInt8) :
    (askedHost list description).dub (listArguments askedSettings ["import-paths"]) =
      .finished list [] 0 := by
  cbv

lemma askedHost_describe (list description : List UInt8) :
    (askedHost list description).dub ("describe" :: askedSettings.selectors) =
      .finished description [] 0 := by
  cbv

/-- A list of two paths, as dub prints it. -/
def printedPaths : String :=
  "/p/source/\x00/p/views ü"

/-- The description of a project with one package, as dub prints it. -/
def printedPackages : String :=
  "\x7b\"rootPackage\": \"p\", \"packages\": [\x7b\"name\": \"p\"\x7d]\x7d\n"

/-- The object that this description is. -/
def describedPackages : Document :=
  .object [("rootPackage", .string "p"),
    ("packages", .array [.object [("name", .string "p")]])]

lemma read_printedPackages :
    Document.read (translateNewlines printedPackages.toList) = .ok describedPackages := by
  cbv

theorem answersLawfully_of_printed :
    let h := askedHost (encode printedPaths) (encode printedPackages)
    h.Quiet ∧ AnswersLawfully "dub" ["p"] askedSettings ["import-paths"] h ∧
      (((Provider.dub "dub" ["p"]).list askedSettings ["import-paths"]).apply h).1 =
        .ok [["/p/source/", "/p/views ü"]] ∧
      (((Provider.dub "dub" ["p"]).describe askedSettings).apply h).1 = .ok describedPackages := by
  intro h
  have hquiet : h.Quiet := by
    rintro arguments ⟨⟩
  have hnone : [] = encode "" := by rw [Text.Utf8.encode_eq]; rfl
  have hlist : (h.dub (listArguments askedSettings ["import-paths"])).Prints
      (translateNewlines printedPaths.toList) :=
    ⟨printedPaths, "", by rw [askedHost_list, ← hnone], rfl⟩
  have hdescribe : (h.dub ("describe" :: askedSettings.selectors)).Prints
      (translateNewlines printedPackages.toList) :=
    ⟨printedPackages, "", by rw [askedHost_describe, ← hnone], rfl⟩
  refine ⟨hquiet, (answersLawfully_iff hquiet "dub" ["p"] askedSettings ["import-paths"]).mpr ?_,
    ?_, ?_⟩
  · rw [askedHost_list, askedHost_describe]
    refine ⟨⟨⟨_, rfl⟩, "", hnone⟩, ⟨⟨_, rfl⟩, "", hnone⟩, ?_⟩
    rintro text ⟨out, err, heq, rfl⟩
    rw [← Text.Utf8.encode_injective (Reply.finished.inj heq).1, Document.Overtaxes,
      read_printedPackages]
    rintro (⟨e, he⟩ | ⟨container, he⟩) <;> cases he
  · rw [list_apply, answerOf_of_prints "dub" hlist]
    cbv
  · rw [describe_apply, answerOf_of_prints "dub" hdescribe, Except.bind, readObject,
      read_printedPackages]
    rfl

/-- A byte that is no text is passed on as it is. -/
theorem not_answersLawfully_of_garbled :
    ¬ AnswersLawfully "dub" ["p"] askedSettings ["import-paths"] (askedHost [0xFF] []) := by
  intro hlawful
  have hlist := hlawful.list
  rw [list_apply, askedHost_list] at hlist
  have hoctet : outputText [0xFF] = .error (.encoding ⟨0, 0xFF, 1, .start⟩) := by
    cbv
  rw [answerOf, hoctet] at hlist
  obtain ⟨e, he⟩ := lawful_error_iff.mp hlist
  cases he

end DubCheck.Dub
