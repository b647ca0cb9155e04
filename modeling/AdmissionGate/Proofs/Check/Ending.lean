/-
# AdmissionGate.Proofs.Check.Ending -- how a check ends

A check has three exit codes, and a meaning for each (`Documented`).  It ends with one of
them, and as that one means, for every text whose review is of types that can be used
where they are looked at (`IsHandled`).  For the others it has no exit code: nobody has
looked at the types of the members before, and not every fault that comes of them is one
that counts as a fault of the input.

There is no text between (`runText_ends`).  What depends on the machine is left out: a
stream that refuses a text, and a stack that is used up by a deep document, end a check
in their own way.
-/
import AdmissionGate.Proofs.Check.Identifier
import AdmissionGate.Proofs.Check.Run
import AdmissionGate.Proofs.Review.Readable

namespace AdmissionGate

set_option autoImplicit false

namespace Check

open Yaml (Graph Spot)

def usersOf (s : Settings) : List Text := splitList (s.users.getD [])

/-- The request that the review in a text is read as. -/
def Captures (t : Text) (request : Request) : Prop :=
  ∃ g, readGraph t = .ok g ∧ Review.read (rootOf g) = .ok request

/-- A text that is no usable review: it has no request, or one with objects that cannot be
written. -/
def IsUnusable (t : Text) : Prop := ∀ r, requestIn t = some r → ¬ Review.AreEncodable r

/-- What the exit codes mean. -/
inductive Documented (s : Settings) (t : Text) : Report → Prop
  | allowed {request : Request} {d : Decision} {answered : Text} (captures : Captures t request)
      (decided : decide s request = .ok d) (passes : request.Passes (usersOf s))
      (outcome : d.verdict.outcome = .allow) : Documented s t ⟨.exit 0, d.log ++ answered, []⟩
  | refused {request : Request} {d : Decision} {answered : Text} (captures : Captures t request)
      (decided : decide s request = .ok d) (fails : ¬ request.Passes (usersOf s))
      (outcome : d.verdict.outcome = .deny ∨ d.verdict.outcome = .error) :
      Documented s t ⟨.exit 1, d.log ++ answered, []⟩
  | unusable {reason : Text} (unusable : IsUnusable t) : Documented s t ⟨.exit 2, [], reason⟩

/-- If there is a verdict on the review in a text, the answer can be written, which takes over the
identifier. -/
def IsIdentified (s : Settings) (t : Text) : Prop :=
  ∀ g request d, readGraph t = .ok g → Review.read (rootOf g) = .ok request →
    decide s request = .ok d → ∃ answered, answer g d.verdict = .ok answered

/-- The review in a text is of types that can be used where they are looked at. -/
structure IsHandled (s : Settings) (t : Text) : Prop where
  /-- If the text is no document, it is because of its grammar or a value. -/
  text : ∀ fault, readGraph t = .error fault → fault.isOfValue = true
  members : ∀ r, requestIn t = some r → Review.IsReadable r
  gate : ∀ request, Captures t request →
    request.IsAnswerable (usersOf s) (Log.verbosity s.verbosity)
  identifier : IsIdentified s t

variable {s : Settings} {t : Text}

/-! ## The verdict -/

theorem decide_cases {request : Request} (encoded : request.IsEncoded) :
    (request.IsAnswerable (usersOf s) (Log.verbosity s.verbosity) ∧
        ∃ d, decide s request = .ok d ∧ Fits (usersOf s) request d.verdict) ∨
      ¬ request.IsAnswerable (usersOf s) (Log.verbosity s.verbosity) ∧
        ∃ fault, decide s request = .error fault := by
  obtain ⟨all, whitelist, mem⟩ := Whitelist.ofValue_of_namesOf (.many (usersOf s))
  have opened : decide s request =
      Validator.handle ⟨Whitelist.ofNames all⟩ (Log.verbosity s.verbosity) request := by
    have whitelist : Whitelist.ofValue (.list ((splitList (s.users.getD [])).map .text)) =
        .ok (Whitelist.ofNames all) := whitelist
    rw [decide, gate, Validator.ofUsers, whitelist]
    rfl
  rw [opened]
  rcases handle_cases mem encoded (Log.verbosity s.verbosity) with
    ⟨answerable, verdict, log, handled, fits⟩ | refused
  · exact .inl ⟨answerable, ⟨verdict, log⟩, handled, fits⟩
  · exact .inr refused

theorem canBeWritten_of_fits {names : List Text} {request : Request} {v : Verdict}
    (fits : Fits names request v) : CanBeWritten v := by
  rcases fits with ⟨-, rfl⟩ | ⟨-, ⟨reason, rfl⟩ | ⟨message, rfl⟩⟩
  · exact canBeWritten_of_texts _ _ _ ⟨_, rfl⟩
  · exact canBeWritten_of_texts _ _ _ ⟨_, rfl⟩
  · exact canBeWritten_of_texts _ _ _ ⟨_, rfl⟩

/-- The exit code of a verdict that fits. -/
theorem documented_of_fits {request : Request} {d : Decision} (captures : Captures t request)
    (decided : decide s request = .ok d) (fits : Fits (usersOf s) request d.verdict)
    (answered : Text) :
    Documented s t ⟨.exit (exitCode d.verdict), d.log ++ answered, []⟩ := by
  rcases fits with ⟨passes, same⟩ | ⟨fails, ⟨reason, same⟩ | ⟨message, same⟩⟩
  · have code : exitCode d.verdict = 0 := by rw [same]; rfl
    rw [code]
    exact .allowed captures decided passes (by rw [same]; rfl)
  · have code : exitCode d.verdict = 1 := by rw [same]; rfl
    rw [code]
    exact .refused captures decided fails (.inl (by rw [same]; rfl))
  · have code : exitCode d.verdict = 1 := by rw [same]; rfl
    rw [code]
    exact .refused captures decided fails (.inr (by rw [same]; rfl))

/-! ## What is asked of a text -/

theorem isHandled_iff : IsHandled s t ↔
    (∀ fault, readGraph t = .error fault → fault.isOfValue = true) ∧
      (∀ r, requestIn t = some r → Review.IsReadable r) ∧
      (∀ request, Captures t request →
        request.IsAnswerable (usersOf s) (Log.verbosity s.verbosity)) ∧
      IsIdentified s t :=
  ⟨fun handled => ⟨handled.text, handled.members, handled.gate, handled.identifier⟩,
    fun ⟨text, members, gate, identifier⟩ => ⟨text, members, gate, identifier⟩⟩

theorem isHandled_iff_of_error {fault : Fault} (loads : readGraph t = .error fault) :
    IsHandled s t ↔ fault.isOfValue = true := by
  simp [isHandled_iff, IsIdentified, Captures, loads]

section Loaded

variable {g : Graph} (loads : readGraph t = .ok g)

include loads

theorem captures_iff {request : Request} :
    Captures t request ↔ Review.read (rootOf g) = .ok request := by
  simp [Captures, loads]

theorem isIdentified_iff : IsIdentified s t ↔
    ∀ request, Review.read (rootOf g) = .ok request →
      ∀ d, decide s request = .ok d → ∃ answered, answer g d.verdict = .ok answered := by
  constructor
  · intro identified request reads d
    exact identified g request d loads reads
  · intro written h request d again
    obtain rfl : g = h := by simpa [loads] using again
    exact fun reads => written request reads d

theorem isHandled_iff_of_refused {fault : Fault}
    (refused : Review.read (rootOf g) = .error fault) :
    IsHandled s t ↔ ∀ r, requestIn t = some r → Review.IsReadable r := by
  simp [isHandled_iff, captures_iff loads, isIdentified_iff loads, loads, refused]

theorem isHandled_iff_of_read {r : Spot} {request : Request}
    (found : Review.requestOf (rootOf g) = .ok r)
    (reads : Review.read (rootOf g) = .ok request) :
    IsHandled s t ↔ Review.IsReadable r ∧
      request.IsAnswerable (usersOf s) (Log.verbosity s.verbosity) ∧
      ∀ d, decide s request = .ok d → ∃ answered, answer g d.verdict = .ok answered := by
  simp [isHandled_iff, captures_iff loads, isIdentified_iff loads, loads, found, reads]

end Loaded

/-! ## The ending -/

theorem reportFault_of_isOfValue {fault : Fault} (ofValue : fault.isOfValue = true) :
    ∃ reason, reportFault fault = ⟨.exit 2, [], reason⟩ := by
  simp [reportFault, ofValue]

theorem reportFault_of_not_isOfValue {fault : Fault} (ofTypes : fault.isOfValue = false) :
    (reportFault fault).ending = .fault fault := by
  simp [reportFault, ofTypes]

/-- A check ends with an exit code and as that one means, or without one; not both. -/
def Ends (s : Settings) (t : Text) : Prop :=
  (IsHandled s t ∧ Documented s t (runText s t)) ∨
    ¬ IsHandled s t ∧ ∃ fault, (runText s t).ending = .fault fault

theorem ends_of_error {fault : Fault} (loads : readGraph t = .error fault) : Ends s t := by
  have ran : runText s t = reportFault fault := by rw [runText, loads]
  rw [Ends, isHandled_iff_of_error loads, ran]
  cases ofValue : fault.isOfValue with
  | true =>
      obtain ⟨reason, reported⟩ := reportFault_of_isOfValue ofValue
      rw [reported]
      exact .inl ⟨rfl, .unusable (by simp [IsUnusable, loads])⟩
  | false => exact .inr ⟨Bool.false_ne_true, fault, reportFault_of_not_isOfValue ofValue⟩

section Loaded

variable {g : Graph} (loads : readGraph t = .ok g)

include loads

theorem ends_of_refused {fault : Fault} (refused : Review.read (rootOf g) = .error fault)
    (ofValue : fault.isOfValue = true) (members : ∀ r, requestIn t = some r → Review.IsReadable r)
    (unusable : IsUnusable t) : Ends s t := by
  have ran : runText s t = reportFault fault := by simp only [runText, loads, refused]
  obtain ⟨reason, reported⟩ := reportFault_of_isOfValue ofValue
  rw [Ends, ran, reported]
  exact .inl ⟨(isHandled_iff_of_refused loads refused).2 members, .unusable unusable⟩

theorem ends_of_read {r : Spot} {request : Request}
    (found : Review.requestOf (rootOf g) = .ok r) (readable : Review.IsReadable r)
    (reads : Review.read (rootOf g) = .ok request) (encoded : request.IsEncoded) : Ends s t := by
  unfold Ends
  rw [isHandled_iff_of_read loads found reads]
  rcases decide_cases (s := s) encoded with ⟨answerable, d, decided, fits⟩ | ⟨vain, fault, refused⟩
  · have ran : runText s t = report g d := by simp only [runText, loads, reads, decided]
    rw [ran]
    cases written : answer g d.verdict with
    | ok answered =>
        refine .inl ⟨⟨readable, answerable, by simp [decided, written]⟩, ?_⟩
        rw [report_of_answer written]
        exact documented_of_fits ⟨g, loads, reads⟩ decided fits answered
    | error fault =>
        refine .inr ⟨fun handled => ?_, fault, by rw [report_of_answer_error written]⟩
        simpa [written] using handled.2.2 d decided
  · refine .inr ⟨fun handled => vain handled.2.1, fault, ?_⟩
    simp only [runText, loads, reads, refused]

end Loaded

theorem isOfValue_of_requestOf {review : Spot} {fault : Fault}
    (absent : Review.requestOf review = .error fault) : fault.isOfValue = true := by
  unfold Review.requestOf at absent
  split at absent
  · cases absent
  · cases absent
    rfl

theorem ends (s : Settings) (t : Text) : Ends s t := by
  cases loads : readGraph t with
  | error fault => exact ends_of_error loads
  | ok g =>
      cases found : Review.requestOf (rootOf g) with
      | error fault =>
          have refused : Review.read (rootOf g) = .error fault := by simp [Review.read, found]
          have ofValue := isOfValue_of_requestOf found
          exact ends_of_refused loads refused ofValue (by simp [loads, found])
            (by simp [IsUnusable, loads, found])
      | ok r =>
          rcases Review.readIf_read found with ⟨readable, encodable, request, reads, encoded⟩ |
            ⟨readable, unencodable, fault, refused, ofValue⟩ |
            ⟨unreadable, fault, refused, ofTypes⟩
          · exact ends_of_read loads found readable reads encoded
          · exact ends_of_refused loads refused ofValue (by simp [loads, found, readable])
              (by simp [IsUnusable, loads, found, unencodable])
          · have ran : runText s t = reportFault fault := by simp only [runText, loads, refused]
            refine .inr ⟨?_, fault, by rw [ran, reportFault_of_not_isOfValue ofTypes]⟩
            simp [isHandled_iff_of_refused loads refused, loads, found, unreadable]

/-- Only an integer that is too large keeps an identifier from being written. -/
theorem isIdentified_of_areShort (short : ∀ r, requestIn t = some r →
    ∀ uid : Spot, Outline.member? r "uid" = some uid → uid.AreShort) : IsIdentified s t := by
  intro g request d loads reads decided
  cases found : Review.requestOf (rootOf g) with
  | error fault => simp [Review.read, found] at reads
  | ok r =>
      rcases Review.readIf_read found with ⟨-, -, other, readsToo, encoded⟩ |
        ⟨-, -, fault, refused, -⟩ | ⟨-, fault, refused, -⟩
      · obtain rfl : request = other := by simpa [reads] using readsToo
        rcases decide_cases (s := s) encoded with ⟨-, e, again, fits⟩ | ⟨-, fault, refused⟩
        · obtain rfl : d = e := by simpa [decided] using again
          exact exists_answer_of_areShort found (short r (by simp [loads, found]))
            (canBeWritten_of_fits fits)
        · simp [decided] at refused
      · simp [reads] at refused
      · simp [reads] at refused

/-- **How a check ends.**  If the review in a text is of types that can be used where they are
looked at, the check ends with an exit code: 0 if the gate allows the request, 1 if it denies it or
cannot judge it, and 2, without an answer, if the text is no usable review.  If not, it ends without
an exit code.  Identifiers of all types can be used, but for integers that are too large.  The
output stream is taken to accept every text, and the stack to be deep enough to load the document
and to write its objects. -/
theorem runText_ends (s : Settings) (t : Text) :
    (IsHandled s t → Documented s t (runText s t)) ∧
      (¬ IsHandled s t → ∃ fault, (runText s t).ending = .fault fault) ∧
      ((∀ r, requestIn t = some r → ∀ uid : Spot, Outline.member? r "uid" = some uid →
        uid.AreShort) → IsIdentified s t) ∧
      ∀ source bytes, readText source bytes = .ok t → run s source bytes = runText s t := by
  refine ⟨fun handled => ?_, fun unhandled => ?_, isIdentified_of_areShort, ?_⟩
  · exact (ends s t).elim And.right fun impossible => absurd handled impossible.1
  · exact (ends s t).elim (fun impossible => absurd impossible.1 unhandled) And.right
  · intro source bytes spelled
    rw [run, spelled]

def textKindReview : Text := "request: \x7bkind: text\x7d"

/-- Both sides occur. -/
theorem runText_ends_updateReview :
    Documented { users := some "bob, alice" } updateReview
        (runText { users := some "bob, alice" } updateReview) ∧
      ¬ IsHandled {} textKindReview := by
  have exits : (runText { users := some "bob, alice" } updateReview).ending = .exit 0 := by
    decide +kernel
  have escapes : (runText {} textKindReview).ending = .fault (.noAttribute "str" "get") := by
    decide +kernel
  obtain ⟨documented, faults, -⟩ := runText_ends { users := some "bob, alice" } updateReview
  have handled : IsHandled { users := some "bob, alice" } updateReview := by
    by_contra unhandled
    obtain ⟨fault, ending⟩ := faults unhandled
    simp [exits] at ending
  refine ⟨documented handled, fun impossible => ?_⟩
  have ending := (runText_ends {} textKindReview).1 impossible
  generalize runText {} textKindReview = report at ending escapes
  cases ending <;> cases escapes

/-- Every member that is looked into can end a check without an exit code. -/
theorem runText_misused :
    (runText {} textKindReview).ending = .fault (.noAttribute "str" "get") ∧
      (runText {} "request: \x7buserInfo: text\x7d").ending = .fault (.noAttribute "str" "get") ∧
      (runText {} "request: \x7buserInfo: \x7bgroups: 5\x7d\x7d").ending =
        .fault (.notIterable "int") ∧
      (runText {} "request: \x7boperation: []\x7d").ending = .fault (.unhashable "list") ∧
      (runText {} "request: \x7bobject: \x7b2024-01-02: a\x7d\x7d").ending =
        .fault (.write (.key "datetime.date")) := by
  decide +kernel

end Check

end AdmissionGate
