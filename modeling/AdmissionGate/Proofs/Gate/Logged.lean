/-
# AdmissionGate.Proofs.Gate.Logged -- what the gate writes to its log

A decision on a typed request adds one entry to the log, or nothing.  What the entry
says depends on the request and the verdict only (`TypedRequest.logEntry`); the
verbosity says whether it is written (`TypedRequest.logged`).

No verdict depends on the verbosity, and what is written at one verbosity is written
at every higher one (`handle_logs`).  A request that gets stuck ends in the same
fault at every verbosity, and then nothing is written.
-/
import AdmissionGate.Proofs.Gate.Handle

namespace AdmissionGate

set_option autoImplicit false

/-! ## The entry -/

/-- The field of an entry that gives the message of an error. -/
def Verdict.logFields (verdict : Verdict) : List (Text × Text) :=
  match verdict.outcome, verdict.message with
  | .error, .text message => [("err", message)]
  | _, _ => []

namespace TypedRequest

instance : DecidablePred IsGuarded := fun r =>
  inferInstanceAs (Decidable (r.operation = "CREATE" ∨ r.operation = "UPDATE"))

/-- How the log tells the way to a verdict. -/
def logMessage (r : TypedRequest) (verdict : Verdict) : Text :=
  if r.IsGuarded then
    match verdict.outcome with
    | .allow => "managed resource request allowed"
    | .error => "failed to get labels and annotations"
    | _ => "managed resource request denied"
  else "operation is not guarded, allowing"

/-- The entry on a verdict, one line. -/
def logEntry (r : TypedRequest) (verdict : Verdict) : Text :=
  let fields := (verdict.logFields ++ r.logFields).map assigned
  ("[admission]" ++ " " ++ r.logMessage verdict ++ " " ++ Text.join " " fields).trimEnd ++ "\n"

/-- What a verdict adds to the log at a verbosity. -/
def logged (r : TypedRequest) (verdict : Verdict) (verbosity : Nat) : Text :=
  if verbosity < 2 ∨ verbosity = 2 ∧ verdict.isAllowed = true then [] else r.logEntry verdict

section Logged

variable {r : TypedRequest} {verdict : Verdict} {verbosity : Nat}

theorem logEntry_ne_nil : r.logEntry verdict ≠ [] := by
  intro empty
  have ends := (List.append_eq_nil_iff.1 empty).2
  cases ends

/-- Denials and errors are logged from 2 on. -/
theorem logged_of_not_isAllowed (fails : verdict.isAllowed = false) (loud : 2 ≤ verbosity) :
    r.logged verdict verbosity = r.logEntry verdict := by
  rw [logged, if_neg]
  rintro (silent | ⟨-, allowed⟩)
  · omega
  · simp [fails] at allowed

/-- Nothing that is written is left out at a higher verbosity. -/
theorem logged_mono {higher : Nat} (le : verbosity ≤ higher) :
    r.logged verdict verbosity = [] ∨
      r.logged verdict higher = r.logged verdict verbosity := by
  unfold logged
  by_cases silent : verbosity < 2 ∨ verbosity = 2 ∧ verdict.isAllowed = true
  · rw [if_pos silent]
    exact .inl rfl
  · have loud : ¬ (higher < 2 ∨ higher = 2 ∧ verdict.isAllowed = true) := by
      rintro (below | ⟨same, allowed⟩)
      · exact silent (.inl (by omega))
      · by_cases below : verbosity < 2
        · exact silent (.inl below)
        · exact silent (.inr ⟨by omega, allowed⟩)
    rw [if_neg silent, if_neg loud]
    exact .inr rfl

end Logged

end TypedRequest

/-! ## What the gate comes to, and what it writes -/

section Typed

variable {names all : List Text} {r : TypedRequest}

/-- What a conclusion hands to the log is what the entry on its verdict says. -/
structure Tells (r : TypedRequest) (c : Validator.Conclusion) : Prop where
  message : c.message = r.logMessage c.verdict
  extra : Log.showFields c.extra = .ok (c.verdict.logFields.map assigned)

/-- On a request that has been read the gate allows or denies. -/
theorem Decided.cases_of_reads {verdict : Verdict} {labels annotations : Value}
    (decided : Decided names r verdict) (reads : r.Reads labels annotations) :
    verdict = .allow (.text []) ∨ verdict = .deny (.text r.reason) := by
  cases decided with
  | refused guarded refused => exact absurd refused (reads.not_isRefused _)
  | denied guarded reads marked unknown => exact .inr rfl
  | _ => exact .inl rfl

theorem tells_of_reads (guarded : r.IsGuarded) {labels annotations : Value}
    (reads : r.Reads labels annotations) {verdict : Verdict} (decided : Decided names r verdict) :
    Tells r { verdict := verdict, message := Validator.messageOf verdict } := by
  rcases decided.cases_of_reads reads with rfl | rfl
  · exact ⟨by rw [TypedRequest.logMessage, if_pos guarded]; rfl, rfl⟩
  · exact ⟨by rw [TypedRequest.logMessage, if_pos guarded]; rfl, rfl⟩

/-- On a typed request that does not get stuck the gate comes to its verdict. -/
theorem conclude_of_not_getsStuck (mem : ∀ name, name ∈ all ↔ name ∈ names ∧ name ≠ [])
    (free : ¬ r.GetsStuck) :
    ∃ c, Validator.conclude ⟨Whitelist.ofNames all⟩ r.untyped = .ok c ∧
      Decided names r c.verdict ∧ Tells r c := by
  by_cases guarded : r.IsGuarded
  · rcases TypedRequest.reads_or_isRefused guarded free with
      ⟨labels, annotations, reads, labelsTyped, annotationsTyped⟩ | ⟨cause, refused⟩
    · obtain ⟨verdict, answered, decided⟩ :=
        decide_untyped mem guarded reads labelsTyped annotationsTyped
      exact ⟨_, conclude_of_reads _ guarded reads answered, decided,
        tells_of_reads guarded reads decided⟩
    · refine ⟨_, conclude_of_isRefused _ guarded refused, .refused guarded refused, ?_⟩
      exact ⟨by rw [TypedRequest.logMessage, if_pos guarded]; rfl, rfl⟩
  · refine ⟨_, conclude_of_not_isGuarded _ guarded, .unguarded guarded, ?_⟩
    exact ⟨by rw [TypedRequest.logMessage, if_neg guarded], rfl⟩

/-- The gate answers with what it comes to, and writes its entry from the level on that the verdict
has. -/
theorem handle_of_tells {v : Validator} {c : Validator.Conclusion}
    (concluded : v.conclude r.untyped = .ok c) (tells : Tells r c) (verbosity : Nat) :
    v.handle verbosity r.untyped = .ok ⟨c.verdict, r.logged c.verdict verbosity⟩ := by
  have shown := Log.showFields_append tells.extra r.showFields_untyped
  have entry : Log.line c.message (c.verdict.logFields.map assigned ++ r.logFields.map assigned) ++
      "\n" = r.logEntry c.verdict := by
    rw [tells.message, ← List.map_append]
    rfl
  -- the level is that of the verdict, so below it is silent in the sense of `logged`
  have level : (verbosity : Int) < (if c.verdict.isAllowed then 3 else 2) ↔
      verbosity < 2 ∨ verbosity = 2 ∧ c.verdict.isAllowed = true := by
    cases c.verdict.isAllowed with
    | true =>
        simp only [if_true, and_true]
        omega
    | false =>
        simp only [Bool.false_eq_true, if_false, and_false, or_false]
        omega
  rw [Validator.handle_eq, r.namespacedName_untyped, concluded]
  simp only [bind, Except.bind, Log.emit_of_showFields shown, entry, level]
  rfl

end Typed

/-- **The log never decides, and it is written exactly when the verbosity asks for it.**  At every
verbosity a typed request gets the same verdict, unless it gets stuck; what is written is nothing or
the one entry on this verdict.  So denials and errors are logged from 2 on, and raising the
verbosity never takes anything from the log.  What is written is the text that is handed to the
stream of the log, which is taken to accept every text; the stack is taken to be deep enough for the
documents. -/
theorem handle_logs {users : Value} {names : List Text} (given : NamesOf users names)
    (r : TypedRequest) :
    ∃ v, Validator.ofUsers users = .ok v ∧
      (¬ r.GetsStuck → ∃ verdict, Decided names r verdict ∧
        (∀ setting, v.handle (Log.verbosity setting) r.untyped =
          .ok ⟨verdict, r.logged verdict (Log.verbosity setting)⟩) ∧
        (∀ setting, verdict.isAllowed = false → 2 ≤ Log.verbosity setting →
          r.logged verdict (Log.verbosity setting) = r.logEntry verdict ∧
            r.logEntry verdict ≠ []) ∧
        ∀ setting higher, Log.verbosity setting ≤ Log.verbosity higher →
          r.logged verdict (Log.verbosity setting) = [] ∨
            r.logged verdict (Log.verbosity higher) = r.logged verdict (Log.verbosity setting)) ∧
      (r.GetsStuck → ∀ setting,
        v.handle (Log.verbosity setting) r.untyped = .error (.integer .tooLarge)) := by
  obtain ⟨all, made, mem⟩ := Validator.ofUsers_of_namesOf given
  refine ⟨⟨Whitelist.ofNames all⟩, made, ?_, ?_⟩
  · intro free
    obtain ⟨c, concluded, decided, tells⟩ := conclude_of_not_getsStuck mem free
    refine ⟨c.verdict, decided, fun setting => handle_of_tells concluded tells _, ?_, ?_⟩
    · intro setting fails loud
      exact ⟨TypedRequest.logged_of_not_isAllowed fails loud, TypedRequest.logEntry_ne_nil⟩
    · intro setting higher le
      exact TypedRequest.logged_mono le
  · intro stuck setting
    exact handle_of_getsStuck _ _ stuck

def markedEntry : Text :=
  "[admission] managed resource request denied user=mallory groups=[] operation=CREATE " ++
    "GVK=v1, Kind=Pod subResource= namespacedName=prod/web" ++ "\n"

/-- The denial of a marked object is logged at verbosity 2, and not without a setting. -/
theorem handle_logs_markedRequest :
    (NamesOf (.list [.text "alice"]) ["alice"] ∧ ¬ markedRequest.GetsStuck) ∧
      ∃ v, Validator.ofUsers (.list [.text "alice"]) = .ok v ∧
        v.handle (Log.verbosity none) markedRequest.untyped =
          .ok ⟨.deny (.text markedRequest.reason), []⟩ ∧
        v.handle (Log.verbosity (some " 2")) markedRequest.untyped =
          .ok ⟨.deny (.text markedRequest.reason), markedEntry⟩ := by
  have given : NamesOf (.list [.text "alice"]) ["alice"] := .many ["alice"]
  have new : markedRequest.new.extract = .ok (.map [("managed-by", "arm")], .null) := rfl
  have denied : Decided ["alice"] markedRequest (.deny (.text markedRequest.reason)) :=
    .denied (.inl rfl) ⟨new, _, rfl⟩ (.inl ⟨_, rfl, rfl⟩) (by decide)
  obtain ⟨v, made, answers, fault⟩ := handle_logs given markedRequest
  have free : ¬ markedRequest.GetsStuck := by
    intro stuck
    cases made
    cases fault stuck none
  obtain ⟨verdict, decided, answer, -⟩ := answers free
  cases decided.unique denied
  have silent := answer none
  have loud := answer (some " 2")
  refine ⟨⟨given, free⟩, v, made, silent, loud.trans ?_⟩
  have entry : markedRequest.logged (.deny (.text markedRequest.reason))
      (Log.verbosity (some " 2")) = markedEntry := by
    decide +kernel
  rw [entry]

/-- The request to create an object with too large a key gets no verdict at verbosity 2, and no
entry tells of it. -/
theorem longKeyRequest_unlogged :
    ∃ v, Validator.ofUsers .null = .ok v ∧ Log.verbosity (some "2") = 2 ∧
      v.handle (Log.verbosity (some "2")) longKeyRequest.untyped = .error (.integer .tooLarge) ∧
      ¬ ∃ verdict, v.handle (Log.verbosity (some "2")) longKeyRequest.untyped =
        .ok ⟨verdict, longKeyRequest.logged verdict 2⟩ := by
  have answer := handle_of_getsStuck (Log.verbosity (some "2")) ⟨[]⟩ getsStuck_longKeyRequest
  refine ⟨⟨[]⟩, rfl, rfl, answer, ?_⟩
  rintro ⟨verdict, impossible⟩
  simp [answer] at impossible

end AdmissionGate
