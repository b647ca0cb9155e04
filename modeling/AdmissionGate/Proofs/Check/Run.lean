/-
# AdmissionGate.Proofs.Check.Run -- the exit code tells the verdict

A typed review is checked without a fault: nothing is said about the input, an
answer is written, and the exit code is 0 if the request passes and 1 if not
(`run_decides`).  Whether it passes is said of the captured document (`Passes`): by
the operation, the metadata of the two objects and the user, who has to be listed in
the setting.  The bytes, the whitelists and the questions in between do not occur.
-/
import AdmissionGate.Proofs.Check.Answer
import AdmissionGate.Proofs.Gate.Handle
import AdmissionGate.Proofs.Text.Split

namespace AdmissionGate

set_option autoImplicit false

namespace Check

open Review (textAt valueAt kindAt mapsOf usernameOf)
open Yaml (Spot)

/-! ## What is said of the captured document -/

/-- A captured object is null, or metadata can be taken from it. -/
def IsAccepted (v : Value) : Prop := v = .null ∨ ∃ m, Metadata.ofDocument v = .ok m

instance : DecidablePred IsAccepted := fun v =>
  decidable_of_iff (v = .null ∨ (Metadata.ofDocument v).isOk = true) <| by
    unfold IsAccepted
    cases Metadata.ofDocument v <;> simp [Except.isOk, Except.toBool]

/-- No metadata can be taken from a captured object, which is not null. -/
def IsRefused (v : Value) (cause : DecodeFault) : Prop :=
  v ≠ .null ∧ Metadata.ofDocument v = .error (.decode cause)

/-- The labels or the annotations of a captured object have the marker. -/
def IsMarked (v : Value) : Prop :=
  ∃ m, Metadata.ofDocument v = .ok m ∧ (m.labels.IsMarked ∨ m.annotations.IsMarked)

instance : DecidablePred IsMarked := fun v =>
  match outcome : Metadata.ofDocument v with
  | .ok m => decidable_of_iff (m.labels.IsMarked ∨ m.annotations.IsMarked) <| by
      simp [IsMarked, outcome]
  | .error _ => .isFalse <| by simp [IsMarked, outcome]

def IsGuarded (r : Spot) : Prop := textAt r "operation" = "CREATE" ∨ textAt r "operation" = "UPDATE"

instance : DecidablePred IsGuarded := fun _ => inferInstanceAs (Decidable (_ ∨ _))

def AreAccepted (r : Spot) : Prop :=
  IsAccepted (valueAt r "object") ∧ IsAccepted (valueAt r "oldObject")

instance : DecidablePred AreAccepted := fun _ => inferInstanceAs (Decidable (_ ∧ _))

/-- A captured request passes: it is not guarded, or its objects are accepted and the new one has
no marker, unless the user is listed. -/
def Passes (s : Settings) (r : Spot) : Prop :=
  ¬ IsGuarded r ∨ AreAccepted r ∧
    (¬ IsMarked (valueAt r "object") ∨ IsListed (s.users.getD []) (usernameOf r))

instance (s : Settings) : DecidablePred (Passes s) := fun _ => inferInstanceAs (Decidable (_ ∨ _))

def reasonFor (r : Spot) : Text :=
  "resource " ++ (kindAt r "kind").shown ++ " \"" ++ textAt r "name" ++ "\" in namespace \"" ++
    textAt r "namespace" ++ "\" is managed by ARM and can only be modified by whitelisted users"

/-- The verdict on a captured request. -/
inductive Judged (s : Settings) (r : Spot) : Verdict → Prop
  | passes (passes : Passes s r) : Judged s r (.allow (.text []))
  | refused {cause : DecodeFault} (fails : ¬ Passes s r)
      (refused : IsRefused (valueAt r "object") cause ∨
        IsAccepted (valueAt r "object") ∧ IsRefused (valueAt r "oldObject") cause) :
      Judged s r (.error (.int 500) cause.message)
  | denied (fails : ¬ Passes s r) (accepted : AreAccepted r) :
      Judged s r (.deny (.text (reasonFor r)))

/-! ## The verdict -/

theorem isAccepted_iff {v : Value} : IsAccepted v ↔ ∃ maps, mapsOf v = .ok maps := by
  unfold IsAccepted mapsOf
  split
  · simp
  · rename_i given
    cases Metadata.ofDocument v with
    | error fault => simp [show v ≠ .null from given]
    | ok m => simp

theorem isRefused_iff {v : Value} {cause : DecodeFault} :
    IsRefused v cause ↔ mapsOf v = .error (.decode cause) := by
  unfold IsRefused mapsOf
  split
  · simp
  · rename_i given
    cases Metadata.ofDocument v with
    | error fault => simp [show v ≠ .null from given]
    | ok m => simp

theorem isMarked_iff {v labels annotations : Value} (maps : mapsOf v = .ok (labels, annotations)) :
    IsMarked v ↔ labels.IsMarked ∨ annotations.IsMarked := by
  unfold mapsOf at maps
  split at maps
  · cases maps
    have refused : Metadata.ofDocument .null = .error (.decode (.document "NoneType")) := rfl
    simp [IsMarked, refused]
  · cases outcome : Metadata.ofDocument v with
    | error fault => simp [outcome] at maps
    | ok m =>
        rw [outcome, map_ok] at maps
        cases maps
        simp [IsMarked, outcome]

section Judged

variable {s : Settings} {r : Spot} {request : TypedRequest}

/-- A request whose states can be read has accepted objects, and its maps are those of the new
one. -/
theorem areAccepted_of_reads (same : Review.IsRequestOf r request) {labels annotations : Value}
    (reads : request.Reads labels annotations) :
    AreAccepted r ∧ (IsMarked (valueAt r "object") ↔ labels.IsMarked ∨ annotations.IsMarked) := by
  obtain ⟨new, maps, old⟩ := reads
  rw [same.new] at new
  rw [same.old] at old
  exact ⟨⟨isAccepted_iff.2 ⟨_, new⟩, isAccepted_iff.2 ⟨_, old⟩⟩, isMarked_iff new⟩

theorem not_areAccepted_of_isRefused (same : Review.IsRequestOf r request) {cause : DecodeFault}
    (refused : request.IsRefused cause) : ¬ AreAccepted r := by
  rintro ⟨newAccepted, oldAccepted⟩
  obtain ⟨_, new⟩ := isAccepted_iff.1 newAccepted
  obtain ⟨_, old⟩ := isAccepted_iff.1 oldAccepted
  have reads : request.Reads _ _ := ⟨same.new.trans new, _, same.old.trans old⟩
  exact reads.not_isRefused cause refused

/-- The verdict of the gate is the one that the captured document calls for. -/
theorem judged_of_decided (same : Review.IsRequestOf r request) {v : Verdict}
    (decided : Decided (splitList (s.users.getD [])) request v) : Judged s r v := by
  have guardedIff : request.IsGuarded ↔ IsGuarded r := by
    rw [TypedRequest.IsGuarded, same.operation, IsGuarded]
  have listedIff : request.username ∈ splitList (s.users.getD []) ∧ request.username ≠ [] ↔
      IsListed (s.users.getD []) (usernameOf r) := by
    rw [mem_splitList, same.username]
    exact ⟨fun both => both.1, fun listed => ⟨listed, listed.1⟩⟩
  cases decided with
  | unguarded passes => exact .passes (.inl fun guarded => passes (guardedIff.2 guarded))
  | @refused cause guarded refused =>
      have unaccepted := not_areAccepted_of_isRefused same refused
      refine .refused ?_ ?_
      · rintro (passes | ⟨both, -⟩)
        · exact passes (guardedIff.1 guarded)
        · exact unaccepted both
      · rwa [isRefused_iff, isRefused_iff, isAccepted_iff, ← same.new, ← same.old]
  | unmanaged guarded reads unmarked =>
      obtain ⟨both, markedIff⟩ := areAccepted_of_reads same reads
      exact .passes (.inr ⟨both, .inl fun marked => unmarked (markedIff.1 marked)⟩)
  | whitelisted guarded reads marked known =>
      exact .passes (.inr ⟨(areAccepted_of_reads same reads).1, .inr (listedIff.1 known)⟩)
  | denied guarded reads marked unknown =>
      obtain ⟨both, markedIff⟩ := areAccepted_of_reads same reads
      have reason : request.reason = reasonFor r := by
        rw [TypedRequest.reason, same.kind, same.name, same.namespace, reasonFor]
      rw [reason]
      refine .denied ?_ both
      rintro (passes | ⟨-, unmarked | listed⟩)
      · exact passes (guardedIff.1 guarded)
      · exact unmarked (markedIff.2 marked)
      · exact unknown (listedIff.2 listed)

theorem Judged.exitCode_eq {v : Verdict} (judged : Judged s r v) :
    exitCode v = if Passes s r then 0 else 1 := by
  cases judged with
  | passes passes => exact (if_pos passes).symm
  | refused fails _ => exact (if_neg fails).symm
  | denied fails _ => exact (if_neg fails).symm

theorem Judged.canBeWritten {v : Verdict} (judged : Judged s r v) :
    CanBeWritten v := by
  cases judged with
  | passes _ => exact canBeWritten_of_texts _ _ _ ⟨_, rfl⟩
  | refused _ _ => exact canBeWritten_of_texts _ _ _ ⟨_, rfl⟩
  | denied _ _ => exact canBeWritten_of_texts _ _ _ ⟨_, rfl⟩

/-- The gate of a setting answers a request whose states are encoded. -/
theorem exists_decide (same : Review.IsRequestOf r request) :
    ∃ v log, decide s request.untyped = .ok ⟨v, log⟩ ∧
      Decided (splitList (s.users.getD [])) request v := by
  have free : ¬ request.GetsStuck := by
    rintro ⟨-, ⟨_, _, held, -⟩ | ⟨-, _, _, held, -⟩⟩
    · simp [same.newEncoded] at held
    · simp [same.oldEncoded] at held
  obtain ⟨all, normalized, mem⟩ :=
    Whitelist.ofValue_of_namesOf (.many (splitList (s.users.getD [])))
  obtain ⟨v, log, answer, decided⟩ :=
    handle_of_not_getsStuck (Log.verbosity s.verbosity) mem free
  refine ⟨v, log, ?_, decided⟩
  rw [decide, gate, Validator.ofUsers, normalized]
  exact answer

end Judged

/-! ## The check -/

/-- The captured request in a text, if there is one. -/
def requestIn (t : Text) : Option Spot :=
  match readGraph t with
  | .error _ => none
  | .ok g => (Review.requestOf (rootOf g)).toOption

@[simp] theorem requestIn_eq_some_iff {t : Text} {r : Spot} : requestIn t = some r ↔
    ∃ g, readGraph t = .ok g ∧ Review.requestOf (rootOf g) = .ok r := by
  unfold requestIn
  cases readGraph t with
  | error fault => simp
  | ok g => cases found : Review.requestOf (rootOf g) <;> simp [Except.toOption, found]

theorem report_of_answer {g : Yaml.Graph} {d : Decision} {answered : Text}
    (written : answer g d.verdict = .ok answered) :
    report g d = ⟨.exit (exitCode d.verdict), d.log ++ answered, []⟩ := by
  unfold report
  rw [written]

theorem report_of_answer_error {g : Yaml.Graph} {d : Decision} {fault : Fault}
    (vain : answer g d.verdict = .error fault) : report g d = ⟨.fault fault, d.log, []⟩ := by
  unfold report
  rw [vain]

/-- **The exit code tells the verdict.**  Checking a text that holds a typed review says nothing
about the text, writes the answer after what is logged, and ends with 0 if the request passes and
with 1 if it is denied or refused; so does checking an input from which the text is read.  The
output stream is taken to accept every text, and the stack to be deep enough to load the document
and to write its objects. -/
theorem run_decides (s : Settings) {t : Text} {r : Spot} (given : requestIn t = some r)
    (typed : Review.IsTyped r) :
    ∃ (log answered : Text) (v : Verdict),
      runText s t = ⟨.exit (if Passes s r then 0 else 1), log ++ answered, []⟩ ∧
      (∀ source bytes, readText source bytes = .ok t → run s source bytes = runText s t) ∧
      Judged s r v ∧ IsDocument answered (answerTo (textAt r "uid") v) := by
  obtain ⟨g, loads, found⟩ := requestIn_eq_some_iff.1 given
  obtain ⟨request, reads, same⟩ := Review.read_of_isTyped found typed
  obtain ⟨v, log, answer, decided⟩ := exists_decide (s := s) same
  have judged := judged_of_decided same decided
  obtain ⟨answered, written, isDocument⟩ := exists_answer found typed.uid judged.canBeWritten
  refine ⟨log, answered, v, ?_, fun source bytes spelled => ?_, judged, isDocument⟩
  · simp only [runText, loads, reads, answer]
    rw [report_of_answer (d := ⟨v, log⟩) written, judged.exitCode_eq]
  · rw [run, spelled]

/-- A review in which a marked object is updated by a user with a blank in front of the name in the
setting. -/
def updateReview : Text :=
  "request: \x7buid: u7, operation: UPDATE, userInfo: \x7busername: alice\x7d, " ++
    "object: \x7bmetadata: \x7blabels: \x7bmanaged-by: arm\x7d\x7d\x7d\x7d"

theorem run_decides_updateReview :
    ∃ r, (requestIn updateReview = some r ∧ Review.IsTyped r) ∧
      ∃ log answered, runText { users := some "bob, alice" } updateReview =
        ⟨.exit 0, log ++ answered, []⟩ := by
  have computed : (requestIn updateReview).any
      (fun r => Review.IsTyped r ∧ Passes { users := some "bob, alice" } r) = true := by
    decide +kernel
  obtain ⟨r, given, both⟩ := (Option.any_eq_true _ _).1 computed
  obtain ⟨typed, passes⟩ := of_decide_eq_true both
  obtain ⟨log, answered, v, answer, -⟩ := run_decides { users := some "bob, alice" } given typed
  rw [if_pos passes] at answer
  exact ⟨r, ⟨given, typed⟩, log, answered, answer⟩

end Check

end AdmissionGate
