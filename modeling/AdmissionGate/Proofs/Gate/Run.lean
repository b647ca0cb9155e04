/-
# AdmissionGate.Proofs.Gate.Run -- calls one after another

A caller that has read the metadata itself asks `evaluate`, which knows no request.  Over
a whole run of calls it gives the verdicts that the gate gives on the requests, if the
users are a collection.  If they can be walked a single time, the first call in which the
whitelist decides walks them (`usersAfter_once`): up to and with that call nothing
changes, and from then on the whitelist is empty.
-/
import AdmissionGate.Proofs.Gate.Handle
import Mathlib.Data.List.Forall2

namespace AdmissionGate

set_option autoImplicit false

/-- Labels and annotations of an object, each a map from text to text or null. -/
structure TypedMaps where
  labels : Value := .null
  annotations : Value := .null
  typedLabels : labels.IsStringMap
  typedAnnotations : annotations.IsStringMap

namespace TypedMaps

def absent : TypedMaps where
  typedLabels := .inl rfl
  typedAnnotations := .inl rfl

/-- The object, held as metadata; without metadata there is none. -/
def state : Option TypedMaps → ObjectState
  | none => .empty
  | some maps => .ofLive (.metadata { labels := maps.labels, annotations := maps.annotations })

theorem isTyped_state (maps : Option TypedMaps) : (state maps).IsTyped := by
  rintro object held
  cases maps with
  | none => cases held
  | some maps =>
      cases held
      exact .metadata maps.typedLabels maps.typedAnnotations

theorem extract_state (maps : Option TypedMaps) :
    (state maps).extract = .ok ((maps.getD absent).labels, (maps.getD absent).annotations) := by
  cases maps <;> rfl

end TypedMaps

/-- A call of one who has read the metadata before and after the operation. -/
structure Call where
  operation : Text
  old : Option TypedMaps := none
  new : Option TypedMaps := none
  requester : Text
  kind : TypedKind := {}
  name : Text := []
  «namespace» : Text := []

namespace Call

/-- What the call asks; the metadata before the operation are no part of it. -/
def question (c : Call) : Question where
  operation := .text c.operation
  new := c.new.map fun maps => [maps.labels, maps.annotations]
  requester := .text c.requester
  kind := c.kind.untyped
  name := .text c.name
  «namespace» := .text c.namespace

def request (c : Call) : TypedRequest where
  operation := c.operation
  kind := c.kind
  name := c.name
  «namespace» := c.namespace
  username := c.requester
  new := TypedMaps.state c.new
  old := TypedMaps.state c.old
  typedNew := TypedMaps.isTyped_state c.new
  typedOld := TypedMaps.isTyped_state c.old

def newMaps (c : Call) : TypedMaps := c.new.getD .absent

/-- The whitelist decides: the operation is guarded and the new metadata have the marker. -/
def Consults (c : Call) : Prop :=
  c.request.IsGuarded ∧ (c.newMaps.labels.IsMarked ∨ c.newMaps.annotations.IsMarked)

instance : DecidablePred Consults := fun _ => inferInstanceAs (Decidable (_ ∧ (_ ∨ _)))

theorem reads (c : Call) : c.request.Reads c.newMaps.labels c.newMaps.annotations :=
  ⟨TypedMaps.extract_state c.new, _, TypedMaps.extract_state c.old⟩

theorem metadataParts_question (c : Call) :
    metadataParts c.question.new = .ok (c.newMaps.labels, c.newMaps.annotations) := by
  unfold question newMaps
  cases c.new <;> rfl

theorem not_getsStuck (c : Call) : ¬ c.request.GetsStuck := by
  obtain ⟨new, maps, old⟩ := c.reads
  rintro ⟨-, stuck | ⟨-, stuck⟩⟩
  · simp [(ObjectState.extract_eq_tooLarge_iff c.request.typedNew).2 stuck] at new
  · simp [(ObjectState.extract_eq_tooLarge_iff c.request.typedOld).2 stuck] at old

/-! ## One call -/

theorem needsWhitelist_question (c : Call) :
    needsWhitelist c.question = .ok (decide c.Consults) := by
  have operation : isGuarded c.question.operation = .ok (decide c.request.IsGuarded) :=
    c.request.isGuarded_untyped
  have marker := anyManaged_of_isStringMap c.newMaps.typedLabels c.newMaps.typedAnnotations
  by_cases guarded : c.request.IsGuarded <;>
    simp [needsWhitelist, operation, c.metadataParts_question, marker, Consults, guarded]

/-- A call in which the whitelist does not decide passes and leaves the users alone. -/
theorem evaluate_of_not_consults {c : Call} (passes : ¬ c.Consults) (users : Users) :
    evaluate c.question users = (.ok (.allow (.text [])), users) := by
  rw [evaluate, c.needsWhitelist_question, decide_eq_false passes]

theorem decided_of_not_consults {c : Call} (passes : ¬ c.Consults) (names : List Text) :
    Decided names c.request (.allow (.text [])) := by
  by_cases guarded : c.request.IsGuarded
  · exact .unmanaged guarded c.reads fun marked => passes ⟨guarded, marked⟩
  · exact .unguarded guarded

/-- A call in which the whitelist decides walks the users. -/
theorem evaluate_of_consults {c : Call} (consults : c.Consults) {users rest : Users}
    {names all : List Text} (walked : users.consult = (.ok (Whitelist.ofNames all), rest))
    (mem : ∀ name, name ∈ all ↔ name ∈ names ∧ name ≠ []) :
    ∃ verdict, evaluate c.question users = (.ok verdict, rest) ∧
      Decided names c.request verdict := by
  have answered : evaluate c.question users = (judge c.question (Whitelist.ofNames all), rest) := by
    rw [evaluate, c.needsWhitelist_question, decide_eq_true consults, walked]
    rfl
  rw [answered, judge_ofNames (q := c.question) rfl (denialReason_untyped c.request) all]
  refine ⟨_, rfl, ?_⟩
  by_cases known : c.requester ∈ all
  · rw [if_pos known]
    exact .whitelisted consults.1 c.reads consults.2 ((mem _).1 known)
  · rw [if_neg known]
    exact .denied consults.1 c.reads consults.2 fun both => known ((mem _).2 both)

/-- A collection of users is the same after every call. -/
theorem evaluate_given (names : List Text) (c : Call) :
    ∃ verdict, evaluate c.question (.given (.list (names.map .text))) =
        (.ok verdict, .given (.list (names.map .text))) ∧ Decided names c.request verdict := by
  by_cases consults : c.Consults
  · obtain ⟨all, whitelist, mem⟩ := Whitelist.ofValue_of_namesOf (.many names)
    have walked : (Users.given (.list (names.map .text))).consult =
        (.ok (Whitelist.ofNames all), .given (.list (names.map .text))) := by
      rw [Users.consult, whitelist]
    exact evaluate_of_consults consults walked mem
  · exact ⟨_, evaluate_of_not_consults consults _, decided_of_not_consults consults names⟩

/-- Users that can be walked a single time are used up when the whitelist decides. -/
theorem evaluate_once (names : List Text) {c : Call} (consults : c.Consults) :
    ∃ verdict, evaluate c.question (.once (names.map .text)) = (.ok verdict, .once []) ∧
      Decided names c.request verdict := by
  obtain ⟨all, added, mem⟩ := Whitelist.addAll_ofNames [] names
  have added : Whitelist.addAll [] (names.map .text) = .ok (Whitelist.ofNames all) := added
  have walked : (Users.once (names.map .text)).consult =
      (.ok (Whitelist.ofNames all), .once []) := by
    rw [Users.consult, added]
  exact evaluate_of_consults consults walked fun name => by rw [mem]; simp

/-- After the users have been used up the whitelist is empty, and nobody passes by it. -/
theorem evaluate_usedUp {c : Call} (consults : c.Consults) :
    evaluate c.question (.once []) = (.ok (.deny (.text c.request.reason)), .once []) := by
  obtain ⟨verdict, answer, decided⟩ := evaluate_once [] consults
  have denied : Decided [] c.request (.deny (.text c.request.reason)) :=
    .denied consults.1 c.reads consults.2 fun both => List.not_mem_nil both.1
  rw [decided.unique denied] at answer
  exact answer

/-- The gate answers the request with the verdict of the call. -/
theorem handle_of_decided {names all : List Text} {c : Call} {verdict : Verdict}
    (mem : ∀ name, name ∈ all ↔ name ∈ names ∧ name ≠ [])
    (decided : Decided names c.request verdict) (verbosity : Nat) :
    ∃ log, Validator.handle ⟨Whitelist.ofNames all⟩ verbosity c.request.untyped =
      .ok ⟨verdict, log⟩ := by
  obtain ⟨given, log, answer, same⟩ := handle_of_not_getsStuck verbosity mem c.not_getsStuck
  rw [same.unique decided] at answer
  exact ⟨log, answer⟩

end Call

/-! ## A run -/

/-- The verdicts on calls in order that share a source of users. -/
def answers (users : Users) : List Call → List (Except Fault Verdict)
  | [] => []
  | c :: rest =>
    let (verdict, users) := evaluate c.question users
    verdict :: answers users rest

def usersAfter (users : Users) : List Call → Users
  | [] => users
  | c :: rest => usersAfter (evaluate c.question users).2 rest

section Runs

variable (users : Users) (names : List Text)

theorem usersAfter_append (calls more : List Call) :
    usersAfter users (calls ++ more) = usersAfter (usersAfter users calls) more := by
  induction calls generalizing users with
  | nil => rfl
  | cons c rest ih => exact ih _

/-- The verdict on a call within a run is that of the call alone, with the users that are left. -/
theorem getElem?_answers (before after : List Call) (c : Call) :
    (answers users (before ++ c :: after))[before.length]? =
      some (evaluate c.question (usersAfter users before)).1 := by
  induction before generalizing users with
  | nil => rfl
  | cons first rest ih => exact ih _

theorem usersAfter_given (calls : List Call) :
    usersAfter (.given (.list (names.map .text))) calls = .given (.list (names.map .text)) := by
  induction calls with
  | nil => rfl
  | cons c rest ih =>
      obtain ⟨verdict, answer, -⟩ := c.evaluate_given names
      rw [usersAfter, answer]
      exact ih

/-- As long as the whitelist does not decide, the users are not walked. -/
theorem usersAfter_of_not_consults {calls : List Call} (pass : ∀ c ∈ calls, ¬ c.Consults) :
    usersAfter users calls = users := by
  induction calls with
  | nil => rfl
  | cons c rest ih =>
      obtain ⟨passes, others⟩ := List.forall_mem_cons.1 pass
      rw [usersAfter, Call.evaluate_of_not_consults passes]
      exact ih others

theorem usersAfter_usedUp (calls : List Call) : usersAfter (.once []) calls = .once [] := by
  induction calls with
  | nil => rfl
  | cons c rest ih =>
      by_cases consults : c.Consults
      · rw [usersAfter, Call.evaluate_usedUp consults]
        exact ih
      · rw [usersAfter, Call.evaluate_of_not_consults consults]
        exact ih

/-- The first call in which the whitelist decides uses the users up. -/
theorem usersAfter_once {calls : List Call} (used : ∃ c ∈ calls, c.Consults) :
    usersAfter (.once (names.map .text)) calls = .once [] := by
  induction calls with
  | nil =>
      obtain ⟨c, impossible, -⟩ := used
      cases impossible
  | cons c rest ih =>
      by_cases consults : c.Consults
      · obtain ⟨verdict, answer, -⟩ := Call.evaluate_once names consults
        rw [usersAfter, answer]
        exact usersAfter_usedUp rest
      · rw [usersAfter, Call.evaluate_of_not_consults consults]
        obtain ⟨d, inCalls, decides⟩ := used
        rcases List.mem_cons.1 inCalls with rfl | inRest
        · exact absurd decides consults
        · exact ih ⟨d, inRest, decides⟩

theorem answers_given (calls : List Call) :
    ∃ verdicts : List Verdict,
      answers (.given (.list (names.map .text))) calls = verdicts.map .ok ∧
        List.Forall₂ (fun c verdict => Decided names c.request verdict) calls verdicts := by
  induction calls with
  | nil => exact ⟨[], rfl, .nil⟩
  | cons c rest ih =>
      obtain ⟨verdict, answer, decided⟩ := c.evaluate_given names
      obtain ⟨verdicts, others, allDecided⟩ := ih
      refine ⟨verdict :: verdicts, ?_, .cons decided allDecided⟩
      rw [answers, answer]
      exact congrArg (.ok verdict :: ·) others

theorem answers_once (calls : List Call) :
    ∃ verdicts : List Verdict, answers (.once (names.map .text)) calls = verdicts.map .ok := by
  induction calls generalizing names with
  | nil => exact ⟨[], rfl⟩
  | cons c rest ih =>
      by_cases consults : c.Consults
      · obtain ⟨verdict, answer, -⟩ := Call.evaluate_once names consults
        obtain ⟨verdicts, others⟩ := ih []
        refine ⟨verdict :: verdicts, ?_⟩
        rw [answers, answer]
        exact congrArg (.ok verdict :: ·) others
      · obtain ⟨verdicts, others⟩ := ih names
        refine ⟨.allow (.text []) :: verdicts, ?_⟩
        rw [answers, Call.evaluate_of_not_consults consults]
        exact congrArg (.ok (.allow (.text [])) :: ·) others

end Runs

/-- How a call of a run in which the users can be walked a single time compares with the same call
where they are a collection: the verdicts, and what is left of the users. -/
structure Call.SharesAfter (names : List Text) (before : List Call) (c : Call)
    (verdict shared : Verdict) : Prop where
  /-- Where the whitelist does not decide, the users are not walked. -/
  passes : ¬ c.Consults → shared = verdict ∧
    usersAfter (.once (names.map .text)) (before ++ [c]) =
      usersAfter (.once (names.map .text)) before
  /-- Where it decides for the first time, all of them are. -/
  first : c.Consults → (∀ b ∈ before, ¬ b.Consults) → shared = verdict ∧
    usersAfter (.once (names.map .text)) before = .once (names.map .text) ∧
    usersAfter (.once (names.map .text)) (before ++ [c]) = .once []
  /-- Later nobody passes by it. -/
  later : c.Consults → (∃ b ∈ before, b.Consults) → shared = .deny (.text c.request.reason)
  allowed : shared.isAllowed = true → verdict.isAllowed = true

section SharesAfter

variable {names : List Text} {before : List Call} {c : Call} {verdict shared : Verdict}

theorem Call.sharesAfter_of_not_consults (passes : ¬ c.Consults) (same : shared = verdict) :
    c.SharesAfter names before verdict shared where
  passes _ := by
    refine ⟨same, ?_⟩
    rw [usersAfter_append, usersAfter, evaluate_of_not_consults passes, usersAfter]
  first consults := absurd consults passes
  later consults := absurd consults passes
  allowed pass := same ▸ pass

theorem Call.sharesAfter_of_unused (consults : c.Consults) (unused : ∀ b ∈ before, ¬ b.Consults)
    (same : shared = verdict) : c.SharesAfter names before verdict shared where
  passes passes := absurd consults passes
  first _ _ := ⟨same, usersAfter_of_not_consults _ unused,
    usersAfter_once names ⟨c, List.mem_append_right _ (List.mem_singleton_self c), consults⟩⟩
  later _ := by
    rintro ⟨b, inBefore, decides⟩
    exact absurd decides (unused b inBefore)
  allowed pass := same ▸ pass

theorem Call.sharesAfter_of_used (consults : c.Consults) (used : ∃ b ∈ before, b.Consults) :
    c.SharesAfter names before verdict (.deny (.text c.request.reason)) where
  passes passes := absurd consults passes
  first _ unused := by
    obtain ⟨b, inBefore, decides⟩ := used
    exact absurd decides (unused b inBefore)
  later _ _ := rfl
  allowed impossible := by cases impossible

end SharesAfter

theorem Call.exists_sharesAfter (names : List Text) (before : List Call) (c : Call) :
    ∃ verdict shared,
      (evaluate c.question (usersAfter (.given (.list (names.map .text))) before)).1 =
        .ok verdict ∧
      (evaluate c.question (usersAfter (.once (names.map .text)) before)).1 = .ok shared ∧
      c.SharesAfter names before verdict shared := by
  obtain ⟨verdict, answer, decided⟩ := c.evaluate_given names
  rw [usersAfter_given, answer]
  by_cases consults : c.Consults
  · by_cases used : ∃ b ∈ before, b.Consults
    · rw [usersAfter_once names used, evaluate_usedUp consults]
      exact ⟨verdict, _, rfl, rfl, sharesAfter_of_used consults used⟩
    · have unused : ∀ b ∈ before, ¬ b.Consults := fun b inBefore decides =>
        used ⟨b, inBefore, decides⟩
      obtain ⟨shared, sharedAnswer, sharedDecided⟩ := evaluate_once names consults
      rw [usersAfter_of_not_consults _ unused, sharedAnswer]
      exact ⟨verdict, shared, rfl, rfl,
        sharesAfter_of_unused consults unused (sharedDecided.unique decided)⟩
  · rw [evaluate_of_not_consults consults]
    exact ⟨verdict, _, rfl, rfl, sharesAfter_of_not_consults consults
      ((decided_of_not_consults consults names).unique decided)⟩

/-- **Calls in a row get the verdicts of the gate, and users are walked once.**  With a list of
users every call of a run gets the verdict that the gate of these users gives on the request.  If
the calls share users that can be walked a single time, calls in which the whitelist does not decide
leave them alone and get the same verdict; the first in which it decides gets the same verdict, too,
and every later one is denied. -/
theorem evaluate_runs (names : List Text) :
    ∃ v, Validator.ofUsers (.list (names.map .text)) = .ok v ∧
      ∀ calls : List Call, ∃ verdicts shared : List Verdict,
        answers (.given (.list (names.map .text))) calls = verdicts.map .ok ∧
        answers (.once (names.map .text)) calls = shared.map .ok ∧
        (∀ setting, List.Forall₂ (fun c verdict => ∃ log,
          v.handle (Log.verbosity setting) c.request.untyped = .ok ⟨verdict, log⟩) calls verdicts) ∧
        ∀ (before after : List Call) (c : Call), calls = before ++ c :: after →
          ∃ verdict sharedVerdict, verdicts[before.length]? = some verdict ∧
            shared[before.length]? = some sharedVerdict ∧
            c.SharesAfter names before verdict sharedVerdict := by
  obtain ⟨all, whitelist, mem⟩ := Whitelist.ofValue_of_namesOf (.many names)
  refine ⟨⟨Whitelist.ofNames all⟩, by rw [Validator.ofUsers, whitelist]; rfl, fun calls => ?_⟩
  obtain ⟨verdicts, listed, decided⟩ := answers_given names calls
  obtain ⟨shared, once⟩ := answers_once names calls
  refine ⟨verdicts, shared, listed, once, fun setting => ?_, ?_⟩
  · exact decided.imp fun c verdict decided => c.handle_of_decided mem decided _
  · rintro before after c rfl
    obtain ⟨verdict, sharedVerdict, answer, sharedAnswer, shares⟩ :=
      c.exists_sharesAfter names before
    have atList := getElem?_answers (.given (.list (names.map .text))) before after c
    have atOnce := getElem?_answers (.once (names.map .text)) before after c
    rw [listed, answer] at atList
    rw [once, sharedAnswer] at atOnce
    refine ⟨verdict, sharedVerdict, ?_, ?_, shares⟩
    · simpa using atList
    · simpa using atOnce

/-- Three calls of which the second and the third need the whitelist. -/
def markingCalls : List Call :=
  let marked : TypedMaps := {
    labels := .map [("managed-by", "arm")]
    typedLabels := .inr ⟨_, rfl, List.forall_mem_singleton.2 ⟨rfl, rfl⟩⟩
    typedAnnotations := .inl rfl }
  [{ operation := "CREATE", requester := "mallory" },
    { operation := "CREATE", new := some marked, requester := "alice" },
    { operation := "UPDATE", old := some marked, new := some marked, requester := "alice" }]

/-- The gate lets the third of them pass; it is denied if the users can be walked a single time. -/
theorem evaluate_runs_markingCalls :
    ∃ v log, Validator.ofUsers (.list [.text "alice"]) = .ok v ∧
      v.handle (Log.verbosity none) markingCalls[2].request.untyped =
        .ok ⟨.allow (.text []), log⟩ ∧
      answers (.given (.list [.text "alice"])) markingCalls =
        List.replicate 3 (.ok (.allow (.text []))) ∧
      (answers (.once [.text "alice"]) markingCalls)[2]? =
        some (.ok (.deny (.text markingCalls[2].request.reason))) := by
  obtain ⟨v, made, runs⟩ := evaluate_runs ["alice"]
  obtain ⟨verdicts, shared, listed, once, handled, compare⟩ := runs markingCalls
  have passes : answers (.given (.list [.text "alice"])) markingCalls =
      (List.replicate 3 (.allow (.text []))).map .ok := rfl
  obtain rfl : verdicts = List.replicate 3 (.allow (.text [])) :=
    List.map_injective_iff.2 (fun _ _ same => Except.ok.inj same) (listed.symm.trans passes)
  obtain ⟨_, sharedVerdict, -, atOnce, shares⟩ :=
    compare (markingCalls.take 2) [] markingCalls[2] rfl
  have second : markingCalls[1].Consults := ⟨.inl rfl, .inl ⟨_, rfl, rfl⟩⟩
  have third : markingCalls[2].Consults := ⟨.inr rfl, .inl ⟨_, rfl, rfl⟩⟩
  have denied := shares.later third
    ⟨_, List.mem_cons_of_mem _ (List.mem_singleton_self _), second⟩
  obtain ⟨log, answer⟩ := (handled none).get (i := 2) (by decide) (by decide)
  refine ⟨v, log, made, answer, passes, ?_⟩
  have once : answers (.once [.text "alice"]) markingCalls = shared.map .ok := once
  have atThird : shared[2]? = some sharedVerdict := atOnce
  rw [once, List.getElem?_map, atThird, denied]
  rfl

end AdmissionGate
