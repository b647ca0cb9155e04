/-
# AdmissionGate.Proofs.Gate.Relaxed -- gates with more users

A whitelist is a set: all that counts is which names it holds, and it is asked for one
name only, that of the requester.  So gates with the same users in another order, with
some of them given twice, or with empty names among them, are one gate
(`Validator.handle_congr_of_holds`).

A gate with more users allows what one with fewer allows, and it cannot read what that
one cannot read.  Only a denial can change, and it does exactly for a requester who is
among the users that were added (`whitelist_relaxes`).
-/
import AdmissionGate.Proofs.Gate.Influence

namespace AdmissionGate

set_option autoImplicit false

def Verdict.IsDenial (v : Verdict) : Prop := ∃ reason, v = .deny reason

/-- The requester is among some names, and not among those before. -/
def TypedRequest.IsNewcomer (names more : List Text) (r : TypedRequest) : Prop :=
  (r.username ∈ more ∧ r.username ≠ []) ∧ r.username ∉ names

/-- What a verdict becomes where more names may pass: the denial of a newcomer is lifted, and
nothing else changes. -/
structure Relaxes (names more : List Text) (r : TypedRequest) (verdict relaxed : Verdict) :
    Prop where
  lifted : verdict.IsDenial ∧ r.IsNewcomer names more → relaxed = .allow (.text [])
  kept : ¬ (verdict.IsDenial ∧ r.IsNewcomer names more) → relaxed = verdict

/-! ## Who is asked for -/

theorem judge_congr {q : Question} {w other : Whitelist}
    (same : w.holds q.requester = other.holds q.requester) : judge q w = judge q other := by
  rw [judge, judge, Whitelist.contains_congr same]

namespace Validator

/-- A gate decides with the whitelist that it was made with. -/
theorem consult_whitelist {v : Validator} {users : Value} (made : ofUsers users = .ok v) :
    (Users.given (.set v.whitelist)).consult = (.ok v.whitelist, .given (.set v.whitelist)) := by
  rw [Users.consult, Whitelist.ofValue_set_of_isNormal (isNormal_whitelist made)]

/-- **Two gates that answer alike who may pass answer a request alike.** -/
theorem handle_congr_of_holds {v w : Validator} {users others : Value}
    (made : ofUsers users = .ok v) (otherMade : ofUsers others = .ok w) {r : Request}
    (same : v.whitelist.holds r.username = w.whitelist.holds r.username) (verbosity : Nat) :
    v.handle verbosity r = w.handle verbosity r := by
  have decides (labels annotations : Value) :
      v.decide r labels annotations = w.decide r labels annotations := by
    unfold decide evaluate
    rw [consult_whitelist made, consult_whitelist otherMade]
    split
    · rfl
    · rfl
    · exact judge_congr same
  unfold handle
  simp only [decides]

end Validator

/-! ## Verdicts for more names -/

namespace Decided

variable {names more : List Text} {r : TypedRequest} {verdict relaxed : Verdict}

/-- A verdict that is no denial stays where more names may pass. -/
theorem of_not_isDenial (grows : ∀ name ∈ names, name ≠ [] → name ∈ more)
    (decided : Decided names r verdict) (passes : ¬ verdict.IsDenial) : Decided more r verdict := by
  cases decided with
  | unguarded free => exact .unguarded free
  | refused guarded refused => exact .refused guarded refused
  | unmanaged guarded reads unmarked => exact .unmanaged guarded reads unmarked
  | whitelisted guarded reads marked known =>
      exact .whitelisted guarded reads marked ⟨grows _ known.1 known.2, known.2⟩
  | denied guarded reads marked unknown => exact absurd ⟨_, rfl⟩ passes

/-- A denied request has a marked object and a requester without a name in the whitelist. -/
theorem cases_of_isDenial (decided : Decided names r verdict) (denied : verdict.IsDenial) :
    r.IsGuarded ∧ (∃ labels annotations, r.Reads labels annotations ∧
      (labels.IsMarked ∨ annotations.IsMarked)) ∧ ¬ (r.username ∈ names ∧ r.username ≠ []) ∧
      verdict = .deny (.text r.reason) := by
  obtain ⟨reason, same⟩ := denied
  cases decided with
  | denied guarded reads marked unknown => exact ⟨guarded, ⟨_, _, reads, marked⟩, unknown, rfl⟩
  | _ => cases same

theorem relaxes (grows : ∀ name ∈ names, name ≠ [] → name ∈ more)
    (before : Decided names r verdict) (after : Decided more r relaxed) :
    Relaxes names more r verdict relaxed := by
  by_cases denied : verdict.IsDenial
  · obtain ⟨guarded, ⟨labels, annotations, reads, marked⟩, unknown, rfl⟩ :=
      before.cases_of_isDenial denied
    constructor
    · rintro ⟨-, joined, -⟩
      exact after.unique (.whitelisted guarded reads marked joined)
    · intro stays
      have stranger : ¬ (r.username ∈ more ∧ r.username ≠ []) := by
        intro joined
        exact stays ⟨denied, joined, fun known => unknown ⟨known, joined.2⟩⟩
      exact after.unique (.denied guarded reads marked stranger)
  · constructor
    · intro both
      exact absurd both.1 denied
    · intro _
      exact after.unique (before.of_not_isDenial grows denied)

end Decided

/-- **A whitelist acts as a set, and a larger one lifts denials only.**  Where every user of one
gate is a user of another, both give a verdict on the same requests, and the second verdict is the
first, except that a denial becomes an allowance exactly if the requester is a user of the second
gate and not of the first.  Gates with the same users, in any order and however often, answer every
request alike; a single name is the list of it, and lets nobody else pass; and a whitelist made of a
whitelist is the same again. -/
theorem whitelist_relaxes :
    (∀ (users others : Value) (names more : List Text), NamesOf users names → NamesOf others more →
      (∀ name ∈ names, name ≠ [] → name ∈ more) →
        ∃ v w, Validator.ofUsers users = .ok v ∧ Validator.ofUsers others = .ok w ∧
          ∀ (setting : Option Text) (r : TypedRequest),
            (¬ r.GetsStuck → ∃ verdict relaxed log otherLog,
              v.handle (Log.verbosity setting) r.untyped = .ok ⟨verdict, log⟩ ∧
              w.handle (Log.verbosity setting) r.untyped = .ok ⟨relaxed, otherLog⟩ ∧
              Relaxes names more r verdict relaxed) ∧
            (r.GetsStuck →
              v.handle (Log.verbosity setting) r.untyped = .error (.integer .tooLarge) ∧
              w.handle (Log.verbosity setting) r.untyped = .error (.integer .tooLarge))) ∧
    (∀ (users others : Value) (names more : List Text), NamesOf users names → NamesOf others more →
      (∀ name, name ≠ [] → (name ∈ names ↔ name ∈ more)) →
        ∃ v w, Validator.ofUsers users = .ok v ∧ Validator.ofUsers others = .ok w ∧
          ∀ (verbosity : Nat) (r : Request), v.handle verbosity r = w.handle verbosity r) ∧
    (∀ name : Text, ∃ w, Whitelist.ofValue (.text name) = .ok w ∧
      Whitelist.ofValue (.list [.text name]) = .ok w ∧
      ∀ user : Text, w.holds (.text user) = true ↔ user = name ∧ user ≠ []) ∧
    ∀ (users : Value) (w : Whitelist),
      Whitelist.ofValue users = .ok w → Whitelist.ofValue (.set w) = .ok w := by
  refine ⟨?_, ?_, ?_, ?_⟩
  · intro users others names more given otherGiven grows
    obtain ⟨all, made, mem⟩ := Validator.ofUsers_of_namesOf given
    obtain ⟨allMore, otherMade, memMore⟩ := Validator.ofUsers_of_namesOf otherGiven
    refine ⟨_, _, made, otherMade, fun setting r => ⟨fun free => ?_, fun stuck => ?_⟩⟩
    · obtain ⟨verdict, log, answer, decided⟩ := handle_of_not_getsStuck _ mem free
      obtain ⟨relaxed, otherLog, otherAnswer, otherDecided⟩ :=
        handle_of_not_getsStuck _ memMore free
      exact ⟨verdict, relaxed, log, otherLog, answer, otherAnswer,
        decided.relaxes grows otherDecided⟩
    · exact ⟨handle_of_getsStuck _ _ stuck, handle_of_getsStuck _ _ stuck⟩
  · intro users others names more given otherGiven same
    obtain ⟨all, made, mem⟩ := Validator.ofUsers_of_namesOf given
    obtain ⟨allMore, otherMade, memMore⟩ := Validator.ofUsers_of_namesOf otherGiven
    have members : ∀ name, name ∈ all ↔ name ∈ allMore := by
      intro name
      rw [mem, memMore, and_congr_left_iff]
      exact same name
    refine ⟨_, _, made, otherMade, fun verbosity r => ?_⟩
    exact Validator.handle_congr_of_holds made otherMade (Whitelist.holds_congr members _) verbosity
  · intro name
    obtain ⟨all, whitelist, mem⟩ := Whitelist.ofValue_of_namesOf (.one name)
    have asList : Whitelist.ofValue (.list [.text name]) = Whitelist.ofValue (.text name) := rfl
    refine ⟨_, whitelist, asList.trans whitelist, fun user => ?_⟩
    rw [Whitelist.holds_ofNames, mem, List.mem_singleton]
  · intro users w made
    exact Whitelist.ofValue_set_of_isNormal (Whitelist.isNormal_of_ofValue made)

/-- The user `alice`, given twice, with one who is added and an empty name. -/
def moreUsers : List Text := ["", "mallory", "alice", "alice"]

theorem whitelist_relaxes_markedRequest :
    (NamesOf (.list [.text "alice"]) ["alice"] ∧ NamesOf (.list (moreUsers.map .text)) moreUsers ∧
        (∀ name ∈ (["alice"] : List Text), name ≠ [] → name ∈ moreUsers) ∧
        ¬ markedRequest.GetsStuck ∧ markedRequest.IsNewcomer ["alice"] moreUsers) ∧
      ∃ v w log otherLog, Validator.ofUsers (.list [.text "alice"]) = .ok v ∧
        Validator.ofUsers (.list (moreUsers.map .text)) = .ok w ∧
        v.handle (Log.verbosity none) markedRequest.untyped =
          .ok ⟨.deny (.text markedRequest.reason), log⟩ ∧
        w.handle (Log.verbosity none) markedRequest.untyped =
          .ok ⟨.allow (.text []), otherLog⟩ := by
  have given : NamesOf (.list [.text "alice"]) ["alice"] := .many ["alice"]
  have otherGiven : NamesOf (.list (moreUsers.map .text)) moreUsers := .many moreUsers
  have grows : ∀ name ∈ (["alice"] : List Text), name ≠ [] → name ∈ moreUsers := by decide
  have newcomer : markedRequest.IsNewcomer ["alice"] moreUsers := ⟨by decide, by decide⟩
  have denied : Validator.handle ⟨[.text "alice"]⟩ (Log.verbosity none) markedRequest.untyped =
      .ok ⟨.deny (.text markedRequest.reason), []⟩ := rfl
  have free : ¬ markedRequest.GetsStuck := by
    intro stuck
    simp [handle_of_getsStuck _ _ stuck] at denied
  obtain ⟨v, w, made, otherMade, answers⟩ := whitelist_relaxes.1 _ _ _ _ given otherGiven grows
  obtain ⟨verdict, relaxed, log, otherLog, answer, otherAnswer, relaxes⟩ :=
    (answers none markedRequest).1 free
  cases made
  have same := denied.symm.trans answer
  cases same
  rw [relaxes.lifted ⟨⟨_, rfl⟩, newcomer⟩] at otherAnswer
  exact ⟨⟨given, otherGiven, grows, free, newcomer⟩, _, w, _, otherLog, rfl, otherMade, denied,
    otherAnswer⟩

end AdmissionGate
