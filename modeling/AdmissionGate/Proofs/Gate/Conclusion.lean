/-
# AdmissionGate.Proofs.Gate.Conclusion -- the verdict apart from the log

The gate comes to a verdict first, and what it logs does not go back into it.  So the
gate is put together of two parts: what it comes to, which knows nothing of the
verbosity (`Validator.conclude`), and the entry about it (`Validator.handle_eq`).

There are three ways to come to a conclusion, whatever the request (`Concludes`).
-/
import AdmissionGate.Gate.Validator
import AdmissionGate.Proofs.Steps

namespace AdmissionGate

set_option autoImplicit false

namespace Validator

/-- A verdict with what its log entry says beside the request. -/
structure Conclusion where
  verdict : Verdict
  message : Text
  extra : List Log.Field := []

/-- How the log tells a decision over metadata that have been read. -/
def messageOf (verdict : Verdict) : Text :=
  if verdict.isAllowed then "managed resource request allowed"
  else "managed resource request denied"

/-- The verdict on a request, before it is logged. -/
def conclude (v : Validator) (r : Request) : Except Fault Conclusion := do
  if ← isGuarded r.operation then
    match extractBoth r with
    | .error (.decode cause) => return {
        verdict := .error (.int 500) cause.message
        message := "failed to get labels and annotations"
        extra := [("err", .ok cause.message)] }
    | .error fault => throw fault
    | .ok (labels, annotations) =>
      let verdict ← v.decide r labels annotations
      return { verdict := verdict, message := messageOf verdict }
  else return { verdict := .allow (.text []), message := "operation is not guarded, allowing" }

/-- The gate puts a name together, comes to a conclusion and logs it: at level 3 what it allows, at
level 2 everything else. -/
theorem handle_eq (v : Validator) (verbosity : Nat) (r : Request) :
    v.handle verbosity r = (do
      let name ← r.namespacedName
      let c ← v.conclude r
      let log ← Log.emit verbosity (if c.verdict.isAllowed then 3 else 2) c.message
        (c.extra ++ logFields r name)
      return ⟨c.verdict, log⟩) := by
  unfold handle conclude
  cases r.namespacedName with
  | error fault => rfl
  | ok name =>
      cases isGuarded r.operation with
      | error fault => rfl
      | ok guarded =>
          cases guarded with
          | false => rfl
          | true =>
              cases extractBoth r with
              | error fault => cases fault <;> rfl
              | ok maps =>
                  simp only [bind, Except.bind, if_true]
                  cases v.decide r maps.1 maps.2 with
                  | error fault => rfl
                  | ok verdict =>
                      by_cases allowed : verdict.isAllowed = true
                      · simp only [messageOf, if_pos allowed, pure, Except.pure, List.nil_append]
                      · simp only [messageOf, if_neg allowed, pure, Except.pure, List.nil_append]

/-! ## The ways to a conclusion -/

/-- What the gate may come to. -/
inductive Concludes (v : Validator) (r : Request) : Conclusion → Prop
  | unguarded : Concludes v r
      { verdict := .allow (.text []), message := "operation is not guarded, allowing" }
  | refused {cause : DecodeFault} (unread : extractBoth r = .error (.decode cause)) :
      Concludes v r {
        verdict := .error (.int 500) cause.message
        message := "failed to get labels and annotations"
        extra := [("err", .ok cause.message)] }
  | judged {labels annotations : Value} {verdict : Verdict}
      (read : extractBoth r = .ok (labels, annotations))
      (answered : v.decide r labels annotations = .ok verdict) :
      Concludes v r { verdict := verdict, message := messageOf verdict }

variable {v : Validator} {r : Request} {c : Conclusion}

theorem concludes_of_conclude (concluded : v.conclude r = .ok c) : Concludes v r c := by
  unfold conclude at concluded
  obtain ⟨guarded, -, concluded⟩ := bind_eq_ok_iff.1 concluded
  cases guarded with
  | false =>
      cases concluded
      exact .unguarded
  | true =>
      rw [if_pos rfl] at concluded
      cases read : extractBoth r with
      | ok maps =>
          rw [read] at concluded
          obtain ⟨verdict, answered, same⟩ := bind_eq_ok_iff.1 concluded
          cases same
          exact .judged read answered
      | error fault =>
          rw [read] at concluded
          cases fault with
          | decode cause =>
              cases concluded
              exact .refused read
          | _ => cases concluded

/-- A request that is answered has a name, a conclusion and an entry about it. -/
theorem handle_eq_ok {verbosity : Nat} {d : Decision} (answer : v.handle verbosity r = .ok d) :
    ∃ name c, r.namespacedName = .ok name ∧ Concludes v r c ∧ d.verdict = c.verdict ∧
      Log.emit verbosity (if c.verdict.isAllowed then 3 else 2) c.message
        (c.extra ++ logFields r name) = .ok d.log := by
  rw [handle_eq] at answer
  obtain ⟨name, named, answer⟩ := bind_eq_ok_iff.1 answer
  obtain ⟨c, concluded, answer⟩ := bind_eq_ok_iff.1 answer
  obtain ⟨log, written, same⟩ := bind_eq_ok_iff.1 answer
  cases same
  exact ⟨name, c, named, concludes_of_conclude concluded, rfl, written⟩

end Validator

end AdmissionGate
