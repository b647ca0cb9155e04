/-
# AdmissionGate.Proofs.Json.Run -- the reader, token by token

A run passes over a token as a whole (`run_token`), and a run that comes to a value
starts with a blank or with a token that its state takes (`run_cons_eq_ok`).  A value
may come in two states and a name in two others; in both states of a pair every token
but the end of the container does the same, which `AwaitsValue` and `AwaitsName` say
once.
-/
import AdmissionGate.Json.Reader

namespace AdmissionGate

set_option autoImplicit false

namespace Json

theorem run_skip (limits : Limits) (state : State) (xs rest : Text) (position : Nat) :
    state.run limits xs.length position (xs ++ rest) =
      state.run limits 0 (position + xs.length) rest := by
  induction xs generalizing position with
  | nil => rfl
  | cons x xs ih =>
      simp only [List.length_cons, List.cons_append, State.run]
      rw [ih, Nat.add_assoc, Nat.add_comm 1]

/-- A token that the state takes is passed over as a whole. -/
theorem run_token {limits : Limits} {state next : State} {position : Nat} {head : Code}
    (tail rest : Text) {token : Token} (visible : isSpace head = false)
    (scanned : Token.scan limits.digits head (tail ++ rest) = (token, tail.length))
    (stepped : state.step limits position token = .ok next) :
    state.run limits 0 position (head :: (tail ++ rest)) =
      next.run limits 0 (position + (head :: tail).length) rest := by
  rw [State.run, visible, scanned]
  simp only [Bool.false_eq_true, if_false, stepped]
  rw [run_skip, List.length_cons, Nat.add_assoc, Nat.add_comm 1]

/-- What a run to a value does first: it goes past a blank, or it takes a token. -/
theorem run_cons_eq_ok {limits : Limits} {state : State} {position : Nat} {c : Code} {rest : Text}
    {v : Value} (ran : state.run limits 0 position (c :: rest) = .ok v) :
    (isSpace c = true ∧ state.run limits 0 (position + 1) rest = .ok v) ∨
      ∃ (token : Token) (more : Nat) (next : State), isSpace c = false ∧
        Token.scan limits.digits c rest = (token, more) ∧
        state.step limits position token = .ok next ∧
        next.run limits more (position + 1) rest = .ok v := by
  rw [State.run] at ran
  split at ran
  · rename_i blank
    exact .inl ⟨blank, ran⟩
  · rename_i visible
    cases scanned : Token.scan limits.digits c rest with
    | mk token more =>
        simp only [scanned] at ran
        split at ran
        · rename_i next stepped
          exact .inr ⟨token, more, next, Bool.eq_false_iff.2 visible, rfl, stepped, ran⟩
        · cases ran

theorem eq_of_enter {limits : Limits} {shape : Shape} {stack : List Frame} {state next : State}
    (entered : State.enter limits shape stack state = .ok next) : next = state := by
  unfold State.enter at entered
  split at entered
  · cases entered
  · exact (Except.ok.inj entered).symm

/-- A state in which a value has to come, with the containers around that value. -/
def State.AwaitsValue (state : State) (stack : List Frame) : Prop :=
  ∀ (limits : Limits) (position : Nat) (token : Token), token ≠ .endList →
    state.step limits position token = State.readValue limits stack position token

/-- A state in which a name has to come, with the entries before it. -/
def State.AwaitsName (state : State) (entries : Entries) (stack : List Frame) : Prop :=
  ∀ (limits : Limits) (position : Nat) (token : Token), token ≠ .endMap →
    state.step limits position token = State.readName entries stack position token

theorem awaitsValue_value (stack : List Frame) : (State.value stack).AwaitsValue stack :=
  fun _ _ _ _ => rfl

theorem awaitsValue_firstItem (stack : List Frame) :
    (State.firstItem stack).AwaitsValue (.list [] :: stack) := by
  intro limits position token other
  cases token with
  | endList => exact absurd rfl other
  | _ => rfl

theorem awaitsName_nextName (entries : Entries) (stack : List Frame) :
    (State.nextName entries stack).AwaitsName entries stack :=
  fun _ _ _ _ => rfl

theorem awaitsName_firstName (stack : List Frame) :
    (State.firstName stack).AwaitsName [] stack := by
  intro limits position token other
  cases token with
  | endMap => exact absurd rfl other
  | _ => rfl

end Json

end AdmissionGate
