/-
# AdmissionGate.Proofs.Json.Frame -- a document ends where it ends

The reader takes a document for what it is, whatever stands behind it: a run that
ends in a map passes over the same text in front of any other, and is done where
that text ends (`run_append`).  Every token but the last is followed by more of the
document, so it is no longer than it was; the last one is the brace of the map.

So blanks behind a document change nothing, and anything else is extra data where
the first of it stands (`read_blanks`, `read_extra`).
-/
import AdmissionGate.Proofs.Json.Run
import AdmissionGate.Proofs.Json.Scan
import Mathlib.Data.List.TakeWhile

namespace AdmissionGate

set_option autoImplicit false

namespace Json

/-! ## The end of a text -/

theorem finish_eq_ok {state : State} {position : Nat} {v : Value}
    (finished : state.finish position = .ok v) : state = .done v := by
  cases state with
  | done w =>
      cases finished
      rfl
  | _ => cases finished

theorem run_of_length_le {limits : Limits} {state : State} {skip : Nat} {t : Text}
    (skips : t.length ≤ skip) (position : Nat) :
    state.run limits skip position t = state.finish (position + t.length) := by
  induction t generalizing skip position with
  | nil => rw [State.run]; rfl
  | cons c rest ih =>
      cases skip with
      | zero => exact absurd skips (Nat.not_succ_le_zero _)
      | succ skip =>
          rw [State.run, ih (Nat.le_of_succ_le_succ skips), List.length_cons, Nat.add_assoc,
            Nat.add_comm 1]

/-! ## Behind a document -/

theorem run_done_blanks (limits : Limits) (v : Value) {s : Text}
    (blank : ∀ c ∈ s, isSpace c = true) (position : Nat) :
    (State.done v).run limits 0 position s = .ok v := by
  induction s generalizing position with
  | nil => rfl
  | cons c s ih =>
      obtain ⟨head, tail⟩ := List.forall_mem_cons.1 blank
      rw [State.run, if_pos head, ih tail]

theorem run_done_extra (limits : Limits) (v : Value) {blanks : Text}
    (blank : ∀ c ∈ blanks, isSpace c = true) {c : Code} (visible : isSpace c = false) (rest : Text)
    (position : Nat) :
    (State.done v).run limits 0 position (blanks ++ c :: rest) =
      .error (.unexpected .extraData (position + blanks.length)) := by
  induction blanks generalizing position with
  | nil =>
      rw [List.nil_append, State.run, if_neg (by simp [visible])]
      rfl
  | cons b blanks ih =>
      obtain ⟨head, tail⟩ := List.forall_mem_cons.1 blank
      rw [List.cons_append, State.run, if_pos head, ih tail, List.length_cons, Nat.add_assoc,
        Nat.add_comm 1]

theorem eq_of_run_done {limits : Limits} {v w : Value} {skip position : Nat} {t : Text}
    (ran : (State.done v).run limits skip position t = .ok w) : w = v := by
  induction t generalizing skip position with
  | nil =>
      cases finish_eq_ok (by simpa only [State.run] using ran)
      rfl
  | cons c rest ih =>
      cases skip with
      | succ skip => exact ih (by simpa only [State.run] using ran)
      | zero =>
          rw [State.run] at ran
          split at ran
          · exact ih ran
          · cases ran

/-! ## Steps -/

theorem complete_eq_done {v w : Value} {stack : List Frame}
    (done : State.complete v stack = .done w) : v = w := by
  cases stack with
  | nil =>
      cases done
      rfl
  | cons frame stack => cases frame <;> cases done

theorem not_isFault_of_step {limits : Limits} {state next : State} {position : Nat} {token : Token}
    (stepped : state.step limits position token = .ok next) : ¬ token.IsFault := by
  intro fault
  cases token with
  | badText trouble offset => cases state <;> cases stepped
  | longInteger digits => cases state <;> cases stepped
  | stray => cases state <;> cases stepped
  | _ => exact fault

/-- A word or a number stands for a value. -/
theorem exists_complete_of_step {limits : Limits} {state next : State} {position : Nat} {v : Value}
    (stepped : state.step limits position (.scalar v) = .ok next) :
    ∃ stack, next = State.complete v stack := by
  cases state with
  | value stack =>
      cases stepped
      exact ⟨_, rfl⟩
  | firstItem stack =>
      cases stepped
      exact ⟨_, rfl⟩
  | _ => cases stepped

/-- Behind a value in a container stands a comma or the end of the container. -/
theorem follows_of_step {limits : Limits} {v : Value} {frame : Frame} {stack : List Frame}
    {next : State} {position : Nat} {token : Token}
    (stepped : (State.complete v (frame :: stack)).step limits position token = .ok next) :
    token.Follows := by
  cases frame with
  | list items => cases token <;> trivial
  | map entries name => cases token <;> trivial

/-- No token but a brace completes a map. -/
theorem eq_endMap_of_step {limits : Limits} {state : State} {position : Nat} {token : Token}
    {entries : Entries} (scalar : ∀ v, token = .scalar v → v ≠ .map entries)
    (stepped : state.step limits position token = .ok (.done (.map entries))) :
    token = .endMap := by
  have value (stack : List Frame) :
      State.readValue limits stack position token ≠ .ok (.done (.map entries)) := by
    intro read
    cases token with
    | beginList => cases eq_of_enter read
    | beginMap => cases eq_of_enter read
    | text t => cases complete_eq_done (Except.ok.inj read)
    | scalar v => exact scalar v rfl (complete_eq_done (Except.ok.inj read))
    | _ => cases read
  have name (done : Entries) (stack : List Frame) :
      State.readName done stack position token ≠ .ok (.done (.map entries)) := by
    intro read
    cases token <;> cases read
  cases state with
  | value stack => exact absurd stepped (value stack)
  | firstItem stack =>
      cases token with
      | endList => cases complete_eq_done (Except.ok.inj stepped)
      | _ => exact absurd stepped (value (.list [] :: stack))
  | afterItem items stack =>
      cases token with
      | endList => cases complete_eq_done (Except.ok.inj stepped)
      | _ => cases stepped
  | firstName stack =>
      cases token with
      | endMap => rfl
      | _ => exact absurd stepped (name [] stack)
  | nextName done stack => exact absurd stepped (name _ _)
  | colon done name stack => cases token <;> cases stepped
  | afterEntry done stack =>
      cases token with
      | endMap => rfl
      | _ => cases stepped
  | done v => cases stepped

/-! ## Runs -/

/-- Behind a value that is no map a run that ends in a map comes to a stop: to a blank, to a comma
or to the end of the container of the value. -/
theorem exists_stop_of_run {limits : Limits} {v : Value} {stack : List Frame} {more position : Nat}
    {t : Text} {entries : Entries} (other : v ≠ .map entries)
    (ran : (State.complete v stack).run limits more position t = .ok (.map entries)) :
    ∃ x d u, t = x ++ d :: u ∧ isStop d = true := by
  cases stack with
  | nil => exact absurd (eq_of_run_done ran).symm other
  | cons frame stack =>
      by_cases ends : t.length ≤ more
      · rw [run_of_length_le ends] at ran
        exact absurd (complete_eq_done (finish_eq_ok ran)) other
      · obtain ⟨d, u, shape⟩ : ∃ d u, t.drop more = d :: u :=
          List.exists_cons_of_ne_nil fun none => ends (List.drop_eq_nil_iff.1 none)
        have width : (t.take more).length = more := List.length_take_of_le (by omega)
        refine ⟨t.take more, d, u, by rw [← shape, List.take_append_drop], ?_⟩
        rw [← List.take_append_drop more t, shape] at ran
        generalize t.take more = x at width ran
        subst width
        rw [run_skip] at ran
        rcases run_cons_eq_ok ran with ⟨blank, -⟩ | ⟨token, next, after, -, scanned, stepped, -⟩
        · simp [isStop, blank]
        · exact (isStop_of_scan scanned (follows_of_step stepped)).1

/-- A token that a run to a map goes on from is inside the text, and the same whatever stands behind
the text. -/
theorem scan_append_of_run {limits : Limits} {state next : State} {token : Token} {c : Code}
    {rest : Text} {position more : Nat} {entries : Entries}
    (scanned : Token.scan limits.digits c rest = (token, more))
    (stepped : state.step limits position token = .ok next)
    (ran : next.run limits more (position + 1) rest = .ok (.map entries)) (s : Text) :
    Token.scan limits.digits c (rest ++ s) = (token, more) ∧ more ≤ rest.length := by
  have scalar : ∀ v, token = .scalar v → v ≠ .map entries := by
    rintro v rfl
    exact ne_map_of_scan scanned entries
  constructor
  · refine scan_append scanned (not_isFault_of_step stepped) ?_ s
    rintro ⟨v, rfl⟩
    obtain ⟨stack, rfl⟩ := exists_complete_of_step stepped
    exact exists_stop_of_run (scalar v rfl) ran
  · by_contra outside
    have ends : rest.length ≤ more := by omega
    rw [run_of_length_le ends] at ran
    rw [finish_eq_ok ran] at stepped
    have last := eq_endMap_of_step scalar stepped
    have width := (isStop_of_scan scanned (by rw [last]; trivial)).2
    omega

/-- **A run that ends in a map is done where its text ends, whatever stands behind it.** -/
theorem run_append {limits : Limits} {skip position : Nat} {state : State} {t : Text}
    {entries : Entries} (ran : state.run limits skip position t = .ok (.map entries))
    (inside : skip ≤ t.length) (s : Text) :
    state.run limits skip position (t ++ s) =
      (State.done (.map entries)).run limits 0 (position + t.length) s := by
  induction t generalizing skip position state with
  | nil =>
      cases Nat.le_zero.1 inside
      have done : state = .done (.map entries) := finish_eq_ok (by simpa only [State.run] using ran)
      rw [done]
      rfl
  | cons c rest ih =>
      have further : ∀ {more : Nat} {next : State},
          next.run limits more (position + 1) rest = .ok (.map entries) → more ≤ rest.length →
            next.run limits more (position + 1) (rest ++ s) =
              (State.done (.map entries)).run limits 0 (position + (c :: rest).length) s := by
        intro more next ran within
        rw [ih ran within, List.length_cons, Nat.add_assoc, Nat.add_comm 1]
      cases skip with
      | succ skip =>
          rw [State.run] at ran
          rw [List.cons_append, State.run, further ran (Nat.le_of_succ_le_succ inside)]
      | zero =>
          rw [List.cons_append, State.run]
          rcases run_cons_eq_ok ran with ⟨blank, ran⟩ |
            ⟨token, more, next, visible, scanned, stepped, ran⟩
          · rw [if_pos blank]
            exact further ran (Nat.zero_le _)
          · obtain ⟨same, within⟩ := scan_append_of_run scanned stepped ran s
            simp only [visible, same, stepped]
            exact further ran within

/-- A map takes two code points at least. -/
theorem two_le_length_of_run {limits : Limits} {position : Nat} {t : Text} {entries : Entries}
    (ran : (State.value []).run limits 0 position t = .ok (.map entries)) : 2 ≤ t.length := by
  induction t generalizing position with
  | nil => cases ran
  | cons c rest ih =>
      rcases run_cons_eq_ok ran with ⟨-, ran⟩ | ⟨token, more, next, -, scanned, stepped, ran⟩
      · exact Nat.le_succ_of_le (ih ran)
      · cases rest with
        | nil =>
            rw [run_of_length_le (Nat.zero_le more)] at ran
            rw [finish_eq_ok ran] at stepped
            have last := eq_endMap_of_step (by rintro v rfl; exact ne_map_of_scan scanned _)
              stepped
            rw [last] at stepped
            cases stepped
        | cons d rest => exact Nat.le_add_left 2 _

/-! ## Documents -/

theorem read_eq_ok {limits : Limits} {t : Text} {v : Value} :
    read limits t = .ok v ↔ (State.value []).run limits 0 0 t = .ok v := by
  unfold read
  cases (State.value []).run limits 0 0 t with
  | ok w => simp
  | error refusal => simp

/-- A text is blank, or there is a first code point in it that is not. -/
theorem blank_or_visible (s : Text) :
    (∀ c ∈ s, isSpace c = true) ∨
      ∃ blanks c rest, s = blanks ++ c :: rest ∧ (∀ b ∈ blanks, isSpace b = true) ∧
        isSpace c = false := by
  induction s with
  | nil => exact .inl fun _ member => absurd member List.not_mem_nil
  | cons c s ih =>
      cases visible : isSpace c with
      | false => exact .inr ⟨[], c, s, rfl, fun _ member => absurd member List.not_mem_nil, visible⟩
      | true =>
          rcases ih with blank | ⟨blanks, d, rest, rfl, blank, first⟩
          · exact .inl (List.forall_mem_cons.2 ⟨visible, blank⟩)
          · exact .inr ⟨c :: blanks, d, rest, rfl, List.forall_mem_cons.2 ⟨visible, blank⟩, first⟩

/-- Blanks behind a document change nothing. -/
theorem read_blanks {limits : Limits} {t : Text} {entries : Entries}
    (reads : read limits t = .ok (.map entries)) {s : Text} (blank : ∀ c ∈ s, isSpace c = true) :
    read limits (t ++ s) = .ok (.map entries) := by
  rw [read_eq_ok] at reads ⊢
  rw [run_append reads (Nat.zero_le _), run_done_blanks limits _ blank]

/-- Anything else behind a document is extra data. -/
theorem read_extra {limits : Limits} {t : Text} {entries : Entries}
    (reads : read limits t = .ok (.map entries)) {blanks : Text}
    (blank : ∀ c ∈ blanks, isSpace c = true) {c : Code} (visible : isSpace c = false)
    (rest : Text) :
    read limits (t ++ (blanks ++ c :: rest)) =
      .error (Refusal.locate (t ++ (blanks ++ c :: rest))
        (.unexpected .extraData (t ++ blanks).length)) := by
  rw [read_eq_ok] at reads
  have ran := run_append reads (Nat.zero_le _) (blanks ++ c :: rest)
  rw [run_done_extra limits _ blank visible, Nat.zero_add, ← List.length_append] at ran
  rw [read, ran]

/-! ## Positions -/

/-- How far the end of a text is from its last newline; without one, as far as from a newline in
front of the text. -/
def IsColumn (t : Text) (column : Nat) : Prop :=
  (∃ before line : Text, t = before ++ ('\n' : Code) :: line ∧ ('\n' : Code) ∉ line ∧
      column = t.length - before.length) ∨
    ('\n' : Code) ∉ t ∧ column = t.length + 1

theorem lineAt_append (t u : Text) : lineAt (t ++ u) t.length = t.count ('\n' : Code) + 1 := by
  rw [lineAt, List.take_left]

theorem isColumn_columnAt (t u : Text) : IsColumn t (columnAt (t ++ u) t.length) := by
  rw [columnAt, List.take_left]
  by_cases newline : ('\n' : Code) ∈ t
  · obtain ⟨line, before, shape, last⟩ := List.eq_append_cons_of_mem (List.mem_reverse.2 newline)
    have text : t = before.reverse ++ ('\n' : Code) :: line.reverse := by
      rw [← List.reverse_inj, shape]
      simp
    have inLine : ∀ c ∈ line, decide (c ≠ ('\n' : Code)) = true := fun c member =>
      decide_eq_true fun same => last (same ▸ member)
    refine .inl ⟨before.reverse, line.reverse, text, by simpa using last, ?_⟩
    rw [shape, List.takeWhile_append_of_pos inLine, List.takeWhile_cons_of_neg (by simp), text]
    simp
  · have inText : ∀ c ∈ t.reverse, decide (c ≠ ('\n' : Code)) = true := fun c member =>
      decide_eq_true fun same => newline (same ▸ List.mem_reverse.1 member)
    refine .inr ⟨newline, ?_⟩
    rw [List.takeWhile_eq_self_iff.2 inText, List.length_reverse]

end Json

end AdmissionGate
