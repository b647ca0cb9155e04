/-
# AdmissionGate.Proofs.Json.Spelled -- texts that spell a value

`Spelled v t` is what the writer and the reader agree on about one value: `t` is
what `v` is written as, it is printable ASCII, and wherever a value may stand the
reader passes over it and goes on as after the value `normal v`.  The stack of the
reader, the position and what follows are arbitrary, as far as a delimiter
follows and the containers of the value still fit in.

Here are the values that are one token.
-/
import AdmissionGate.Proofs.Json.Digits
import AdmissionGate.Proofs.Json.Escape
import AdmissionGate.Proofs.Json.Run

namespace AdmissionGate

set_option autoImplicit false

namespace Json

/-! ## A text that spells a value -/

/-- Wherever a value may stand that opens so many containers, the text is read as that value. -/
def ReadsAs (limits : Limits) (t : Text) (v : Value) (levels : Nat) : Prop :=
  ∀ (state : State) (stack : List Frame) (position : Nat) (rest : Text), state.AwaitsValue stack →
    stack.length + levels ≤ limits.depth → Closed rest →
      state.run limits 0 position (t ++ rest) =
        (State.complete v stack).run limits 0 (position + t.length) rest

/-- The text that a value is written as, and read back from. -/
structure Spelled (v : Value) (t : Text) : Prop where
  written : write v = .ok t
  plain : t.Plain
  reads : ∀ limits : Limits, Integer.maxDigits ≤ limits.digits →
    ReadsAs limits t (normal v) (depth v)

/-- A value that is one token is read wherever a value may stand. -/
theorem readsAs_token {limits : Limits} {head : Code} {tail : Text} {token : Token} {v : Value}
    (levels : Nat) (visible : isSpace head = false)
    (scanned : ∀ rest, Closed rest →
      Token.scan limits.digits head (tail ++ rest) = (token, tail.length))
    (whole : token = .scalar v ∨ ∃ t, token = .text t ∧ v = .text t) :
    ReadsAs limits (head :: tail) v levels := by
  intro state stack position rest awaits _ closed
  refine run_token tail rest visible (scanned rest closed) ?_
  rcases whole with rfl | ⟨t, rfl, rfl⟩
  · exact awaits limits position _ (by simp)
  · exact awaits limits position _ (by simp)

theorem scan_writeText (maxDigits : Nat) (t rest : Text) :
    Token.scan maxDigits '"' ((t.flatMap escapeCode ++ [('"' : Code)]) ++ rest) =
      (.text (merged t), (t.flatMap escapeCode ++ [('"' : Code)]).length) := by
  have scanned := scanText_writeText t 1 [] rest
  rw [List.append_assoc, List.length_append, List.length_singleton, Nat.add_comm _ 1]
  show ((scanText 0 1 [] _).1, (scanText 0 1 [] _).2) = _
  rw [List.singleton_append, scanned, List.reverse_nil, List.nil_append]

theorem plain_escapeUnit (n : Nat) : (escapeUnit n).Plain :=
  Text.plain_append.2 ⟨by decide, Text.plain_hex 4 n⟩

theorem plain_escapeCode (c : Code) : (escapeCode c).Plain := by
  rcases escapeCode_cases c with ⟨letter, form, -, named, -⟩ | ⟨form, -, -, bounds⟩ | ⟨form, -⟩ |
    ⟨form, -⟩
  · have letters : letter = '"' ∨ letter = '\\' ∨ letter = '/' ∨ letter = 'b' ∨ letter = 'f' ∨
        letter = 'n' ∨ letter = 'r' ∨ letter = 't' := by
      unfold escaped? at named
      grind
    rw [form]
    rcases letters with rfl | rfl | rfl | rfl | rfl | rfl | rfl | rfl <;> decide
  · rw [form]
    exact Text.plain_cons.2 ⟨bounds, Text.plain_nil⟩
  · rw [form]
    exact plain_escapeUnit _
  · rw [form]
    exact Text.plain_append.2 ⟨plain_escapeUnit _, plain_escapeUnit _⟩

theorem plain_writeText (t : Text) : (writeText t).Plain :=
  Text.plain_cons.2 ⟨by decide,
    Text.plain_append.2 ⟨Text.plain_flatMap fun c _ => plain_escapeCode c, by decide⟩⟩

/-- A text in quotes stands for the text with its surrogate pairs merged. -/
theorem readsAs_writeText (limits : Limits) (t : Text) (levels : Nat) :
    ReadsAs limits (writeText t) (.text (merged t)) levels :=
  readsAs_token levels rfl (fun rest _ => scan_writeText limits.digits t rest)
    (.inr ⟨merged t, rfl, rfl⟩)

theorem spelled_text (t : Text) : Spelled (.text t) (writeText t) where
  written := rfl
  plain := plain_writeText t
  reads := fun limits _ => readsAs_writeText limits t 0

theorem spelled_null : Spelled .null "null" where
  written := rfl
  plain := by decide
  reads := fun _ _ => readsAs_token 0 rfl (fun _ _ => rfl) (.inl rfl)

theorem spelled_bool (b : Bool) : Spelled (.bool b) (if b then "true" else "false") := by
  cases b with
  | false =>
      exact ⟨rfl, by decide, fun _ _ => readsAs_token 0 rfl (fun _ _ => rfl) (.inl rfl)⟩
  | true =>
      exact ⟨rfl, by decide, fun _ _ => readsAs_token 0 rfl (fun _ _ => rfl) (.inl rfl)⟩

/-! ## Integers, dates, times and byte strings -/

theorem ofInt_cons (n : Int) :
    ∃ head tail, Text.ofInt n = head :: tail ∧ (head = ('-' : Code) ∨ head.isDigit = true) := by
  cases n with
  | ofNat n =>
      cases shape : Text.ofNat n with
      | nil => exact absurd shape (Text.ofNat_ne_nil n)
      | cons c t =>
          exact ⟨c, t, shape, .inr (Text.isDigit_of_mem_ofNat (n := n) (by simp [shape]))⟩
  | negSucc n => exact ⟨'-', Text.ofNat (n + 1), rfl, .inl rfl⟩

/-- A sign or a digit starts a word or a number and no other token. -/
theorem scan_of_sign_or_digit {head : Code} (start : head = ('-' : Code) ∨ head.isDigit = true)
    (maxDigits : Nat) (rest : Text) :
    isSpace head = false ∧
      Token.scan maxDigits head rest = scanScalar maxDigits (head :: rest) := by
  rcases start with rfl | digit
  · exact ⟨rfl, rfl⟩
  · have other : ∀ c : Code, c.isDigit = false → head ≠ c := by
      intro c notDigit same
      simp [same, notDigit] at digit
    refine ⟨?_, ?_⟩
    · simp [isSpace, other ' ' rfl, other '\t' rfl, other '\n' rfl, other '\r' rfl]
    · unfold Token.scan
      rw [if_neg (other '[' rfl), if_neg (other ']' rfl), if_neg (other '\x7b' rfl),
        if_neg (other '\x7d' rfl), if_neg (other ',' rfl), if_neg (other ':' rfl),
        if_neg (other '"' rfl)]

theorem spelled_int {n : Int} (short : isShort n = true) : Spelled (.int n) (Text.ofInt n) := by
  refine ⟨writeInt_of_isShort short, Text.plain_ofInt n, fun limits digits => ?_⟩
  obtain ⟨head, tail, shape, start⟩ := ofInt_cons n
  have bound : (Text.ofNat n.natAbs).length ≤ limits.digits :=
    Nat.le_trans (of_decide_eq_true short) digits
  rw [shape]
  refine readsAs_token 0 (scan_of_sign_or_digit start 0 []).1 (fun rest closed => ?_) (.inl rfl)
  have scanned := scanScalar_ofInt bound closed
  rw [shape, List.cons_append] at scanned
  rw [(scan_of_sign_or_digit start limits.digits _).2, scanned]
  rfl

/-- A text without surrogate halves has nothing to merge. -/
theorem merged_of_plain {t : Text} (plain : t.Plain) : merged t = t := by
  induction t using merged.induct with
  | case1 => rfl
  | case2 c => rfl
  | case3 c d t pair _ =>
      have bounds := (Text.plain_cons.1 plain).1
      have high := (Code.isHighSurrogate_iff c).1 (Bool.and_eq_true_iff.1 pair).1
      omega
  | case4 c d t single ih =>
      rw [merged, if_neg single, ih (Text.plain_cons.1 plain).2]

/-- A value that is written as the text it is displayed as. -/
theorem spelled_displayed {v : Value} {t : Text} (written : write v = writeDisplayed v)
    (displayed : v.display = .ok t) (kept : normal v = .text t) (plain : t.Plain) :
    Spelled v (writeText t) where
  written := by rw [written, writeDisplayed, displayed]
  plain := plain_writeText t
  reads := by
    intro limits _
    have reads := readsAs_writeText limits t (depth v)
    rwa [merged_of_plain plain, ← kept] at reads

end Json

end AdmissionGate
