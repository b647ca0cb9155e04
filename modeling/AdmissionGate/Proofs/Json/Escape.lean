/-
# AdmissionGate.Proofs.Json.Escape -- texts written in quotes and scanned

A code point takes one of four forms inside quotes (`escapeCode_cases`): a letter
after a backslash, itself, one escape of four digits, or two of them for the
halves of a code point past the first plane.  Each form is one piece, except that
a high half takes the low half behind it along; so what is scanned is the text
with its pairs merged (`scanText_writeText`), for any text and whatever follows
the closing quote.
-/
import AdmissionGate.Json.Token
import AdmissionGate.Proofs.Json.Normal

namespace AdmissionGate

set_option autoImplicit false

namespace Code

theorem val_ofNat {n : Nat} (small : n < 0x110000) : (ofNat n).val = n :=
  Nat.mod_eq_of_lt small

theorem ofNat_val (c : Code) : ofNat c.val = c :=
  Fin.ext (val_ofNat c.isLt)

theorem isHighSurrogate_iff (c : Code) :
    c.isHighSurrogate = true ↔ 0xD800 ≤ c.val ∧ c.val < 0xDC00 := by
  simp [isHighSurrogate]

theorem isLowSurrogate_iff (c : Code) :
    c.isLowSurrogate = true ↔ 0xDC00 ≤ c.val ∧ c.val < 0xE000 := by
  simp [isLowSurrogate]

theorem hexDigit?_ofHexDigit {d : Nat} (small : d < 16) : (ofHexDigit d).hexDigit? = some d := by
  have digits : ∀ d : Fin 16, (ofHexDigit d.val).hexDigit? = some d.val := by decide
  exact digits ⟨d, small⟩

end Code

namespace Json

/-! ## One escape -/

theorem hex_four (n : Nat) :
    Text.hex 4 n = [Code.ofHexDigit (n / 16 / 16 / 16 % 16), Code.ofHexDigit (n / 16 / 16 % 16),
      Code.ofHexDigit (n / 16 % 16), Code.ofHexDigit (n % 16)] := rfl

theorem hexCode?_hex {n : Nat} (small : n < 0x10000) {rest : Text} (more : rest ≠ []) :
    hexCode? (Text.hex 4 n ++ rest) = some (Code.ofNat n, rest) := by
  obtain ⟨next, t, rfl⟩ := List.exists_cons_of_ne_nil more
  have sum : (n / 16 / 16 / 16 % 16 * 16 + n / 16 / 16 % 16) * 256 + n / 16 % 16 * 16 +
      n % 16 = n := by
    omega
  simp only [hex_four, List.cons_append, List.nil_append, hexCode?,
    Code.hexDigit?_ofHexDigit (Nat.mod_lt _ (by decide : 0 < 16)), Option.bind_eq_bind,
    Option.bind_some, sum, Option.pure_def]

theorem escapeUnit_eq (n : Nat) :
    escapeUnit n = ('\\' : Code) :: ('u' : Code) :: Text.hex 4 n := rfl

theorem lowHalf?_escapeUnit {n : Nat} (small : n < 0x10000) {rest : Text} (more : rest ≠ []) :
    lowHalf? (escapeUnit n ++ rest) =
      if (Code.ofNat n).isLowSurrogate then some (Code.ofNat n) else none := by
  rw [escapeUnit_eq, List.cons_append, List.cons_append]
  simp only [lowHalf?, and_self, if_true, hexCode?_hex small more]

def highHalf (c : Code) : Nat := 0xD800 + (c.val - 0x10000) / 0x400

def lowHalf (c : Code) : Nat := 0xDC00 + (c.val - 0x10000) % 0x400

theorem highHalf_bounds {c : Code} (large : 0x10000 ≤ c.val) :
    0xD800 ≤ highHalf c ∧ highHalf c < 0xDC00 := by
  have bound := c.isLt
  unfold highHalf
  omega

theorem lowHalf_bounds (c : Code) : 0xDC00 ≤ lowHalf c ∧ lowHalf c < 0xE000 := by
  unfold lowHalf
  omega

theorem isHighSurrogate_highHalf {c : Code} (large : 0x10000 ≤ c.val) :
    (Code.ofNat (highHalf c)).isHighSurrogate = true := by
  obtain ⟨low, high⟩ := highHalf_bounds large
  rw [Code.isHighSurrogate_iff, Code.val_ofNat (by omega)]
  exact ⟨low, high⟩

theorem isLowSurrogate_lowHalf (c : Code) :
    (Code.ofNat (lowHalf c)).isLowSurrogate = true := by
  obtain ⟨low, high⟩ := lowHalf_bounds c
  rw [Code.isLowSurrogate_iff, Code.val_ofNat (by omega)]
  exact ⟨low, high⟩

theorem ofSurrogates_halves {c : Code} (large : 0x10000 ≤ c.val) :
    Code.ofSurrogates (Code.ofNat (highHalf c)) (Code.ofNat (lowHalf c)) = c := by
  have bound := c.isLt
  have high := highHalf_bounds large
  have low := lowHalf_bounds c
  apply Fin.ext
  simp only [Code.ofSurrogates]
  rw [Code.val_ofNat (by omega), Code.val_ofNat (by omega)]
  unfold highHalf lowHalf
  omega

/-- The four forms that a code point takes inside quotes. -/
theorem escapeCode_cases (c : Code) :
    (∃ letter : Code, escapeCode c = [('\\' : Code), letter] ∧ letter ≠ ('u' : Code) ∧
        escaped? letter = some c ∧ c.val < 0x7F) ∨
      (escapeCode c = [c] ∧ c ≠ ('"' : Code) ∧ c ≠ ('\\' : Code) ∧ 0x20 ≤ c.val ∧ c.val < 0x7F) ∨
      (escapeCode c = escapeUnit c.val ∧ c.val < 0x10000) ∨
      (escapeCode c = escapeUnit (highHalf c) ++ escapeUnit (lowHalf c) ∧ 0x10000 ≤ c.val) := by
  by_cases quote : c = ('"' : Code)
  · subst quote; exact .inl ⟨'"', rfl, by decide, rfl, by decide⟩
  by_cases backslash : c = ('\\' : Code)
  · subst backslash; exact .inl ⟨'\\', rfl, by decide, rfl, by decide⟩
  by_cases newline : c = ('\n' : Code)
  · subst newline; exact .inl ⟨'n', rfl, by decide, rfl, by decide⟩
  by_cases carriage : c = ('\r' : Code)
  · subst carriage; exact .inl ⟨'r', rfl, by decide, rfl, by decide⟩
  by_cases tab : c = ('\t' : Code)
  · subst tab; exact .inl ⟨'t', rfl, by decide, rfl, by decide⟩
  by_cases feed : c = ('\x0c' : Code)
  · subst feed; exact .inl ⟨'f', rfl, by decide, rfl, by decide⟩
  by_cases back : c = ('\x08' : Code)
  · subst back; exact .inl ⟨'b', rfl, by decide, rfl, by decide⟩
  unfold escapeCode
  rw [if_neg quote, if_neg backslash, if_neg newline, if_neg carriage, if_neg tab, if_neg feed,
    if_neg back]
  by_cases plain : 0x20 ≤ c.val ∧ c.val < 0x7F
  · rw [if_pos plain]
    exact .inr (.inl ⟨rfl, quote, backslash, plain⟩)
  rw [if_neg plain]
  by_cases small : c.val < 0x10000
  · rw [if_pos small]
    exact .inr (.inr (.inl ⟨rfl, small⟩))
  · rw [if_neg small]
    exact .inr (.inr (.inr ⟨rfl, Nat.not_lt.1 small⟩))

/-- A code point that is no low half does not complete a pair. -/
theorem lowHalf?_escapeCode {c : Code} (single : c.isLowSurrogate = false) {rest : Text}
    (more : rest ≠ []) : lowHalf? (escapeCode c ++ rest) = none := by
  rcases escapeCode_cases c with ⟨letter, form, other, -⟩ | ⟨form, -, other, -⟩ | ⟨form, small⟩ |
    ⟨form, large⟩
  · rw [form]
    simp [lowHalf?, other]
  · rw [form]
    cases rest with
    | nil => exact absurd rfl more
    | cons next t => simp [lowHalf?, other]
  · rw [form, lowHalf?_escapeUnit small more, Code.ofNat_val, single]
    rfl
  · have high := highHalf_bounds large
    have half : (Code.ofNat (highHalf c)).isLowSurrogate = false := by
      rw [Bool.eq_false_iff, Ne, Code.isLowSurrogate_iff, Code.val_ofNat (by omega)]
      omega
    have follows : escapeUnit (lowHalf c) ++ rest ≠ [] := List.cons_ne_nil _ _
    rw [form, List.append_assoc, lowHalf?_escapeUnit (by omega) follows, half]
    rfl

/-- A high half with what follows it is read alone, unless a low half follows. -/
theorem piece_escapeUnit {n : Nat} (small : n < 0x10000) {rest : Text} (more : rest ≠ [])
    (alone : (Code.ofNat n).isHighSurrogate = true → lowHalf? rest = none) :
    piece '\\' (('u' : Code) :: (Text.hex 4 n ++ rest)) = .code (Code.ofNat n) 5 := by
  unfold piece
  rw [if_neg (by decide), if_pos rfl]
  simp only [if_true, hexCode?_hex small more]
  split
  · rename_i high
    rw [alone high]
  · rfl

/-- The escapes of two halves are one piece. -/
theorem piece_pair {high low : Nat} (isHigh : (Code.ofNat high).isHighSurrogate = true)
    (isLow : (Code.ofNat low).isLowSurrogate = true) (smallHigh : high < 0x10000)
    (smallLow : low < 0x10000) {rest : Text} (more : rest ≠ []) :
    piece '\\' (('u' : Code) :: (Text.hex 4 high ++ (escapeUnit low ++ rest))) =
      .code (Code.ofSurrogates (Code.ofNat high) (Code.ofNat low)) 11 := by
  have follows : escapeUnit low ++ rest ≠ [] := List.cons_ne_nil _ _
  unfold piece
  rw [if_neg (by decide), if_pos rfl]
  simp only [if_true, hexCode?_hex smallHigh follows, isHigh, lowHalf?_escapeUnit smallLow more,
    isLow]

/-! ## A text in quotes -/

theorem scanText_skip (xs : Text) (offset : Nat) (read rest : Text) :
    scanText xs.length offset read (xs ++ rest) = scanText 0 (offset + xs.length) read rest := by
  induction xs generalizing offset with
  | nil => rfl
  | cons x xs ih =>
      simp only [List.length_cons, List.cons_append, scanText]
      rw [ih, Nat.add_assoc, Nat.add_comm 1]

/-- A piece is passed over as a whole. -/
theorem scanText_piece {head : Code} (tail : Text) {rest : Text} {c : Code}
    (found : piece head (tail ++ rest) = .code c tail.length) (offset : Nat) (read : Text) :
    scanText 0 offset read (head :: (tail ++ rest)) =
      scanText 0 (offset + (tail.length + 1)) (c :: read) rest := by
  simp only [scanText, found]
  rw [scanText_skip, Nat.add_assoc, Nat.add_comm 1]

/-- One code point, written and read, unless it is a high half with a low one behind it. -/
theorem scanText_escapeCode {c : Code} {rest : Text} (more : rest ≠ [])
    (alone : c.isHighSurrogate = true → lowHalf? rest = none) (offset : Nat) (read : Text) :
    scanText 0 offset read (escapeCode c ++ rest) =
      scanText 0 (offset + (escapeCode c).length) (c :: read) rest := by
  rcases escapeCode_cases c with ⟨letter, form, other, named, -⟩ |
    ⟨form, quote, backslash, low, high⟩ | ⟨form, small⟩ | ⟨form, large⟩
  · have found : piece '\\' ([letter] ++ rest) = .code c [letter].length := by
      unfold piece
      rw [if_neg (by decide), if_pos rfl]
      simp [other, named]
    rw [form]
    exact scanText_piece [letter] found offset read
  · have found : piece c ([] ++ rest) = .code c ([] : Text).length := by
      simp [piece, quote, backslash, Nat.not_lt.2 low]
    rw [form]
    exact scanText_piece [] found offset read
  · have found := piece_escapeUnit (n := c.val) small more (by rwa [Code.ofNat_val])
    rw [Code.ofNat_val] at found
    rw [form, escapeUnit_eq]
    exact scanText_piece (('u' : Code) :: Text.hex 4 c.val) found offset read
  · have high := highHalf_bounds large
    have low := lowHalf_bounds c
    have found := piece_pair (isHighSurrogate_highHalf large) (isLowSurrogate_lowHalf c)
      (by omega) (by omega) more
    rw [ofSurrogates_halves large, ← List.append_assoc] at found
    rw [form, escapeUnit_eq (highHalf c)]
    exact scanText_piece (('u' : Code) :: (Text.hex 4 (highHalf c) ++ escapeUnit (lowHalf c)))
      found offset read

theorem escapeCode_of_surrogate {c : Code} (low : 0xD800 ≤ c.val) (high : c.val < 0xE000) :
    escapeCode c = escapeUnit c.val := by
  rcases escapeCode_cases c with ⟨letter, -, -, -, small⟩ | ⟨-, -, -, -, small⟩ | ⟨form, -⟩ |
    ⟨-, large⟩
  · omega
  · omega
  · exact form
  · omega

/-- A high half with a low one behind it, written and read. -/
theorem scanText_pair {c d : Code} (isHigh : c.isHighSurrogate = true)
    (isLow : d.isLowSurrogate = true) {rest : Text} (more : rest ≠ []) (offset : Nat)
    (read : Text) :
    scanText 0 offset read (escapeCode c ++ (escapeCode d ++ rest)) =
      scanText 0 (offset + ((escapeCode c).length + (escapeCode d).length))
        (Code.ofSurrogates c d :: read) rest := by
  have high := (Code.isHighSurrogate_iff c).1 isHigh
  have low := (Code.isLowSurrogate_iff d).1 isLow
  have isHigh : (Code.ofNat c.val).isHighSurrogate = true := by rwa [Code.ofNat_val]
  have isLow : (Code.ofNat d.val).isLowSurrogate = true := by rwa [Code.ofNat_val]
  have found := piece_pair isHigh isLow (by omega) (by omega) more
  rw [Code.ofNat_val, Code.ofNat_val, ← List.append_assoc] at found
  have formHigh : escapeCode c = ('\\' : Code) :: ('u' : Code) :: Text.hex 4 c.val :=
    escapeCode_of_surrogate (by omega) (by omega)
  have formLow : escapeCode d = escapeUnit d.val := escapeCode_of_surrogate (by omega) (by omega)
  rw [formHigh, formLow, ← List.append_assoc]
  exact scanText_piece (('u' : Code) :: (Text.hex 4 c.val ++ escapeUnit d.val)) found offset read

/-- A text in quotes is read as the text with its surrogate pairs merged, and nothing after the
closing quote is touched. -/
theorem scanText_writeText (t : Text) (offset : Nat) (read rest : Text) :
    scanText 0 offset read (t.flatMap escapeCode ++ ('"' : Code) :: rest) =
      (.text (read.reverse ++ merged t), offset + (t.flatMap escapeCode).length) := by
  have quote : lowHalf? (('"' : Code) :: rest) = none := by
    cases rest with
    | nil => rfl
    | cons next t => rw [lowHalf?, if_neg (fun both => absurd both.1 (by decide))]
  induction t using merged.induct generalizing offset read with
  | case1 =>
      have closes : piece '"' rest = .close := rfl
      simp only [List.flatMap_nil, List.nil_append, scanText, closes, merged, List.append_nil,
        List.length_nil, Nat.add_zero]
  | case2 c =>
      have closes : piece '"' rest = .close := rfl
      rw [List.flatMap_singleton, scanText_escapeCode (List.cons_ne_nil _ _) (fun _ => quote)]
      simp only [scanText, closes, merged, List.reverse_cons]
  | case3 c d t pair ih =>
      obtain ⟨isHigh, isLow⟩ := Bool.and_eq_true_iff.1 pair
      have more : t.flatMap escapeCode ++ ('"' : Code) :: rest ≠ [] := by simp
      rw [List.flatMap_cons, List.flatMap_cons, List.append_assoc, List.append_assoc,
        scanText_pair isHigh isLow more, ih]
      simp only [merged, pair, if_true, List.reverse_cons, List.append_assoc,
        List.singleton_append, List.length_append, Nat.add_assoc]
  | case4 c d t single ih =>
      have more : (d :: t).flatMap escapeCode ++ ('"' : Code) :: rest ≠ [] := by simp
      have alone : c.isHighSurrogate = true →
          lowHalf? ((d :: t).flatMap escapeCode ++ ('"' : Code) :: rest) = none := by
        intro isHigh
        have notLow : d.isLowSurrogate = false := by
          rw [isHigh, Bool.true_and] at single
          exact Bool.eq_false_iff.2 single
        rw [List.flatMap_cons, List.append_assoc]
        exact lowHalf?_escapeCode notLow (by simp)
      rw [List.flatMap_cons, List.append_assoc, scanText_escapeCode more alone, ih]
      simp only [merged, if_neg single, List.reverse_cons, List.append_assoc,
        List.singleton_append, List.length_append, Nat.add_assoc]

end Json

end AdmissionGate
