/-
# AdmissionGate.Proofs.Json.Scan -- how far a token looks ahead

A number or a word ends at the latest where a blank or a delimiter stands, and what
comes after that code point is nothing to it (`scanScalar_stop`).  A text ends at
its quote, and what comes after the quote is nothing to it (`scanText_append`): it
does look one escape ahead for the second half of a surrogate pair, but never over
the quote, since an escape that is cut off is a fault by itself.
-/
import AdmissionGate.Json.Token
import AdmissionGate.Proofs.Text.Plain
import Mathlib.Data.List.Find

namespace AdmissionGate

set_option autoImplicit false

namespace Json

/-! ## Words and numbers -/

/-- A code point at which words and numbers end: a blank, a comma or the end of a container. -/
def isStop (c : Code) : Bool := isSpace c || c = ',' || c = ']' || c = '\x7d'

theorem isStop_cases {c : Code} (stop : isStop c = true) :
    c = ' ' ∨ c = '\t' ∨ c = '\n' ∨ c = '\r' ∨ c = ',' ∨ c = ']' ∨ c = '\x7d' := by
  simpa [isStop, isSpace, or_assoc] using stop

/-- No part of a word or a number is a stop. -/
theorem ne_of_isStop {c d : Code} (stop : isStop d = true) (other : isStop c = false) : c ≠ d := by
  rintro rfl
  simp [stop] at other

theorem isDigit_of_isStop {d : Code} (stop : isStop d = true) : d.isDigit = false := by
  rcases isStop_cases stop with rfl | rfl | rfl | rfl | rfl | rfl | rfl <;> rfl

theorem toLower_of_isStop {d : Code} (stop : isStop d = true) : d.toLower = d := by
  rcases isStop_cases stop with rfl | rfl | rfl | rfl | rfl | rfl | rfl <;> rfl

theorem takeWhile_stop {p : Code → Bool} {d : Code} (stop : p d = false) (x u : Text) :
    (x ++ d :: u).takeWhile p = x.takeWhile p := by
  rw [List.takeWhile_append, List.takeWhile_cons_of_neg (by simp [stop]), List.append_nil]
  split
  · rename_i whole
    exact ((List.takeWhile_prefix p).eq_of_length whole).symm
  · rfl

theorem scanWhole_stop {d : Code} (stop : isStop d = true) (x u : Text) :
    scanWhole (x ++ d :: u) = scanWhole x := by
  cases x with
  | nil =>
      have zero : d ≠ '0' := (ne_of_isStop stop rfl).symm
      simp only [List.nil_append, scanWhole, if_neg zero]
      rw [List.takeWhile_cons_of_neg (by simp [isDigit_of_isStop stop])]
  | cons c x =>
      have digits := takeWhile_stop (isDigit_of_isStop stop) (c :: x) u
      simp only [List.cons_append, scanWhole] at digits ⊢
      rw [digits]

theorem scanFraction_stop {d : Code} (stop : isStop d = true) (x u : Text) :
    scanFraction (x ++ d :: u) = scanFraction x := by
  cases x with
  | nil =>
      have point : d ≠ '.' := (ne_of_isStop stop rfl).symm
      simp only [List.nil_append, scanFraction, if_neg point]
  | cons c x =>
      simp only [List.cons_append, scanFraction, takeWhile_stop (isDigit_of_isStop stop)]

theorem splitSign_stop {d : Code} (stop : isStop d = true) (x u : Text) :
    Integer.splitSign (x ++ d :: u) =
      ((Integer.splitSign x).1, (Integer.splitSign x).2 ++ d :: u) := by
  cases x with
  | nil =>
      have minus : d ≠ '-' := (ne_of_isStop stop rfl).symm
      have plus : d ≠ '+' := (ne_of_isStop stop rfl).symm
      simp only [List.nil_append, Integer.splitSign, if_neg minus, if_neg plus]
  | cons c x =>
      simp only [List.cons_append, Integer.splitSign]
      split
      · rfl
      split
      · rfl
      · rfl

theorem head?_stop {c d : Code} (stop : isStop d = true) (other : isStop c = false) (x u : Text) :
    (x ++ d :: u).head? = some c ↔ x.head? = some c := by
  cases x with
  | nil => simpa using (ne_of_isStop stop other).symm
  | cons b x => rfl

theorem scanExponent_stop {d : Code} (stop : isStop d = true) (x u : Text) :
    scanExponent (x ++ d :: u) = scanExponent x := by
  cases x with
  | nil =>
      have letter : d.toLower ≠ 'e' := by
        rw [toLower_of_isStop stop]
        exact (ne_of_isStop stop rfl).symm
      simp only [List.nil_append, scanExponent, if_neg letter]
  | cons c x =>
      have minus : (x ++ d :: u).head? = some '-' ↔ x.head? = some '-' := head?_stop stop rfl x u
      have plus : (x ++ d :: u).head? = some '+' ↔ x.head? = some '+' := head?_stop stop rfl x u
      simp only [List.cons_append, scanExponent, minus, plus, splitSign_stop stop,
        takeWhile_stop (isDigit_of_isStop stop)]

theorem length_scanWhole_le (x : Text) : (scanWhole x).length ≤ x.length := by
  cases x with
  | nil => exact Nat.le_refl 0
  | cons c x =>
      rw [scanWhole]
      split
      · exact Nat.succ_le_succ (Nat.zero_le _)
      · exact (List.takeWhile_prefix _).length_le

theorem fractionWidth_scanFraction_le (x : Text) :
    fractionWidth (scanFraction x) ≤ x.length := by
  cases x with
  | nil => exact Nat.le_refl 0
  | cons c x =>
      have inside : (x.takeWhile Code.isDigit).length ≤ x.length :=
        (List.takeWhile_prefix _).length_le
      simp only [scanFraction, fractionWidth, List.length_cons]
      split
      · split
        · exact Nat.zero_le _
        · omega
      · exact Nat.zero_le _

/-- A number ends at a stop. -/
theorem scanUnsigned_stop {d : Code} (stop : isStop d = true) (maxDigits : Nat) (negative : Bool)
    (x u : Text) : scanUnsigned maxDigits negative (x ++ d :: u) =
      scanUnsigned maxDigits negative x := by
  unfold scanUnsigned
  rw [scanWhole_stop stop]
  simp only [List.drop_append_of_le_length (length_scanWhole_le x), scanFraction_stop stop,
    List.drop_append_of_le_length (fractionWidth_scanFraction_le _), scanExponent_stop stop]

/-- A word that holds no stop is found before a stop or not at all. -/
theorem startsWith_stop {d : Code} (stop : isStop d = true) {word : Text}
    (plain : word.all (fun c => !isStop c) = true) (x u : Text) :
    Text.startsWith (x ++ d :: u) word = Text.startsWith x word := by
  unfold Text.startsWith
  induction word generalizing x with
  | nil => rfl
  | cons c word ih =>
      simp only [List.all_cons, Bool.and_eq_true, Bool.not_eq_true'] at plain
      cases x with
      | nil => simp [List.isPrefixOf, ne_of_isStop stop plain.1]
      | cons b x => simp only [List.cons_append, List.isPrefixOf, ih plain.2]

/-- **A word or a number is the same whatever follows the stop behind it.** -/
theorem find?_words_stop {d : Code} (stop : isStop d = true) (x u : Text) :
    (words.find? fun (word, _) => Text.startsWith (x ++ d :: u) word) =
      words.find? fun (word, _) => Text.startsWith x word := by
  have plain : ∀ entry ∈ words, entry.1.all (fun c => !isStop c) = true := by
    intro entry member
    simp only [words, List.mem_cons, List.not_mem_nil, or_false] at member
    rcases member with rfl | rfl | rfl | rfl | rfl | rfl <;> rfl
  exact List.find?_congr fun entry member => startsWith_stop stop (plain entry member) x u

theorem scanScalar_stop {d : Code} (stop : isStop d = true) (maxDigits : Nat) (c : Code)
    (x u : Text) : scanScalar maxDigits (c :: x ++ d :: u) = scanScalar maxDigits (c :: x) := by
  unfold scanScalar
  rw [find?_words_stop stop (c :: x) u, List.cons_append]
  simp only [scanUnsigned_stop stop]
  rw [← List.cons_append, scanUnsigned_stop stop]

/-! ## Texts -/

/-- Four hexadecimal digits are the same whatever follows the code point behind them. -/
theorem hexCode?_append {t rest : Text} {c : Code} (spelled : hexCode? t = some (c, rest))
    (s : Text) : hexCode? (t ++ s) = some (c, rest ++ s) := by
  match t with
  | a :: b :: d :: e :: next :: t =>
      simp only [hexCode?, List.cons_append, Option.bind_eq_bind, Option.bind_eq_some_iff,
        Option.pure_def, Option.some.injEq, Prod.mk.injEq] at spelled ⊢
      obtain ⟨k, first, l, second, m, third, n, fourth, number, rfl⟩ := spelled
      exact ⟨k, first, l, second, m, third, n, fourth, number, rfl⟩

theorem exists_of_hexCode? {t rest : Text} {c : Code} (spelled : hexCode? t = some (c, rest)) :
    ∃ a b d e, t = a :: b :: d :: e :: rest := by
  match t with
  | a :: b :: d :: e :: next :: t =>
      simp only [hexCode?, Option.bind_eq_bind, Option.bind_eq_some_iff, Option.pure_def,
        Option.some.injEq, Prod.mk.injEq] at spelled
      obtain ⟨k, -, l, -, m, -, n, -, -, rfl⟩ := spelled
      exact ⟨a, b, d, e, rfl⟩

theorem lowHalf?_append {t : Text} {low : Code} (spelled : lowHalf? t = some low) (s : Text) :
    lowHalf? (t ++ s) = some low := by
  match t with
  | backslash :: u :: t =>
      simp only [lowHalf?] at spelled
      split at spelled
      · rename_i shape
        split at spelled
        · rename_i c rest code
          simp only [List.cons_append, lowHalf?, if_pos shape, hexCode?_append code s, spelled]
        · cases spelled
      · cases spelled

/-- Where a text goes on to its quote, there is no second half that is cut off. -/
theorem lowHalf?_append_of_text {t : Text} {offset : Nat} {read w : Text} {n : Nat}
    (scanned : scanText 0 offset read t = (.text w, n)) (spelled : lowHalf? t = none) (s : Text) :
    lowHalf? (t ++ s) = none := by
  match t with
  | [] => simp [scanText] at scanned
  | [c] =>
      have other : c ≠ '\\' := by
        rintro rfl
        cases scanned
      cases s with
      | nil => rfl
      | cons d s => exact if_neg fun shape => other shape.1
  | c :: d :: t =>
      by_cases shape : c = '\\' ∧ d = 'u'
      · obtain ⟨rfl, rfl⟩ := shape
        cases code : hexCode? t with
        | none =>
            have cut : piece '\\' (('u' : Code) :: t) = .trouble .unicodeEscape 1 := by
              simp only [piece, code]
              rfl
            simp [scanText, cut] at scanned
        | some found =>
            obtain ⟨half, rest⟩ := found
            simp only [lowHalf?, code, and_self, if_true, List.cons_append,
              hexCode?_append code s] at spelled ⊢
            exact spelled
      · exact if_neg shape

/-- A piece of a text that goes on to its quote is the same whatever follows the quote. -/
theorem piece_append {c d : Code} {rest : Text} {more offset : Nat} {read w : Text} {n : Nat}
    (spelled : piece c rest = .code d more)
    (scanned : scanText more offset read rest = (.text w, n)) (s : Text) :
    piece c (rest ++ s) = .code d more := by
  unfold piece at spelled ⊢
  by_cases quote : c = '"'
  · simp [if_pos quote] at spelled
  by_cases escape : c = '\\'
  · rw [if_neg quote, if_pos escape] at spelled ⊢
    cases rest with
    | nil => cases spelled
    | cons letter rest =>
        simp only [List.cons_append] at spelled ⊢
        by_cases unicode : letter = 'u'
        · rw [if_pos unicode] at spelled ⊢
          cases code : hexCode? rest with
          | none => simp [code] at spelled
          | some found =>
              obtain ⟨high, behind⟩ := found
              simp only [code, hexCode?_append code s] at spelled ⊢
              by_cases pair : high.isHighSurrogate = true
              · rw [if_pos pair] at spelled ⊢
                cases half : lowHalf? behind with
                | some low => rwa [lowHalf?_append half s, ← half]
                | none =>
                    rw [half] at spelled
                    obtain ⟨rfl, rfl⟩ := Piece.code.inj spelled
                    obtain ⟨x, y, z, e, rfl⟩ := exists_of_hexCode? code
                    rw [lowHalf?_append_of_text scanned half s]
              · rwa [if_neg pair] at spelled ⊢
        · rw [if_neg unicode] at spelled ⊢
          exact spelled
  · rw [if_neg quote, if_neg escape] at spelled ⊢
    exact spelled

theorem eq_quote_of_piece {c : Code} {rest : Text} (closes : piece c rest = .close) : c = '"' := by
  unfold piece at closes
  grind

/-- **A text is the same whatever follows its quote.** -/
theorem scanText_append {skip offset : Nat} {read t w : Text} {n : Nat}
    (scanned : scanText skip offset read t = (.text w, n)) (s : Text) :
    scanText skip offset read (t ++ s) = (.text w, n) := by
  induction skip, offset, read, t using scanText.induct with
  | case1 => simp [scanText] at scanned
  | case2 offset read c rest skip ih =>
      rw [scanText] at scanned
      rw [List.cons_append, scanText, ih scanned]
  | case3 offset read c rest d more spelled ih =>
      simp only [scanText, spelled] at scanned
      simp only [List.cons_append, scanText, piece_append spelled scanned, ih scanned]
  | case4 offset read c rest spelled =>
      have quote : piece c (rest ++ s) = .close := if_pos (eq_quote_of_piece spelled)
      simp only [scanText, spelled] at scanned
      simp only [List.cons_append, scanText, quote]
      exact scanned
  | case5 offset read c rest spelled => simp [scanText, spelled] at scanned
  | case6 offset read c rest trouble more spelled => simp [scanText, spelled] at scanned

/-! ## Tokens -/

/-- A token that is refused wherever it stands. -/
def Token.IsFault : Token → Prop
  | .badText _ _ | .longInteger _ | .stray => True
  | _ => False

def Token.IsText : Token → Prop
  | .text _ | .badText _ _ => True
  | _ => False

/-- The token of a word or a number, neither of which is a map, or of nothing. -/
def Token.IsScalar : Token → Prop
  | .scalar v => ∀ entries, v ≠ .map entries
  | .longInteger _ | .stray => True
  | _ => False

theorem isText_scanText (skip offset : Nat) (read t : Text) :
    (scanText skip offset read t).1.IsText := by
  induction skip, offset, read, t using scanText.induct with
  | case1 => trivial
  | case2 offset read c rest skip ih => simpa only [scanText] using ih
  | case3 offset read c rest d more spelled ih => simpa only [scanText, spelled] using ih
  | case4 offset read c rest spelled => simp [scanText, spelled, Token.IsText]
  | case5 offset read c rest spelled => simp [scanText, spelled, Token.IsText]
  | case6 offset read c rest trouble more spelled => simp [scanText, spelled, Token.IsText]

/-- The values that words and numbers stand for. -/
inductive IsAtom : Value → Prop
  | word {word : Text × Value} (listed : word ∈ words) : IsAtom word.2
  | int (n : Int) : IsAtom (.int n)
  | float (x : Float) : IsAtom (.float x)

theorem IsAtom.ne_map {v : Value} (atom : IsAtom v) (entries : Entries) : v ≠ .map entries := by
  cases atom with
  | word listed =>
      simp only [words, List.mem_cons, List.not_mem_nil, or_false] at listed
      rcases listed with rfl | rfl | rfl | rfl | rfl | rfl <;> simp
  | int n => simp
  | float x => simp

theorem scanUnsigned_cases {maxDigits : Nat} {negative : Bool} {t : Text} {token : Token}
    {width : Nat} (scanned : scanUnsigned maxDigits negative t = some (token, width)) :
    (∃ digits, token = .longInteger digits) ∨ ∃ v, token = .scalar v ∧ IsAtom v := by
  simp only [scanUnsigned] at scanned
  split at scanned
  · cases scanned
  split at scanned
  · split at scanned
    · cases scanned
      exact .inl ⟨_, rfl⟩
    · cases scanned
      exact .inr ⟨_, rfl, .int _⟩
  · cases scanned
    exact .inr ⟨_, rfl, .float _⟩

/-- A word or a number is an atom, an integer with too many digits, or nothing. -/
theorem scanScalar_cases (maxDigits : Nat) (t : Text) :
    (scanScalar maxDigits t).1 = .stray ∨
      (∃ digits, (scanScalar maxDigits t).1 = .longInteger digits) ∨
      ∃ v, (scanScalar maxDigits t).1 = .scalar v ∧ IsAtom v := by
  unfold scanScalar
  split
  · rename_i word v found
    exact .inr (.inr ⟨v, rfl, .word (List.mem_of_find?_eq_some found)⟩)
  · split
    · split
      · split
        · rename_i number
          exact .inr (scanUnsigned_cases number)
        · exact .inl rfl
      · split
        · rename_i number
          exact .inr (scanUnsigned_cases number)
        · exact .inl rfl
    · exact .inl rfl

theorem isScalar_scanScalar (maxDigits : Nat) (t : Text) : (scanScalar maxDigits t).1.IsScalar := by
  rcases scanScalar_cases maxDigits t with stray | ⟨digits, long⟩ | ⟨v, scalar, atom⟩
  · rw [stray]
    trivial
  · rw [long]
    trivial
  · rw [scalar]
    exact atom.ne_map

/-- The tokens that may follow a value in a container. -/
def Token.Follows : Token → Prop
  | .comma | .endList | .endMap => True
  | _ => False

/-- A token is one code point that says all, a text, or a word or a number. -/
theorem scan_cases (maxDigits : Nat) (c : Code) :
    (∃ token : Token, (∀ rest, Token.scan maxDigits c rest = (token, 0)) ∧
        (∀ v, token ≠ .scalar v) ∧ (token.Follows → isStop c = true)) ∨
      (∀ rest, Token.scan maxDigits c rest = scanText 0 1 [] rest) ∨
      ∀ rest, Token.scan maxDigits c rest = scanScalar maxDigits (c :: rest) := by
  by_cases single : c = '[' ∨ c = ']' ∨ c = '\x7b' ∨ c = '\x7d' ∨ c = ',' ∨ c = ':'
  · refine .inl ?_
    rcases single with rfl | rfl | rfl | rfl | rfl | rfl
    · exact ⟨.beginList, fun _ => rfl, by simp, False.elim⟩
    · exact ⟨.endList, fun _ => rfl, by simp, fun _ => rfl⟩
    · exact ⟨.beginMap, fun _ => rfl, by simp, False.elim⟩
    · exact ⟨.endMap, fun _ => rfl, by simp, fun _ => rfl⟩
    · exact ⟨.comma, fun _ => rfl, by simp, fun _ => rfl⟩
    · exact ⟨.colon, fun _ => rfl, by simp, False.elim⟩
  · simp only [not_or] at single
    obtain ⟨list, endList, map, endMap, comma, colon⟩ := single
    have longer : ∀ rest, Token.scan maxDigits c rest =
        if c = '"' then scanText 0 1 [] rest else scanScalar maxDigits (c :: rest) := by
      intro rest
      unfold Token.scan
      rw [if_neg list, if_neg endList, if_neg map, if_neg endMap, if_neg comma, if_neg colon]
    by_cases quote : c = '"'
    · exact .inr (.inl fun rest => (longer rest).trans (if_pos quote))
    · exact .inr (.inr fun rest => (longer rest).trans (if_neg quote))

/-- **A token that is no fault is the same whatever follows**: a text ends at its quote, and a word
or a number at the stop that has to stand somewhere behind it. -/
theorem scan_append {maxDigits : Nat} {c : Code} {rest : Text} {token : Token} {more : Nat}
    (scanned : Token.scan maxDigits c rest = (token, more)) (good : ¬ token.IsFault)
    (stop : (∃ v, token = .scalar v) → ∃ x d u, rest = x ++ d :: u ∧ isStop d = true) (s : Text) :
    Token.scan maxDigits c (rest ++ s) = (token, more) := by
  rcases scan_cases maxDigits c with ⟨only, one, -, -⟩ | text | scalar
  · rw [one] at scanned ⊢
    exact scanned
  · rw [text] at scanned ⊢
    have shape := isText_scanText 0 1 [] rest
    rw [scanned] at shape
    cases token with
    | text t => exact scanText_append scanned s
    | badText trouble offset => exact absurd trivial good
    | _ => exact shape.elim
  · rw [scalar] at scanned ⊢
    have shape := isScalar_scanScalar maxDigits (c :: rest)
    rw [scanned] at shape
    cases token with
    | scalar v =>
        obtain ⟨x, d, u, rfl, ends⟩ := stop ⟨v, rfl⟩
        rw [← List.cons_append, scanScalar_stop ends] at scanned
        rw [List.append_assoc, List.cons_append, ← List.cons_append, scanScalar_stop ends]
        exact scanned
    | longInteger digits => exact absurd trivial good
    | stray => exact absurd trivial good
    | _ => exact shape.elim

/-- A token that may follow a value is one code point, and a stop. -/
theorem isStop_of_scan {maxDigits : Nat} {c : Code} {rest : Text} {token : Token} {more : Nat}
    (scanned : Token.scan maxDigits c rest = (token, more)) (follows : token.Follows) :
    isStop c = true ∧ more = 0 := by
  rcases scan_cases maxDigits c with ⟨only, one, -, stop⟩ | text | scalar
  · rw [one] at scanned
    cases scanned
    exact ⟨stop follows, rfl⟩
  · have shape := isText_scanText 0 1 [] rest
    rw [← text, scanned] at shape
    cases token with
    | text t => exact follows.elim
    | badText trouble offset => exact follows.elim
    | _ => exact shape.elim
  · have shape := isScalar_scanScalar maxDigits (c :: rest)
    rw [← scalar, scanned] at shape
    cases token with
    | scalar v => exact follows.elim
    | longInteger digits => exact follows.elim
    | stray => exact follows.elim
    | _ => exact shape.elim

theorem ne_map_of_scan {maxDigits : Nat} {c : Code} {rest : Text} {v : Value} {more : Nat}
    (scanned : Token.scan maxDigits c rest = (.scalar v, more)) (entries : Entries) :
    v ≠ .map entries := by
  rcases scan_cases maxDigits c with ⟨only, one, other, -⟩ | text | scalar
  · rw [one] at scanned
    exact absurd (congrArg Prod.fst scanned) (other v)
  · have shape := isText_scanText 0 1 [] rest
    rw [← text, scanned] at shape
    exact shape.elim
  · have shape := isScalar_scanScalar maxDigits (c :: rest)
    rw [← scalar, scanned] at shape
    exact shape entries

end Json

end AdmissionGate
