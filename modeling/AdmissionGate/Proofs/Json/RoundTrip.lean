/-
# AdmissionGate.Proofs.Json.RoundTrip -- what is written is read back

A container is spelled by its parts (`spelled_list`, `spelled_map`), so every tree
is spelled by some text (`exists_spelled`).  Of the bytes of that text the reader
makes the value that `normal` says (`readBytes_spelled`).
-/
import AdmissionGate.Proofs.Encoding.Ascii
import AdmissionGate.Proofs.Json.Spelled
import Mathlib.Data.List.Forall2

namespace AdmissionGate

set_option autoImplicit false

namespace Json

/-! ## Lists -/

theorem written_items {items : List Value} {parts : List Text}
    (spelled : List.Forall₂ Spelled items parts) : writeItems items = .ok parts := by
  induction spelled with
  | nil => rfl
  | cons first _ ih =>
      rw [writeItems, first.written, ih]
      rfl

/-- The parts of a container after the first one, each behind its comma. -/
def trail (parts : List Text) : Text := parts.flatMap ((", " : Text) ++ ·)

theorem trail_cons (part : Text) (parts : List Text) :
    trail (part :: parts) = (", " : Text) ++ (part ++ trail parts) := by
  rw [trail, List.flatMap_cons, List.append_assoc, trail]

theorem plain_trail {parts : List Text} (plain : ∀ part ∈ parts, part.Plain) :
    (trail parts).Plain :=
  Text.plain_flatMap fun part member => Text.plain_append.2 ⟨by decide, plain part member⟩

/-- Behind a value stands the comma before the next one or the end of its container. -/
theorem closed_trail (parts : List Text) {close : Code} (ends : close = ']' ∨ close = '\x7d')
    (rest : Text) : Closed (trail parts ++ close :: rest) := by
  cases parts with
  | nil => exact .inr ends
  | cons part parts => exact .inl rfl

theorem run_beginList {limits : Limits} {state : State} {stack : List Frame}
    (awaits : state.AwaitsValue stack) (room : stack.length < limits.depth) (position : Nat)
    (t : Text) :
    state.run limits 0 position (('[' : Code) :: t) =
      (State.firstItem stack).run limits 0 (position + 1) t := by
  refine run_token [] _ rfl rfl ?_
  show state.step limits position .beginList = _
  rw [awaits limits position _ (by simp), State.readValue, State.enter, if_neg (by omega)]

theorem run_comma_item (limits : Limits) (done : List Value) (stack : List Frame)
    (position : Nat) (t : Text) :
    (State.afterItem done stack).run limits 0 position ((", " : Text) ++ t) =
      (State.value (.list done :: stack)).run limits 0 (position + 2) t := rfl

/-- After some items, the others are read one by one up to the end of the list. -/
theorem reads_items {limits : Limits} (digits : Integer.maxDigits ≤ limits.digits)
    {items : List Value} {parts : List Text} (spelled : List.Forall₂ Spelled items parts)
    (done : List Value) (stack : List Frame)
    (room : stack.length + (depthOfItems items + 1) ≤ limits.depth) (position : Nat)
    (rest : Text) :
    (State.afterItem done stack).run limits 0 position (trail parts ++ (']' : Code) :: rest) =
      (State.complete (.list (done.reverse ++ normalItems items)) stack).run limits 0
        (position + (trail parts).length + 1) rest := by
  induction spelled generalizing done position with
  | nil =>
      rw [normalItems, List.append_nil]
      rfl
  | @cons x part xs parts first _ ih =>
      simp only [depthOfItems] at room
      have value := first.reads limits digits (.value (.list done :: stack)) (.list done :: stack)
        (position + 2) _ (awaitsValue_value _) (by rw [List.length_cons]; omega)
        (closed_trail parts (.inl rfl) rest)
      have later := ih (normal x :: done) (by omega) (position + 2 + part.length)
      have width : (trail (part :: parts)).length = 2 + (part.length + (trail parts).length) := by
        rw [trail_cons, List.length_append, List.length_append]
        rfl
      rw [trail_cons, List.append_assoc, List.append_assoc, run_comma_item, value,
        State.complete, later, normalItems, List.reverse_cons, List.append_assoc,
        List.singleton_append, ← trail_cons, width]
      simp only [Nat.add_assoc]

theorem plain_items {items : List Value} {parts : List Text}
    (spelled : List.Forall₂ Spelled items parts) : ∀ part ∈ parts, part.Plain := by
  induction spelled with
  | nil => exact fun _ member => absurd member List.not_mem_nil
  | cons first _ ih => exact List.forall_mem_cons.2 ⟨first.plain, ih⟩

theorem plain_join {parts : List Text} (plain : ∀ part ∈ parts, part.Plain) :
    (Text.join ", " parts).Plain := by
  cases parts with
  | nil => exact Text.plain_nil
  | cons first parts =>
      obtain ⟨front, others⟩ := List.forall_mem_cons.1 plain
      rw [Text.join_cons]
      exact Text.plain_append.2 ⟨front, plain_trail others⟩

/-- A list is written with its items in brackets. -/
theorem spelled_list {items : List Value} {parts : List Text}
    (spelled : List.Forall₂ Spelled items parts) :
    Spelled (.list items) (('[' : Code) :: (Text.join ", " parts ++ [(']' : Code)])) := by
  refine ⟨write_list.2 ⟨parts, written_items spelled, rfl⟩, ?_, ?_⟩
  · have body := plain_join (plain_items spelled)
    exact Text.plain_cons.2 ⟨by decide, Text.plain_append.2 ⟨body, by decide⟩⟩
  · intro limits digits state stack position rest awaits room closed
    simp only [depth] at room
    rw [List.cons_append, List.append_assoc, List.singleton_append,
      run_beginList awaits (by omega)]
    cases spelled with
    | nil => rfl
    | @cons x part xs parts first others =>
        simp only [depthOfItems] at room
        have value := first.reads limits digits (.firstItem stack) (.list [] :: stack)
          (position + 1) _ (awaitsValue_firstItem stack) (by rw [List.length_cons]; omega)
          (closed_trail parts (.inl rfl) rest)
        have later := reads_items digits others [normal x] stack (by omega)
          (position + 1 + part.length) rest
        rw [Text.join_cons, ← trail, List.append_assoc]
        refine Eq.trans value (Eq.trans later ?_)
        simp only [normal, normalItems, List.reverse_singleton, List.singleton_append,
          List.length_cons, List.length_append, List.length_nil]
        congr 1
        omega

/-- A tuple is written as a list. -/
theorem spelled_tuple {items : List Value} {t : Text} (spelled : Spelled (.list items) t) :
    Spelled (.tuple items) t := by
  have same : write (.tuple items) = write (.list items) := by simp only [write]
  exact ⟨same.trans spelled.written, spelled.plain, spelled.reads⟩

/-! ## Maps -/

/-- The text of a member of an object: its name in quotes, a colon and the value. -/
def SpelledEntry (entry : Value × Value) (part : Text) : Prop :=
  isName entry.1 = true ∧
    ∃ t, Spelled entry.2 t ∧ part = writeText (nameOf entry.1) ++ (": " : Text) ++ t

theorem written_entries {entries : Entries} {parts : List Text}
    (spelled : List.Forall₂ SpelledEntry entries parts) : writeEntries entries = .ok parts := by
  induction spelled with
  | nil => rfl
  | @cons entry part rest parts first _ ih =>
      obtain ⟨named, t, value, rfl⟩ := first
      obtain ⟨k, v⟩ := entry
      rw [writeEntries, keyName_of_isName named, value.written, ih]
      rfl

theorem plain_entries {entries : Entries} {parts : List Text}
    (spelled : List.Forall₂ SpelledEntry entries parts) : ∀ part ∈ parts, part.Plain := by
  induction spelled with
  | nil => exact fun _ member => absurd member List.not_mem_nil
  | @cons entry part rest parts first _ ih =>
      obtain ⟨-, t, value, rfl⟩ := first
      have front : (writeText (nameOf entry.1) ++ (": " : Text)).Plain :=
        Text.plain_append.2 ⟨plain_writeText _, by decide⟩
      exact List.forall_mem_cons.2 ⟨Text.plain_append.2 ⟨front, value.plain⟩, ih⟩

theorem run_colon (limits : Limits) (done : Entries) (name : Text) (stack : List Frame)
    (position : Nat) (t : Text) :
    (State.colon done name stack).run limits 0 position ((": " : Text) ++ t) =
      (State.value (.map done name :: stack)).run limits 0 (position + 2) t := rfl

theorem run_comma_entry (limits : Limits) (done : Entries) (stack : List Frame)
    (position : Nat) (t : Text) :
    (State.afterEntry done stack).run limits 0 position ((", " : Text) ++ t) =
      (State.nextName done stack).run limits 0 (position + 2) t := rfl

theorem run_beginMap {limits : Limits} {state : State} {stack : List Frame}
    (awaits : state.AwaitsValue stack) (room : stack.length < limits.depth) (position : Nat)
    (t : Text) :
    state.run limits 0 position (('\x7b' : Code) :: t) =
      (State.firstName stack).run limits 0 (position + 1) t := by
  refine run_token [] _ rfl rfl ?_
  show state.step limits position .beginMap = _
  rw [awaits limits position _ (by simp), State.readValue, State.enter, if_neg (by omega)]

/-- A member is read wherever a name may stand, and is inserted into the entries before it. -/
theorem reads_entry {limits : Limits} (digits : Integer.maxDigits ≤ limits.digits)
    {entry : Value × Value} {part : Text} (spelled : SpelledEntry entry part) {state : State}
    {done : Entries} {stack : List Frame} (awaits : state.AwaitsName done stack)
    (room : stack.length + (depth entry.2 + 1) ≤ limits.depth) (position : Nat) {rest : Text}
    (closed : Closed rest) :
    state.run limits 0 position (part ++ rest) =
      (State.afterEntry (done.insert (.text (merged (nameOf entry.1))) (normal entry.2)) stack).run
        limits 0 (position + part.length) rest := by
  obtain ⟨-, t, spelled, rfl⟩ := spelled
  have takes : state.step limits position (.text (merged (nameOf entry.1))) =
      .ok (.colon done (merged (nameOf entry.1)) stack) := by
    rw [awaits limits position _ (by simp), State.readName]
  have name := run_token _ ((": " : Text) ++ (t ++ rest)) rfl
    (scan_writeText limits.digits (nameOf entry.1) _) takes
  have value := spelled.reads limits digits (.value (.map done (merged (nameOf entry.1)) :: stack))
    (.map done (merged (nameOf entry.1)) :: stack)
    (position + (writeText (nameOf entry.1)).length + 2) rest (awaitsValue_value _)
    (by rw [List.length_cons]; omega) closed
  rw [List.append_assoc, List.append_assoc]
  refine Eq.trans name ?_
  rw [← writeText, run_colon, value, State.complete, List.length_append, List.length_append]
  congr 1
  show _ = position + (_ + 2 + _)
  omega

/-- After some entries, the others are inserted one by one up to the end of the map. -/
theorem reads_entries {limits : Limits} (digits : Integer.maxDigits ≤ limits.digits)
    {entries : Entries} {parts : List Text} (spelled : List.Forall₂ SpelledEntry entries parts)
    (done : Entries) (stack : List Frame)
    (room : stack.length + (depthOfEntries entries + 1) ≤ limits.depth) (position : Nat)
    (rest : Text) :
    (State.afterEntry done stack).run limits 0 position (trail parts ++ ('\x7d' : Code) :: rest) =
      (State.complete
        (.map ((normalEntries entries).foldl (fun done (k, v) => Entries.insert done k v) done))
        stack).run limits 0 (position + (trail parts).length + 1) rest := by
  induction spelled generalizing done position with
  | nil => rfl
  | @cons entry part entries parts first _ ih =>
      simp only [depthOfEntries] at room
      have member := reads_entry digits first (awaitsName_nextName done stack) (by omega)
        (position + 2) (closed_trail parts (.inr rfl) rest)
      have later := ih (done.insert (.text (merged (nameOf entry.1))) (normal entry.2)) (by omega)
        (position + 2 + part.length)
      have width : (trail (part :: parts)).length = 2 + (part.length + (trail parts).length) := by
        rw [trail_cons, List.length_append, List.length_append]
        rfl
      rw [trail_cons, List.append_assoc, List.append_assoc, run_comma_entry, member, later,
        normalEntries, List.foldl_cons, ← trail_cons, width]
      simp only [Nat.add_assoc]

theorem write_map {entries : Entries} {parts : List Text}
    (written : writeEntries entries = .ok parts) :
    write (.map entries) =
      .ok (('\x7b' : Code) :: (Text.join ", " parts ++ [('\x7d' : Code)])) := by
  rw [write, written]
  rfl

/-- A map is written as an object; of members with one name the last value stays, at the place of
the first. -/
theorem spelled_map {entries : Entries} {parts : List Text}
    (spelled : List.Forall₂ SpelledEntry entries parts) :
    Spelled (.map entries) (('\x7b' : Code) :: (Text.join ", " parts ++ [('\x7d' : Code)])) := by
  refine ⟨write_map (written_entries spelled), ?_, ?_⟩
  · have body := plain_join (plain_entries spelled)
    exact Text.plain_cons.2 ⟨by decide, Text.plain_append.2 ⟨body, by decide⟩⟩
  · intro limits digits state stack position rest awaits room closed
    simp only [depth] at room
    rw [List.cons_append, List.append_assoc, List.singleton_append,
      run_beginMap awaits (by omega)]
    cases spelled with
    | nil => rfl
    | @cons entry part entries parts first others =>
        simp only [depthOfEntries] at room
        have member := reads_entry digits first (awaitsName_firstName stack) (by omega)
          (position + 1) (closed_trail parts (.inr rfl) rest)
        have later := reads_entries digits others
          (Entries.insert [] (.text (merged (nameOf entry.1))) (normal entry.2)) stack (by omega)
          (position + 1 + part.length) rest
        rw [Text.join_cons, ← trail, List.append_assoc]
        refine Eq.trans member (Eq.trans later ?_)
        simp only [normal, normalEntries, Entries.ofList, List.foldl_cons, List.length_cons,
          List.length_append, List.length_nil]
        congr 1
        omega

/-! ## Every tree -/

mutual

/-- **Every tree is written, and read back as what `normal` says.** -/
theorem exists_spelled : (v : Value) → isTree v = true → ∃ t, Spelled v t
  | .null, _ => ⟨_, spelled_null⟩
  | .bool b, _ => ⟨_, spelled_bool b⟩
  | .int _, tree => ⟨_, spelled_int (by simpa only [isTree] using tree)⟩
  | .text t, _ => ⟨_, spelled_text t⟩
  | .bytes b, _ => ⟨_, spelled_displayed (by rw [write]) rfl (by rw [normal]; rfl) b.plain_quoted⟩
  | .date d, _ => ⟨_, spelled_displayed (by rw [write]) rfl (by rw [normal]) d.plain_iso⟩
  | .dateTime t, _ =>
      ⟨_, spelled_displayed (by rw [write]) rfl (by rw [normal]) (t.plain_iso (by decide))⟩
  | .list items, tree =>
      let ⟨_, spelled⟩ := exists_spelled_items items (by simpa only [isTree] using tree)
      ⟨_, spelled_list spelled⟩
  | .tuple items, tree =>
      let ⟨_, spelled⟩ := exists_spelled_items items (by simpa only [isTree] using tree)
      ⟨_, spelled_tuple (spelled_list spelled)⟩
  | .map entries, tree =>
      let ⟨_, spelled⟩ := exists_spelled_entries entries (by simpa only [isTree] using tree)
      ⟨_, spelled_map spelled⟩
  | .float _, tree | .set _, tree | .model _ _, tree | .enclosing _, tree => by
      simp [isTree] at tree

theorem exists_spelled_items : (items : List Value) → areTrees items = true →
    ∃ parts, List.Forall₂ Spelled items parts
  | [], _ => ⟨[], .nil⟩
  | x :: xs, trees =>
      have both := Bool.and_eq_true_iff.1 (by simpa only [areTrees] using trees)
      let ⟨_, first⟩ := exists_spelled x both.1
      let ⟨_, others⟩ := exists_spelled_items xs both.2
      ⟨_, .cons first others⟩

theorem exists_spelled_entries : (entries : List (Value × Value)) → areMembers entries = true →
    ∃ parts, List.Forall₂ SpelledEntry entries parts
  | [], _ => ⟨[], .nil⟩
  | (_, v) :: rest, members =>
      have all := Bool.and_eq_true_iff.1 (by simpa only [areMembers] using members)
      have entry := Bool.and_eq_true_iff.1 all.1
      let ⟨_, value⟩ := exists_spelled v entry.2
      let ⟨_, others⟩ := exists_spelled_entries rest all.2
      ⟨_, .cons ⟨entry.1, _, value, rfl⟩ others⟩

end

/-! ## Whole documents -/

theorem Spelled.ne_nil {v : Value} {t : Text} (spelled : Spelled v t) : t ≠ [] := by
  rintro rfl
  have read := spelled.reads ⟨depth v, Integer.maxDigits⟩ (Nat.le_refl _) (.value []) [] 0 []
    (awaitsValue_value []) (by simp) trivial
  cases read

/-- **The bytes of a text that spells a value are a document that reads as its normal form.** -/
theorem readBytes_spelled {v : Value} {t : Text} (spelled : Spelled v t) {limits : Limits}
    (digits : Integer.maxDigits ≤ limits.digits) (shallow : depth v ≤ limits.depth) :
    readBytes limits (Encoding.asciiBytes t) = .ok (normal v) := by
  have reads := spelled.reads limits digits (.value []) [] 0 [] (awaitsValue_value [])
    (by rwa [List.length_nil, Nat.zero_add]) trivial
  rw [List.append_nil] at reads
  rw [readBytes, Encoding.decodeDocument_asciiBytes spelled.plain]
  simp only [read, reads]
  rfl

end Json

end AdmissionGate
