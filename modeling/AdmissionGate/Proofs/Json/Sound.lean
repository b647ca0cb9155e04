/-
# AdmissionGate.Proofs.Json.Sound -- what a document can be

A document is made of texts, numbers, truth values and nulls, in lists and in maps
whose keys are texts, at every level.  Every state that the reader comes through
holds such values only (`step_sound`), so that is what it gives in the end, whatever
bytes it is given (`readBytes_isJson`).
-/
import AdmissionGate.Proofs.Json.Run
import AdmissionGate.Proofs.Json.Scan

namespace AdmissionGate

set_option autoImplicit false

namespace Json

/-- The values that a document can be. -/
inductive IsJson : Value → Prop
  | null : IsJson .null
  | bool (b : Bool) : IsJson (.bool b)
  | int (n : Int) : IsJson (.int n)
  | float (x : Float) : IsJson (.float x)
  | text (t : Text) : IsJson (.text t)
  | list {items : List Value} (each : ∀ x ∈ items, IsJson x) : IsJson (.list items)
  | map {entries : Entries} (named : ∀ entry ∈ entries, entry.1.isText = true)
      (each : ∀ entry ∈ entries, IsJson entry.2) : IsJson (.map entries)

/-- The members of an object: values of a document at texts. -/
def AreMembers (entries : Entries) : Prop :=
  ∀ entry ∈ entries, entry.1.isText = true ∧ IsJson entry.2

theorem isJson_map {entries : Entries} : IsJson (.map entries) ↔ AreMembers entries := by
  constructor
  · rintro (_ | _ | _ | _ | _ | _ | ⟨named, each⟩) entry member
    exact ⟨named entry member, each entry member⟩
  · intro members
    exact .map (fun entry member => (members entry member).1)
      fun entry member => (members entry member).2

theorem areMembers_insert {entries : Entries} (members : AreMembers entries) (name : Text)
    {v : Value} (json : IsJson v) : AreMembers (entries.insert (.text name) v) := by
  induction entries with
  | nil => exact List.forall_mem_singleton.2 ⟨rfl, json⟩
  | cons entry rest ih =>
      obtain ⟨k, w⟩ := entry
      obtain ⟨first, others⟩ := List.forall_mem_cons.1 members
      unfold Entries.insert
      by_cases same : k.same (.text name) = true
      · rw [if_pos same]
        exact List.forall_mem_cons.2 ⟨⟨first.1, json⟩, others⟩
      · rw [if_neg same]
        exact List.forall_mem_cons.2 ⟨first, ih others⟩

/-! ## Tokens -/

theorem isJson_of_isAtom {v : Value} (atom : IsAtom v) : IsJson v := by
  cases atom with
  | word listed =>
      simp only [words, List.mem_cons, List.not_mem_nil, or_false] at listed
      rcases listed with rfl | rfl | rfl | rfl | rfl | rfl
      · exact .null
      · exact .bool true
      · exact .bool false
      · exact .float _
      · exact .float _
      · exact .float _
  | int n => exact .int n
  | float x => exact .float x

/-- A token that stands for a value stands for one that a document can be. -/
theorem isJson_of_scan {maxDigits : Nat} {c : Code} {rest : Text} {v : Value} {more : Nat}
    (scanned : Token.scan maxDigits c rest = (.scalar v, more)) : IsJson v := by
  rcases scan_cases maxDigits c with ⟨only, one, other, -⟩ | text | scalar
  · rw [one] at scanned
    exact absurd (congrArg Prod.fst scanned) (other v)
  · have shape := isText_scanText 0 1 [] rest
    rw [← text, scanned] at shape
    exact shape.elim
  · have shape := scanScalar_cases maxDigits (c :: rest)
    rw [← scalar, scanned] at shape
    rcases shape with stray | ⟨digits, long⟩ | ⟨w, same, atom⟩
    · cases stray
    · cases long
    · cases same
      exact isJson_of_isAtom atom

/-! ## States -/

def Frame.Sound : Frame → Prop
  | .list items => ∀ x ∈ items, IsJson x
  | .map entries _ => AreMembers entries

/-- A state in which everything that has been read can be part of a document. -/
def State.Sound : State → Prop
  | .value stack | .firstItem stack | .firstName stack => ∀ frame ∈ stack, frame.Sound
  | .afterItem items stack => (∀ x ∈ items, IsJson x) ∧ ∀ frame ∈ stack, frame.Sound
  | .nextName entries stack | .colon entries _ stack | .afterEntry entries stack =>
      AreMembers entries ∧ ∀ frame ∈ stack, frame.Sound
  | .done v => IsJson v

theorem complete_sound {v : Value} (json : IsJson v) {stack : List Frame}
    (sound : ∀ frame ∈ stack, frame.Sound) : (State.complete v stack).Sound := by
  cases stack with
  | nil => exact json
  | cons frame stack =>
      obtain ⟨inner, outer⟩ := List.forall_mem_cons.1 sound
      cases frame with
      | list items => exact ⟨List.forall_mem_cons.2 ⟨json, inner⟩, outer⟩
      | map entries name => exact ⟨areMembers_insert inner name json, outer⟩

theorem readValue_sound {limits : Limits} {stack : List Frame} {position : Nat} {token : Token}
    {next : State} (sound : ∀ frame ∈ stack, frame.Sound)
    (scalar : ∀ v, token = .scalar v → IsJson v)
    (stepped : State.readValue limits stack position token = .ok next) : next.Sound := by
  cases token with
  | beginList =>
      rw [eq_of_enter stepped]
      exact sound
  | beginMap =>
      rw [eq_of_enter stepped]
      exact sound
  | text t =>
      cases stepped
      exact complete_sound (.text t) sound
  | scalar v =>
      cases stepped
      exact complete_sound (scalar v rfl) sound
  | _ => cases stepped

theorem readName_sound {entries : Entries} {stack : List Frame} {position : Nat} {token : Token}
    {next : State} (members : AreMembers entries) (sound : ∀ frame ∈ stack, frame.Sound)
    (stepped : State.readName entries stack position token = .ok next) : next.Sound := by
  cases token with
  | text name =>
      cases stepped
      exact ⟨members, sound⟩
  | _ => cases stepped

/-- **A step adds nothing that is no part of a document.** -/
theorem step_sound {limits : Limits} {state next : State} {position : Nat} {token : Token}
    (sound : state.Sound) (scalar : ∀ v, token = .scalar v → IsJson v)
    (stepped : state.step limits position token = .ok next) : next.Sound := by
  cases state with
  | value stack => exact readValue_sound sound scalar stepped
  | firstItem stack =>
      have inner : ∀ frame ∈ Frame.list [] :: stack, frame.Sound :=
        List.forall_mem_cons.2 ⟨fun _ member => absurd member List.not_mem_nil, sound⟩
      cases token with
      | endList =>
          cases stepped
          exact complete_sound (.list fun _ member => absurd member List.not_mem_nil) sound
      | _ =>
          rw [awaitsValue_firstItem stack limits position _ (by simp)] at stepped
          exact readValue_sound inner scalar stepped
  | afterItem items stack =>
      obtain ⟨items_json, stack_sound⟩ := sound
      cases token with
      | endList =>
          cases stepped
          exact complete_sound (.list fun x member => items_json x (List.mem_reverse.1 member))
            stack_sound
      | comma =>
          cases stepped
          exact List.forall_mem_cons.2 ⟨items_json, stack_sound⟩
      | _ => cases stepped
  | firstName stack =>
      have none_yet : AreMembers [] := fun _ member => absurd member List.not_mem_nil
      cases token with
      | endMap =>
          cases stepped
          exact complete_sound (isJson_map.2 none_yet) sound
      | _ =>
          rw [awaitsName_firstName stack limits position _ (by simp)] at stepped
          exact readName_sound none_yet sound stepped
  | nextName entries stack => exact readName_sound sound.1 sound.2 stepped
  | colon entries name stack =>
      cases token with
      | colon =>
          cases stepped
          exact List.forall_mem_cons.2 ⟨sound.1, sound.2⟩
      | _ => cases stepped
  | afterEntry entries stack =>
      cases token with
      | endMap =>
          cases stepped
          exact complete_sound (isJson_map.2 sound.1) sound.2
      | comma =>
          cases stepped
          exact sound
      | _ => cases stepped
  | done v => cases stepped

/-! ## Runs -/

theorem finish_sound {state : State} {position : Nat} {v : Value} (sound : state.Sound)
    (finished : state.finish position = .ok v) : IsJson v := by
  cases state with
  | done w =>
      cases finished
      exact sound
  | _ => cases finished

/-- **A run from a sound state ends in a document, if it ends in a value at all.** -/
theorem run_sound {limits : Limits} {skip position : Nat} {state : State} {t : Text} {v : Value}
    (sound : state.Sound) (ran : state.run limits skip position t = .ok v) : IsJson v := by
  induction t generalizing skip position state with
  | nil => exact finish_sound sound (by simpa only [State.run] using ran)
  | cons c rest ih =>
      cases skip with
      | succ skip => exact ih sound (by simpa only [State.run] using ran)
      | zero =>
          rcases run_cons_eq_ok ran with ⟨-, ran⟩ | ⟨token, more, next, -, scanned, stepped, ran⟩
          · exact ih sound ran
          · have scalar : ∀ w, token = .scalar w → IsJson w := by
              rintro w rfl
              exact isJson_of_scan scanned
            exact ih (step_sound sound scalar stepped) ran

/-- **Whatever the bytes, what they read as is made of documents at every level.** -/
theorem readBytes_isJson {limits : Limits} {bytes : Bytes} {v : Value}
    (reads : readBytes limits bytes = .ok v) : IsJson v := by
  unfold readBytes at reads
  split at reads
  · simp only [read] at reads
    split at reads
    · rename_i ran
      cases reads
      have start : (State.value []).Sound := fun _ member => absurd member List.not_mem_nil
      exact run_sound start ran
    · cases reads
  · cases reads

end Json

end AdmissionGate
