/-
# AdmissionGate.Proofs.Review.Read -- what a captured review is read as

An absent, a null and an empty member are not told apart by the rest of a review.
So whatever of a typed review is left out, reading gives a typed request
(`read_of_isTyped`): it has the texts that the review has, and its states give the
labels and annotations of the captured objects themselves, for encoding an object
and decoding it again loses none of them.
-/
import AdmissionGate.Proofs.Review.Encode
import AdmissionGate.Proofs.Review.Typed

namespace AdmissionGate

set_option autoImplicit false

/-! ## Values in a table -/

namespace Yaml

namespace Graph

variable {g : Graph} {n : Nat}

theorem value_of_scalar {v : Value} (cell : g.cell n = .scalar v) : g.value n = v := by
  rw [value, valueInside, cell]

/-- Only the scalar itself is spelled out as a text, however far inside. -/
theorem cell_of_text {fuel : Nat} {path : List Nat} {t : Text}
    (spelled : g.valueInside fuel path n = .text t) : g.cell n = .scalar (.text t) := by
  cases fuel with
  | zero => cases spelled
  | succ fuel =>
      rw [valueInside] at spelled
      cases cell : g.cell n with
      | scalar v =>
          rw [cell] at spelled
          exact congrArg Cell.scalar spelled
      | set items => simp [cell] at spelled
      | _ =>
          simp only [cell] at spelled
          split at spelled <;> cases spelled

theorem cell_of_null (absent : g.value n = .null) : g.cell n = .scalar .null := by
  rw [value, valueInside] at absent
  cases cell : g.cell n with
  | scalar v =>
      rw [cell] at absent
      exact congrArg Cell.scalar absent
  | _ => simp [cell] at absent

end Graph

namespace Spot

variable {s : Spot}

/-- What does not count as given has no members. -/
theorem member?_of_not_isTruthy (falsy : s.isTruthy = false) (name : Text) :
    s.member? name = none := by
  cases cell : s.cell with
  | map entries =>
      simp only [isTruthy, cell, Bool.not_eq_false', List.isEmpty_iff] at falsy
      simp [member?, cell, falsy]
  | _ => simp [member?, cell]

theorem isTruthy_of_null (absent : s.graph.value s.number = .null) : s.isTruthy = false := by
  have cell : s.cell = .scalar .null := Graph.cell_of_null absent
  rw [isTruthy, cell]
  rfl

/-- A list of texts is walked text by text. -/
theorem elements_of_texts {names : List Text}
    (listed : s.graph.value s.number = .list (names.map .text)) :
    s.elements = .ok (names.map .text) := by
  rw [Graph.value, Graph.valueInside] at listed
  rw [elements, Spot.cell]
  cases cell : s.graph.cell s.number with
  | scalar v =>
      rw [cell] at listed
      rw [show v = .list (names.map .text) from listed]
      rfl
  | list items =>
      rw [cell] at listed
      have same : items.map (s.graph.valueInside s.graph.cells.size [s.number]) =
          names.map .text := Value.list.inj listed
      refine congrArg Except.ok ?_
      rw [← same]
      refine List.map_congr_left fun x member => ?_
      have isText : s.graph.valueInside s.graph.cells.size [s.number] x ∈ names.map Value.text := by
        rw [← same]
        exact List.mem_map_of_mem member
      obtain ⟨t, -, spelled⟩ := List.mem_map.1 isText
      rw [Graph.value_of_scalar (Graph.cell_of_text spelled.symm), ← spelled]
  | _ => simp [cell] at listed

end Spot

end Yaml

/-! ## Reading a review -/

namespace Review

variable {r : Yaml.Spot}

theorem textMember_of_hasText {name : Text} (text : HasText r name) :
    textMember r name = .text (textAt r name) := by
  obtain ⟨t, same⟩ := text
  rw [textAt, same]

theorem textAt_of_not_isTruthy (falsy : Outline.isTruthy r = false) (name : Text) :
    textAt r name = [] := by
  have absent : Outline.member? r name = none := Yaml.Spot.member?_of_not_isTruthy falsy name
  rw [textAt, textMember, absent]

/-- A member that counts as given is no null. -/
theorem given?_cases (name : Text) {P : Yaml.Spot → Prop} (holds : HoldsAt r name P) :
    (given? r name = none ∧ ∀ m, Outline.member? r name = some m → Outline.isTruthy m = false) ∨
      ∃ m, given? r name = some m ∧ Outline.member? r name = some m ∧ P m := by
  unfold given?
  cases found : Outline.member? r name with
  | none => exact .inl ⟨rfl, fun _ impossible => by cases impossible⟩
  | some m =>
      cases truthy : Outline.isTruthy m with
      | false =>
          refine .inl ⟨by simp [truthy], fun _ same => ?_⟩
          cases same
          exact truthy
      | true =>
          refine .inr ⟨m, by simp [truthy], rfl, ?_⟩
          rcases holds m found with absent | given
          · have falsy : Outline.isTruthy m = false := Yaml.Spot.isTruthy_of_null absent
            simp [falsy] at truthy
          · exact given

theorem readKind_of_holdsAt {name : Text} (holds : HoldsAt r name IsKind) :
    ∃ k : Option TypedKind, readKind r name = .ok (k.map TypedKind.untyped) ∧
      k.getD {} = kindAt r name := by
  rcases given?_cases name holds with ⟨absent, falsy⟩ | ⟨m, given, found, isMap, texts⟩
  · have empty : kindAt r name = {} := by
      unfold kindAt
      cases found : Outline.member? r name with
      | none => rfl
      | some m => simp only [textAt_of_not_isTruthy (falsy m found)]
    exact ⟨none, by rw [readKind, absent]; rfl, empty.symm⟩
  · obtain ⟨group, version, kind⟩ := texts
    refine ⟨some ⟨textAt m "group", textAt m "version", textAt m "kind"⟩, ?_, ?_⟩
    · rw [readKind, given]
      simp only [checkMap, isMap, if_true, textMember_of_hasText group,
        textMember_of_hasText version, textMember_of_hasText kind]
      rfl
    · rw [kindAt, found]
      rfl

theorem readUser_of_holdsAt (holds : HoldsAt r "userInfo" IsUser) :
    ∃ groups : List Text,
      readUser (given? r "userInfo") = .ok (.text (usernameOf r), groups.map .text) := by
  rcases given?_cases "userInfo" holds with ⟨absent, falsy⟩ | ⟨m, given, found, isMap, name, groups⟩
  · have nobody : usernameOf r = [] := by
      unfold usernameOf
      cases found : Outline.member? r "userInfo" with
      | none => rfl
      | some m => exact textAt_of_not_isTruthy (falsy m found) "username"
    exact ⟨[], by rw [absent, nobody]; rfl⟩
  · have user : usernameOf r = textAt m "username" := by rw [usernameOf, found]
    rw [given, readUser, user]
    simp only [checkMap, isMap, if_true, textMember_of_hasText name]
    rcases given?_cases "groups" groups with ⟨absent, -⟩ | ⟨list, given, -, names, listed⟩
    · exact ⟨[], by rw [absent]; rfl⟩
    · have walked : Outline.elements list = .ok (names.map .text) :=
        Yaml.Spot.elements_of_texts listed
      exact ⟨names, by rw [given]; simp only [walked]; rfl⟩

/-- A captured object is read as what it says. -/
theorem readState_of_isObject {name : Text} (isObject : IsObject (valueAt r name)) :
    ∃ s, readState r name = .ok s ∧ s.live = none ∧ s.extract = mapsOf (valueAt r name) := by
  have opened : readState r name = encodeState (valueAt r name) := rfl
  rw [opened]
  by_cases absent : valueAt r name = .null
  · rw [absent]
    exact ⟨{}, rfl, rfl, rfl⟩
  · obtain ⟨raw, encoded, some_bytes, reads⟩ :=
      exists_encoded_of_isExact isObject.1 absent isObject.2
    have stated : mapsOf (valueAt r name) =
        (Metadata.ofDocument (valueAt r name)).map fun m => (m.labels, m.annotations) := by
      unfold mapsOf
      split
      · exact absurd ‹_› absent
      · rfl
    refine ⟨.ofRaw raw, encoded, rfl, ?_⟩
    rw [ObjectState.extract_ofRaw some_bytes, Metadata.decode, reads, stated]

/-- A request says what a captured one does, as far as the gate looks at it. -/
structure IsRequestOf (r : Yaml.Spot) (request : TypedRequest) : Prop where
  operation : request.operation = textAt r "operation"
  kind : request.kind = kindAt r "kind"
  name : request.name = textAt r "name"
  «namespace» : request.namespace = textAt r "namespace"
  username : request.username = usernameOf r
  newEncoded : request.new.live = none
  oldEncoded : request.old.live = none
  new : request.new.extract = mapsOf (valueAt r "object")
  old : request.old.extract = mapsOf (valueAt r "oldObject")

/-- **A typed review is read as what it says.** -/
theorem read_of_isTyped {review : Yaml.Spot} (found : requestOf review = .ok r)
    (typed : IsTyped r) :
    ∃ request : TypedRequest, read review = .ok request.untyped ∧ IsRequestOf r request := by
  obtain ⟨kind, kindRead, sameKind⟩ := readKind_of_holdsAt typed.kind
  obtain ⟨requestKind, requestKindRead, -⟩ := readKind_of_holdsAt typed.requestKind
  obtain ⟨groups, userRead⟩ := readUser_of_holdsAt typed.userInfo
  obtain ⟨new, newRead, newEncoded, newMaps⟩ := readState_of_isObject typed.object
  obtain ⟨old, oldRead, oldEncoded, oldMaps⟩ := readState_of_isObject typed.oldObject
  have untypedKind : (kind.map TypedKind.untyped).getD {} = (kind.getD {}).untyped := by
    cases kind <;> rfl
  refine ⟨{
    operation := textAt r "operation"
    kind := kind.getD {}
    name := textAt r "name"
    «namespace» := textAt r "namespace"
    username := usernameOf r
    groups := groups
    new := new
    old := old
    requestKind := requestKind
    subResource := textAt r "subResource"
    uid := textAt r "uid"
    typedNew := fun object held => by rw [newEncoded] at held; cases held
    typedOld := fun object held => by rw [oldEncoded] at held; cases held },
    ?_, rfl, sameKind, rfl, rfl, rfl, newEncoded, oldEncoded, newMaps, oldMaps⟩
  rw [read, found]
  simp only [bind, Except.bind, kindRead, requestKindRead, userRead, newRead, oldRead,
    textMember_of_hasText typed.uid, textMember_of_hasText typed.operation,
    textMember_of_hasText typed.subResource, textMember_of_hasText typed.name,
    textMember_of_hasText typed.namespace, untypedKind]
  rfl

end Review

end AdmissionGate
