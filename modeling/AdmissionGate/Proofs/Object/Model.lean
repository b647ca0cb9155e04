/-
# AdmissionGate.Proofs.Object.Model -- documents of client models

`Model.plain` takes the models and dates out of a value and leaves everything else as
it is.  What it gives is plain, and a plain value is what it gives for itself, so it is
idempotent (`plain_plain`), and a document is its own exactly if it is plain
(`document_eq_self_iff`).

The attributes of a model are looked up in the table of its class.  No two of them
have one name in the document, so what stands at the name of an attribute is what the
attribute holds (`member_tabled`).

A client refuses a value if it comes to a set in it.  Any other value it takes, and it
takes the document of that for what it is (`not_holdsSet_iff`).
-/
import AdmissionGate.Object.Model
import AdmissionGate.Proofs.Steps
import AdmissionGate.Proofs.Value.Entries

namespace AdmissionGate

set_option autoImplicit false

namespace Model

/-! ## Plain values -/

mutual

/-- Whether neither a model nor a date stands in a value, as far as models and dates are looked for:
in lists, in tuples and at the keys of maps. -/
def isPlain : Value → Bool
  | .date _ | .dateTime _ | .model _ _ => false
  | .list items | .tuple items => arePlain items
  | .map entries => arePlainEntries entries
  | .null | .bool _ | .int _ | .float _ | .text _ | .bytes _ | .set _ | .enclosing _ => true

def arePlain : List Value → Bool
  | [] => true
  | x :: xs => isPlain x && arePlain xs

def arePlainEntries : List (Value × Value) → Bool
  | [] => true
  | (_, v) :: rest => isPlain v && arePlainEntries rest

end

theorem plainAttributes_of_ne_null {v : Value} (given : v ≠ .null) (name : Text)
    (rest : List (Text × Value)) :
    plainAttributes ((name, v) :: rest) = (name, plain v) :: plainAttributes rest := by
  cases v with
  | null => exact absurd rfl given
  | _ => rfl

mutual

theorem isPlain_plain : (v : Value) → isPlain (plain v) = true
  | .date _ | .dateTime _ => rfl
  | .null | .bool _ | .int _ | .float _ | .text _ | .bytes _ | .set _ | .enclosing _ => rfl
  | .list items | .tuple items => by
      rw [plain, isPlain, arePlain_plainItems items]
  | .map entries => by
      rw [plain, isPlain, arePlainEntries_plainEntries entries]
  | .model _ attributes => by
      rw [plain, isPlain, arePlainEntries_members attributes]

theorem arePlain_plainItems : (items : List Value) → arePlain (plainItems items) = true
  | [] => rfl
  | x :: xs => by
      rw [plainItems, arePlain, isPlain_plain x, arePlain_plainItems xs, Bool.and_self]

theorem arePlainEntries_plainEntries :
    (entries : List (Value × Value)) → arePlainEntries (plainEntries entries) = true
  | [] => rfl
  | (k, v) :: rest => by
      rw [plainEntries, arePlainEntries, isPlain_plain v, arePlainEntries_plainEntries rest,
        Bool.and_self]

theorem arePlainEntries_members :
    (attributes : List (Text × Value)) →
      arePlainEntries (members (plainAttributes attributes)) = true
  | [] => rfl
  | (name, v) :: rest => by
      by_cases absent : v = .null
      · subst absent
        exact arePlainEntries_members rest
      · have first := isPlain_plain v
        rw [plainAttributes_of_ne_null absent, members, List.map_cons, arePlainEntries, first]
        exact arePlainEntries_members rest

end

mutual

theorem plain_of_isPlain : (v : Value) → isPlain v = true → plain v = v
  | .null, _ | .bool _, _ | .int _, _ | .float _, _ | .text _, _ | .bytes _, _ | .set _, _
  | .enclosing _, _ => rfl
  | .list items, isPlain => by
      rw [Model.isPlain] at isPlain
      rw [plain, plainItems_of_arePlain items isPlain]
  | .tuple items, isPlain => by
      rw [Model.isPlain] at isPlain
      rw [plain, plainItems_of_arePlain items isPlain]
  | .map entries, isPlain => by
      rw [Model.isPlain] at isPlain
      rw [plain, plainEntries_of_arePlainEntries entries isPlain]

theorem plainItems_of_arePlain :
    (items : List Value) → arePlain items = true → plainItems items = items
  | [], _ => rfl
  | x :: xs, arePlain => by
      rw [Model.arePlain, Bool.and_eq_true] at arePlain
      rw [plainItems, plain_of_isPlain x arePlain.1, plainItems_of_arePlain xs arePlain.2]

theorem plainEntries_of_arePlainEntries :
    (entries : List (Value × Value)) → arePlainEntries entries = true →
      plainEntries entries = entries
  | [], _ => rfl
  | (k, v) :: rest, arePlain => by
      rw [arePlainEntries, Bool.and_eq_true] at arePlain
      rw [plainEntries, plain_of_isPlain v arePlain.1,
        plainEntries_of_arePlainEntries rest arePlain.2]

end

/-- The plain values are those that stay as they are. -/
theorem plain_eq_self_iff {v : Value} : plain v = v ↔ isPlain v = true := by
  constructor
  · intro same
    rw [← same]
    exact isPlain_plain v
  · exact plain_of_isPlain v

/-- **Idempotence.** -/
theorem plain_plain (v : Value) : plain (plain v) = plain v :=
  plain_of_isPlain (plain v) (isPlain_plain v)

theorem document_of_plain {v : Value} {entries : Entries} (same : plain v = .map entries) :
    document v = .map entries := by
  rw [document, same]

/-- The document of a document is itself. -/
theorem document_document (v : Value) : document (document v) = document v := by
  have again := plain_plain v
  cases same : plain v with
  | map entries =>
      rw [same] at again
      rw [document_of_plain same, document_of_plain again]
  | _ =>
      have empty : document v = .map [] := by rw [document, same]
      rw [empty]
      rfl

theorem document_eq_self_iff {entries : Entries} :
    document (.map entries) = .map entries ↔ isPlain (.map entries) = true := by
  rw [← plain_eq_self_iff]
  rfl

/-! ## What a client refuses -/

mutual

/-- A set stays where it is, and none is added. -/
theorem holdsSet_plain : (v : Value) → holdsSet (plain v) = holdsSet v
  | .null | .bool _ | .int _ | .float _ | .text _ | .bytes _ | .date _ | .dateTime _ => rfl
  | .set _ | .enclosing _ => rfl
  | .list items | .tuple items => by
      rw [plain, holdsSet, holdsSet, itemsHoldSet_plainItems items]
  | .map entries => by
      rw [plain, holdsSet, holdsSet, entriesHoldSet_plainEntries entries]
  | .model _ attributes => by
      rw [plain, holdsSet, holdsSet, entriesHoldSet_members attributes]

theorem itemsHoldSet_plainItems :
    (items : List Value) → itemsHoldSet (plainItems items) = itemsHoldSet items
  | [] => rfl
  | x :: xs => by
      rw [plainItems, itemsHoldSet, itemsHoldSet, holdsSet_plain x, itemsHoldSet_plainItems xs]

theorem entriesHoldSet_plainEntries : (entries : List (Value × Value)) →
    entriesHoldSet (plainEntries entries) = entriesHoldSet entries
  | [] => rfl
  | (k, v) :: rest => by
      rw [plainEntries, entriesHoldSet, entriesHoldSet, holdsSet_plain v,
        entriesHoldSet_plainEntries rest]

theorem entriesHoldSet_members : (attributes : List (Text × Value)) →
    entriesHoldSet (members (plainAttributes attributes)) = attributesHoldSet attributes
  | [] => rfl
  | (name, v) :: rest => by
      have others := entriesHoldSet_members rest
      by_cases absent : v = .null
      · subst absent
        exact others
      · have first := holdsSet_plain v
        rw [plainAttributes_of_ne_null absent, members, List.map_cons, entriesHoldSet,
          attributesHoldSet, first]
        exact congrArg (holdsSet v || ·) others

end

mutual

/-- What can be written holds no set. -/
theorem holdsSet_of_isTree : (v : Value) → Json.isTree v = true → holdsSet v = false
  | .null, _ | .bool _, _ | .int _, _ | .text _, _ => rfl
  | .bytes _, _ | .date _, _ | .dateTime _, _ => rfl
  | .list items, tree | .tuple items, tree => by
      rw [Json.isTree] at tree
      rw [holdsSet, itemsHoldSet_of_areTrees items tree]
  | .map entries, tree => by
      rw [Json.isTree] at tree
      rw [holdsSet, entriesHoldSet_of_areMembers entries tree]

theorem itemsHoldSet_of_areTrees :
    (items : List Value) → Json.areTrees items = true → itemsHoldSet items = false
  | [], _ => rfl
  | x :: xs, trees => by
      rw [Json.areTrees, Bool.and_eq_true] at trees
      rw [itemsHoldSet, holdsSet_of_isTree x trees.1, itemsHoldSet_of_areTrees xs trees.2]
      rfl

theorem entriesHoldSet_of_areMembers :
    (entries : List (Value × Value)) → Json.areMembers entries = true →
      entriesHoldSet entries = false
  | [], _ => rfl
  | (k, v) :: rest, areMembers => by
      rw [Json.areMembers, Bool.and_eq_true, Bool.and_eq_true] at areMembers
      rw [entriesHoldSet, holdsSet_of_isTree v areMembers.1.2,
        entriesHoldSet_of_areMembers rest areMembers.2]
      rfl

end

section Adapt

variable {v : Value}

@[simp] theorem check_of_not_holdsSet (free : holdsSet v = false) : check v = .ok () := by
  simp [check, free]

@[simp] theorem check_of_holdsSet (holds : holdsSet v = true) :
    check v = .error (.noAttribute "set" "openapi_types") := by
  simp [check, holds]

@[simp] theorem adapt_of_not_holdsSet (free : holdsSet v = false) : adapt v = .ok (document v) := by
  simp [adapt, free]

theorem holdsSet_document (free : holdsSet v = false) : holdsSet (document v) = false := by
  rw [← holdsSet_plain] at free
  cases same : plain v with
  | map entries => rw [document_of_plain same, ← same, free]
  | _ =>
      rw [document, same]
      rfl

/-- **What holds no set is adapted, and the document of it is its own.** -/
theorem not_holdsSet_iff : holdsSet v = false ↔ ∃ d, adapt v = .ok d ∧ adapt d = .ok d := by
  constructor
  · intro free
    refine ⟨document v, adapt_of_not_holdsSet free, ?_⟩
    rw [adapt_of_not_holdsSet (holdsSet_document free), document_document]
  · rintro ⟨d, adapted, -⟩
    cases holds : holdsSet v with
    | false => rfl
    | true => simp [adapt, holds] at adapted

theorem adapt_eq_self_iff {entries : Entries} : adapt (.map entries) = .ok (.map entries) ↔
    isPlain (.map entries) = true ∧ holdsSet (.map entries) = false := by
  rw [← document_eq_self_iff]
  cases holds : holdsSet (.map entries) with
  | true => simp [adapt, holds]
  | false => simp [holds]

end Adapt

/-! ## Attributes as members -/

section Table

variable {names : List Text} {valueOf : Text → Value}

/-- The members of a table of attributes. -/
def tabled (names : List Text) (valueOf : Text → Value) : Entries :=
  members (plainAttributes (names.map fun name => (name, valueOf name)))

theorem tabled_cons (name : Text) (rest : List Text) (valueOf : Text → Value) :
    (valueOf name = .null ∧ tabled (name :: rest) valueOf = tabled rest valueOf) ∨
      tabled (name :: rest) valueOf =
        (.text (memberName name), plain (valueOf name)) :: tabled rest valueOf := by
  unfold tabled
  rw [List.map_cons]
  by_cases absent : valueOf name = .null
  · rw [absent]
    exact .inl ⟨rfl, rfl⟩
  · rw [plainAttributes_of_ne_null absent]
    exact .inr rfl

theorem mem_tabled {entry : Value × Value} (member : entry ∈ tabled names valueOf) :
    ∃ name ∈ names, entry = (.text (memberName name), plain (valueOf name)) := by
  induction names with
  | nil => cases member
  | cons first rest ih =>
      have later (inRest : entry ∈ tabled rest valueOf) :
          ∃ name ∈ first :: rest, entry = (.text (memberName name), plain (valueOf name)) := by
        obtain ⟨name, known, given⟩ := ih inRest
        exact ⟨name, List.mem_cons_of_mem _ known, given⟩
      rcases tabled_cons first rest valueOf with ⟨-, same⟩ | same
      · rw [same] at member
        exact later member
      · rw [same] at member
        rcases List.mem_cons.1 member with rfl | inRest
        · exact ⟨first, List.mem_cons_self, rfl⟩
        · exact later inRest

theorem isText_of_mem_tabled : ∀ entry ∈ tabled names valueOf, entry.1.isText = true := by
  intro entry member
  obtain ⟨name, -, rfl⟩ := mem_tabled member
  rfl

/-- A member whose name is none of the table is met by none in it. -/
theorem same_tabled_of_not_mem {name : Text} (fresh : memberName name ∉ names.map memberName) :
    ∀ entry ∈ tabled names valueOf, (Value.text (memberName name)).same entry.1 = false := by
  intro entry member
  obtain ⟨other, known, rfl⟩ := mem_tabled member
  refine Value.same_text_of_ne fun same => fresh ?_
  rw [same]
  exact List.mem_map_of_mem known

/-- Attributes with different names in the document are different members. -/
theorem areDistinct_tabled (nodup : (names.map memberName).Nodup) :
    (tabled names valueOf).areDistinct = true := by
  induction names with
  | nil => rfl
  | cons name rest ih =>
      rw [List.map_cons, List.nodup_cons] at nodup
      obtain ⟨fresh, others⟩ := nodup
      rcases tabled_cons name rest valueOf with ⟨-, same⟩ | same
      · rw [same]
        exact ih others
      · rw [same]
        exact Entries.areDistinct_cons.2 ⟨same_tabled_of_not_mem fresh, ih others⟩

/-- **The member of an attribute is what the attribute holds**, null standing for no value. -/
theorem member_tabled (nodup : (names.map memberName).Nodup) {name : Text} (known : name ∈ names) :
    Metadata.member (tabled names valueOf) (memberName name) = plain (valueOf name) := by
  induction names with
  | nil => cases known
  | cons first rest ih =>
      rw [List.map_cons, List.nodup_cons] at nodup
      obtain ⟨fresh, others⟩ := nodup
      rcases List.mem_cons.1 known with rfl | inRest
      · rcases tabled_cons name rest valueOf with ⟨absent, same⟩ | same
        · -- without a value it is no member, and no later attribute has its name
          have others := @same_tabled_of_not_mem rest valueOf name fresh
          rw [same, absent, Metadata.member, Entries.get?_eq_none_of_fresh others]
          rfl
        · rw [same, Metadata.member, Entries.get?_cons_self]
          rfl
      · rcases tabled_cons first rest valueOf with ⟨-, same⟩ | same
        · rw [same]
          exact ih others inRest
        · have different : memberName first ≠ memberName name := by
            intro same
            rw [same] at fresh
            exact fresh (List.mem_map_of_mem inRest)
          rw [same, Metadata.member, Entries.get?_cons_of_ne different]
          exact ih others inRest

theorem areMembers_tabled (trees : ∀ name, Json.isTree (plain (valueOf name)) = true) :
    Json.areMembers (tabled names valueOf) = true := by
  induction names with
  | nil => rfl
  | cons name rest ih =>
      rcases tabled_cons name rest valueOf with ⟨-, same⟩ | same
      · rw [same, ih]
      · rw [same, Json.areMembers, trees name, ih]
        rfl

theorem depthOfEntries_tabled_le {bound : Nat}
    (shallow : ∀ name, Json.depth (plain (valueOf name)) ≤ bound) :
    Json.depthOfEntries (tabled names valueOf) ≤ bound := by
  induction names with
  | nil => exact Nat.zero_le bound
  | cons name rest ih =>
      rcases tabled_cons name rest valueOf with ⟨-, same⟩ | same
      · rw [same]
        exact ih
      · rw [same, Json.depthOfEntries]
        exact Nat.max_le.2 ⟨shallow name, ih⟩

end Table

/-- No two attributes of a class have one name in the document. -/
theorem nodup_memberNames (cls : ModelClass) : (cls.attributes.map memberName).Nodup := by
  cases cls <;> decide

section Given

variable (cls : ModelClass) (given : List (Text × Value))

/-- What an attribute is given, null if nothing. -/
def givenAt (name : Text) : Value := (given.lookup name).getD .null

/-- The members that the attributes of a class become where these are given. -/
def givenMembers : Entries := tabled cls.attributes (givenAt given)

theorem plain_ofModel : plain (.ofModel cls given) = .map (givenMembers cls given) := by
  rw [Value.ofModel, plain]
  rfl

theorem document_ofModel : document (.ofModel cls given) = .map (givenMembers cls given) :=
  document_of_plain (plain_ofModel cls given)

theorem mem_or_givenAt_eq_null (name : Text) :
    (name, givenAt given name) ∈ given ∨ givenAt given name = .null := by
  unfold givenAt
  cases found : given.lookup name with
  | none => exact .inr rfl
  | some v =>
      obtain ⟨before, after, same, -⟩ := List.lookup_eq_some_iff.1 found
      have member : (name, v) ∈ before ++ (name, v) :: after :=
        List.mem_append_right before List.mem_cons_self
      rw [← same] at member
      exact .inl member

theorem areDistinct_givenMembers : (givenMembers cls given).areDistinct = true :=
  areDistinct_tabled (nodup_memberNames cls)

variable {cls}

/-- What stands at an attribute that has the same name in the document. -/
theorem member_givenMembers {name : Text} (known : name ∈ cls.attributes)
    (kept : memberName name = name) :
    Metadata.member (givenMembers cls given) name = plain (givenAt given name) := by
  have found := @member_tabled _ (givenAt given) (nodup_memberNames cls) _ known
  rw [kept] at found
  exact found

end Given

end Model

end AdmissionGate
