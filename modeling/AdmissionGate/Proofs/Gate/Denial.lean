/-
# AdmissionGate.Proofs.Gate.Denial -- which resource a denial is about

A denial quotes the name and the namespace of a resource behind its kind, and a kind has
three shapes as text.  All of it is inserted as it stands, so a text that looks like a
part of the message could be taken for one; but not if the quote, and in a kind the
slash and the comma, keep to the places that the message and the shapes give them
(`Resource.IsPlain`).  Then a denial can be taken apart in one way only, at the first of
these signs each time, and it is about one resource (`denials_identify`).
-/
import AdmissionGate.Proofs.Gate.Handle

namespace AdmissionGate

set_option autoImplicit false

namespace Text

def Avoids (t codes : Text) : Prop := ∀ c ∈ codes, c ∉ t

instance (t codes : Text) : Decidable (Avoids t codes) := List.decidableBAll _ codes

/-- A text is cut at the first place of a code point in one way. -/
theorem cut_unique {c : Code} {s t rest other : Text} (free : c ∉ s) (alsoFree : c ∉ t)
    (same : s ++ c :: rest = t ++ c :: other) : s = t ∧ rest = other := by
  induction s generalizing t with
  | nil =>
      cases t with
      | nil => exact ⟨rfl, (List.cons.inj same).2⟩
      | cons d t =>
          have first : c = d := (List.cons.inj same).1
          exact absurd (first ▸ List.mem_cons_self) alsoFree
  | cons d s ih =>
      cases t with
      | nil =>
          have first : d = c := (List.cons.inj same).1
          exact absurd (first ▸ List.mem_cons_self) free
      | cons e t =>
          obtain ⟨first, others⟩ := List.cons.inj same
          have both := ih (List.not_mem_of_not_mem_cons free)
            (List.not_mem_of_not_mem_cons alsoFree) others
          exact ⟨by rw [first, both.1], both.2⟩

end Text

/-! ## Kinds -/

namespace TypedKind

/-- A kind in whose parts nothing looks like the signs between them, or like a quote. -/
structure IsPlain (k : TypedKind) : Prop where
  group : k.group.Avoids "/,\""
  version : k.version.Avoids "/,\""
  kind : k.kind.Avoids ",\""

/-- Group and version as they stand in front of a kind. -/
def apiVersion (k : TypedKind) : Text :=
  if k.group = [] then k.version else k.group ++ ('/' : Code) :: k.version

theorem shown_eq (k : TypedKind) :
    k.shown = if k.apiVersion = [] then k.kind
      else k.apiVersion ++ (',' : Code) :: (" Kind=" ++ k.kind) := by
  unfold shown apiVersion
  by_cases groupless : k.group = []
  · rw [if_pos groupless, if_neg (not_not_intro groupless)]
    by_cases bare : k.version = []
    · rw [if_pos bare, if_neg (not_not_intro bare)]
    · rw [if_neg bare, if_pos bare, List.append_assoc]
      rfl
  · have given : k.group ++ ('/' : Code) :: k.version ≠ [] := by simp [groupless]
    rw [if_pos groupless, if_neg groupless, if_neg given]
    simp only [List.append_assoc]
    rfl

variable {k l : TypedKind}

theorem not_mem_apiVersion {c : Code} (group : c ∉ k.group) (version : c ∉ k.version)
    (noSlash : c ≠ '/') : c ∉ k.apiVersion := by
  unfold apiVersion
  split
  · exact version
  · simp only [List.mem_append, List.mem_cons, not_or]
    exact ⟨group, noSlash, version⟩

theorem not_mem_shown {c : Code} (plain : c ∉ k.apiVersion) (kind : c ∉ k.kind)
    (sign : c ∉ (", Kind=" : Text)) : c ∉ k.shown := by
  rw [shown_eq]
  split
  · exact kind
  · intro member
    rcases List.mem_append.1 member with front | back
    · exact plain front
    · have inBack : c ∈ (", Kind=" : Text) ++ k.kind := back
      rcases List.mem_append.1 inBack with inSign | inKind
      · exact sign inSign
      · exact kind inKind

/-- The slash shows whether there is a group. -/
theorem slash_not_mem_apiVersion (plain : k.IsPlain) :
    ('/' : Code) ∉ k.apiVersion ↔ k.group = [] := by
  have noSlash : ('/' : Code) ∉ k.version := plain.version '/' (by decide)
  unfold apiVersion
  by_cases groupless : k.group = []
  · rw [if_pos groupless]
    exact iff_of_true noSlash groupless
  · rw [if_neg groupless]
    have slash : ('/' : Code) ∈ k.group ++ ('/' : Code) :: k.version :=
      List.mem_append_right _ List.mem_cons_self
    exact iff_of_false (not_not_intro slash) groupless

theorem apiVersion_inj (plain : k.IsPlain) (alsoPlain : l.IsPlain)
    (same : k.apiVersion = l.apiVersion) : k.group = l.group ∧ k.version = l.version := by
  have grouped : k.group = [] ↔ l.group = [] := by
    rw [← slash_not_mem_apiVersion plain, ← slash_not_mem_apiVersion alsoPlain, same]
  unfold apiVersion at same
  by_cases groupless : k.group = []
  · have alsoGroupless : l.group = [] := grouped.1 groupless
    rw [if_pos groupless, if_pos alsoGroupless] at same
    exact ⟨groupless.trans alsoGroupless.symm, same⟩
  · have alsoGrouped : l.group ≠ [] := fun alsoGroupless => groupless (grouped.2 alsoGroupless)
    rw [if_neg groupless, if_neg alsoGrouped] at same
    apply Text.cut_unique _ _ same
    · exact plain.group '/' (by decide)
    · exact alsoPlain.group '/' (by decide)

theorem comma_not_mem_apiVersion (plain : k.IsPlain) : (',' : Code) ∉ k.apiVersion :=
  not_mem_apiVersion (plain.group ',' (by decide)) (plain.version ',' (by decide)) (by decide)

/-- The comma shows whether there is a group or a version. -/
theorem comma_not_mem_shown (plain : k.IsPlain) :
    (',' : Code) ∉ k.shown ↔ k.apiVersion = [] := by
  have noComma : (',' : Code) ∉ k.kind := plain.kind ',' (by decide)
  rw [shown_eq]
  by_cases bare : k.apiVersion = []
  · rw [if_pos bare]
    exact iff_of_true noComma bare
  · rw [if_neg bare]
    have comma : (',' : Code) ∈ k.apiVersion ++ (',' : Code) :: (" Kind=" ++ k.kind) :=
      List.mem_append_right _ List.mem_cons_self
    exact iff_of_false (not_not_intro comma) bare

/-- **A kind is told by its text**, in whichever of the three shapes. -/
theorem shown_inj (plain : k.IsPlain) (alsoPlain : l.IsPlain) (same : k.shown = l.shown) :
    k = l := by
  have bareIff : k.apiVersion = [] ↔ l.apiVersion = [] := by
    rw [← comma_not_mem_shown plain, ← comma_not_mem_shown alsoPlain, same]
  have parts : k.apiVersion = l.apiVersion ∧ k.kind = l.kind := by
    rw [shown_eq, shown_eq] at same
    by_cases bare : k.apiVersion = []
    · have alsoBare : l.apiVersion = [] := bareIff.1 bare
      rw [if_pos bare, if_pos alsoBare] at same
      exact ⟨bare.trans alsoBare.symm, same⟩
    · have alsoPrefixed : l.apiVersion ≠ [] := fun alsoBare => bare (bareIff.2 alsoBare)
      rw [if_neg bare, if_neg alsoPrefixed] at same
      obtain ⟨front, behind⟩ := Text.cut_unique (comma_not_mem_apiVersion plain)
        (comma_not_mem_apiVersion alsoPlain) same
      exact ⟨front, List.append_cancel_left behind⟩
  obtain ⟨group, version⟩ := apiVersion_inj plain alsoPlain parts.1
  cases k
  cases l
  simp only at group version parts
  rw [group, version, parts.2]

end TypedKind

/-! ## Resources -/

/-- What a denial is about: a kind of resource, and what one of it is called. -/
structure Resource where
  kind : TypedKind := {}
  name : Text := []
  «namespace» : Text := []

namespace Resource

/-- A resource whose texts have no quote, and whose kind is plain. -/
structure IsPlain (x : Resource) : Prop where
  kind : x.kind.IsPlain
  name : x.name.Avoids "\""
  «namespace» : x.namespace.Avoids "\""

def reason (x : Resource) : Except Fault Text :=
  denialReason x.kind.untyped (.text x.name) (.text x.namespace)

/-- The message with the texts of a resource in their places. -/
def denial (x : Resource) : Text :=
  "resource " ++ x.kind.shown ++ " \"" ++ x.name ++ "\" in namespace \"" ++ x.namespace ++
    "\" is managed by ARM and can only be modified by whitelisted users"

/-- Every resource can be named, and its texts are inserted as they stand. -/
theorem reason_eq (x : Resource) : x.reason = .ok x.denial := by
  rw [reason, denialReason, x.kind.shown_untyped]
  rfl

/-- The message, with the quotes as the places to cut it at. -/
theorem denial_eq (x : Resource) :
    let quote : Code := '"'
    x.denial = "resource " ++ ((x.kind.shown ++ " ") ++ quote :: (x.name ++ quote ::
      (" in namespace " ++ quote :: (x.namespace ++ quote ::
        " is managed by ARM and can only be modified by whitelisted users")))) := by
  intro quote
  have opening : (" \"" : Text) = " " ++ [quote] := by decide
  have between : ("\" in namespace \"" : Text) = quote :: (" in namespace " ++ [quote]) := by
    decide
  have closing : ("\" is managed by ARM and can only be modified by whitelisted users" : Text) =
      quote :: " is managed by ARM and can only be modified by whitelisted users" := by
    decide
  rw [denial, opening, between, closing]
  simp only [List.append_assoc, List.cons_append, List.nil_append]

theorem denial_inj {x y : Resource} (plain : x.IsPlain) (alsoPlain : y.IsPlain)
    (same : x.denial = y.denial) : x = y := by
  have noQuote {x : Resource} (plain : x.IsPlain) :
      ('"' : Code) ∉ x.kind.shown ++ " " ∧ ('"' : Code) ∉ x.name ∧ ('"' : Code) ∉ x.namespace := by
    have kind := plain.kind
    have version : ('"' : Code) ∉ x.kind.apiVersion := TypedKind.not_mem_apiVersion
      (kind.group '"' (by decide)) (kind.version '"' (by decide)) (by decide)
    have shown : ('"' : Code) ∉ x.kind.shown :=
      TypedKind.not_mem_shown version (kind.kind '"' (by decide)) (by decide)
    refine ⟨?_, plain.name '"' (by decide), plain.namespace '"' (by decide)⟩
    simp only [List.mem_append, not_or]
    exact ⟨shown, by decide⟩
  rw [denial_eq, denial_eq] at same
  obtain ⟨kind, same⟩ :=
    Text.cut_unique (noQuote plain).1 (noQuote alsoPlain).1 (List.append_cancel_left same)
  obtain ⟨name, same⟩ := Text.cut_unique (noQuote plain).2.1 (noQuote alsoPlain).2.1 same
  have behind := (List.cons.inj (List.append_cancel_left same)).2
  obtain ⟨space, -⟩ := Text.cut_unique (noQuote plain).2.2 (noQuote alsoPlain).2.2 behind
  have sameKind := TypedKind.shown_inj plain.kind alsoPlain.kind (List.append_cancel_right kind)
  cases x
  cases y
  simp only at sameKind name space
  rw [sameKind, name, space]

end Resource

/-! ## Requests -/

structure Request.IsAbout (r : Request) (x : Resource) : Prop where
  kind : r.kind = x.kind.untyped
  name : r.name = .text x.name
  «namespace» : r.namespace = .text x.namespace

theorem denialReason_of_judge {q : Question} {w : Whitelist} {reason : Value}
    (denied : judge q w = .ok (.deny reason)) :
    ∃ t, denialReason q.kind q.name q.namespace = .ok t ∧ reason = .text t := by
  obtain ⟨known, -, denied⟩ := bind_eq_ok_iff.1 denied
  cases known with
  | true => cases denied
  | false =>
      obtain ⟨t, said, same⟩ := bind_eq_ok_iff.1 denied
      cases same
      exact ⟨t, said, rfl⟩

/-- The gate denies for no other reason than the one about the resource of the request. -/
theorem denialReason_of_handle {v : Validator} {verbosity : Nat} {r : Request} {d : Decision}
    {reason : Value} (answer : v.handle verbosity r = .ok d) (denied : d.verdict = .deny reason) :
    ∃ t, denialReason r.kind r.name r.namespace = .ok t ∧ reason = .text t := by
  obtain ⟨name, c, -, concludes, verdict, -⟩ := Validator.handle_eq_ok answer
  rw [denied] at verdict
  cases concludes with
  | unguarded => cases verdict
  | refused unread => cases verdict
  | judged read answered =>
      cases verdict
      unfold Validator.decide evaluate at answered
      split at answered
      · cases answered
      · cases answered
      · obtain ⟨w, -, judged⟩ := bind_eq_ok_iff.1 answered
        exact denialReason_of_judge judged

/-- The text of a denial is that of the resource. -/
theorem denial_of_handle {v : Validator} {verbosity : Nat} {r : Request} {d : Decision}
    {reason : Value} {x : Resource} (about : r.IsAbout x) (answer : v.handle verbosity r = .ok d)
    (denied : d.verdict = .deny reason) : reason = .text x.denial := by
  obtain ⟨t, said, rfl⟩ := denialReason_of_handle answer denied
  rw [about.kind, about.name, about.namespace] at said
  have same := said.symm.trans x.reason_eq
  cases same
  rfl

/-- **A denial is about one resource.**  Every resource can be named in a denial, with its texts as
they stand.  Of plain resources the text tells group, version, kind, name and namespace, and so does
the text of a kind for its three parts.  So if two gates, or one gate twice, deny requests about
plain resources with the same text, then the requests are about the same resource. -/
theorem denials_identify :
    (∀ x : Resource, x.reason = .ok x.denial) ∧
      (∀ x y : Resource, x.IsPlain → y.IsPlain → x.reason = y.reason → x = y) ∧
      (∀ k l : TypedKind, k.IsPlain → l.IsPlain → k.untyped.shown = l.untyped.shown → k = l) ∧
      ∀ (v w : Validator) (verbosity other : Nat) (r s : Request) (d e : Decision) (reason : Value)
        (x y : Resource), r.IsAbout x → s.IsAbout y → x.IsPlain → y.IsPlain →
          v.handle verbosity r = .ok d → w.handle other s = .ok e →
            d.verdict = .deny reason → e.verdict = .deny reason → x = y := by
  refine ⟨Resource.reason_eq, ?_, ?_, ?_⟩
  · intro x y plain alsoPlain same
    rw [x.reason_eq, y.reason_eq] at same
    exact Resource.denial_inj plain alsoPlain (Except.ok.inj same)
  · intro k l plain alsoPlain same
    rw [k.shown_untyped, l.shown_untyped] at same
    exact TypedKind.shown_inj plain alsoPlain (Except.ok.inj same)
  · intro v w verbosity other r s d e reason x y about alsoAbout plain alsoPlain answer alsoAnswer
      denied alsoDenied
    have first := denial_of_handle about answer denied
    have second := denial_of_handle alsoAbout alsoAnswer alsoDenied
    exact Resource.denial_inj plain alsoPlain (Value.text.inj (first.symm.trans second))

/-- A deployment with the placeholders of a message for its names. -/
def bracedDeployment : Resource where
  kind := { group := "apps", version := "v1", kind := "Deployment" }
  name := "\x7bnamespace\x7d"
  «namespace» := "%s"

/-- The pod that `markedRequest` asks about. -/
def deniedPod : Resource where
  kind := { version := "v1", kind := "Pod" }
  name := "web"
  «namespace» := "prod"

/-- The pod is told from the text of its denial, and the deployment from its own. -/
theorem denials_identify_deniedPod :
    (deniedPod.IsPlain ∧ bracedDeployment.IsPlain ∧ markedRequest.untyped.IsAbout deniedPod) ∧
      bracedDeployment.reason = .ok
        ("resource apps/v1, Kind=Deployment \"\x7bnamespace\x7d\" in namespace \"%s\" " ++
          "is managed by ARM and can only be modified by whitelisted users") ∧
      bracedDeployment.reason ≠ deniedPod.reason ∧
      ∃ d e, Validator.ofUsers (.list [.text "alice"]) = .ok ⟨[.text "alice"]⟩ ∧
        (⟨[.text "alice"]⟩ : Validator).handle 0 markedRequest.untyped = .ok d ∧
        (⟨[.text "alice"]⟩ : Validator).handle 3 markedRequest.untyped = .ok e ∧
        d.verdict = .deny (.text deniedPod.denial) ∧ e.verdict = .deny (.text deniedPod.denial) ∧
        (⟨markedRequest.kind, markedRequest.name, markedRequest.namespace⟩ : Resource) =
          deniedPod := by
  have pod : deniedPod.IsPlain :=
    ⟨⟨by decide, by decide, by decide⟩, by decide, by decide⟩
  have deployment : bracedDeployment.IsPlain :=
    ⟨⟨by decide, by decide, by decide⟩, by decide, by decide⟩
  have about : markedRequest.untyped.IsAbout deniedPod := ⟨rfl, rfl, rfl⟩
  refine ⟨⟨pod, deployment, about⟩, ?_, ?_, ?_⟩
  · rw [denials_identify.1 bracedDeployment]
    exact congrArg Except.ok (by decide +kernel)
  · intro same
    have impossible := denials_identify.2.1 _ _ deployment pod same
    have names : bracedDeployment.name = deniedPod.name := congrArg Resource.name impossible
    revert names
    decide
  · let v : Validator := ⟨[.text "alice"]⟩
    have quiet : ∃ d, v.handle 0 markedRequest.untyped = .ok d ∧
        d.verdict = .deny (.text deniedPod.denial) := ⟨_, rfl, rfl⟩
    have verbose : ∃ e, v.handle 3 markedRequest.untyped = .ok e ∧
        e.verdict = .deny (.text deniedPod.denial) := ⟨_, rfl, rfl⟩
    obtain ⟨d, answer, denied⟩ := quiet
    obtain ⟨e, alsoAnswer, alsoDenied⟩ := verbose
    have same := denials_identify.2.2.2 v v 0 3 markedRequest.untyped markedRequest.untyped d e _
      ⟨markedRequest.kind, markedRequest.name, markedRequest.namespace⟩ deniedPod
      ⟨rfl, rfl, rfl⟩ about ⟨⟨by decide, by decide, by decide⟩, by decide, by decide⟩ pod
      answer alsoAnswer denied alsoDenied
    exact ⟨d, e, rfl, answer, alsoAnswer, denied, alsoDenied, same⟩

end AdmissionGate
