/-
# AdmissionGate.Proofs.Check.Answer -- the answer to a review

The answer is added to the table of the review, from the inside out, so that only
the identifier of the request is taken over.  What is added goes on after what is
there (`Adds`); the value at the new root is the answer (`answerTo`), and since the
gate gives codes and texts only, it can be written (`exists_answer`).
-/
import AdmissionGate.Check
import AdmissionGate.Proofs.Review.Read
import AdmissionGate.Proofs.Yaml.Print

namespace AdmissionGate

set_option autoImplicit false

open Yaml (Graph Spot)

namespace Yaml

namespace Graph

variable {g : Graph} {n : Nat}

theorem holds_of_text {t : Text} (cell : g.cell n = .scalar (.text t)) : g.Holds n (.text t) := by
  refine ⟨?_, .scalar cell rfl⟩
  by_contra outside
  simp [Graph.cell, Array.getElem?_eq_none (Nat.le_of_not_lt outside)] at cell

end Graph

theorem Spot.graph_of_member? {s m : Spot} {name : Text} (found : s.member? name = some m) :
    m.graph = s.graph := by
  unfold member? at found
  split at found
  · obtain ⟨_, -, rfl⟩ := Option.map_eq_some_iff.1 found
    rfl
  · cases found

end Yaml

theorem Review.graph_of_requestOf {review r : Spot} (found : requestOf review = .ok r) :
    r.graph = review.graph := by
  unfold requestOf at found
  split at found
  · rename_i m inside
    cases found
    exact Spot.graph_of_member? (Option.eq_some_of_filter_eq_some inside)
  · cases found

namespace Check

/-! ## Adding values -/

/-- What is added to a table leaves its values as they are, and then something holds of the result
and of the table. -/
def Adds {α : Type} (g : Graph) (m : Adding α) (post : α → Graph → Prop) : Prop :=
  g.Extends (m.run g).2 ∧ post (m.run g).1 (m.run g).2

section Adds

variable {α β : Type} {g : Graph}

theorem Adds.bind {m : Adding α} {f : α → Adding β} {between : α → Graph → Prop}
    {post : β → Graph → Prop} (first : Adds g m between)
    (next : ∀ a h, g.Extends h → between a h → Adds h (f a) post) : Adds g (m >>= f) post := by
  obtain ⟨more, reached⟩ := next _ _ first.1 first.2
  exact ⟨first.1.trans more, reached⟩

theorem Adds.pure {a : α} {post : α → Graph → Prop} (holds : post a g) :
    Adds g (Pure.pure a) post := ⟨.refl g, holds⟩

/-- Adding something for each element of a list: what holds of one addition still holds after the
others. -/
theorem adds_mapM {δ ε : Type} (f : α → Adding β) (out : δ → β) (value : δ → ε) (wanted : α → ε)
    {kept : δ → Graph → Prop} (stable : ∀ z g h, kept z g → g.Extends h → kept z h)
    {xs : List α} (each : ∀ x ∈ xs, ∀ h, g.Extends h →
      Adds h (f x) fun y i => ∃ z, y = out z ∧ value z = wanted x ∧ kept z i) :
    Adds g (xs.mapM f) fun ys i =>
      ∃ zs : List δ, ys = zs.map out ∧ zs.map value = xs.map wanted ∧ ∀ z ∈ zs, kept z i := by
  induction xs generalizing g with
  | nil =>
      rw [List.mapM_nil]
      exact .pure ⟨[], rfl, rfl, fun _ impossible => absurd impossible List.not_mem_nil⟩
  | cons x rest ih =>
      obtain ⟨first, others⟩ := List.forall_mem_cons.1 each
      rw [List.mapM_cons]
      refine (first g (.refl g)).bind fun y h more => ?_
      rintro ⟨z, rfl, same, keptFirst⟩
      have later := ih (g := h) fun x member i further => others x member i (more.trans further)
      refine later.bind fun ys i further => ?_
      rintro ⟨zs, rfl, sameOthers, keptOthers⟩
      refine .pure ⟨z :: zs, rfl, by rw [List.map_cons, List.map_cons, same, sameOthers], ?_⟩
      exact List.forall_mem_cons.2 ⟨stable z h i keptFirst further, keptOthers⟩

theorem cell_push {c : Yaml.Cell} :
    Graph.cell { g with cells := g.cells.push c } g.cells.size = c := by
  simp [Graph.cell]

theorem extends_push (c : Yaml.Cell) : g.Extends { g with cells := g.cells.push c } where
  size := by simp
  cell n inside := by simp [Graph.cell, Array.getElem?_push, Nat.ne_of_lt inside]

theorem adds_scalar {v : Value} (written : ∃ s, Yaml.Print.Scalar.ofValue v = .ok s) :
    Adds g (add (.scalar v)) fun n h => h.Holds n v := by
  obtain ⟨s, written⟩ := written
  exact ⟨extends_push _, by simp [add, StateT.run], .scalar cell_push written⟩

theorem adds_text (t : Text) : Adds g (add (.scalar (.text t))) fun n h => h.Holds n (.text t) :=
  adds_scalar ⟨_, rfl⟩

/-- A map is added above its keys, which are new, and its values, which are there. -/
theorem adds_map (parts : List ((Text × Nat) × Value)) (held : ∀ p ∈ parts, g.Holds p.1.2 p.2) :
    Adds g (addMap (parts.map Prod.fst)) fun n h =>
      h.Holds n (.map (parts.map fun p => (.text p.1.1, p.2))) := by
  have keys := adds_mapM (g := g)
    (fun p : (Text × Nat) × Value => do return (← add (.scalar (.text p.1.1)), p.1.2))
    (fun m : (Nat × Nat) × (Value × Value) => m.1) Prod.snd (fun p => (.text p.1.1, p.2))
    (fun m h i both more => (⟨both.1.extend more, both.2.extend more⟩ :
      i.Holds m.1.1 m.2.1 ∧ i.Holds m.1.2 m.2.2))
    fun p member h more => (adds_text p.1.1).bind fun k i further key =>
      .pure ⟨((k, p.1.2), (.text p.1.1, p.2)), rfl, rfl, key,
        (held p member).extend (more.trans further)⟩
  rw [addMap, List.mapM_map]
  refine keys.bind fun entries h more => ?_
  rintro ⟨members, rfl, same, both⟩
  refine ⟨extends_push _, by simp [add, StateT.run], ?_⟩
  rw [← same]
  refine .map cell_push (fun m member => ⟨(both m member).1.1, (both m member).2.1⟩) ?_ ?_
  · exact fun m member => ((both m member).1.extend (extends_push _)).2
  · exact fun m member => ((both m member).2.extend (extends_push _)).2

end Adds

/-! ## The answer -/

def statusOf (v : Verdict) : Value := .map (v.status.map fun member => (.text member.1, member.2))

def responseTo (uid : Text) (v : Verdict) : Value :=
  .map [("uid", .text uid), ("allowed", .bool v.isAllowed), ("status", statusOf v)]

/-- The answer to a review whose request has an identifier, as a value. -/
def answerTo (uid : Text) (v : Verdict) : Value :=
  .map [("apiVersion", "admission.k8s.io/v1"), ("kind", "AdmissionReview"),
    ("response", responseTo uid v)]

/-- Every member of the status of a verdict can be written. -/
def CanBeWritten (v : Verdict) : Prop :=
  ∀ member ∈ v.status, ∃ s, Yaml.Print.Scalar.ofValue member.2 = .ok s

/-- Two texts and a code that is not too large can be written. -/
theorem canBeWritten_of_texts (outcome : Outcome) {code : Int} (reason message : Text)
    (short : ∃ s, Yaml.Print.Scalar.ofValue (.int code) = .ok s) :
    CanBeWritten ⟨outcome, .int code, .text reason, .text message⟩ := by
  have optional (name t : Text) : ∀ member ∈ Verdict.statusMember name (.text t),
      ∃ s, Yaml.Print.Scalar.ofValue member.2 = .ok s := by
    unfold Verdict.statusMember
    split
    · exact List.forall_mem_singleton.2 ⟨_, rfl⟩
    · exact fun _ impossible => absurd impossible List.not_mem_nil
  exact List.forall_mem_cons.2 ⟨short, List.forall_mem_append.2 ⟨optional _ _, optional _ _⟩⟩

variable {g : Graph} {r : Spot}

/-- The identifier is looked up in the review as it is captured. -/
theorem identifier_run (found : Review.requestOf (rootOf g) = .ok r) :
    identifier.run g =
      (match Outline.member? r "uid" with
        | some s => pure s.number
        | none => add (.scalar (.text [])) : Adding Nat).run g := by
  have asked : (Review.requestOf (rootOf g)).toOption.bind (Outline.member? · "uid") =
      Outline.member? r "uid" := by
    rw [found]
    rfl
  rw [← asked]
  rfl

theorem adds_identifier (found : Review.requestOf (rootOf g) = .ok r)
    (text : Review.HasText r "uid") :
    Adds g identifier fun n h => h.Holds n (.text (Review.textAt r "uid")) := by
  have same := Review.textMember_of_hasText text
  unfold Adds
  rw [identifier_run found]
  unfold Review.textMember at same
  cases given : Outline.member? r "uid" with
  | none =>
      rw [given] at same
      rw [← same]
      exact adds_text []
  | some s =>
      rw [given] at same
      have table : s.graph = g :=
        (Spot.graph_of_member? given).trans (Review.graph_of_requestOf found)
      have cell := Graph.cell_of_text same
      rw [table] at cell
      exact ⟨.refl g, Graph.holds_of_text cell⟩

theorem adds_status {v : Verdict} (written : CanBeWritten v) :
    Adds g (v.status.mapM fun (name, w) => do return (name, ← add (.scalar w))) fun members h =>
      ∃ parts : List ((Text × Nat) × Value), members = parts.map Prod.fst ∧
        (parts.map fun p => (p.1.1, p.2)) = v.status ∧ ∀ p ∈ parts, h.Holds p.1.2 p.2 := by
  have each := adds_mapM (g := g) (fun member => do return (member.1, ← add (.scalar member.2)))
    Prod.fst (fun p : (Text × Nat) × Value => (p.1.1, p.2)) id
    (fun p h i (holds : h.Holds p.1.2 p.2) more => holds.extend more)
    fun member given h more => (adds_scalar (written member given)).bind fun n i further held =>
      .pure ⟨((member.1, n), member.2), rfl, rfl, held⟩
  rwa [List.map_id] at each

theorem adds_answer (found : Review.requestOf (rootOf g) = .ok r) (text : Review.HasText r "uid")
    {v : Verdict} (written : CanBeWritten v) :
    Adds g (addAnswer v) fun _ h => h.Holds h.root (answerTo (Review.textAt r "uid") v) := by
  unfold addAnswer
  refine (adds_identifier found text).bind fun uid g₁ _ uidHeld => ?_
  refine (adds_status written).bind fun _ g₂ more₂ ⟨parts, same, given, partsHeld⟩ => ?_
  subst same
  refine (adds_map parts partsHeld).bind fun status g₃ more₃ statusHeld => ?_
  have members : Value.map (parts.map fun p => (.text p.1.1, p.2)) = statusOf v := by
    rw [statusOf, ← given, List.map_map]
    rfl
  rw [members] at statusHeld
  refine (adds_scalar (v := .bool v.isAllowed) ⟨_, rfl⟩).bind fun allowed g₄ more₄ allowedHeld => ?_
  have response := adds_map (g := g₄) [(("uid", uid), .text (Review.textAt r "uid")),
    (("allowed", allowed), .bool v.isAllowed), (("status", status), statusOf v)] <| by
      simp only [List.forall_mem_cons, List.not_mem_nil, false_imp_iff, implies_true, and_true]
      exact ⟨uidHeld.extend (more₂.trans (more₃.trans more₄)), allowedHeld,
        statusHeld.extend more₄⟩
  refine response.bind fun response g₅ _ responseHeld => ?_
  refine (adds_text "admission.k8s.io/v1").bind fun version g₆ more₆ versionHeld => ?_
  refine (adds_text "AdmissionReview").bind fun kind g₇ more₇ kindHeld => ?_
  have root := adds_map (g := g₇) [(("apiVersion", version), "admission.k8s.io/v1"),
    (("kind", kind), "AdmissionReview"),
    (("response", response), responseTo (Review.textAt r "uid") v)] <| by
      simp only [List.forall_mem_cons, List.not_mem_nil, false_imp_iff, implies_true, and_true]
      exact ⟨versionHeld.extend more₇, kindHeld, responseHeld.extend (more₆.trans more₇)⟩
  refine root.bind fun root g₈ _ rootHeld => ?_
  -- Only the root changes in the last step.
  exact ⟨⟨Nat.le_refl _, fun _ _ => rfl⟩, rootHeld.extend ⟨Nat.le_refl _, fun _ _ => rfl⟩⟩

/-- A text is a document that spells a value. -/
def IsDocument (t : Text) (v : Value) : Prop :=
  ∃ h : Graph, h.value h.root = v ∧ h.print = .ok t

/-- **The answer to a review is written.** -/
theorem exists_answer (found : Review.requestOf (rootOf g) = .ok r) (text : Review.HasText r "uid")
    {v : Verdict} (written : CanBeWritten v) :
    ∃ t, answer g v = .ok t ∧ IsDocument t (answerTo (Review.textAt r "uid") v) := by
  obtain ⟨-, inside, spells⟩ := adds_answer found text written
  obtain ⟨t, printed⟩ := Graph.exists_print (Graph.isWritable_spells _) ⟨_, spells⟩
  refine ⟨t, ?_, _, spells.value inside, printed⟩
  rw [answer, printed]
  rfl

end Check

end AdmissionGate
