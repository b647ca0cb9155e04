/-
# AdmissionGate.Proofs.Gate.Answered -- the requests that are answered

The members of a captured request may be of any type.  The gate gives a verdict
nevertheless, unless it comes to a value that it cannot use in its place: one that
cannot be looked up among operations or users, one that cannot be shown in a reason,
or, as far as the verbosity asks for it, in the log (`IsAnswerable`).  Only values
that it comes to matter: for a request that is not guarded no user is looked up, and
nothing but a name is shown if the log is silent.

That is exact, and a verdict is never anything but to allow, to deny or an error
(`handle_cases`).
-/
import AdmissionGate.Proofs.Gate.Handle
import AdmissionGate.Proofs.Value.Shown

namespace AdmissionGate

set_option autoImplicit false

/-! ## Values that can be shown -/

theorem Value.shown_iff {v : Value} : (∃ t, v.shown = .ok t) ↔ v.isShowable = true := by
  have shown := v.shownIf_display
  unfold Value.shown
  cases showable : v.isShowable with
  | true =>
      rw [showable] at shown
      obtain ⟨t, shown⟩ := shown
      simp [shown]
  | false =>
      rw [showable] at shown
      have refused : v.display = .error .tooLarge := shown
      simp [refused]

/-- A kind that can be shown in the shape that it has; alone it has to be a text. -/
def ResourceKind.IsShowable (k : ResourceKind) : Prop :=
  if k.group.isTruthy then
    k.group.isShowable = true ∧ k.version.isShowable = true ∧ k.kind.isShowable = true
  else if k.version.isTruthy then k.version.isShowable = true ∧ k.kind.isShowable = true
  else k.kind.isText = true

theorem ResourceKind.shown_iff {k : ResourceKind} : (∃ t, k.shown = .ok t) ↔ k.IsShowable := by
  unfold ResourceKind.shown IsShowable
  split
  · rw [exists_bind_iff fun _ _ => exists_bind_iff fun _ _ => exists_bind_pure_iff,
      Value.shown_iff, Value.shown_iff, Value.shown_iff]
  · split
    · rw [exists_bind_iff fun _ _ => exists_bind_pure_iff, Value.shown_iff, Value.shown_iff]
    · cases k.kind <;> simp [Value.isText]

theorem denialReason_iff {kind : ResourceKind} {name space : Value} :
    (∃ reason, denialReason kind name space = .ok reason) ↔
      kind.IsShowable ∧ name.isShowable = true ∧ space.isShowable = true := by
  rw [denialReason, exists_bind_iff fun _ _ => exists_bind_iff fun _ _ => exists_bind_pure_iff,
    ResourceKind.shown_iff, Value.shown_iff, Value.shown_iff]

/-! ## Values that can be looked up -/

/-- A value that can be looked up in a collection of texts: it could be a member, or it is a set. -/
def Value.CanBeAsked (v : Value) : Prop := (∃ items, v = .set items) ∨ v.unhashable? = none

namespace Whitelist

theorem contains_of_canBeAsked {v : Value} (asked : v.CanBeAsked) (names : List Text) :
    ∃ known, (ofNames names).contains v = .ok known ∧
      (known = true ↔ ∃ name ∈ names, v = .text name) := by
  rcases asked with ⟨items, rfl⟩ | hashable
  · exact ⟨false, rfl, by simp⟩
  · refine ⟨holds (ofNames names) v, ?_, holds_ofNames_iff⟩
    unfold contains
    split
    · cases hashable
    · rw [hashable]

theorem contains_of_not_canBeAsked {v : Value} (unasked : ¬ v.CanBeAsked) (w : Whitelist) :
    ∃ fault, w.contains v = .error fault := by
  unfold contains
  split
  · exact absurd (.inl ⟨_, rfl⟩) unasked
  · cases hashable : v.unhashable? with
    | none => exact absurd (.inr hashable) unasked
    | some typeName => exact ⟨_, rfl⟩

end Whitelist

/-! ## What the gate comes to -/

namespace Request

/-- Both states are bytes, as those of a captured request are. -/
structure IsEncoded (r : Request) : Prop where
  new : r.new.live = none
  old : r.old.live = none

def IsGuarded (r : Request) : Prop := r.operation = .text "CREATE" ∨ r.operation = .text "UPDATE"

/-- Both states can be read, and the new one has these labels and annotations. -/
def Reads (r : Request) (labels annotations : Value) : Prop :=
  r.new.extract = .ok (labels, annotations) ∧ ∃ maps, r.old.extract = .ok maps

/-- The whitelist decides: the request is guarded, can be read, and its new state has the marker. -/
def Consults (r : Request) : Prop :=
  r.IsGuarded ∧ ∃ labels annotations, r.Reads labels annotations ∧
    (labels.IsMarked ∨ annotations.IsMarked)

def IsListed (names : List Text) (r : Request) : Prop :=
  ∃ name ∈ names, name ≠ [] ∧ r.username = .text name

/-- The request is allowed where some names may pass. -/
def Passes (names : List Text) (r : Request) : Prop :=
  ¬ r.IsGuarded ∨ (∃ labels annotations, r.Reads labels annotations) ∧
    (¬ r.Consults ∨ r.IsListed names)

/-- A decision that is logged at a verbosity: 3 shows all of them, 2 those that do not allow. -/
def IsLogged (names : List Text) (verbosity : Nat) (r : Request) : Prop :=
  3 ≤ verbosity ∨ 2 ≤ verbosity ∧ ¬ r.Passes names

/-- Everything in a request that is logged can be shown. -/
structure IsShowable (r : Request) : Prop where
  username : r.username.isShowable = true
  groups : r.groups.isShowable = true
  operation : r.operation.isShowable = true
  kind : r.shownKind.IsShowable
  subResource : r.subResource.isShowable = true
  name : r.name.isShowable = true

def IsExplicable (r : Request) : Prop :=
  r.kind.IsShowable ∧ r.name.isShowable = true ∧ r.namespace.isShowable = true

/-- What the gate comes to can be looked up and shown. -/
structure IsJudgeable (names : List Text) (r : Request) : Prop where
  operation : r.operation.CanBeAsked
  user : r.Consults → r.username.CanBeAsked ∧ (r.IsListed names ∨ r.IsExplicable)

/-- A request to which the gate comes to an answer. -/
structure IsAnswerable (names : List Text) (verbosity : Nat) (r : Request) : Prop where
  /-- The name is put together before anything else, even if nothing is logged. -/
  name : r.namespace.isTruthy = true → r.namespace.isShowable = true ∧ r.name.isShowable = true
  judgeable : r.IsJudgeable names
  logged : r.IsLogged names verbosity → r.IsShowable

variable {r : Request}

theorem namespacedName_iff :
    (∃ name, r.namespacedName = .ok name) ↔
      (r.namespace.isTruthy = true → r.namespace.isShowable = true ∧ r.name.isShowable = true) := by
  unfold namespacedName
  by_cases given : r.namespace.isTruthy = true
  · rw [if_pos given, exists_bind_iff fun _ _ => exists_bind_pure_iff, Value.shown_iff,
      Value.shown_iff]
    exact ⟨fun shown _ => shown, fun shown => shown given⟩
  · rw [if_neg given]
    exact iff_of_true ⟨_, rfl⟩ fun impossible => absurd impossible given

theorem isShowable_namespacedName {name : Value} (named : r.namespacedName = .ok name) :
    name.isShowable = true ↔ r.name.isShowable = true := by
  by_cases given : r.namespace.isTruthy = true
  · have shown := (namespacedName_iff.1 ⟨name, named⟩ given).2
    rw [namespacedName, if_pos given] at named
    obtain ⟨space, -, named⟩ := bind_eq_ok_iff.1 named
    obtain ⟨own, -, named⟩ := bind_eq_ok_iff.1 named
    cases named
    exact iff_of_true rfl shown
  · rw [namespacedName, if_neg given] at named
    cases named
    exact Iff.rfl

theorem logFields_iff {name : Value} (named : r.namespacedName = .ok name) :
    (∀ field ∈ Validator.logFields r name, ∃ t, field.2 = .ok t) ↔ r.IsShowable := by
  simp only [Validator.logFields, List.forall_mem_cons, List.not_mem_nil, false_imp_iff,
    implies_true, and_true, Value.shown_iff, ResourceKind.shown_iff,
    isShowable_namespacedName named]
  constructor
  · rintro ⟨username, groups, operation, kind, subResource, name⟩
    exact ⟨username, groups, operation, kind, subResource, name⟩
  · intro shown
    exact ⟨shown.username, shown.groups, shown.operation, shown.kind, shown.subResource,
      shown.name⟩

end Request

section Encoded

variable {names all : List Text} {r : Request}

theorem isGuarded_of_canBeAsked (asked : r.operation.CanBeAsked) :
    ∃ guarded, isGuarded r.operation = .ok guarded ∧ (guarded = true ↔ r.IsGuarded) := by
  obtain ⟨known, looked, knownIff⟩ :=
    Whitelist.contains_of_canBeAsked asked ["CREATE", "UPDATE"]
  exact ⟨known, looked, knownIff.trans (by simp [Request.IsGuarded])⟩

theorem Request.Reads.unique {labels annotations otherLabels otherAnnotations : Value}
    (first : r.Reads labels annotations) (second : r.Reads otherLabels otherAnnotations) :
    labels = otherLabels ∧ annotations = otherAnnotations := by
  simpa using first.1.symm.trans second.1

/-- Encoded states are read, or one of them cannot be decoded. -/
theorem extractBoth_of_isEncoded (encoded : r.IsEncoded) :
    (∃ labels annotations, r.Reads labels annotations ∧
        Validator.extractBoth r = .ok (labels, annotations) ∧
        labels.IsStringMap ∧ annotations.IsStringMap) ∨
      (¬ ∃ labels annotations, r.Reads labels annotations) ∧
        ∃ cause, Validator.extractBoth r = .error (.decode cause) := by
  have new := ObjectState.extract_ofRaw_cases r.new.raw
  have old := ObjectState.extract_ofRaw_cases r.old.raw
  rw [← ObjectState.extract_of_encoded encoded.new] at new
  rw [← ObjectState.extract_of_encoded encoded.old] at old
  unfold Validator.extractBoth
  rcases new with ⟨labels, annotations, new, typed⟩ | ⟨cause, new⟩
  · rcases old with ⟨_, _, old, -⟩ | ⟨cause, old⟩
    · exact .inl ⟨labels, annotations, ⟨new, _, old⟩, by simp [new, old], typed⟩
    · exact .inr ⟨by simp [Request.Reads, old], cause, by simp [new, old]⟩
  · exact .inr ⟨by simp [Request.Reads, new], cause, by simp [new]⟩

/-- A verdict that fits a request: it allows one that passes, else it denies it or is an error. -/
def Fits (names : List Text) (r : Request) (v : Verdict) : Prop :=
  (r.Passes names ∧ v = .allow (.text [])) ∨
    ¬ r.Passes names ∧
      ((∃ reason, v = .deny (.text reason)) ∨ ∃ message, v = .error (.int 500) message)

/-- Of a verdict that fits, the level of its log entry is the one at which the request is logged. -/
theorem isLogged_iff {v : Verdict} (fits : Fits names r v) (verbosity : Nat) :
    r.IsLogged names verbosity ↔ (if v.isAllowed then (3 : Int) else 2) ≤ verbosity := by
  unfold Request.IsLogged
  rcases fits with ⟨passes, rfl⟩ | ⟨fails, ⟨reason, rfl⟩ | ⟨message, rfl⟩⟩
  · rw [show (Verdict.allow (.text [])).isAllowed = true from rfl, if_pos rfl]
    grind
  · rw [show (Verdict.deny (.text reason)).isAllowed = false from rfl, if_neg Bool.false_ne_true]
    grind
  · rw [show (Verdict.error (.int 500) message).isAllowed = false from rfl,
      if_neg Bool.false_ne_true]
    grind

theorem canBeAsked_of_isListed (listed : r.IsListed names) : r.username.CanBeAsked := by
  obtain ⟨name, -, -, same⟩ := listed
  exact .inr (by rw [same]; rfl)

/-- A whitelist lets the listed users pass, and denies the others if it can say why. -/
theorem judge_cases (mem : ∀ name, name ∈ all ↔ name ∈ names ∧ name ≠ [])
    (operation : Value) (new : Option (List Value)) :
    let judged := judge ⟨operation, new, r.username, r.kind, r.name, r.namespace⟩
      (Whitelist.ofNames all)
    (r.IsListed names ∧ judged = .ok (.allow (.text []))) ∨
      ¬ r.IsListed names ∧ (r.username.CanBeAsked ∧ r.IsExplicable ∧
          (∃ reason, judged = .ok (.deny (.text reason))) ∨
        ¬ (r.username.CanBeAsked ∧ r.IsExplicable) ∧ ∃ fault, judged = .error fault) := by
  intro judged
  have opened : judged = (Whitelist.contains (Whitelist.ofNames all) r.username >>= fun known =>
      if known then pure (.allow (.text [])) else
        denialReason r.kind r.name r.namespace >>= fun reason => pure (.deny (.text reason))) := rfl
  have listedIff : (∃ name ∈ all, r.username = .text name) ↔ r.IsListed names := by
    simp only [mem, Request.IsListed, and_assoc]
  rw [opened]
  by_cases asked : r.username.CanBeAsked
  · obtain ⟨known, looked, knownIff⟩ := Whitelist.contains_of_canBeAsked asked all
    rw [listedIff] at knownIff
    rw [looked]
    cases known with
    | true => exact .inl ⟨knownIff.1 rfl, rfl⟩
    | false =>
        have stranger : ¬ r.IsListed names := by simp [← knownIff]
        refine .inr ⟨stranger, ?_⟩
        cases said : denialReason r.kind r.name r.namespace with
        | ok reason => exact .inl ⟨asked, denialReason_iff.1 ⟨reason, said⟩, reason, rfl⟩
        | error fault =>
            refine .inr ⟨fun both => ?_, fault, rfl⟩
            obtain ⟨reason, shown⟩ := denialReason_iff.2 both.2
            simp [said] at shown
  · obtain ⟨fault, refused⟩ := Whitelist.contains_of_not_canBeAsked asked (Whitelist.ofNames all)
    refine .inr ⟨fun listed => asked (canBeAsked_of_isListed listed), .inr ⟨?_, fault, ?_⟩⟩
    · exact fun both => asked both.1
    · simp [refused]

/-- Once both states have been read, there is a verdict unless the whitelist is asked in vain. -/
theorem decide_cases (mem : ∀ name, name ∈ all ↔ name ∈ names ∧ name ≠ [])
    (guarded : isGuarded r.operation = .ok true) (isGuarded : r.IsGuarded)
    {labels annotations : Value} (reads : r.Reads labels annotations)
    (typed : labels.IsStringMap ∧ annotations.IsStringMap) :
    let decided := Validator.decide ⟨Whitelist.ofNames all⟩ r labels annotations
    ((r.Consults → r.username.CanBeAsked ∧ (r.IsListed names ∨ r.IsExplicable)) ∧
        ∃ verdict, decided = .ok verdict ∧ Fits names r verdict) ∨
      r.Consults ∧ ¬ (r.username.CanBeAsked ∧ (r.IsListed names ∨ r.IsExplicable)) ∧
        ∃ fault, decided = .error fault := by
  intro decided
  have marker := anyManaged_of_isStringMap typed.1 typed.2
  have consultsIff : r.Consults ↔ labels.IsMarked ∨ annotations.IsMarked := by
    constructor
    · rintro ⟨-, otherLabels, otherAnnotations, again, marked⟩
      obtain ⟨rfl, rfl⟩ := again.unique reads
      exact marked
    · exact fun marked => ⟨isGuarded, labels, annotations, reads, marked⟩
  have passesIff : r.Passes names ↔ ¬ r.Consults ∨ r.IsListed names :=
    ⟨fun passes => (passes.resolve_left fun unguarded => unguarded isGuarded).2,
      fun passes => .inr ⟨⟨labels, annotations, reads⟩, passes⟩⟩
  have opened : decided = (evaluate ⟨r.operation, some [labels, annotations], r.username, r.kind,
      r.name, r.namespace⟩ (.given (.set (Whitelist.ofNames all)))).1 := rfl
  rw [opened, evaluate, needsWhitelist_of_isGuarded guarded rfl marker]
  by_cases consults : labels.IsMarked ∨ annotations.IsMarked
  · obtain ⟨again, normalized, memAgain⟩ := Whitelist.ofValue_set_ofNames all
    have same (name : Text) : name ∈ again ↔ name ∈ names ∧ name ≠ [] := by
      rw [memAgain, mem, and_assoc, and_self]
    simp only [decide_eq_true consults, Users.consult, normalized]
    rw [← consultsIff] at consults
    rcases judge_cases (r := r) same r.operation (some [labels, annotations]) with
      ⟨listed, answer⟩ | ⟨stranger, ⟨asked, explicable, reason, answer⟩ | ⟨vain, refused⟩⟩
    · exact .inl ⟨fun _ => ⟨canBeAsked_of_isListed listed, .inl listed⟩, _, answer,
        .inl ⟨passesIff.2 (.inr listed), rfl⟩⟩
    · refine .inl ⟨fun _ => ⟨asked, .inr explicable⟩, _, answer, .inr ⟨?_, .inl ⟨_, rfl⟩⟩⟩
      exact fun passes => (passesIff.1 passes).elim (· consults) stranger
    · refine .inr ⟨consults, fun both => ?_, refused⟩
      exact vain ⟨both.1, both.2.resolve_left stranger⟩
  · simp only [decide_eq_false consults]
    rw [← consultsIff] at consults
    exact .inl ⟨fun impossible => absurd impossible consults, _, rfl,
      .inl ⟨passesIff.2 (.inl consults), rfl⟩⟩

/-- The gate comes to a conclusion exactly on what it can judge. -/
theorem conclude_cases (mem : ∀ name, name ∈ all ↔ name ∈ names ∧ name ≠ [])
    (encoded : r.IsEncoded) :
    let concluded := Validator.conclude ⟨Whitelist.ofNames all⟩ r
    (r.IsJudgeable names ∧ ∃ c, concluded = .ok c ∧ Fits names r c.verdict ∧
        ∀ field ∈ c.extra, ∃ t, field.2 = .ok t) ∨
      ¬ r.IsJudgeable names ∧ ∃ fault, concluded = .error fault := by
  intro concluded
  have nothing : ∀ field ∈ ([] : List Log.Field), ∃ t, field.2 = .ok t :=
    fun _ impossible => absurd impossible List.not_mem_nil
  by_cases asked : r.operation.CanBeAsked
  · obtain ⟨guarded, looked, guardedIff⟩ := isGuarded_of_canBeAsked asked
    cases guarded with
    | false =>
        have unguarded : ¬ r.IsGuarded := by simp [← guardedIff]
        refine .inl ⟨⟨asked, fun consults => absurd consults.1 unguarded⟩,
          ⟨.allow (.text []), "operation is not guarded, allowing", []⟩, ?_,
          .inl ⟨.inl unguarded, rfl⟩, nothing⟩
        simp only [concluded, Validator.conclude, looked]
        rfl
    | true =>
        have isGuarded := guardedIff.1 rfl
        rcases extractBoth_of_isEncoded encoded with
          ⟨labels, annotations, reads, extracted, typed⟩ | ⟨unread, cause, extracted⟩
        · rcases decide_cases mem looked isGuarded reads typed with
            ⟨free, verdict, decided, fits⟩ | ⟨consults, vain, fault, refused⟩
          · refine .inl ⟨⟨asked, free⟩, ⟨verdict, Validator.messageOf verdict, []⟩, ?_, fits,
              nothing⟩
            simp only [concluded, Validator.conclude, looked, extracted, decided]
            rfl
          · refine .inr ⟨fun judgeable => vain (judgeable.user consults), fault, ?_⟩
            simp only [concluded, Validator.conclude, looked, extracted, refused]
            rfl
        · have free : ¬ r.Consults := by
            rintro ⟨-, labels, annotations, reads, -⟩
            exact unread ⟨labels, annotations, reads⟩
          have fails : ¬ r.Passes names := fun passes =>
            passes.elim (· isGuarded) fun both => unread both.1
          refine .inl ⟨⟨asked, fun consults => absurd consults free⟩,
            ⟨.error (.int 500) cause.message, "failed to get labels and annotations",
              [("err", .ok cause.message)]⟩, ?_, .inr ⟨fails, .inr ⟨_, rfl⟩⟩,
            List.forall_mem_singleton.2 ⟨_, rfl⟩⟩
          simp only [concluded, Validator.conclude, looked, extracted]
          rfl
  · obtain ⟨fault, refused⟩ := Whitelist.contains_of_not_canBeAsked asked
      [.text "CREATE", .text "UPDATE"]
    have refused : isGuarded r.operation = .error fault := refused
    refine .inr ⟨fun judgeable => asked judgeable.operation, fault, ?_⟩
    simp only [concluded, Validator.conclude, refused]
    rfl

/-- **A request is answered exactly if what the gate comes to can be used.**  Then the verdict is to
allow if the request passes, and to deny or an error if it does not. -/
theorem handle_cases (mem : ∀ name, name ∈ all ↔ name ∈ names ∧ name ≠ [])
    (encoded : r.IsEncoded) (verbosity : Nat) :
    let handled := Validator.handle ⟨Whitelist.ofNames all⟩ verbosity r
    (r.IsAnswerable names verbosity ∧
        ∃ verdict log, handled = .ok ⟨verdict, log⟩ ∧ Fits names r verdict) ∨
      ¬ r.IsAnswerable names verbosity ∧ ∃ fault, handled = .error fault := by
  intro handled
  have opened : handled = _ := Validator.handle_eq ⟨Whitelist.ofNames all⟩ verbosity r
  cases named : r.namespacedName with
  | error fault =>
      refine .inr ⟨fun answerable => ?_, fault, by rw [opened, named]; rfl⟩
      obtain ⟨name, given⟩ := Request.namespacedName_iff.2 answerable.name
      simp [named] at given
  | ok name =>
      rcases conclude_cases mem encoded with ⟨judgeable, c, concluded, fits, shown⟩ |
        ⟨vain, fault, refused⟩
      · have logIff : (∃ log, Log.emit verbosity (if c.verdict.isAllowed then 3 else 2) c.message
            (c.extra ++ Validator.logFields r name) = .ok log) ↔
            (r.IsLogged names verbosity → r.IsShowable) := by
          rw [Log.emit_iff, isLogged_iff fits, List.forall_mem_append, Request.logFields_iff named]
          exact ⟨fun written loud => (written loud).2, fun written loud => ⟨shown, written loud⟩⟩
        cases logged : Log.emit verbosity (if c.verdict.isAllowed then 3 else 2) c.message
            (c.extra ++ Validator.logFields r name) with
        | ok log =>
            refine .inl ⟨⟨Request.namespacedName_iff.1 ⟨name, named⟩, judgeable,
              logIff.1 ⟨log, logged⟩⟩, c.verdict, log, ?_, fits⟩
            simp only [opened, named, concluded, logged, bind, Except.bind]
            rfl
        | error fault =>
            refine .inr ⟨fun answerable => ?_, fault, ?_⟩
            · obtain ⟨log, written⟩ := logIff.2 answerable.logged
              simp [logged] at written
            · simp only [opened, named, concluded, logged, bind, Except.bind]
      · refine .inr ⟨fun answerable => vain answerable.judgeable, fault, ?_⟩
        simp only [opened, named, refused, bind, Except.bind]

end Encoded

end AdmissionGate
