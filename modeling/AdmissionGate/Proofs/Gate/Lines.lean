/-
# AdmissionGate.Proofs.Gate.Lines -- how many lines an entry takes

An entry shows most texts of a request as they stand: user, operation, kind, sub-resource
and name.  Groups stand in quotes, and the message about a state that cannot be decoded is
on one line.  So an entry starts with the mark of the log, and the line feeds in it are its
own at the end and those in the texts that are shown as they stand (`Submission.printed_cases`).

A user with a line feed in the name can write a line that looks like the entry of a
decision that nobody has taken (`forgedSubmission_printed`).  As long as there is no line feed in
any of these texts, the lines of a log are the entries in it, one for each decision that
was logged (`log_lines`).
-/
import AdmissionGate.Proofs.Gate.Handle
import AdmissionGate.Proofs.Object.Message
import AdmissionGate.Proofs.Text.Split
import AdmissionGate.Proofs.Text.Trim

namespace AdmissionGate

set_option autoImplicit false

open Text

/-! ## Lines -/

/-- One line: a text with a single line feed, at its end. -/
def IsLine (t : Text) : Prop := ∃ body : Text, Unbroken body ∧ t = body ++ "\n"

theorem isLine_iff {body : Text} : IsLine (body ++ "\n") ↔ Unbroken body := by
  constructor
  · rintro ⟨other, unbroken, same⟩
    rwa [List.append_cancel_right same]
  · intro unbroken
    exact ⟨body, unbroken, rfl⟩

namespace Text

theorem split_of_unbroken {t : Text} (unbroken : Unbroken t) : split '\n' t = [t] := by
  have alone : join ['\n'] [t] = t := by simp [join]
  have parted := split_join (List.forall_mem_singleton.2 unbroken) (List.cons_ne_nil t [])
  rwa [alone] at parted

theorem unbroken_listed (texts : List Text) : Unbroken (listed texts) := by
  have row : Unbroken (join ", " (texts.map quoted)) := by
    refine unbroken_join (by decide) ?_
    intro part member
    obtain ⟨t, -, rfl⟩ := List.mem_map.1 member
    exact unbroken_quoted t
  exact row.enclosed (by decide) (by decide)

end Text

/-- A kind is shown with the line feeds of its parts. -/
theorem TypedKind.breaks_shown (k : TypedKind) :
    k.shown.breaks = k.group.breaks + k.version.breaks + k.kind.breaks := by
  have slash : Text.breaks "/" = 0 := rfl
  have comma : Text.breaks ", Kind=" = 0 := rfl
  unfold shown
  by_cases groupless : k.group = []
  · rw [if_neg (not_not_intro groupless), groupless]
    by_cases bare : k.version = []
    · rw [if_neg (not_not_intro bare), bare]
      simp [Text.breaks]
    · rw [if_pos bare]
      simp only [breaks_append, comma]
      simp [Text.breaks]
  · rw [if_pos groupless]
    simp only [breaks_append, slash, comma]
    omega

/-! ## Entries -/

/-- The blanks that are left out at the end of an entry are those at the end of its last field. -/
theorem Log.line_snoc {label : Text} (finish : EndsTight label) (given : label ≠ [])
    (message value : Text) (front : List Text) :
    line message (front ++ [label ++ value]) =
      mark ++ " " ++ message ++ " " ++ Text.join " " (front ++ [label ++ value.trimEnd]) := by
  have opened : Text.join " " (front ++ [label]) = Text.join " " (front ++ [[]]) ++ label :=
    join_snoc_append " " front [] label
  have tight : EndsTight (mark ++ " " ++ message ++ " " ++ Text.join " " (front ++ [label])) := by
    rw [opened, ← List.append_assoc]
    exact finish.append given _
  unfold line
  rw [join_snoc_append, join_snoc_append, ← List.append_assoc, trimEnd_append tight,
    List.append_assoc]

namespace TypedRequest

def fieldsOf (r : TypedRequest) (name : Text) : List (Text × Text) := [
  ("user", r.username),
  ("groups", Text.listed r.groups),
  ("operation", r.operation),
  ("GVK", (r.requestKind.getD r.kind).shown),
  ("subResource", r.subResource),
  ("namespacedName", name)
]

/-- The texts of a request that an entry shows as they stand.  The name is the end of the entry, so
it is shown without the blanks at its own end. -/
def rawTexts (r : TypedRequest) : List Text :=
  let kind := r.requestKind.getD r.kind
  [r.username, r.operation, kind.group, kind.version, kind.kind, r.subResource, r.fullName.trimEnd]

theorem line_logFields (r : TypedRequest) (message : Text) (front : List Text) :
    Log.line message (front ++ r.logFields.map assigned) =
      Log.mark ++ " " ++ message ++ " " ++
        Text.join " " (front ++ (r.fieldsOf r.fullName.trimEnd).map assigned) := by
  have apart (name : Text) : front ++ (r.fieldsOf name).map assigned =
      (front ++ ((r.fieldsOf name).take 5).map assigned) ++
        [("namespacedName=" : Text) ++ name] := by
    rw [List.append_assoc]
    rfl
  have named : r.logFields = r.fieldsOf r.fullName := rfl
  rw [named, apart, apart]
  exact Log.line_snoc (by decide) (by decide) _ _ _

/-- The line feeds of an entry are those of the texts that are shown as they stand. -/
theorem breaks_fieldsOf (r : TypedRequest) :
    breaks ((r.fieldsOf r.fullName.trimEnd).map assigned).flatten = breaks r.rawTexts.flatten := by
  have labelled {label : Text} (unbroken : Unbroken label) (value : Text) :
      (assigned (label, value)).breaks = value.breaks := by
    have sign : Text.breaks "=" = 0 := rfl
    rw [assigned, breaks_append, breaks_append, breaks_eq_zero.2 unbroken, sign, Nat.zero_add]
  have groups : (Text.listed r.groups).breaks = 0 := breaks_eq_zero.2 (unbroken_listed r.groups)
  simp only [fieldsOf, List.map_cons, List.map_nil, List.flatten_cons, breaks_append]
  rw [labelled (by decide), labelled (by decide), labelled (by decide), labelled (by decide),
    labelled (by decide), labelled (by decide), groups, TypedKind.breaks_shown]
  simp only [rawTexts, List.flatten_cons, breaks_append]
  omega

end TypedRequest

/-! ## Submissions -/

/-- A request with texts where texts belong and any states, submitted to a gate at a verbosity.  The
states are those given here, not those of the request. -/
structure Submission where
  gate : Validator
  verbosity : Nat
  request : TypedRequest
  new : ObjectState := request.new
  old : ObjectState := request.old
  keysNew : new.HasKeys
  keysOld : old.HasKeys

namespace Submission

/-- The request about the states of a submission. -/
def untyped (x : Submission) : Request := { x.request.untyped with new := x.new, old := x.old }

/-- What a submission prints; one that ends in a fault prints nothing. -/
def printed (x : Submission) : Text :=
  match x.gate.handle x.verbosity x.untyped with
  | .ok d => d.log
  | .error _ => []

/-- What submissions print, one after the other. -/
def log (run : List Submission) : Text := run.flatMap printed

/-- The entry that a submission prints, without its end. -/
def entry? (x : Submission) : Option Text :=
  if x.printed = [] then none else some x.printed.dropLast

/-- No text that an entry shows as it stands has a line feed. -/
def IsClean (x : Submission) : Prop := ∀ t ∈ x.request.rawTexts, Unbroken t

instance : DecidablePred IsClean := fun x => List.decidableBAll _ x.request.rawTexts

variable {x : Submission}

/-- Whatever the gate comes to, it tells in one line. -/
theorem unbroken_of_concludes {v : Validator} {conclusion : Validator.Conclusion}
    (concludes : v.Concludes x.untyped conclusion) :
    Unbroken conclusion.message ∧ ∃ parts, Log.showFields conclusion.extra = .ok parts ∧
      ∀ t ∈ parts, Unbroken t := by
  cases concludes with
  | unguarded => exact ⟨by decide, [], rfl, List.forall_mem_nil _⟩
  | @judged labels annotations verdict read answered =>
      refine ⟨?_, [], rfl, List.forall_mem_nil _⟩
      show Unbroken (Validator.messageOf verdict)
      unfold Validator.messageOf
      split <;> decide
  | @refused cause unread =>
      refine ⟨?_, [("err" : Text) ++ "=" ++ cause.message], rfl, ?_⟩
      · show Unbroken "failed to get labels and annotations"
        decide
      have unbroken : Unbroken cause.message := by
        rcases bind_eq_error_iff.1 unread with new | ⟨maps, -, unread⟩
        · exact unbroken_of_extract x.keysNew new
        · rcases bind_eq_error_iff.1 unread with old | ⟨others, -, impossible⟩
          · exact unbroken_of_extract x.keysOld old
          · cases impossible
      exact List.forall_mem_singleton.2 (unbroken_append.2 ⟨by decide, unbroken⟩)

/-- **What a submission prints**: nothing, or an entry that starts with the mark, ends with a line
feed, and has no others but those of the texts that it shows as they stand. -/
theorem printed_cases (x : Submission) :
    x.printed = [] ∨ ∃ body : Text, x.printed = "[admission] " ++ body ++ "\n" ∧
      body.breaks = breaks x.request.rawTexts.flatten := by
  unfold printed
  cases answer : x.gate.handle x.verbosity x.untyped with
  | error fault => exact .inl rfl
  | ok d =>
      obtain ⟨name, conclusion, named, concludes, -, written⟩ := Validator.handle_eq_ok answer
      obtain ⟨message, extra, shownExtra, unbroken⟩ := unbroken_of_concludes concludes
      have sameName : name = .text x.request.fullName := by
        have full : x.untyped.namespacedName = .ok (.text x.request.fullName) :=
          x.request.namespacedName_untyped
        rw [full] at named
        exact (Except.ok.inj named).symm
      have fields : Log.showFields (Validator.logFields x.untyped name) =
          .ok (x.request.logFields.map assigned) := by
        rw [sameName]
        exact x.request.showFields_untyped
      rw [Log.emit_of_showFields (Log.showFields_append shownExtra fields)] at written
      have log := (Except.ok.inj written).symm
      by_cases silent : (x.verbosity : Int) < if conclusion.verdict.isAllowed then 3 else 2
      · rw [if_pos silent] at log
        exact .inl log
      · rw [if_neg silent, TypedRequest.line_logFields] at log
        refine .inr ⟨conclusion.message ++ " " ++
          Text.join " " (extra ++ (x.request.fieldsOf x.request.fullName.trimEnd).map assigned),
          ?_, ?_⟩
        · show d.log = _
          rw [log]
          simp only [List.append_assoc]
          rfl
        · have space : Text.breaks " " = 0 := rfl
          have quiet : breaks extra.flatten = 0 := breaks_eq_zero.2 (unbroken_flatten.2 unbroken)
          rw [breaks_append, breaks_append, breaks_eq_zero.2 message, space,
            breaks_join (by decide), List.flatten_append, breaks_append, quiet,
            TypedRequest.breaks_fieldsOf]
          omega

/-- An entry is one line exactly if no text in it breaks the line. -/
theorem isLine_printed_iff (prints : x.printed ≠ []) : IsLine x.printed ↔ x.IsClean := by
  rcases x.printed_cases with silent | ⟨body, same, count⟩
  · exact absurd silent prints
  · have front : Unbroken ("[admission] " ++ body) ↔ Unbroken body := by
      rw [unbroken_append]
      exact and_iff_right (by decide)
    rw [same, isLine_iff, front, ← breaks_eq_zero, count, breaks_eq_zero]
    exact unbroken_flatten

/-- A clean submission adds its entry to the lines of a log, if it has one. -/
theorem split_printed_append (clean : x.IsClean) (rest : Text) :
    Text.split '\n' (x.printed ++ rest) = x.entry?.toList ++ Text.split '\n' rest := by
  unfold entry?
  by_cases silent : x.printed = []
  · rw [if_pos silent, silent]
    rfl
  · obtain ⟨body, unbroken, same⟩ := (isLine_printed_iff silent).2 clean
    have ends : body ++ ("\n" : Text) ++ rest = body ++ ('\n' : Code) :: rest :=
      List.append_assoc body _ rest
    have entry : (body ++ ("\n" : Text)).dropLast = body := List.dropLast_concat
    rw [if_neg silent, same, ends, split_append, split_of_unbroken unbroken, entry]
    rfl

theorem startsWith_of_entry? {entry : Text} (prints : x.entry? = some entry) :
    entry.startsWith "[admission] " = true := by
  unfold entry? at prints
  by_cases silent : x.printed = []
  · simp [if_pos silent] at prints
  · rw [if_neg silent] at prints
    rcases x.printed_cases with nothing | ⟨body, same, -⟩
    · exact absurd nothing silent
    · have ends : ("[admission] " ++ body ++ ("\n" : Text)).dropLast = "[admission] " ++ body :=
        List.dropLast_concat
      rw [same, ends] at prints
      cases prints
      exact List.isPrefixOf_iff_prefix.2 (List.prefix_append _ _)

end Submission

/-- The lines of what clean submissions print are their entries, and the empty rest behind the
last. -/
theorem split_log {run : List Submission} (clean : ∀ x ∈ run, x.IsClean) :
    Text.split '\n' (Submission.log run) = run.filterMap Submission.entry? ++ [[]] := by
  induction run with
  | nil => rfl
  | cons x rest ih =>
      obtain ⟨first, others⟩ := List.forall_mem_cons.1 clean
      have opened : Submission.log (x :: rest) = x.printed ++ Submission.log rest :=
        List.flatMap_cons
      rw [opened, Submission.split_printed_append first, ih others]
      cases prints : x.entry? <;> simp [prints]

/-- **An entry is as many lines as the texts in it make of it.**  A submission prints nothing, or an
entry that starts with the mark, ends with a line feed, and has as many others as the texts that are
shown as they stand; so it is one line exactly if none of these has any.  Then the lines of a log
are the entries of the submissions that printed one, in their order, and each line that starts with
the mark is the entry of one decision. -/
theorem log_lines :
    (∀ x : Submission, x.printed = [] ∨ ∃ body : Text,
        x.printed = "[admission] " ++ body ++ "\n" ∧
          body.breaks = breaks x.request.rawTexts.flatten) ∧
      (∀ x : Submission, x.printed ≠ [] → (IsLine x.printed ↔ x.IsClean)) ∧
      ∀ run : List Submission, (∀ x ∈ run, x.IsClean) →
        Text.split '\n' (Submission.log run) = run.filterMap Submission.entry? ++ [[]] ∧
          (Text.split '\n' (Submission.log run)).filter (·.startsWith "[admission]") =
            run.filterMap Submission.entry? := by
  refine ⟨Submission.printed_cases, fun x => Submission.isLine_printed_iff, ?_⟩
  intro run clean
  have lines := split_log clean
  refine ⟨lines, ?_⟩
  have marked : ∀ entry ∈ run.filterMap Submission.entry?,
      Text.startsWith entry "[admission]" = true := by
    intro entry member
    obtain ⟨x, -, prints⟩ := List.mem_filterMap.1 member
    have start := List.isPrefixOf_iff_prefix.1 (Submission.startsWith_of_entry? prints)
    have mark : ("[admission]" : Text) <+: "[admission] " := by decide
    exact List.isPrefixOf_iff_prefix.2 (mark.trans start)
  have rest : Text.startsWith [] "[admission]" = false := rfl
  rw [lines, List.filter_append, List.filter_eq_self.2 marked]
  simp [rest]

/-! ## Runs on requests with line feeds -/

theorem hasKeys_labelled (labels : Entries)
    (keys : ∀ entry ∈ labels, entry.1.unhashable? = none) :
    (ObjectState.ofLive (.document (.map (labelled labels)))).HasKeys := by
  intro entries beside held members metadata field pairs found
  cases held
  cases metadata
  cases field with
  | labels =>
      cases found
      exact keys
  | annotations => cases found

theorem hasKeys_empty : ObjectState.empty.HasKeys := nofun

/-- The marked request, by a user whose name goes on after a line feed. -/
def forgedSubmission : Submission where
  gate := ⟨[.text "alice"]⟩
  verbosity := 2
  request := { markedRequest with
    username := "mallory\n[admission] managed resource request allowed user=alice" }
  keysNew := hasKeys_labelled [("managed-by", "arm")] (by decide)
  keysOld := hasKeys_empty

/-- The second line of what is printed looks like the entry of a decision, and nobody has taken
it. -/
theorem forgedSubmission_printed :
    ¬ (forgedSubmission.printed = [] ∨ IsLine forgedSubmission.printed) ∧
      Text.split '\n' forgedSubmission.printed = ([
        "[admission] managed resource request denied user=mallory",
        "[admission] managed resource request allowed user=alice groups=[] operation=CREATE " ++
          "GVK=v1, Kind=Pod subResource= namespacedName=prod/web",
        ""] : List Text) := by
  have prints : forgedSubmission.printed ≠ [] := by decide +kernel
  have broken : ¬ forgedSubmission.IsClean := by decide
  refine ⟨?_, by decide +kernel⟩
  rintro (silent | line)
  · exact prints silent
  · exact broken ((Submission.isLine_printed_iff prints).1 line)

/-- A request with line feeds in a group, behind its name and in the key of a label. -/
def quotedSubmission : Submission where
  gate := ⟨[]⟩
  verbosity := 2
  request := { markedRequest with groups := ["ops\n[admission]"], name := "web\n" }
  new := .ofLive (.document (.map (labelled [(.tuple [.text "\n[admission]"], "x")])))
  keysNew := hasKeys_labelled [(.tuple [.text "\n[admission]"], "x")] (by decide)
  keysOld := hasKeys_empty

/-- The same request at a verbosity at which nothing is printed. -/
def silentSubmission : Submission := { quotedSubmission with verbosity := 1 }

/-- The entry on the request that is not silent. -/
def quotedEntry : Text :=
  "[admission] failed to get labels and annotations " ++
    "err=metadata.labels[('\\n[admission]',)]: expected string value, got str " ++
    "user=mallory groups=['ops\\n[admission]'] operation=CREATE GVK=v1, Kind=Pod " ++
    "subResource= namespacedName=prod/web"

/-- What is quoted or trimmed breaks no line. -/
theorem log_lines_quotedSubmission :
    quotedSubmission.IsClean ∧ IsLine quotedSubmission.printed ∧
      Text.split '\n' (Submission.log [quotedSubmission, silentSubmission, quotedSubmission]) =
        [quotedEntry, quotedEntry, []] := by
  have clean : quotedSubmission.IsClean := by decide
  have printed : quotedSubmission.printed = quotedEntry ++ "\n" := by decide +kernel
  have prints : quotedSubmission.printed ≠ [] := by
    rw [printed]
    exact List.append_ne_nil_of_right_ne_nil _ (by decide)
  have entry : quotedSubmission.entry? = some quotedEntry := by
    rw [Submission.entry?, if_neg prints, printed]
    exact congrArg some List.dropLast_concat
  have silent : silentSubmission.entry? = none := if_pos (by decide +kernel)
  have each : ∀ x ∈ [quotedSubmission, silentSubmission, quotedSubmission], x.IsClean := by
    simp only [List.forall_mem_cons]
    exact ⟨clean, clean, clean, List.forall_mem_nil _⟩
  refine ⟨clean, (log_lines.2.1 quotedSubmission prints).2 clean, ?_⟩
  rw [(log_lines.2.2 _ each).1]
  simp [entry, silent]

end AdmissionGate
