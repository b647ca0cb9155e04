/-
# AdmissionGate.Proofs.Gate.Listing -- names listed in a setting, without loss

A setting lists names between commas, each with any blanks around it, and segments that
are blank list nothing (`Listing`).  Such a setting lists exactly its names, in order
and with their repetitions, and no setting lists anything but names (`IsName`): texts
that are not empty, have no comma and no blank at either end.

So a list can be put together of two, and the names that a setting lists are listed
again by writing them with commas between them (`splitList_lossless`).
-/
import AdmissionGate.Proofs.Text.Split
import AdmissionGate.Proofs.Text.Trim

namespace AdmissionGate

set_option autoImplicit false

open Text

/-- A text that a setting can list as a name. -/
structure IsName (name : Text) : Prop where
  given : name ≠ []
  free : (',' : Code) ∉ name
  tight : IsTight name

instance (name : Text) : Decidable (IsName name) :=
  decidable_of_iff (name ≠ [] ∧ name.contains (',' : Code) = false ∧ IsTight name)
    ⟨fun holds => ⟨holds.1, by simpa using holds.2.1, holds.2.2⟩,
      fun holds => ⟨holds.given, by simpa using holds.free, holds.tight⟩⟩

/-- Segments that list some names in order: each name stands in a segment of its own with blanks
around it, and every other segment is blank. -/
inductive Listing : List Text → List Text → Prop
  | nil : Listing [] []
  | blank {segment : Text} {segments names : List Text} (blank : IsBlank segment)
      (rest : Listing segments names) : Listing (segment :: segments) names
  | name {before name after : Text} {segments names : List Text} (leading : IsBlank before)
      (trailing : IsBlank after) (rest : Listing segments names) :
      Listing ((before ++ (name ++ after)) :: segments) (name :: names)

/-! ## Segments -/

theorem not_mem_of_isBlank {t : Text} (blank : IsBlank t) : (',' : Code) ∉ t := by
  intro member
  have impossible : Code.isBlank ',' = true := blank _ member
  cases impossible

def namesIn (segments : List Text) : List Text := (segments.map trim).filter (!·.isEmpty)

theorem splitList_eq (t : Text) : splitList t = namesIn (split ',' t) := rfl

theorem namesIn_append (first second : List Text) :
    namesIn (first ++ second) = namesIn first ++ namesIn second := by
  simp only [namesIn, List.map_append, List.filter_append]

theorem namesIn_cons_of_isBlank {segment : Text} (blank : IsBlank segment)
    (segments : List Text) : namesIn (segment :: segments) = namesIn segments := by
  simp [namesIn, trim_of_isBlank blank]

theorem namesIn_cons_of_isName {before name after : Text} (leading : IsBlank before)
    (isName : IsName name) (trailing : IsBlank after) (segments : List Text) :
    namesIn ((before ++ (name ++ after)) :: segments) = name :: namesIn segments := by
  have trimmed : trim (before ++ (name ++ after)) = name :=
    trim_padded leading isName.tight trailing
  simp [namesIn, trimmed, isName.given]

namespace Listing

variable {segments names : List Text}

/-- Reading the segments of a listing gives its names. -/
theorem namesIn_eq (listing : Listing segments names) (areNames : ∀ name ∈ names, IsName name) :
    namesIn segments = names := by
  induction listing with
  | nil => rfl
  | blank blank rest ih =>
      rw [namesIn_cons_of_isBlank blank]
      exact ih areNames
  | name leading trailing rest ih =>
      obtain ⟨first, others⟩ := List.forall_mem_cons.1 areNames
      rw [namesIn_cons_of_isName leading first trailing, ih others]

theorem free (listing : Listing segments names) (areNames : ∀ name ∈ names, IsName name) :
    ∀ segment ∈ segments, (',' : Code) ∉ segment := by
  induction listing with
  | nil => exact fun _ impossible => absurd impossible List.not_mem_nil
  | blank blank rest ih =>
      exact List.forall_mem_cons.2 ⟨not_mem_of_isBlank blank, ih areNames⟩
  | name leading trailing rest ih =>
      obtain ⟨first, others⟩ := List.forall_mem_cons.1 areNames
      refine List.forall_mem_cons.2 ⟨?_, ih others⟩
      simp only [List.mem_append, not_or]
      exact ⟨not_mem_of_isBlank leading, first.free, not_mem_of_isBlank trailing⟩

/-- Names list themselves, without blanks. -/
theorem of_names (names : List Text) : Listing names names := by
  induction names with
  | nil => exact .nil
  | cons name rest ih =>
      have unpadded : Listing (([] ++ (name ++ [])) :: rest) (name :: rest) :=
        .name isBlank_nil isBlank_nil ih
      rwa [List.nil_append, List.append_nil] at unpadded

end Listing

/-! ## Settings -/

theorem splitList_append (s t : Text) :
    splitList (s ++ "," ++ t) = splitList s ++ splitList t := by
  have written : s ++ "," ++ t = s ++ ((',' : Code) :: t) := List.append_assoc s _ t
  rw [splitList_eq, written, split_append, namesIn_append]
  rfl

theorem isName_of_mem_splitList {t name : Text} (listed : name ∈ splitList t) : IsName name := by
  obtain ⟨given, segments, -, free, segment, member, rfl⟩ := mem_splitList.1 listed
  refine ⟨given, ?_, isTight_trim segment⟩
  obtain ⟨before, after, -, -, padded⟩ := exists_padding segment
  intro inName
  apply free segment member
  rw [padded]
  exact List.mem_append_right _ (List.mem_append_left _ inName)

/-- A setting that is made of the segments of a listing lists its names. -/
theorem splitList_join {segments names : List Text} (listing : Listing segments names)
    (areNames : ∀ name ∈ names, IsName name) : splitList (join "," segments) = names := by
  cases segments with
  | nil =>
      cases listing
      rfl
  | cons first rest =>
      have parted : split ',' (join "," (first :: rest)) = first :: rest :=
        split_join (listing.free areNames) (List.cons_ne_nil _ _)
      rw [splitList_eq, parted]
      exact listing.namesIn_eq areNames

theorem splitSetting_text (t : Text) : splitSetting (.text t) = .ok (splitList t) := by
  cases t <;> rfl

/-- **A list of users loses nothing.**  The names of two lists with a comma between them are those
of the first and then those of the second; whatever is listed is a name; and names are listed in
order and with their repetitions, whatever blanks stand around them and however many blank segments
between them.  So writing the names of a list with commas between them lists them again. -/
theorem splitList_lossless :
    (∀ s t : Text, splitSetting (.text (s ++ "," ++ t)) = .ok (splitList s ++ splitList t)) ∧
      (∀ t : Text, splitSetting (.text t) = .ok (splitList t) ∧
        ∀ name ∈ splitList t, IsName name) ∧
      (∀ segments names : List Text, Listing segments names → (∀ name ∈ names, IsName name) →
        splitSetting (.text (join "," segments)) = .ok names) ∧
      ∀ t : Text, splitSetting (.text (join "," (splitList t))) = .ok (splitList t) := by
  refine ⟨?_, ?_, ?_, ?_⟩
  · intro s t
    rw [splitSetting_text, splitList_append]
  · intro t
    exact ⟨splitSetting_text t, fun name => isName_of_mem_splitList⟩
  · intro segments names listing areNames
    rw [splitSetting_text, splitList_join listing areNames]
  · intro t
    have areNames : ∀ name ∈ splitList t, IsName name := fun name => isName_of_mem_splitList
    rw [splitSetting_text, splitList_join (Listing.of_names _) areNames]

/-- A name twice, with an inner blank, between other blanks and a blank segment. -/
theorem splitList_lossless_paddedNames :
    Listing ["\t", " fleet hub\n", "", "fleet hub"] ["fleet hub", "fleet hub"] ∧
      (∀ name ∈ (["fleet hub", "fleet hub"] : List Text), IsName name) ∧
      splitSetting (.text "\t, fleet hub\n,,fleet hub") = .ok ["fleet hub", "fleet hub"] := by
  have spaces : IsBlank " " ∧ IsBlank "\n" ∧ IsBlank "\t" := by decide
  have unpadded : Listing ["", "fleet hub"] ["fleet hub"] :=
    .blank isBlank_nil (.of_names ["fleet hub"])
  have padded : Listing ["\t", (" " : Text) ++ (("fleet hub" : Text) ++ ("\n" : Text)), "",
      "fleet hub"] ["fleet hub", "fleet hub"] :=
    .blank spaces.2.2 (.name spaces.1 spaces.2.1 unpadded)
  have areNames : ∀ name ∈ (["fleet hub", "fleet hub"] : List Text), IsName name := by decide
  exact ⟨padded, areNames, splitList_lossless.2.2.1 _ _ padded areNames⟩

end AdmissionGate
