/-
# AdmissionGate.Yaml.Tag -- the tags of nodes

A tag says what the content of a node stands for.  A document names a tag by a
handle and a suffix, and the handle `!!` spells the family that all tags here
belong to; any other tag is `other`, which stands for no value.
-/
import AdmissionGate.Text.Basic

namespace AdmissionGate

namespace Yaml

inductive Tag where
  | null
  | bool
  | int
  | float
  | text
  | binary
  | timestamp
  | list
  | map
  | set
  /-- A list of pairs that is written as a list of maps with one entry. -/
  | orderedMap
  | pairs
  /-- The key whose value is merged into the map. -/
  | merge
  /-- The key whose value the whole map may stand for. -/
  | default
  | other
  deriving DecidableEq, Repr

namespace Tag

/-- What the handle of the family stands for. -/
def family : Text := "tag:yaml.org,2002:"

def names : List (String × Tag) := [
  ("null", null), ("bool", bool), ("int", int), ("float", float), ("str", text),
  ("binary", binary), ("timestamp", timestamp), ("seq", list), ("map", map), ("set", set),
  ("omap", orderedMap), ("pairs", pairs), ("merge", merge), ("value", default)]

def ofName (name : Text) : Tag :=
  match names.find? fun (short, _) => family ++ (short : Text) = name with
  | some (_, tag) => tag
  | none => other

def written (tag : Tag) : Text :=
  match names.find? fun (_, t) => t = tag with
  | some (short, _) => "!!" ++ (short : Text)
  | none => "!"

end Tag

end Yaml

end AdmissionGate
