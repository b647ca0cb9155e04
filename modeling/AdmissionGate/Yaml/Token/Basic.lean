/-
# AdmissionGate.Yaml.Token.Basic -- the tokens of a document

The marks of a document with the marks that its indentation implies: a block
collection starts where a column further in is taken up and ends where it is left.
-/
import AdmissionGate.Text.Basic

namespace AdmissionGate

namespace Yaml

inductive Directive where
  /-- The version of the language: its major number. -/
  | version (major : Int)
  /-- What a handle stands for. -/
  | handle (handle expansion : Text)
  /-- A directive without a meaning. -/
  | reserved
  deriving DecidableEq, Repr

inductive Token where
  | directive (d : Directive)
  | documentStart
  | documentEnd
  | streamEnd
  | blockList
  | blockMap
  | blockEnd
  | openList
  | closeList
  | openMap
  | closeMap
  /-- The mark of an item of a block list. -/
  | item
  | comma
  | key
  | value
  | alias (name : Text)
  | anchor (name : Text)
  /-- A tag in parts; without a handle the suffix is the whole tag. -/
  | tag (handle : Option Text) (suffix : Text)
  | scalar (text : Text) (isPlain : Bool)
  deriving DecidableEq, Repr

end Yaml

end AdmissionGate
