import KeyCustody.Text

set_option autoImplicit false

namespace KeyCustody.Yaml

structure TagName where
  handle : Option String
  suffix : String
deriving DecidableEq

inductive Directive where
  | version (major : Nat)
  | handle (name leading : String)
  | reserved
deriving DecidableEq

inductive Token where
  | directive (d : Directive)
  | documentStart
  | documentEnd
  | blockSequence
  | blockMapping
  | blockEnd
  | flowSequence
  | flowSequenceEnd
  | flowMapping
  | flowMappingEnd
  | entry
  | comma
  | key
  | value
  | alias (name : String)
  | anchor (name : String)
  | tag (name : TagName)
  | scalar (text : Text) (plain : Bool)
deriving DecidableEq

end KeyCustody.Yaml
