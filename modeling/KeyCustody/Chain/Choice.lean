import KeyCustody.Fault

set_option autoImplicit false

namespace KeyCustody.Chain

def ofValue : Value → Except Fault Chain
  | .text s =>
    match read? s with
    | some chain => .ok chain
    | none => .error (.unknownChain (.text s))
  | value => .error (.unknownChain value)

def ofText (text : Text) : Except Fault Chain := ofValue (.text text)

end KeyCustody.Chain
