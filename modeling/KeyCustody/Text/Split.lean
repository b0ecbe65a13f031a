import KeyCustody.Text

set_option autoImplicit false

namespace KeyCustody.Text

def extendFirst (point : CodePoint) : List Text → List Text
  | [] => [[point]]
  | first :: others => (point :: first) :: others

-- The second count tells how much of a mark is still to be passed over.
def splitFrom (mark : Text) : Option Nat → Nat → Text → List Text
  | _, _, [] => [[]]
  | limit, skip + 1, _ :: rest => splitFrom mark limit skip rest
  | limit, 0, point :: rest =>
    if limit != some 0 && mark.isPrefixOf (point :: rest) then
      [] :: splitFrom mark (limit.map (· - 1)) (mark.length - 1) rest
    else extendFirst point (splitFrom mark limit 0 rest)

def split (mark : Text) (limit : Option Nat) (text : Text) : List Text :=
  splitFrom mark limit 0 text

end KeyCustody.Text
