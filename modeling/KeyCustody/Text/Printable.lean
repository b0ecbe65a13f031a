import KeyCustody.Text
import KeyCustody.Text.PrintableTable

set_option autoImplicit false

namespace KeyCustody.Text

def isPrintable (point : CodePoint) : Bool :=
  !unprintableRanges.any fun range => range.1 ≤ point.code && point.code ≤ range.2

end KeyCustody.Text
