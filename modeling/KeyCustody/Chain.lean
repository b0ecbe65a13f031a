import KeyCustody.Bytes
import KeyCustody.Text.Blank
import KeyCustody.Text.Case

set_option autoImplicit false

namespace KeyCustody

inductive Chain where
  | mainnet
  | holesky
  | sepolia
  | helder
deriving DecidableEq

namespace Chain

def all : List Chain := [mainnet, holesky, sepolia, helder]

def name : Chain → String
  | mainnet => "mainnet"
  | holesky => "holesky"
  | sepolia => "sepolia"
  | helder => "helder"

def forkVersion : Chain → Bytes
  | mainnet => [0x00, 0x00, 0x00, 0x00]
  | holesky => [0x01, 0x01, 0x70, 0x00]
  | sepolia => [0x90, 0x00, 0x00, 0x69]
  | helder => [0x10, 0x00, 0x00, 0x00]

def ofName? (text : Text) : Option Chain :=
  all.find? fun chain => Text.ofString chain.name = text

def read? (text : Text) : Option Chain := ofName? (Text.lower (Text.strip text))

end Chain

end KeyCustody
