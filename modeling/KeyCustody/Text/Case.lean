import KeyCustody.Text
import KeyCustody.Text.CaseTable
import KeyCustody.Text.CasedTable

/-! All forms hang on the character alone but one: the lower-case sigma that ends a word. -/

set_option autoImplicit false

namespace KeyCustody.Text

def CaseRun.image? (run : CaseRun) (code : Nat) : Option Nat :=
  if run.first ≤ code ∧ code ≤ run.last ∧ (code - run.first) % run.step = 0 then
    some (Int.toNat (code + run.distance))
  else none

def convert (runs : List CaseRun) (expansions : List (Nat × List Nat)) (point : CodePoint) : Text :=
  match runs.findSome? (·.image? point.code) with
  | some code => [CodePoint.ofCode code]
  | none =>
    match expansions.lookup point.code with
    | some codes => codes.map CodePoint.ofCode
    | none => [point]

def inRanges (ranges : List (Nat × Nat)) (point : CodePoint) : Bool :=
  ranges.any fun range => range.1 ≤ point.code && point.code ≤ range.2

def meetsCased : Text → Bool
  | [] => false
  | point :: rest =>
    if inRanges caseIgnorableRanges point then meetsCased rest else inRanges casedRanges point

def sigma : CodePoint := .char 'Σ'

def smallSigma : CodePoint := .char 'σ'

def finalSigma : CodePoint := .char 'ς'

def lowerAfter (before : Text) : Text → Text
  | [] => []
  | point :: rest =>
    (if point = sigma then
        [if meetsCased before && !meetsCased rest then finalSigma else smallSigma]
      else convert lowerRuns lowerExpansions point) ++ lowerAfter (point :: before) rest

def lower (text : Text) : Text := lowerAfter [] text

def upper (text : Text) : Text := text.flatMap (convert upperRuns upperExpansions)

end KeyCustody.Text
