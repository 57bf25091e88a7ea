import ReplLink.Datum.Basic
import ReplLink.Decimal.Numeral

/-!
# Atoms

A bare word of the stream is an integer if it writes one of sixty-four bits, a
double if it is a decimal numeral that starts like a number, and otherwise a
symbol. An integer too large for sixty-four bits is a double, and `inf` and
`nan` are symbols.
-/

namespace ReplLink.Datum

open ReplLink.Text ReplLink.Decimal

/-- An integer numeral within the sixty-four bits. -/
def integer64? (text : List Char) : Option Int64 :=
  match integer? text with
  | some value =>
    if Int64.minValue.toInt ≤ value ∧ value ≤ Int64.maxValue.toInt then some (Int64.ofInt value)
    else none
  | none => none

/-- The word starts with a digit, behind at most one sign and one point. -/
def startsLikeNumber (text : List Char) : Bool :=
  let unsigned := (splitSign text).2
  let digits :=
    match unsigned with
    | '.' :: rest => rest
    | _ => unsigned
  match digits with
  | first :: _ => Ascii.isDigit first
  | [] => false

/-- The datum that a bare word stands for. -/
def ofAtom (text : List Char) : Datum :=
  match integer64? text with
  | some value => int value
  | none =>
    if startsLikeNumber text then
      match Numeral.ofText? text with
      | some numeral => float numeral.toBinary64
      | none => symbol (String.ofList text)
    else symbol (String.ofList text)

end ReplLink.Datum
