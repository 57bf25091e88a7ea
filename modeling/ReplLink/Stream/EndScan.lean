import ReplLink.Datum.Reader

/-!
# The end of a datum in a growing buffer

A datum may arrive in any number of pieces. `EndScan` is a scan for its end
that can be taken up again: it keeps the position it has reached, the number of
open lists and the kind of text it is in, so that no byte is looked at twice.
It builds no value. When it says that a datum is complete, the reader finds
one, or the bracket that closes nothing.
-/

namespace ReplLink.Stream

open ReplLink.Text

/-- The kind of text that a scan is in. -/
inductive Region where
  /-- Between data. -/
  | between
  /-- In a bare word. -/
  | word
  /-- In a string. -/
  | quoted
  /-- In a string, behind a backslash. -/
  | escaped
  /-- In a comment. -/
  | comment
  deriving DecidableEq, Repr, Inhabited

/-- A scan for the end of the datum at the front of a buffer. -/
structure EndScan where
  /-- How many bytes are scanned. -/
  position : Nat
  /-- How many lists are open. -/
  depth : Nat
  /-- The kind of text that the next byte is in. -/
  region : Region
  deriving DecidableEq, Repr, Inhabited

/-- What a scan has found. -/
inductive Found where
  /-- The datum ends within the scanned bytes. -/
  | ended
  /-- A list opens beyond the limit of nesting. -/
  | tooDeep
  /-- All bytes are scanned and the datum goes on. -/
  | goesOn
  deriving DecidableEq, Repr

namespace EndScan

/-- The scan of an untouched buffer. -/
def fresh : EndScan := ⟨0, 0, .between⟩

/-- Only blanks and finished comments are scanned so far. -/
def isBlankSoFar (scan : EndScan) : Bool := scan.depth == 0 && scan.region == .between

/-- The scan one byte further on, in a given kind of text. -/
def onward (scan : EndScan) (region : Region) : EndScan :=
  { scan with position := scan.position + 1, region }

/-- A byte between data, or one that ends a word inside a list. -/
def startRegion (scan : EndScan) (b : UInt8) : Found × EndScan :=
  if b == Ascii.semicolon then (.goesOn, scan.onward .comment)
  else if b == Ascii.quote then (.goesOn, scan.onward .quoted)
  else if b == Ascii.listOpen then
    (if scan.depth < Datum.depthLimit then .goesOn else .tooDeep,
      { scan.onward .between with depth := scan.depth + 1 })
  else if b == Ascii.listClose then
    if scan.depth ≤ 1 then (.ended, scan.onward .between)
    else (.goesOn, { scan.onward .between with depth := scan.depth - 1 })
  else if Ascii.isBlank b then (.goesOn, scan.onward .between)
  else (.goesOn, scan.onward .word)

/-- One more byte of the buffer. -/
def step (scan : EndScan) (b : UInt8) : Found × EndScan :=
  match scan.region with
  | .comment => (.goesOn, scan.onward (if b == Ascii.lineFeed then .between else .comment))
  | .escaped => (.goesOn, scan.onward .quoted)
  | .quoted =>
    if b == Ascii.backslash then (.goesOn, scan.onward .escaped)
    else if b == Ascii.quote then
      (if scan.depth = 0 then .ended else .goesOn, scan.onward .between)
    else (.goesOn, scan.onward .quoted)
  | .word =>
    if !Ascii.isDelimiter b then (.goesOn, scan.onward .word)
    else if scan.depth = 0 then (.ended, scan.onward .word)
    else scan.startRegion b
  | .between => scan.startRegion b

/-- Goes on over bytes that are not scanned yet, up to the first one that
decides. -/
def run (scan : EndScan) : Bytes → Found × EndScan
  | [] => (.goesOn, scan)
  | b :: rest =>
    match scan.step b with
    | (.goesOn, scan) => run scan rest
    | decided => decided

end EndScan

end ReplLink.Stream
