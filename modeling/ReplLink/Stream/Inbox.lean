import ReplLink.Response
import ReplLink.Stream.EndScan

/-!
# Responses from a stream of chunks

Responses end themselves, so the stream has no headers. An `Inbox` keeps
the bytes of the datum that has not ended yet and hands out a result for every
datum that a chunk completes: the response, or the violation with the number
of bytes that were dropped for it. A datum that never ends is dropped when the
buffer outgrows its limit, and one that nests too deeply as soon as that is
seen.
-/

namespace ReplLink.Stream

open ReplLink.Text

/-- What the stream hands out: a response, or a violation with the number of
bytes dropped for it. -/
inductive Delivery where
  /-- A response. -/
  | response (response : Response)
  /-- Bytes that are no response. -/
  | violation (violation : Response.Violation) (consumed : Nat)
  deriving Repr

/-- The bytes that are not used up yet, and how far they are scanned. -/
structure Inbox where
  /-- An unfinished datum may hold at most so many bytes when a chunk ends. -/
  limit : Nat
  /-- The bytes from the front of the unfinished datum on. -/
  buffer : Bytes
  /-- The scan for the end of that datum. -/
  scan : EndScan
  deriving DecidableEq, Repr

namespace Inbox

/-- The limit unless another is given, a hundred mebibytes. -/
def defaultLimit : Nat := 100 * 1024 * 1024

/-- An inbox at the start of a stream. -/
def empty (limit : Nat) : Inbox := ⟨limit, [], .fresh⟩

/-- Forgets what is buffered. -/
def forget (inbox : Inbox) : Inbox := empty inbox.limit

/-- Drops the first `count` bytes and the blanks behind them, and starts a new
scan. -/
def dropFront (inbox : Inbox) (count : Nat) : Inbox :=
  { inbox with buffer := (inbox.buffer.drop count).dropWhile Ascii.isBlank, scan := .fresh }

/-- The scan taken up at its position. -/
def scanOn (inbox : Inbox) : Found × EndScan :=
  inbox.scan.run (inbox.buffer.drop inbox.scan.position)

/-- What becomes of the buffer when it holds no complete datum: blanks and
comments are dropped, an oversized datum is discarded, and anything else
waits. -/
def settle (inbox : Inbox) : List Delivery × Inbox :=
  if inbox.scan.isBlankSoFar then ([], inbox.dropFront inbox.scan.position)
  else if inbox.limit < inbox.buffer.length then
    ([.violation (.oversized inbox.limit) inbox.buffer.length], inbox.forget)
  else ([], inbox)

theorem length_dropFront_lt {inbox : Inbox} {count : Nat} (positive : 0 < count)
    (within : count ≤ inbox.buffer.length) :
    (inbox.dropFront count).buffer.length < inbox.buffer.length := by
  have := (List.dropWhile_suffix Ascii.isBlank (l := inbox.buffer.drop count)).length_le
  simp only [dropFront]
  rw [List.length_drop] at this
  omega

/-- Takes every complete datum off the buffer. Each round but the last drops a
byte or more. Nesting beyond the limit costs all that is buffered, so that
nothing is left to go on with. -/
def deliver (inbox : Inbox) : List Delivery × Inbox :=
  match inbox.scanOn with
  | (.goesOn, scan) => settle { inbox with scan }
  | (.tooDeep, _) =>
    ([.violation (.unreadable .tooDeep) inbox.buffer.length], inbox.forget)
  | (.ended, scan) =>
    match _decoded : Response.decode inbox.buffer with
    | .ok (response, consumed) =>
      let (deliveries, inbox) := (inbox.dropFront consumed).deliver
      (.response response :: deliveries, inbox)
    | .error (.violation violation consumed) =>
      let (deliveries, inbox) := (inbox.dropFront consumed).deliver
      (.violation violation consumed :: deliveries, inbox)
    | .error .incomplete => ([], { inbox with scan })
termination_by inbox.buffer.length
decreasing_by
  · have := Response.consumed_of_decode _decoded
    exact length_dropFront_lt this.1 this.2
  · have := Response.consumed_of_decode_violation _decoded
    exact length_dropFront_lt this.1 this.2

/-- Appends a chunk and hands out all that it completes, in order. -/
def receive (inbox : Inbox) (chunk : Bytes) : List Delivery × Inbox :=
  deliver { inbox with buffer := inbox.buffer ++ chunk }

/-- The number of bytes that wait for the rest of their datum. -/
def size (inbox : Inbox) : Nat := inbox.buffer.length

end Inbox

end ReplLink.Stream
