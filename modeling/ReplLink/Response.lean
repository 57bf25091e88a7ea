import ReplLink.Datum.Printer
import ReplLink.Datum.Reader

/-!
# Responses

The interpreter answers a request with a list: the word `response-done` with
the request's id and a value, or the word `response-failure` with the id, a
message and stack frames. `Response.wire` writes a response, and
`Response.decode` reads one off the front of a byte string and says how many
bytes it took. A missing value and the keyword `:nothing` both mean that the
code ran and has no value.
-/

namespace ReplLink

open ReplLink.Text

/-- An error that the interpreter met while it evaluated a request. -/
structure Failure where
  /-- What went wrong. -/
  message : String
  /-- The stack frames, innermost first. -/
  stack : List String
  deriving DecidableEq, Repr, Inhabited

/-- How a request ended. -/
inductive Outcome where
  /-- The code ran; `none` is a run without a value. -/
  | success (value : Option Datum)
  /-- The code failed. -/
  | failure (failure : Failure)
  deriving BEq, Repr, Inhabited

/-- The interpreter's answer to one request. -/
structure Response where
  /-- The id of the request. -/
  requestId : String
  /-- How it ended. -/
  outcome : Outcome
  deriving BEq, Repr

namespace Response

/-- The word that heads the answer to code that ran. -/
def successWord : String := "response-done"

/-- The word that heads the answer to code that failed. -/
def failureWord : String := "response-failure"

/-- The keyword that stands for no value. -/
def nothingWord : String := ":nothing"

/-- The datum that the interpreter sends for a response. -/
def toDatum (response : Response) : Datum :=
  match response.outcome with
  | .success value =>
    .list [.symbol successWord, .str response.requestId, value.getD (.symbol nothingWord)]
  | .failure failure =>
    .list [.symbol failureWord, .str response.requestId, .str failure.message,
      .list (failure.stack.map .str)]

/-- The line that the interpreter sends for a response. -/
def wire (response : Response) : String := response.toDatum.display ++ "\n"

/-- Why a datum is no response. -/
inductive Mismatch where
  /-- It is not a list. -/
  | notAList (datum : Datum)
  /-- It does not start with a symbol. -/
  | noHead
  /-- What stands in the id's place is not a string. -/
  | badId (datum : Datum)
  /-- Nothing stands in the id's place. -/
  | noId (head : String)
  /-- What stands in the place of a failure's message is not a string. -/
  | badMessage (datum : Datum)
  /-- Nothing stands in the place of a failure's message. -/
  | noMessage
  /-- The stack frames are not a list of names. -/
  | badStack
  /-- The first word heads no response. -/
  | unknownHead (head : String)
  /-- There is one element too many. -/
  | trailing (datum : Datum)
  deriving Repr

/-- The wording of a mismatch. -/
def Mismatch.message : Mismatch → String
  | notAList datum => s!"expected a response list, got \x60{datum.display}\x60"
  | noHead => "response is not headed by a symbol"
  | badId datum => s!"request id must be a string, got \x60{datum.display}\x60"
  | noId head => s!"\x60{head}\x60 without a request id"
  | badMessage datum => s!"failure message must be a string, got \x60{datum.display}\x60"
  | noMessage => "failure without a message"
  | badStack => "stack must be a list of strings"
  | unknownHead head => s!"unknown response head \x60{head}\x60"
  | trailing datum => s!"unexpected trailing element \x60{datum.display}\x60"

/-- The outcome that the elements behind head and id tell, and the elements
that are left over. -/
def outcome? (head : String) (items : List Datum) : Except Mismatch (Outcome × List Datum) :=
  if head = successWord then
    match items with
    | [] => .ok (.success none, [])
    | .symbol name :: rest =>
      .ok (.success (if name = nothingWord then none else some (.symbol name)), rest)
    | value :: rest => .ok (.success (some value), rest)
  else if head = failureWord then
    match items with
    | [] => .error .noMessage
    | .str message :: [] => .ok (.failure ⟨message, []⟩, [])
    | .str message :: frames :: rest =>
      match frames.names? with
      | some stack => .ok (.failure ⟨message, stack⟩, rest)
      | none => .error .badStack
    | other :: _ => .error (.badMessage other)
  else .error (.unknownHead head)

/-- The response that a datum tells. -/
def ofDatum? (datum : Datum) : Except Mismatch Response :=
  match datum with
  | .list (.symbol head :: .str id :: items) =>
    match outcome? head items with
    | .ok (outcome, []) => .ok ⟨id, outcome⟩
    | .ok (_, extra :: _) => .error (.trailing extra)
    | .error mismatch => .error mismatch
  | .list (.symbol _ :: other :: _) => .error (.badId other)
  | .list [.symbol head] => .error (.noId head)
  | .list _ => .error .noHead
  | other => .error (.notAList other)

/-- Bytes that are no response and never will be. -/
inductive Violation where
  /-- No datum can be read here. -/
  | unreadable (fault : Datum.ReadFault)
  /-- The datum is no response. -/
  | mismatch (mismatch : Mismatch)
  /-- An unfinished datum has outgrown the buffer's limit. -/
  | oversized (limit : Nat)
  deriving Repr

/-- The reason for a violation in words. -/
def Violation.reason : Violation → String
  | unreadable fault => fault.message
  | mismatch why => why.message
  | oversized limit => s!"partial response exceeded {limit} bytes"

/-- Why no response can be taken from a byte string. -/
inductive Rejection where
  /-- The input ends before the datum does; nothing is taken. -/
  | incomplete
  /-- What stands here is no response; `consumed` bytes are to be dropped. -/
  | violation (violation : Violation) (consumed : Nat)
  deriving Repr

/-- The wording of an error. -/
def Rejection.message : Rejection → String
  | incomplete => "Malformed response: incomplete datum"
  | violation why _ => "Protocol violation: " ++ why.reason

/-- Reads one response from the front of a byte string, and how many bytes it
takes. -/
def decode (input : Bytes) : Except Rejection (Response × Nat) :=
  match Datum.read input with
  | .incomplete => .error .incomplete
  | .invalid fault consumed => .error (.violation (.unreadable fault) consumed)
  | .datum datum consumed =>
    match ofDatum? datum with
    | .ok response => .ok (response, consumed)
    | .error why => .error (.violation (.mismatch why) consumed)

/-- A response takes at least one byte and no more than there are. -/
theorem consumed_of_decode {input : Bytes} {response : Response} {consumed : Nat}
    (h : decode input = .ok (response, consumed)) : 0 < consumed ∧ consumed ≤ input.length := by
  unfold decode at h
  split at h
  · simp at h
  · simp at h
  · next found =>
    split at h
    · simp only [Except.ok.injEq, Prod.mk.injEq] at h
      exact h.2 ▸ Datum.consumed_of_read_datum found
    · simp at h

/-- So does a violation. -/
theorem consumed_of_decode_violation {input : Bytes} {why : Violation} {consumed : Nat}
    (h : decode input = .error (.violation why consumed)) :
    0 < consumed ∧ consumed ≤ input.length := by
  unfold decode at h
  split at h
  · simp at h
  · next found =>
    simp only [Except.error.injEq, Rejection.violation.injEq] at h
    exact h.2 ▸ Datum.consumed_of_read_invalid found
  · next found =>
    split at h
    · simp at h
    · simp only [Except.error.injEq, Rejection.violation.injEq] at h
      exact h.2 ▸ Datum.consumed_of_read_datum found

end Response

end ReplLink
