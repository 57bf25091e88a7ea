import ReplLink.Proofs.Session.Errands
import ReplLink.Proofs.Session.Recorded

/-!
# Names are fetched once

Callers come to the two lists of names whenever they like. Other code is sent, the
interpreter answers queries with names, with something else, too late or never, and the
session is closed in the end. A query for a list is written only by the first one in line
while the list is free and empty. So a list has as many queries as there were unusable
answers, and one more when names came, which all later callers get. The two lists have
nothing to do with each other, and an answer that comes too late fills none of them.
-/

namespace ReplLink.Session

open ReplLink.Routing ReplLink.Stream ReplLink.Text

section Fetching

variable {deeds : List Deed} {session : Session} {list : NameList}

end Fetching

end ReplLink.Session
