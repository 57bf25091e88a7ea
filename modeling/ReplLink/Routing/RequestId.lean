import ReplLink.Routing.Roster

/-!
# Request ids

An id is eight lower-case hexadecimal digits, or more of them for numbers that
need more. It is drawn at random; if it is in use the next one is tried. Among
one more candidate than there are ids in use one is free.
-/

namespace ReplLink.Routing.RequestId

/-- The id with a number. -/
def ofNat (n : Nat) : String :=
  let digits := Nat.toDigits 16 n
  String.ofList (List.replicate (8 - digits.length) '0' ++ digits)

/-- The first id from a drawn number on that is not registered. -/
def fresh (drawn : Nat) (roster : Roster) : String :=
  (((List.range (roster.size + 1)).map fun step => ofNat (drawn + step)).find?
    fun id => !roster.contains id).getD (ofNat drawn)

end ReplLink.Routing.RequestId
