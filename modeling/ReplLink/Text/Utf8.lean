import ReplLink.Text.Ascii

/-!
# UTF-8 text in a byte stream

Text leaves as UTF-8 and comes back as bytes that may not be UTF-8 at all.
`decode` reads any byte string: each maximal piece that starts no character is
replaced by one U+FFFD, and a character is never lost to the broken piece in
front of it. `fault?` is the strict reading: it finds the first such piece.
Both run the same machine, one byte at a time.
-/

namespace ReplLink.Text.Utf8

/-- The UTF-8 bytes of a text. -/
def encode (text : List Char) : Bytes := text.flatMap String.utf8EncodeChar

@[simp] theorem encode_nil : encode [] = [] := rfl

@[simp] theorem encode_cons (c : Char) (text : List Char) :
    encode (c :: text) = String.utf8EncodeChar c ++ encode text := rfl

@[simp] theorem encode_append (s t : List Char) : encode (s ++ t) = encode s ++ encode t := by
  simp [encode]

/-- The number of bytes that a text takes. -/
def size (text : List Char) : Nat := (encode text).length

/-- Where a reader stands between two bytes. -/
inductive State where
  /-- Between characters. -/
  | ready
  /-- Inside a character: `taken` bytes of it are read and have the value
  `value`, `missing` are still owed, and the next one lies in `low .. high`. -/
  | inside (taken missing : Nat) (low high : UInt8) (value : Nat)
  deriving DecidableEq, Repr

/-- What the machine makes of a byte. -/
inductive Move where
  /-- The byte ends this character. -/
  | emit (c : Char)
  /-- The byte belongs to a character that is not finished. -/
  | goOn (state : State)
  /-- No character goes on with this byte here. -/
  | refuse
  deriving DecidableEq, Repr

/-- The first byte of a character. The second one's range excludes overlong
forms, surrogates and values beyond the last character. -/
def start (b : UInt8) : Move :=
  let n := b.toNat
  if n < 0x80 then .emit (Char.ofNat n)
  else if n < 0xC2 then .refuse
  else if n < 0xE0 then .goOn (.inside 1 1 0x80 0xBF (n - 0xC0))
  else if n < 0xF0 then
    .goOn
      (.inside 1 2 (if n = 0xE0 then 0xA0 else 0x80) (if n = 0xED then 0x9F else 0xBF) (n - 0xE0))
  else if n < 0xF5 then
    .goOn
      (.inside 1 3 (if n = 0xF0 then 0x90 else 0x80) (if n = 0xF4 then 0x8F else 0xBF) (n - 0xF0))
  else .refuse

/-- One more byte of the machine's input. -/
def advance : State → UInt8 → Move
  | .ready, b => start b
  | .inside taken missing low high value, b =>
    if low ≤ b && b ≤ high then
      let value := value * 64 + (b.toNat - 0x80)
      if missing ≤ 1 then .emit (Char.ofNat value)
      else .goOn (.inside (taken + 1) (missing - 1) 0x80 0xBF value)
    else .refuse

/-- The character that stands for bytes that are none. -/
def replacement : Char := '\uFFFD'

/-- Text read so far, newest character first, and where the reader stands. A
refused byte gets a second chance as the first byte of a character. -/
def push : List Char × State → UInt8 → List Char × State
  | (text, state), b =>
    match advance state b with
    | .emit c => (c :: text, .ready)
    | .goOn state => (text, state)
    | .refuse =>
      match state with
      | .ready => (replacement :: text, .ready)
      | .inside .. =>
        match start b with
        | .emit c => (c :: replacement :: text, .ready)
        | .goOn state => (replacement :: text, state)
        | .refuse => (replacement :: replacement :: text, .ready)

/-- The text of any byte string, with U+FFFD for each piece that is no
character. A character cut off by the end is one such piece. -/
def decode (bytes : Bytes) : List Char :=
  match bytes.foldl push ([], .ready) with
  | (text, .ready) => text.reverse
  | (text, .inside ..) => (replacement :: text).reverse

/-- Why a byte string is no text. -/
inductive Fault where
  /-- `length` bytes at `offset` start no character. -/
  | invalid (offset length : Nat)
  /-- The input ends inside the character that starts at `offset`. -/
  | incomplete (offset : Nat)
  deriving DecidableEq, Repr

/-- The wording of a fault. -/
def Fault.message : Fault → String
  | .invalid offset length =>
    s!"invalid utf-8 sequence of {length} bytes from index {offset}"
  | .incomplete offset => s!"incomplete utf-8 byte sequence from index {offset}"

/-- The first fault at or after `offset`, for a reader in a given state. -/
def faultFrom (offset : Nat) : State → Bytes → Option Fault
  | .ready, [] => none
  | .inside taken .., [] => some (.incomplete (offset - taken))
  | state, b :: rest =>
    match advance state b with
    | .emit _ => faultFrom (offset + 1) .ready rest
    | .goOn state => faultFrom (offset + 1) state rest
    | .refuse =>
      match state with
      | .ready => some (.invalid offset 1)
      | .inside taken .. => some (.invalid (offset - taken) taken)

/-- The first place at which a byte string stops being UTF-8. -/
def fault? (bytes : Bytes) : Option Fault := faultFrom 0 .ready bytes

/-- The text of a byte string that is UTF-8 throughout. -/
def decodeStrict (bytes : Bytes) : Except Fault (List Char) :=
  match fault? bytes with
  | some fault => .error fault
  | none => .ok (decode bytes)

end ReplLink.Text.Utf8
