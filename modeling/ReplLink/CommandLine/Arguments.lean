import ReplLink.Text.Ascii

/-!
# Arguments of the command line

Options with and without a value, in any order. The first argument that cannot
be understood decides, and of an option that is given twice the last value
counts.
-/

namespace ReplLink.CommandLine

open ReplLink.Text

/-- How the program is called. -/
def usage : String := "Usage: snailwire [--host HOST] [--port PORT] [--config FILE] [--json]"

/-- Why a text is no port. -/
inductive PortFault where
  /-- It has no characters. -/
  | empty
  /-- It holds something that is no digit. -/
  | notDigits
  /-- The number is above the highest port. -/
  | tooLarge
  deriving DecidableEq, Repr

/-- The reason in words. -/
def PortFault.message : PortFault → String
  | empty => "cannot parse integer from empty string"
  | notDigits => "invalid digit found in string"
  | tooLarge => "number too large to fit in target type"

/-- The number that goes on from a value with more digits. What is seen first,
from left to right, is the fault. -/
def portFrom (value : Nat) : List Char → Except PortFault UInt16
  | [] => .ok (.ofNat value)
  | c :: rest =>
    if !Ascii.isDigit c then .error .notDigits
    else
      let value := 10 * value + Ascii.digitValue c
      if UInt16.size ≤ value then .error .tooLarge else portFrom value rest

/-- A port in decimal digits, with or without a plus sign. -/
def port? (text : String) : Except PortFault UInt16 :=
  match text.toList with
  | [] => .error .empty
  | '+' :: c :: digits => portFrom 0 (c :: digits)
  | digits => portFrom 0 digits

/-- What the arguments ask for. -/
structure Arguments where
  /-- The interpreter's host. -/
  host : Option String := none
  /-- The interpreter's port. -/
  port : Option UInt16 := none
  /-- The path of a settings file. -/
  settings : Option String := none
  /-- Replies are printed as JSON. -/
  json : Bool := false
  /-- Only a line on the usage is wanted. -/
  help : Bool := false
  deriving DecidableEq, Repr

/-- Why arguments are not understood. -/
inductive ArgumentFault where
  /-- An option stands at the end and lacks its value. -/
  | missingValue (option : String)
  /-- The value of the port is none. -/
  | invalidPort (value : String) (why : PortFault)
  /-- There is no such option. -/
  | unknown (argument : String)
  deriving DecidableEq, Repr

/-- The fault in words. -/
def ArgumentFault.message : ArgumentFault → String
  | missingValue option => option ++ " needs a value"
  | invalidPort value _ => "Invalid port " ++ value
  | unknown argument => "Unknown argument " ++ argument ++ "\n" ++ usage

/-- What lies behind a fault. -/
def ArgumentFault.causes : ArgumentFault → List String
  | invalidPort _ why => [why.message]
  | _ => []

namespace Arguments

/-- The options. -/
inductive Switch where
  /-- Sets the host. -/
  | host
  /-- Sets the port. -/
  | port
  /-- Names a settings file. -/
  | settings
  /-- Asks for JSON. -/
  | json
  /-- Asks for the usage. -/
  | help
  deriving DecidableEq, Repr

/-- The option that a word means. -/
def Switch.ofWord? (word : String) : Option Switch :=
  if word = "--host" then some .host
  else if word = "--port" then some .port
  else if word = "--config" then some .settings
  else if word = "--json" then some .json
  else if word = "-h" ∨ word = "--help" then some .help
  else none

/-- Adds the meaning of further arguments. -/
def extend (seen : Arguments) : List String → Except ArgumentFault Arguments
  | [] => .ok seen
  | argument :: rest =>
    match Switch.ofWord? argument, rest with
    | none, _ => .error (.unknown argument)
    | some .json, rest => extend { seen with json := true } rest
    | some .help, rest => extend { seen with help := true } rest
    | some _, [] => .error (.missingValue argument)
    | some .host, value :: rest => extend { seen with host := some value } rest
    | some .settings, value :: rest => extend { seen with settings := some value } rest
    | some .port, value :: rest =>
      match port? value with
      | .error why => .error (.invalidPort value why)
      | .ok number => extend { seen with port := some number } rest

/-- The meaning of the arguments. -/
def parse (arguments : List String) : Except ArgumentFault Arguments := extend {} arguments

end Arguments

end ReplLink.CommandLine
