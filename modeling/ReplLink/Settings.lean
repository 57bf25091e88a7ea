import ReplLink.Routing.Job
import ReplLink.KnownNames
import ReplLink.Stream.Inbox
import ReplLink.Text.Utf8
import ReplLink.Toml.Document

/-!
# Settings of a session

Settings come from a TOML file in which every one of them may be missing.
Names that mean no setting are passed over, and so is what they stand for, but
a setting of the wrong type or out of range makes the whole file invalid.
-/

namespace ReplLink

open ReplLink.Text ReplLink.Toml

/-- The settings of a session. -/
structure Settings where
  /-- The interpreter's host. -/
  host : String := "127.0.0.1"
  /-- The interpreter's port. -/
  port : UInt16 := 10011
  /-- How often a connection is tried; at least once, whatever it says. -/
  tries : UInt32 := 5
  /-- The time between two tries, in milliseconds. -/
  tryInterval : Nat := 500
  /-- How long a caller waits for an outcome, in milliseconds. -/
  waitLimit : Nat := 5000
  /-- How many bytes of an unfinished response are kept. -/
  bufferLimit : Nat := Stream.Inbox.defaultLimit
  /-- Code of more bytes travels in a file. -/
  longestInline : Nat := 4096
  /-- The code that loads such a file, with a mark in place of its path. -/
  fileLoader : String := "include(\"\x7bpath\x7d\")"
  /-- The code that asks for the names of the standard library. -/
  baseQuestion : String := "string.(names(Base))"
  /-- The code that asks for the names built into the interpreter. -/
  coreQuestion : String := "string.(names(Core))"
  /-- What becomes of the jobs of a connection that is closed. -/
  onClose : Routing.Policy := .abandon
  /-- How many sent lines are remembered. -/
  historyLimit : Nat := 500
  deriving DecidableEq, Repr, Inhabited

namespace Settings

/-- The interpreter's address. -/
def address (settings : Settings) : String := settings.host ++ ":" ++ toString settings.port.toNat

/-- How often a connection is tried: as set, but at least once. -/
def tryCount (settings : Settings) : Nat := max settings.tries.toNat 1

/-- The code that asks for the names of a list. -/
def question (settings : Settings) : NameList → String
  | .base => settings.baseQuestion
  | .core => settings.coreQuestion

/-- A setting that is a text. -/
def text? : Node → Option String
  | .text value => some value
  | _ => none

/-- A setting that is an integer from zero to a limit. -/
def natural? (limit : Nat) : Node → Option Nat
  | .integer value => if 0 ≤ value ∧ value ≤ limit then some value.toNat else none
  | _ => none

/-- A policy by its name. -/
def policyOf? (name : String) : Option Routing.Policy :=
  if name = "abandon" then some .abandon else if name = "fail" then some .fail else none

/-- A setting that is a policy: its name, or a table in which the name leads
to nothing. -/
def policy? : Node → Option Routing.Policy
  | .text name => policyOf? name
  | .table _ [(name, .table _ [])] => policyOf? name
  | .table _ [(name, .array [])] => policyOf? name
  | _ => none

/-- A setting by its name; a missing one has its default. -/
def setting {α : Type} (table : Node) (name : String) (default : α) (read? : Node → Option α) :
    Option α :=
  match table.get? name with
  | none => some default
  | some node => read? node

/-- The settings that a table writes. -/
def ofTable? (table : Node) : Option Settings := do
  let standard : Settings := {}
  let word := UInt64.size - 1
  let host ← setting table "host" standard.host text?
  let port ← setting table "port" standard.port.toNat (natural? (UInt16.size - 1))
  let tryCount ←
    setting table "connect_attempts" standard.tries.toNat (natural? (UInt32.size - 1))
  let tryInterval ← setting table "retry_delay_ms" standard.tryInterval (natural? word)
  let waitLimit ← setting table "sync_timeout_ms" standard.waitLimit (natural? word)
  let bufferLimit ← setting table "max_buffer_bytes" standard.bufferLimit (natural? word)
  let longestInline ← setting table "inline_limit" standard.longestInline (natural? word)
  let fileLoader ← setting table "tmpfile_loader" standard.fileLoader text?
  let baseQuestion ← setting table "base_names_query" standard.baseQuestion text?
  let coreQuestion ← setting table "core_names_query" standard.coreQuestion text?
  let onClose ← setting table "teardown" standard.onClose policy?
  let historyLimit ← setting table "transcript_lines" standard.historyLimit (natural? word)
  some
    { host, port := .ofNat port, tries := .ofNat tryCount, tryInterval, waitLimit,
      bufferLimit, longestInline, fileLoader, baseQuestion, coreQuestion, onClose,
      historyLimit }

/-- The settings that a TOML text writes. -/
def ofToml? (text : String) : Option Settings := (Document.read text).bind ofTable?

/-- What is said of a text that writes no settings. -/
def invalidMessage : String := "Failed to parse TOML"

/-- A place where a settings file may lie. -/
structure Source where
  /-- The path. -/
  path : String
  /-- What lies there, if anything does. -/
  content : Option Bytes
  deriving DecidableEq, Repr

/-- Why settings cannot be loaded. -/
inductive LoadError where
  /-- There is no such file. -/
  | missing (path : String)
  /-- The file is no text. -/
  | notText (path : String)
  /-- The text writes no settings. -/
  | invalid (path : String)
  deriving DecidableEq, Repr

/-- The wording of an error. -/
def LoadError.message : LoadError → String
  | missing path | notText path => "Failed to read config " ++ path
  | invalid path => "Invalid config " ++ path

/-- What lies behind an error, from the outside in. -/
def LoadError.causes : LoadError → List String
  | missing _ => ["No such file or directory (os error 2)"]
  | notText _ => ["stream did not contain valid UTF-8"]
  | invalid _ => [invalidMessage]

/-- Loads the settings of a file. -/
def load (source : Source) : Except LoadError Settings :=
  match source.content with
  | none => .error (.missing source.path)
  | some bytes =>
    match Utf8.decodeStrict bytes with
    | .error _ => .error (.notText source.path)
    | .ok text =>
      match ofToml? (String.ofList text) with
      | none => .error (.invalid source.path)
      | some settings => .ok settings

/-- Loads the settings of the file that is asked for, else of the one in the
standard place if there is one, else takes the defaults. -/
def inForce (asked : Option Source) (standard : Source) : Except LoadError Settings :=
  match asked, standard.content with
  | some source, _ => load source
  | none, some _ => load standard
  | none, none => .ok {}

end Settings

end ReplLink
