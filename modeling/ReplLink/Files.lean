import ReplLink.Keyed

/-!
# Files beside a session

Code that is too long for a request line travels in a file, and a caller may
attach a file to a request. Both are deleted when the request ends. `Files` is
what lies on disk of these, by path. Deleting is best effort: a directory
stays, and so does the absence of a file.
-/

namespace ReplLink

/-- What lies at a path. -/
inductive FileEntry where
  /-- A file that a caller has attached to a request. -/
  | attached (content : String)
  /-- A file that a session has written because the code was too long. -/
  | spilled (code : String)
  /-- A directory. -/
  | directory
  deriving DecidableEq, Repr

/-- A regular file, whoever has written it. -/
def FileEntry.isFile : FileEntry → Bool
  | directory => false
  | _ => true

/-- A file that a session has written. -/
def FileEntry.isSpilled : FileEntry → Bool
  | spilled _ => true
  | _ => false

/-- Something to be put at a path. -/
structure Attachment where
  /-- The path. -/
  path : String
  /-- What is put there. -/
  entry : FileEntry
  deriving DecidableEq, Repr

/-- The files that requests are accountable for, by path. -/
abbrev Files := Keyed FileEntry

namespace Files

/-- A regular file lies at a path. -/
def isFile (files : Files) (path : String) : Bool := (files.get? path).any (·.isFile)

/-- Puts something at a path. A regular file is overwritten by another one; a
directory stays what it is. -/
def lay (files : Files) (attachment : Attachment) : Files :=
  match files.get? attachment.path with
  | none => files.put attachment.path attachment.entry
  | some old =>
    if old.isFile && attachment.entry.isFile then files.put attachment.path attachment.entry
    else files

/-- Deletes a regular file; anything else is left alone. -/
def delete (files : Files) (path : String) : Files :=
  if files.isFile path then files.erase path else files

/-- After a deletion no regular file lies at the path. -/
theorem isFile_delete (files : Files) (path : String) :
    (files.delete path).isFile path = false := by
  unfold delete
  split
  · simp [isFile]
  · simp_all

/-- The files that a session has written, in the order of their paths. -/
def spills (files : Files) : List (String × FileEntry) :=
  files.entries.filter (·.2.isSpilled)

/-- All files but those that a session has written. -/
def withoutSpills (files : Files) : Files := ⟨files.entries.filter (!·.2.isSpilled)⟩

end Files

end ReplLink
