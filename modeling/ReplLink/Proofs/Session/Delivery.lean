import ReplLink.Proofs.Request.Lines
import ReplLink.Proofs.Session.Sending
import ReplLink.Proofs.Text.Replacing

/-!
# The code arrives

The line of a request is read as the namespace, the id and either the code or a loader for the
file that the code has been spilled to. In the loader the path has been escaped, and then the
whole loader has been escaped once more for the line. Reading the line undoes the second step,
and reading a literal of the loader undoes the first one.
-/

namespace ReplLink

open ReplLink.Text ReplLink.Routing

/-- What stands in a loader for the path. -/
def pathMark : List Char := "\x7bpath\x7d".toList

/-- A part of a loader with the path in its place. -/
def filledIn (path : String) (part : List Char) : List Char :=
  replaceAll pathMark (Request.escape path).toList part

/-- A loader has been made of a pattern: every mark of it has given way to the escaped path. -/
structure IsLoaderOf (pattern path loader : String) : Prop where
  /-- The marks cut the pattern into pieces, and the path joins them. -/
  pieces : ∃ first rest, (∀ piece ∈ first :: rest, ¬pathMark <:+: piece) ∧
    pattern.toList = pathMark.intercalate (first :: rest) ∧
    loader.toList = (Request.escape path).toList.intercalate (first :: rest)
  /-- A mark between quotes has become a literal that is read as the path. -/
  literals : ∀ front back, pattern.toList = front ++ '"' :: (pathMark ++ '"' :: back) →
    ∃ literal, loader.toList = filledIn path front ++ (literal ++ filledIn path back) ∧
      ∀ rest, Request.quoted? (literal ++ rest) = some (path, rest)

theorem filledIn_pathMark (path : String) :
    filledIn path pathMark = (Request.escape path).toList := by
  have hmark : pathMark ≠ [] := by decide
  have hall : filledIn path (pathMark ++ []) = (Request.escape path).toList ++ filledIn path [] :=
    replaceAll_mark_append hmark []
  rwa [List.append_nil, filledIn, filledIn, replaceAll, List.append_nil] at hall

/-- No mark reaches over a quote. -/
theorem filledIn_append_quote (path : String) (front back : List Char) :
    filledIn path (front ++ '"' :: back) = filledIn path front ++ '"' :: filledIn path back := by
  have hquote : '"' ∉ pathMark := by decide
  exact replaceAll_append_cons hquote front back

/-- The loader of a file is made of its pattern, whatever path the file has. -/
theorem isLoaderOf_loaderFor (pattern path : String) :
    IsLoaderOf pattern path (Session.loaderFor pattern path) where
  pieces := by
    rw [Session.loaderFor, String.toList_ofList]
    exact exists_pieces_replaceAll (by decide) pattern.toList
  literals := fun front back h => by
    refine ⟨Request.quotedText path, ?_, Request.quoted?_quotedText path⟩
    have hfilled : (Session.loaderFor pattern path).toList = filledIn path pattern.toList :=
      String.toList_ofList
    rw [hfilled, h, filledIn_append_quote, filledIn_append_quote, filledIn_pathMark,
      Request.quotedText, Request.escape, String.toList_ofList]
    simp only [List.append_assoc, List.cons_append, List.nil_append]

namespace Session

variable {session after : Session} {path : Namespace} {code : String} {job : Job} {sent : Sent}

/-- A line has been sent that the code arrives by. -/
structure Delivers (before : Session) (tokens : List String) (code : String) (job : Job)
    (after : Session) (sent : Sent) : Prop where
  /-- It is the only line that was written. -/
  written : after.written = before.written ++ [sent]
  /-- Code that has to be spilled lies in a new file, and a loader stands in the line. -/
  spilled : job.attachment = none →
      (job.viaFile = true ∨ before.settings.longestInline < code.utf8ByteSize) →
    ∃ file loader, before.router.files.get? file = none ∧
      after.router.files = before.router.files.put file (.spilled code) ∧
      IsLoaderOf before.settings.fileLoader file loader ∧
      Request.decode sent.line = .ok ⟨tokens, sent.id, loader⟩
  /-- Other code stands in the line itself, and no file is written. -/
  inline : ¬(job.attachment = none ∧
      (job.viaFile = true ∨ before.settings.longestInline < code.utf8ByteSize)) →
    after.router.files = before.router.files ∧
      Request.decode sent.line = .ok ⟨tokens, sent.id, code⟩

/-- A request with a valid namespace is sent if its line can be written and its code can be
spilled if it has to. -/
theorem exists_sent {tokens : List String} (hc : session.connected = true)
    (ht : path.tokens = .ok tokens)
    (hs : session.mustSpill code job = true → session.canSpill = true)
    (hup : session.channel = .up) :
    ∃ after sent, session.send path code job = (after, .ok sent) := by
  have hchannel : (session.entered (session.chargeFor code job)).channel = .up := hup
  rw [send_of_valid hc ht hs, write, hchannel]
  exact ⟨_, _, rfl⟩

/-- What is sent is the line of the request. -/
theorem send_eq_ok {tokens : List String} (hc : session.connected = true)
    (ht : path.tokens = .ok tokens) (h : session.send path code job = (after, .ok sent)) :
    sent = ⟨session.nextId, Request.encode ⟨tokens, session.nextId,
        session.wireCode (session.chargeFor code job)⟩⟩ ∧
      after.written = session.written ++ [sent] ∧
      after.router = session.router.take session.spillPath (session.chargeFor code job) := by
  by_cases hs : session.mustSpill code job = true → session.canSpill = true
  · rw [send_of_valid hc ht hs, write] at h
    split at h
    · obtain ⟨rfl, hsent⟩ := Prod.mk.inj h
      obtain rfl := Except.ok.inj hsent
      exact ⟨rfl, rfl, rfl⟩
    · exact absurd (Prod.mk.inj h).2 (by simp)
    · exact absurd (Prod.mk.inj h).2 (by simp)
  · obtain ⟨hm, hd⟩ := Classical.not_imp.mp hs
    rw [send_of_unspilled hc ht hm (Bool.not_eq_true _ ▸ hd)] at h
    exact absurd (Prod.mk.inj h).2 (by simp)

/-- The code of every request that is sent arrives. -/
theorem delivers_of_send {tokens : List String} (hc : session.connected = true)
    (ht : path.tokens = .ok tokens) (hnew : session.SpillsAnew code job)
    (h : session.send path code job = (after, .ok sent)) :
    session.Delivers tokens code job after sent := by
  obtain ⟨rfl, hwritten, hrouter⟩ := send_eq_ok hc ht h
  obtain ⟨hne, htokens⟩ := Namespace.isToken_of_tokens ht
  have hread : Request.decode (Request.encode ⟨tokens, session.nextId,
      session.wireCode (session.chargeFor code job)⟩) = .ok ⟨tokens, session.nextId,
        session.wireCode (session.chargeFor code job)⟩ :=
    Request.decode_of_record hne htokens (.inr (Request.toList_encode _))
  have hfiles : after.router.files = Router.filesFor session.spillPath
      (session.chargeFor code job) session.router.files := congrArg Router.files hrouter
  refine ⟨hwritten, fun hnone hlong => ?_, fun hfits => ?_⟩
  · have hm : session.mustSpill code job = true := mustSpill_iff.mpr ⟨hnone, hlong⟩
    have hspilled : (session.chargeFor code job).spilled = true := hm
    refine ⟨session.spillPath session.nextId, _, hnew hm, ?_,
      isLoaderOf_loaderFor session.settings.fileLoader _, ?_⟩
    · rw [hfiles, Router.filesFor, if_pos hspilled]
      exact Files.lay_of_get?_none (hnew hm)
    · rw [hread, wireCode, if_pos hspilled]
      rfl
  · have hm : (session.chargeFor code job).spilled = false :=
      Bool.eq_false_iff.mpr fun hm => hfits (mustSpill_iff.mp hm)
    refine ⟨?_, ?_⟩
    · rw [hfiles, Router.filesFor, if_neg (by simp [hm])]
    · rw [hread, wireCode, if_neg (by simp [hm])]
      rfl

/-- Whatever the code, the limit and the pattern of loaders are, a request with a valid
namespace is sent where its line can be written and its code can be spilled, and the code of
every request that is sent arrives. Loaders are read as their paths, be these as they may. -/
theorem delivers_code (session : Session) (path : Namespace) (code : String) (job : Job)
    {tokens : List String} (hc : session.connected = true) (ht : path.tokens = .ok tokens)
    (hnew : session.SpillsAnew code job) :
    (session.channel = .up → (session.mustSpill code job = true → session.canSpill = true) →
        ∃ after sent, session.send path code job = (after, .ok sent)) ∧
      (∀ after sent, session.send path code job = (after, .ok sent) →
        session.Delivers tokens code job after sent) ∧
      ∀ file, IsLoaderOf session.settings.fileLoader file
        (loaderFor session.settings.fileLoader file) :=
  ⟨fun hup hs => exists_sent hc ht hs hup, fun _ _ h => delivers_of_send hc ht hnew h,
    isLoaderOf_loaderFor session.settings.fileLoader⟩

/-- A session that spills code to a directory whose name needs escapes. -/
def quotingStart : Session :=
  opened "notebook" "127.0.0.1:10011"
    { fileLoader := "cd(\"\\$HOME\"); include(\"\x7bpath\x7d\") # \x7bpath\x7d" } .editor
    "/tmp/\"$a\\" fun _ => 7

/-- What is sent for a cell there loads its file, and the literal in it is read as the path. -/
theorem delivers_code_bulkyCell :
    quotingStart.connected = true ∧ Namespace.root.tokens = .ok ["Main"] ∧
      quotingStart.SpillsAnew "print(\"$x\")" bulkyCell ∧
      ∃ after sent, quotingStart.send .root "print(\"$x\")" bulkyCell = (after, .ok sent) ∧
        quotingStart.Delivers ["Main"] "print(\"$x\")" bulkyCell after sent := by
  have htokens : Namespace.root.tokens = .ok ["Main"] := rfl
  have hnew : quotingStart.SpillsAnew "print(\"$x\")" bulkyCell := fun _ => rfl
  obtain ⟨hsends, hdelivers, -⟩ :=
    delivers_code quotingStart .root "print(\"$x\")" bulkyCell rfl htokens hnew
  obtain ⟨after, sent, hsent⟩ := hsends rfl fun _ => rfl
  exact ⟨rfl, htokens, hnew, after, sent, hsent, hdelivers after sent hsent⟩

end Session

end ReplLink
