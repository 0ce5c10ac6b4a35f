import CallStubs.CommandLine
import CallStubs.Folder
import CallStubs.Json
import CallStubs.Settings
import CallStubs.Update

/-! What a command prints and writes, given what stands on the disk. -/

namespace CallStubs

inductive Failure where
  | host (path : Text) (e : HostError)
  | lineOutOfRange (path : Text) (line count : Nat)
deriving DecidableEq

def Failure.message : Failure → Text
  | host path e => e.message path
  | lineOutOfRange path line count =>
    "line ".toList ++ Text.ofNat line ++ " is out of range (".toList ++ path ++ " has ".toList ++
      Text.ofNat count ++ " lines)".toList

/-- The outcome of a command; `written` is what its file holds afterwards if it was written. -/
structure Report where
  exit : Nat
  stdout : Text
  stderr : Text
  log : List Log.Entry
  written : Option Text
deriving DecidableEq

namespace Report

def empty : Report := ⟨0, [], [], [], none⟩

def failed (log : List Log.Entry) (e : Failure) : Report :=
  { empty with exit := 1, log := log ++ [⟨.error, e.message, []⟩] }

def refused (path : Text) (r : Report) (reason : Text) : Report :=
  { r with exit := 1, log := r.log ++ [⟨.error, (Failure.host path (.write reason)).message, []⟩], written := none }

def unlines (ls : List Text) : Text :=
  ls.flatMap (· ++ ['\n'])

def stamped (r : Report) : List Text :=
  r.log.map Log.Entry.stamped

/-- The log goes to standard output too, before the text of the command. This is what stands there apart from
the lines with a time. -/
def unstamped (r : Report) : Text :=
  unlines (r.log.flatMap Log.Entry.unstamped) ++ r.stdout

end Report

def openLine (path : Text) (f : File) (line : Nat) : Except Failure (Buffer × Nat) :=
  match f.read with
  | .error e => .error (.host path (.read e))
  | .ok t =>
    let b := Buffer.ofText t
    if line = 0 ∨ b.lineCount < line then .error (.lineOutOfRange path line b.lineCount)
    else .ok (b, line - 1)

def Action.entry : Action → Log.Entry
  | inserted f i =>
    ⟨.info, "Inserted new stub".toList, [Log.quotedField "function" f, Log.numberField "line" i]⟩
  | replaced f r =>
    ⟨.info, "Updated existing stub".toList,
      [Log.quotedField "function" f, Log.numberField "start" r.start, Log.numberField "end" r.stop]⟩

def Action.summary : Action → Text
  | inserted f i => "inserted ".toList ++ f ++ "() at line ".toList ++ Text.ofNat (i + 1)
  | replaced f r =>
    "replaced ".toList ++ f ++ "() at lines ".toList ++ Text.ofNat (r.start + 1) ++ '-' :: Text.ofNat r.stop

namespace Command

def settingsFor (disk : Text → File) (config : Option Text) (file : Text) : Settings × List Log.Entry :=
  let path := config.getD (Settings.pathFor file)
  let (s, remarks) := Settings.load path (disk path)
  let ext := Path.extension file
  (s, remarks.map Settings.Remark.entry ++
    if s.accepts ext then []
    else [⟨.warn, "File extension is not in the configured list".toList,
      [Log.plainField "path" file, Log.quotedField "extension" ext]⟩])

def runProcess (disk : Text → File) (config : Option Text) (file : Text) (line : Nat) (dryRun : Bool) :
    Report :=
  let (settings, log) := settingsFor disk config file
  match openLine file (disk file) line with
  | .error e => .failed log e
  | .ok (b, i) =>
    let p := Session.process Gate.free (.start settings.style b) i
    let text := p.session.buffer.toText
    let said := Report.unlines (p.actions.map Action.summary)
    let log := log ++ p.actions.map Action.entry
    if dryRun then ⟨0, text, said, log, none⟩
    else if p.actions.isEmpty then
      ⟨0, [], "No new calls on line ".toList ++ Text.ofNat line ++ ['\n'], log, none⟩
    else ⟨0, [], said, log, some text⟩

structure Findings where
  line : Nat
  text : Text
  scope : Scope
  calls : List Call
deriving DecidableEq

def findings (b : Buffer) (i : Nat) : Findings :=
  ⟨i + 1, b.trimmed i, Session.scopeAbove b i, Session.callsAt b i⟩

namespace Findings

def heads (s : Findings) : List Stub.Head :=
  s.calls.map (·.head s.scope)

def callJson (c : Call) (h : Stub.Head) : Json :=
  .record [
    ("call".toList, .record [
      ("args".toList, .texts c.arguments),
      ("name".toList, .text c.name),
      ("return_type".toList, .text c.returnType)]),
    ("parameters".toList, .texts h.parameters)]

def json (s : Findings) : Json :=
  .record [
    ("calls".toList, .list (s.calls.map fun c => callJson c (c.head s.scope))),
    ("context".toList, .record (s.scope.entries.map fun (x, t) => (x, .text t))),
    ("line".toList, .number s.line),
    ("text".toList, .text s.text)]

def variableLine (x t : Text) : Text :=
  "  ".toList ++ x ++ List.replicate (20 - x.length) ' ' ++ ' ' :: t

def lines (s : Findings) : List Text :=
  s.heads.map Stub.Head.text ++
    if s.scope.isEmpty then [] else [] :: s.scope.entries.map fun (x, t) => variableLine x t

end Findings

def runInspect (disk : Text → File) (file : Text) (line : Nat) (json : Bool) : Report :=
  match openLine file (disk file) line with
  | .error e => .failed [] e
  | .ok (b, i) =>
    let s := findings b i
    if json then { Report.empty with stdout := s.json.pretty 0 ++ ['\n'] }
    else if s.calls.isEmpty then
      { Report.empty with
        stderr := "No calls on line ".toList ++ Text.ofNat line ++ ": ".toList ++ s.text ++ ['\n'] }
    else { Report.empty with stdout := Report.unlines s.lines }

def runWatch (disk : Text → File) (config : Option Text) (file : Text) : Report :=
  let log := if (disk file).exists? then (settingsFor disk config file).2 else []
  match (disk file).read with
  | .error e => .failed log (.host file (.read e))
  | .ok _ => { Report.empty with log := log }

def versionText : Text := "stubsmith 0.3.0".toList

def run (disk : Text → File) (config : Option Text) : Command → Report
  | process file line dryRun => runProcess disk config file line dryRun
  | inspect file line json => runInspect disk file line json
  | watch file => runWatch disk config file
  | version => { Report.empty with stdout := versionText ++ ['\n'] }

def source? : Command → Option Text
  | process file _ _ => some file
  | inspect file _ _ => some file
  | watch file => some file
  | version => none

end Command

def Invocation.runIn (v : Invocation) (f : Folder) (refusal : Option Text := none) : Report × Folder :=
  let r := v.command.run f.file v.config
  match v.command.source?, r.written, refusal with
  | some path, some t, none => (r, f.write path t)
  | some path, some _, some reason => (r.refused path reason, f)
  | _, _, _ => (r, f)

end CallStubs
