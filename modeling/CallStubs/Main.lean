import CallStubs.Report
import CallStubs.Watch

namespace CallStubs.Main

def exitUsage : UInt32 := 2

def usage : String :=
  "Usage: stubsmith [--config PATH] <process|inspect|watch> FILE [--line N] [--dry-run] [--json]"

/-- The number of a system error, which comes with either sign. -/
def number (code : UInt32) : Nat :=
  code.toInt32.toInt.natAbs

def systemReason (code : UInt32) (details : String) : Text :=
  match details.toList with
  | [] => "os error ".toList ++ Text.ofNat (number code)
  | c :: cs => c.toUpper :: cs ++ " (os error ".toList ++ Text.ofNat (number code) ++ [')']

def reason : IO.Error → Text
  | .alreadyExists _ c d | .inappropriateType _ c d | .invalidArgument _ c d | .noSuchThing _ c d
  | .permissionDenied _ c d | .resourceExhausted _ c d => systemReason c d
  | .interrupted _ c d | .noFileOrDirectory _ c d => systemReason c d
  | .hardwareFault c d | .illegalOperation c d | .otherError c d | .protocolError c d | .resourceBusy c d
  | .resourceVanished c d | .timeExpired c d | .unsatisfiedConstraints c d | .unsupportedOperation c d =>
    systemReason c d
  | .unexpectedEof => "unexpected end of file".toList
  | .userError m => m.toList

/-- What has to stand at a path that could not be read: a path may go on behind a file (20), lead to a folder (21) or
be too long (36). -/
def fileOfError (e : IO.Error) : File :=
  match e with
  | .noFileOrDirectory .. => .missing
  | .inappropriateType _ c _ | .invalidArgument _ c _ =>
    if number c = 20 then .blocked
    else if number c = 21 then .folder
    else if number c = 36 then .overlong
    else .closed (reason e)
  | e => .closed (reason e)

def readFile (path : Text) : IO File := do
  try
    let bytes ← IO.FS.readBinFile (String.ofList path)
    return .ofBytes bytes.toList
  catch e => return fileOfError e

def writeFile (path t : Text) : IO (Option Fault) := do
  try
    IO.FS.writeFile (String.ofList path) (String.ofList t)
    return none
  catch e => return some ⟨reason e, ← readFile path⟩

def absolute (path : Text) : IO Text := do
  try return (toString (← IO.FS.realPath (String.ofList path))).toList
  catch _ => return path

def readDisk (v : Invocation) : IO (Text → File) := do
  let source := v.command.source?.getD []
  let config := v.config.getD (Settings.pathFor source)
  let sourceFile ← readFile source
  let configFile ← readFile config
  return fun path => if path = source then sourceFile else if path = config then configFile else .missing

def printEntry (e : Log.Entry) : IO Unit :=
  IO.println (String.ofList e.text)

def writeReport (source : Text) (r : Report) : IO Report := do
  match r.written with
  | some t =>
    match ← writeFile source t with
    | some e => return r.refused source e.reason
    | none => return r
  | none => return r

def printReport (r : Report) : IO UInt32 := do
  r.log.forM printEntry
  IO.eprint (String.ofList r.stderr)
  IO.print (String.ofList r.stdout)
  return r.exit.toUInt32

/-- One turn of the loop on the file as it is now. What the turn has left in the place of the file is written; if that
fails, the turn is one that meets the fault. -/
def turn (path : Text) (s : Watch.State) (w : Watch.Wakeup) : IO (Watch.State × Bool) := do
  let next := Watch.turn path s w
  match next.1.file with
  | .text t =>
    if next.1.file = s.file then return next
    else
      match ← writeFile path t with
      | some e => return Watch.turn path { s with fault? := some e } w
      | none => return next
  | _ => return next

/-- Wakes up once in a pause. A file that is not as it was left counts as an event, and one that is as quiet. -/
partial def follow (path : Text) (pause : UInt32) (s : Watch.State) : IO Watch.State := do
  IO.sleep pause
  let now ← readFile path
  let kind : Watch.Kind := if now.exists? then .modify else .remove
  let w : Watch.Wakeup := if now = s.file then ⟨none, true⟩ else ⟨some ⟨kind, [path]⟩, false⟩
  let (s', goesOn) ← turn path { s with file := now, fault? := none, failures := [] } w
  s'.failures.forM fun e => printEntry (Watch.failureEntry path e)
  if goesOn then follow path pause s' else return s'

def watch (disk : Text → File) (config : Option Text) (path : Text) : IO Unit := do
  let settings := (Command.settingsFor disk config path).1
  match Tracker.start settings.style (disk path) with
  | .error _ => pure ()
  | .ok k =>
    printEntry (Watch.startEntry path)
    let s ← follow path (max settings.debounceMs 1).toUInt32 (.start k (disk path))
    printEntry (Watch.goneEntry path)
    printEntry (Watch.endEntry path s.applied)

def runLine (args : List String) : IO UInt32 := do
  match CommandLine.parse? none (args.map String.toList) with
  | none =>
    IO.eprintln usage
    return exitUsage
  | some v =>
    let command ← match v.command with
      | .watch path => Command.watch <$> absolute path
      | command => pure command
    let v := { v with command := command }
    let disk ← readDisk v
    let r ← writeReport (v.command.source?.getD []) (v.command.run disk v.config)
    let code ← printReport r
    if code = 0 then
      match v.command with
      | .watch path => watch disk v.config path
      | _ => pure ()
    return code

end CallStubs.Main

def main (args : List String) : IO UInt32 :=
  CallStubs.Main.runLine args
