import CallStubs.Tracker

/-! A watched file: events come in one by one, and the file is looked at once it has been quiet for a while.
When that is the case after an event is given along with the events. -/

namespace CallStubs.Watch

inductive Kind where
  | create
  | modify
  | remove
  | access
  | any
  | other
deriving DecidableEq

structure Event where
  kind : Kind
  paths : List Text
deriving DecidableEq

def Kind.touches : Kind → Bool
  | create => true
  | modify => true
  | remove => true
  | _ => false

def Event.concerns (target : Text) (e : Event) : Bool :=
  e.kind.touches && e.paths.any fun p => Path.fileName? p == Path.fileName? target

/-- The loop wakes up because of an event or because time has passed; `quiet` tells whether the quiet time
since the last change is over by then. -/
structure Wakeup where
  event : Option Event
  quiet : Bool
deriving DecidableEq

structure State where
  tracker : Tracker
  file : File
  fault? : Option Fault
  pending : Bool
  applied : Nat
  failures : List HostError
deriving DecidableEq

def startEntry (target : Text) : Log.Entry :=
  ⟨.info, "Watching".toList, [Log.plainField "path" target]⟩

def failureEntry (target : Text) (e : HostError) : Log.Entry :=
  ⟨.warn, "Failed to process change".toList, [Log.plainField "error" (e.message target)]⟩

def goneEntry (target : Text) : Log.Entry :=
  ⟨.info, "File removed, stopping".toList, [Log.plainField "path" target]⟩

def endEntry (target : Text) (applied : Nat) : Log.Entry :=
  ⟨.info, "Stopped watching".toList, [Log.plainField "path" target, Log.numberField "edits" applied]⟩

def State.start (k : Tracker) (f : File) (fault? : Option Fault := none) : State :=
  ⟨k, f, fault?, false, 0, []⟩

def State.flush (s : State) : Option State :=
  if s.file.exists? then
    match s.tracker.refresh s.file s.fault? with
    | .ok o => some ⟨o.tracker, o.file, s.fault?, false, s.applied + o.actions.length,
        s.failures ++ o.refusal.toList.map .write⟩
    | .error e => some { s with pending := false, failures := s.failures ++ [.read e] }
  else none

def State.notice (target : Text) (s : State) (w : Wakeup) : State :=
  if w.event.any (·.concerns target) then { s with pending := true } else s

def turn (target : Text) (s : State) (w : Wakeup) : State × Bool :=
  let s := s.notice target w
  if s.pending && w.quiet then
    match s.flush with
    | some s => (s, true)
    | none => (s, false)
  else (s, true)

/-- Runs until no more wake-ups come, with a last look at changes that are still pending, or until the file
is gone. -/
def run (target : Text) : List Wakeup → State → State
  | [], s => if s.pending then s.flush.getD s else s
  | w :: ws, s =>
    match turn target s w with
    | (s, true) => run target ws s
    | (s, false) => s

end CallStubs.Watch
