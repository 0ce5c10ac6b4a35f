import CallStubs.Call
import CallStubs.Log
import CallStubs.Memory
import CallStubs.Parameter
import CallStubs.Placement
import CallStubs.Stub

/-! What happens when a line has changed: each new call on it gets a stub, above the function that the line
belongs to or in the place of an earlier stub. -/

namespace CallStubs

inductive Action where
  | inserted (function : Text) (line : Nat)
  | replaced (function : Text) (lines : LineRange)
deriving DecidableEq

namespace Action

def function : Action → Text
  | inserted f _ => f
  | replaced f _ => f

def edit (stub : Text) : Action → Edit
  | inserted _ i => .insert i stub
  | replaced _ r => .replace r stub

def shift (k i : Nat) : Action → Nat
  | inserted _ j => if j ≤ i then i + k else i
  | replaced _ r => if r.stop ≤ i then i - r.size + k else i

end Action

def Call.head (scope : Scope) (c : Call) : Stub.Head :=
  ⟨c.name, Parameter.inferAll scope c.arguments, c.returnType⟩

def withSeparator (b : Buffer) (r : LineRange) : LineRange :=
  if r.stop < b.lineCount ∧ b.trimmed r.stop = [] then { r with stop := r.stop + 1 } else r

def Action.plan (b : Buffer) (i : Nat) (name : Text) : Action :=
  match Placement.existingStub? b (Placement.insertionPoint b i) name with
  | some r => .replaced name (withSeparator b r)
  | none => .inserted name (Placement.insertionPoint b i)

structure Refusal where
  function : Text
  error : EditError
deriving DecidableEq

def Refusal.entry (r : Refusal) : Log.Entry :=
  ⟨.warn, "Failed to apply stub edit".toList,
    [Log.quotedField "function" r.function, Log.plainField "error" r.error.message]⟩

/-- The owner of a buffer may turn down edits; they are numbered in the order in which they are tried. -/
abbrev Gate := Nat → Bool

namespace Gate

def closed : EditError := .lineOutOfRange 0 0

def free : Gate := fun _ => false

def apply (refuses : Gate) (n : Nat) (b : Buffer) (e : Edit) : Except EditError Buffer :=
  if refuses n then .error closed else b.apply e

end Gate

structure Session where
  buffer : Buffer
  memory : Memory
  style : Stub.Style
  attempts : Nat
deriving DecidableEq

namespace Session

def start (style : Stub.Style) (b : Buffer) : Session :=
  ⟨b, .empty, style, 0⟩

def scopeAbove (b : Buffer) (i : Nat) : Scope :=
  Scope.ofLines (b.lines.take i)

def callsAt (b : Buffer) (i : Nat) : List Call :=
  Call.extract (scopeAbove b i).typeOf? (b.trimmed i)

/-- A session in the middle of a line: where the line stands by now, and what was done so far. -/
structure Progress where
  session : Session
  current : Nat
  actions : List Action
  refusals : List Refusal
deriving DecidableEq

def step (refuses : Gate) (scope : Scope) (line : Nat) (p : Progress) (c : Call) : Progress :=
  let s := p.session
  if s.memory.skips c.name line then p
  else
    -- The stub goes by where the line stands by now, the memory by where it stood when it was changed.
    let stub := Stub.render s.style (c.head scope)
    let action := Action.plan s.buffer p.current c.name
    match refuses.apply s.attempts s.buffer (action.edit stub) with
    | .ok b =>
      ⟨⟨b, s.memory.record c.name line, s.style, s.attempts + 1⟩,
        action.shift (Stub.span stub) p.current, p.actions ++ [action], p.refusals⟩
    | .error e =>
      ⟨{ s with attempts := s.attempts + 1 }, p.current, p.actions, p.refusals ++ [⟨c.name, e⟩]⟩

def process (refuses : Gate) (s : Session) (line : Nat) : Progress :=
  (callsAt s.buffer line).foldl (step refuses (scopeAbove s.buffer line) line) ⟨s, line, [], []⟩

end Session

end CallStubs
