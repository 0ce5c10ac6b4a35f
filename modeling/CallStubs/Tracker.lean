import CallStubs.File
import CallStubs.Update

namespace CallStubs

structure Tracker where
  snapshot : List Text
  memory : Memory
  style : Stub.Style
deriving DecidableEq

namespace Tracker

def start (style : Stub.Style) (f : File) : Except ReadError Tracker :=
  f.read.map fun t => ⟨(Buffer.ofText t).lines, .empty, style⟩

structure Outcome where
  tracker : Tracker
  file : File
  actions : List Action
  refusal : Option Text
deriving DecidableEq

/-- Deals with the first line that has changed. The file is written only if there is something to write, and what was
written counts as seen. A write may meet a fault: then the change still counts as new, though its calls have been
dealt with. -/
def refresh (k : Tracker) (f : File) (fault? : Option Fault := none) : Except ReadError Outcome :=
  f.read.map fun t =>
    let b := Buffer.ofText t
    match firstChange? k.snapshot b.lines with
    | none => ⟨k, f, [], none⟩
    | some line =>
      let p := Session.process Gate.free ⟨b, k.memory, k.style, 0⟩ line
      let seen : Tracker := ⟨p.session.buffer.lines, p.session.memory, k.style⟩
      if p.actions.isEmpty then ⟨seen, f, p.actions, none⟩
      else
        match fault? with
        | none => ⟨seen, .text p.session.buffer.toText, p.actions, none⟩
        | some e => ⟨{ k with memory := p.session.memory }, e.left, [], some e.reason⟩

end Tracker

end CallStubs
