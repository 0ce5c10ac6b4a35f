import CallStubs.Text

namespace CallStubs

structure Memory where
  lastLine : Option Nat
  lastFunction : Option Text
  processed : List Text
deriving DecidableEq

namespace Memory

def empty : Memory := ⟨none, none, []⟩

def isNear (m n : Nat) : Bool :=
  m ≤ n + 1 && n ≤ m + 1

def skips (m : Memory) (name : Text) (line : Nat) : Bool :=
  match m.lastLine with
  | none => false
  | some last =>
    (m.lastFunction == some name && last == line) || (isNear last line && m.processed.contains name)

def record (m : Memory) (name : Text) (line : Nat) : Memory :=
  ⟨some line, some name, m.processed.insert name⟩

def forget (m : Memory) : Memory :=
  { m with processed := [] }

end Memory

end CallStubs
