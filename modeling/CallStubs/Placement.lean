import CallStubs.Buffer
import CallStubs.Signature

namespace CallStubs.Placement

def startsFunction (b : Buffer) (i : Nat) : Bool :=
  Signature.isHead (b.trimmed i) ||
    (Signature.opensHead (b.trimmed i) && Signature.bodyFollows (b.lines.drop (i + 1)))

def nearestStart (b : Buffer) : Nat → Nat
  | 0 => 0
  | i + 1 => if startsFunction b (i + 1) then i + 1 else nearestStart b i

def insertionPoint (b : Buffer) (i : Nat) : Nat :=
  nearestStart b (min i (b.lineCount - 1))

def closesBody (l : Text) : Bool :=
  Text.trim l == "\x7d".toList

def closingLine? (b : Buffer) (i : Nat) : Option Nat :=
  ((b.lines.drop (i + 1)).findIdx? closesBody).map (· + (i + 1))

def definitionAt? (b : Buffer) (name : Text) (i : Nat) : Option LineRange :=
  if (b.line? i).any (Signature.defines name) then (closingLine? b i).map fun j => ⟨i, j + 1⟩ else none

def existingStub? (b : Buffer) (before : Nat) (name : Text) : Option LineRange :=
  (List.range (min before b.lineCount)).findSome? (definitionAt? b name)

end CallStubs.Placement
