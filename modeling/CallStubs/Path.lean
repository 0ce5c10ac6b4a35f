import CallStubs.Text

/-! Paths as texts with slashes. Repeated slashes, slashes at the end and single dots do not count, but for
a dot in front. -/

namespace CallStubs.Path

def pieces (p : Text) : List Text :=
  p.splitOn '/'

def dot : Text := ".".toList

def dots : Text := "..".toList

def maxPiece : Nat := 255

def maxLength : Nat := 4095

def trimPieces (first : Bool) : List Text → List Text
  | [] => []
  | p :: ps =>
    match trimPieces false ps with
    | [] => if p = [] ∨ (p = dot ∧ !first) then [] else [p]
    | q :: qs => p :: q :: qs

def isAbsolute (p : Text) : Bool :=
  p.head? == some '/'

def parent? (p : Text) : Option Text :=
  match trimPieces true (pieces p) with
  | [] => none
  | ps =>
    match trimPieces true ps.dropLast with
    | [] => some (if isAbsolute p then ['/'] else [])
    | qs => some (['/'].intercalate qs)

def fileName? (p : Text) : Option Text :=
  match (trimPieces true (pieces p)).getLast? with
  | some n => if n = dot ∨ n = dots then none else some n
  | none => none

def extension (p : Text) : Text :=
  match fileName? p with
  | none => []
  | some n =>
    let ext := (n.reverse.takeWhile (· != '.')).reverse
    let stem := n.take (n.length - (ext.length + 1))
    if n.length = ext.length ∨ stem = [] then [] else ext

def append (dir name : Text) : Text :=
  if dir = [] ∨ dir.getLast? = some '/' then dir ++ name else dir ++ '/' :: name

def sibling (p name : Text) : Text :=
  append ((parent? p).getD dot) name

end CallStubs.Path
