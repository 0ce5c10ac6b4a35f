import CallStubs.Text

namespace CallStubs

/-- Where a scan of argument text stands: inside which quote, and under how many parentheses. A count in 32 bits is the
same in every text of fewer than `2 ^ 31` characters. -/
structure Nesting where
  quote : Option Char
  depth : Int
deriving DecidableEq

namespace Nesting

def top : Nesting := ⟨none, 0⟩

def step (s : Nesting) (c : Char) : Nesting :=
  match s.quote with
  | some q => if c = q then { s with quote := none } else s
  | none =>
    if c = '"' ∨ c = '\'' then { s with quote := some c }
    else if c = '(' then { s with depth := s.depth + 1 }
    else if c = ')' then { s with depth := s.depth - 1 }
    else s

def run (s : Nesting) (t : Text) : Nesting :=
  t.foldl step s

end Nesting

namespace Arguments

def consHead (c : Char) : List Text → List Text
  | [] => [[c]]
  | p :: ps => (c :: p) :: ps

def cut (s : Nesting) : Text → List Text
  | [] => [[]]
  | c :: t => if c = ',' ∧ s = .top then [] :: cut s t else consHead c (cut (s.step c) t)

def tidy : List Text → List Text
  | [] => []
  | [p] => if Text.trim p = [] then [] else [Text.trim p]
  | p :: q :: ps => Text.trim p :: tidy (q :: ps)

def split (t : Text) : List Text :=
  tidy (cut .top t)

end Arguments

end CallStubs
