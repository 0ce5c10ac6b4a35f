import CallStubs.TypeName

namespace CallStubs

structure Declaration where
  name : Text
  type : Text
deriving DecidableEq

/-- Behind an opening angle bracket: the text through the last closing one that a blank and a word
follow, and this word. An equals sign, a semicolon or an opening parenthesis ends the search. -/
def closeAngle? : Text → Option (Text × Text)
  | [] => none
  | c :: t =>
    if c = '=' ∨ c = ';' ∨ c = '(' then none
    else
      match closeAngle? t with
      | some (s, x) => some (c :: s, x)
      | none =>
        if c = '>' then do
          let (_, r) ← Text.blanks? t
          let (x, _) ← Text.word? r
          some ([c], x)
        else none

namespace Declaration

def ofContainer? (t k : Text) : Option Declaration := do
  let r ← k.isPrefixOf? t
  match Text.skipBlanks r with
  | '<' :: r' =>
    let (s, x) ← closeAngle? r'
    some ⟨x, TypeName.expand (k ++ r.takeWhile Text.isBlank ++ '<' :: s)⟩
  | _ => none

def scalarParts? (t : Text) : Option (Text × Text) := do
  let (w, r) ← Text.word? t
  let (b, r) ← Text.blanks? r
  let (x, r) ← Text.word? r
  let long := "long".toList
  match (if w = long ∧ x = long then (Text.blanks? r).bind fun p => Text.word? p.2 else none) with
  | some (y, _) => some (w ++ b ++ x, y)
  | none => some (w, x)

def ofScalar? (t : Text) : Option Declaration := do
  let (type, x) ← scalarParts? t
  if TypeName.isScalar type then some ⟨x, TypeName.expand type⟩ else none

def ofText? (t : Text) : Option Declaration :=
  (TypeName.containers.findSome? (ofContainer? t)).or (ofScalar? t)

end Declaration

/-- The declarations above a line, the latest first. -/
abbrev Scope := List Declaration

namespace Scope

def ofLines (lines : List Text) : Scope :=
  (lines.filterMap fun l => Declaration.ofText? (Text.trim l)).reverse

def typeOf? (s : Scope) (x : Text) : Option Text :=
  (s.find? (·.name == x)).map (·.type)

def names (s : Scope) : List Text :=
  Text.sort (s.map (·.name)).eraseDups

def entries (s : Scope) : List (Text × Text) :=
  s.names.filterMap fun x => (s.typeOf? x).map (x, ·)

end Scope

end CallStubs
