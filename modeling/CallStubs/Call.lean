import CallStubs.Call.Arguments

namespace CallStubs

structure Call where
  name : Text
  arguments : List Text
  returnType : Text
deriving DecidableEq

structure Assignment where
  declared : Option Text
  target : Text
  expression : Text
deriving DecidableEq

def assigned? (t : Text) : Option Text :=
  match Text.skipBlanks t with
  | '=' :: r =>
    match [';'].isSuffixOf? (Text.skipBlanks r) with
    | some e => if e = [] ∨ '\n' ∈ e then none else some e
    | none => none
  | _ => none

def Assignment.ofText? (t : Text) : Option Assignment := do
  let (w, r) ← Text.word? t
  match assigned? r with
  | some e => some ⟨none, w, e⟩
  | none =>
    let (_, r) ← Text.blanks? r
    let (x, r) ← Text.word? r
    let e ← assigned? r
    some ⟨some w, x, e⟩

def standalone? (t : Text) : Option (Text × Text) := do
  let (f, r) ← Text.word? t
  match r with
  | '(' :: r =>
    let a ← ");".toList.isSuffixOf? r
    if '\n' ∈ a then none else some (f, a)
  | _ => none

/-- The opening parentheses that follow a word: each with the word, and the text behind it. The word
read last is `w`, and `apart` tells whether blanks have followed it. -/
def openings (w : Text) (apart : Bool) : Text → List (Text × Text)
  | [] => []
  | c :: t =>
    if Text.isWord c then openings (if apart then [c] else w ++ [c]) false t
    else if Text.isBlank c then openings w true t
    else if c = '(' ∧ w ≠ [] then (w, t) :: openings [] false t
    else openings [] false t

/-- The text up to the parenthesis that closes the innermost of `d + 1` open ones. -/
def enclosed? (d : Nat) : Text → Option Text
  | [] => none
  | c :: t =>
    if c = '(' then (enclosed? (d + 1) t).map (c :: ·)
    else if c = ')' then
      match d with
      | 0 => some []
      | d + 1 => (enclosed? d t).map (c :: ·)
    else (enclosed? d t).map (c :: ·)

def callsIn (e : Text) : List (Text × List Text) :=
  (openings [] false e).filterMap fun (f, r) => (enclosed? 0 r).map fun a => (f, Arguments.split a)

namespace Call

def defaultType : Text := "int".toList

def void : Text := "void".toList

def ofAssignment (typeOf : Text → Option Text) (a : Assignment) : List Call :=
  (callsIn a.expression).map fun (f, args) =>
    ⟨f, args, a.declared.getD ((typeOf a.target).getD defaultType)⟩

def extract (typeOf : Text → Option Text) (t : Text) : List Call :=
  ((Assignment.ofText? t).map (ofAssignment typeOf)).getD [] ++
    (standalone? t).toList.map fun (f, a) => ⟨f, Arguments.split a, void⟩

def untypedTarget? (t : Text) : Option Text := do
  let a ← Assignment.ofText? t
  if a.declared.isNone && !(callsIn a.expression).isEmpty then some a.target else none

end Call

end CallStubs
