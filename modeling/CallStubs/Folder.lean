import CallStubs.File

namespace CallStubs

abbrev Folder := List (Text × Text)

namespace Folder

def enter (dir : List Text) (p : Text) : List Text :=
  if p = [] ∨ p = Path.dot then dir
  else if p = Path.dots then dir.dropLast
  else dir ++ [p]

def spot (name : Text) : List Text :=
  (Path.pieces name).foldl enter []

def trail (dir : List Text) : List Text → List (List Text)
  | [] => []
  | p :: ps => dir :: trail (enter dir p) ps

inductive Place where
  | within (dir : List Text)
  | outside
  | at (file : List Text)
  | nowhere
  | behindFile
  | beyondLimit

def fileAt? (f : Folder) (ps : List Text) : Option (Text × Text) :=
  f.findRev? fun e => spot e.1 == ps

def hasFolder (f : Folder) (ps : List Text) : Bool :=
  f.any fun e => (trail [] (Path.pieces e.1)).contains ps

/-- Of what lies outside only the folders are known that hold the folder. -/
def step (f : Folder) : Place → Text → Place
  | .within dir, p =>
    if Path.maxPiece < Text.byteLength p then .beyondLimit
    else if p = Path.dots ∧ dir = [] then .outside
    else
      let ps := enter dir p
      if ps.length ≤ dir.length then .within ps
      else if (f.fileAt? ps).isSome then .at ps
      else if f.hasFolder ps then .within ps
      else .nowhere
  | .outside, p =>
    if Path.maxPiece < Text.byteLength p then .beyondLimit
    else if p = [] ∨ p = Path.dot ∨ p = Path.dots then .outside
    else .nowhere
  | .at _, _ => .behindFile
  | place, _ => place

def locate (f : Folder) (path : Text) : Place :=
  if Path.maxLength < Text.byteLength path then .beyondLimit
  else (Path.pieces path).foldl f.step (if Path.isAbsolute path then .outside else .within [])

def file (f : Folder) (path : Text) : File :=
  match f.locate path with
  | .within _ => .folder
  | .outside => .folder
  | .at ps => ((f.fileAt? ps).map fun e => File.text e.2).getD .missing
  | .nowhere => .missing
  | .behindFile => .blocked
  | .beyondLimit => .overlong

def write (f : Folder) (path t : Text) : Folder :=
  match f.locate path with
  | .at ps => f.map fun e => if spot e.1 = ps then (e.1, t) else e
  | _ => f

end Folder

end CallStubs
