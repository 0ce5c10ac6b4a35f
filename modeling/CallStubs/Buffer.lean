import CallStubs.Text

/-! A text held as lines, with one kind of line ending. Edits are addressed by line and carried out on the
joined text, at the places where its lines start in UTF-8. -/

namespace CallStubs

structure LineRange where
  start : Nat
  stop : Nat
deriving DecidableEq

def LineRange.size (r : LineRange) : Nat :=
  r.stop - r.start

inductive Edit where
  | insert (line : Nat) (text : Text)
  | replace (lines : LineRange) (text : Text)
deriving DecidableEq

inductive EditError where
  | lineOutOfRange (line count : Nat)
  | invertedRange (lines : LineRange)
deriving DecidableEq

def EditError.message : EditError → Text
  | .lineOutOfRange line count =>
    "line ".toList ++ Text.ofNat line ++ " is out of range (buffer has ".toList ++ Text.ofNat count ++
      " lines)".toList
  | .invertedRange r =>
    "inverted line range ".toList ++ Text.ofNat r.start ++ "..".toList ++ Text.ofNat r.stop

def dropReturn (l : Text) : Text :=
  if l.getLast? = some '\r' then l.dropLast else l

def splitLines (t : Text) : List Text :=
  (t.splitOn '\n').map dropReturn

structure Buffer where
  lines : List Text
  crlf : Bool
deriving DecidableEq

namespace Buffer

def ofText (t : Text) : Buffer :=
  ⟨splitLines t, Text.includes "\r\n".toList t⟩

def terminator (b : Buffer) : Text :=
  if b.crlf then "\r\n".toList else "\n".toList

def toText (b : Buffer) : Text :=
  b.terminator.intercalate b.lines

def empty : Buffer := ofText []

def lineCount (b : Buffer) : Nat :=
  b.lines.length

def line? (b : Buffer) (i : Nat) : Option Text :=
  b.lines[i]?

def trimmed (b : Buffer) (i : Nat) : Text :=
  ((b.line? i).map Text.trim).getD []

def joined (b : Buffer) : Text :=
  ['\n'].intercalate b.lines

def lineBytes : List Text → Nat
  | [] => 0
  | l :: ls => Text.byteLength l + 1 + lineBytes ls

def offsetOf (b : Buffer) (i : Nat) : Nat :=
  if b.lineCount ≤ i then lineBytes b.lines - 1 else lineBytes (b.lines.take i)

def splice (b : Buffer) (start stop : Nat) (t : Text) : Buffer :=
  { b with lines := splitLines (Text.spliceBytes start stop t b.joined) }

def apply (b : Buffer) : Edit → Except EditError Buffer
  | .insert line t =>
    if b.lineCount ≤ line then .error (.lineOutOfRange line b.lineCount)
    else .ok (b.splice (b.offsetOf line) (b.offsetOf line) t)
  | .replace r t =>
    if r.stop < r.start then .error (.invertedRange r)
    else if b.lineCount ≤ r.start then .error (.lineOutOfRange r.start b.lineCount)
    else .ok (b.splice (b.offsetOf r.start) (b.offsetOf r.stop) t)

end Buffer

def sharedLines : List Text → List Text → Nat
  | a :: as, b :: bs => if a = b then sharedLines as bs + 1 else 0
  | _, _ => 0

/-- The first line of `new` that differs from `old`; where only lines at the end are gone, the last one. -/
def firstChange? (old new : List Text) : Option Nat :=
  if old = new then none else some (min (sharedLines old new) (new.length - 1))

end CallStubs
