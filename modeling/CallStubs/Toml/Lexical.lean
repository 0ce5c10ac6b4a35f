import CallStubs.Text

namespace CallStubs.Toml

def isGap (c : Char) : Bool :=
  c == ' ' || c == '\t'

def isPlain (c : Char) : Bool :=
  c == '\t' || (0x20 ≤ c.toNat && c.toNat != 0x7F)

def skipGap (t : Text) : Text :=
  t.dropWhile isGap

def newline? : Text → Option Text
  | '\n' :: r => some r
  | '\r' :: '\n' :: r => some r
  | _ => none

def skipComment (t : Text) : Text :=
  match t with
  | '#' :: r => r.dropWhile isPlain
  | _ => t

def lineEnd? (t : Text) : Option Text :=
  if t.isEmpty then some [] else newline? t

def finishLine? (t : Text) : Option Text :=
  lineEnd? (skipComment (skipGap t))

def skipSpace : Text → Text
  | '\r' :: '\n' :: r => skipSpace r
  | c :: r => if isGap c || c == '\n' then skipSpace r else c :: r
  | [] => []

def skipFiller (comment : Bool) : Text → Text
  | '\r' :: '\n' :: r => skipFiller false r
  | c :: r =>
    if c == '\n' then skipFiller false r
    else if comment then if isPlain c then skipFiller true r else c :: r
    else if isGap c then skipFiller false r
    else if c == '#' then skipFiller true r
    else c :: r
  | [] => []

def digitsRest (isDigit : Char → Bool) : Text → Text × Text
  | '_' :: c :: r =>
    if isDigit c then
      let (ds, r) := digitsRest isDigit r
      (c :: ds, r)
    else ([], '_' :: c :: r)
  | c :: r =>
    if isDigit c then
      let (ds, r) := digitsRest isDigit r
      (c :: ds, r)
    else ([], c :: r)
  | [] => ([], [])

def digits? (isDigit : Char → Bool) (t : Text) : Option (Text × Text) :=
  match t with
  | c :: r =>
    if isDigit c then
      let (ds, r) := digitsRest isDigit r
      some (c :: ds, r)
    else none
  | [] => none

def digitValue (c : Char) : Nat :=
  if c.isDigit then c.toNat - 48 else if c.isUpper then c.toNat - 55 else c.toNat - 87

def isHexDigit (c : Char) : Bool :=
  c.isDigit || ('a' ≤ c && c ≤ 'f') || ('A' ≤ c && c ≤ 'F')

def numberOf (base : Nat) (ds : Text) : Nat :=
  ds.foldl (fun n c => base * n + digitValue c) 0

end CallStubs.Toml
