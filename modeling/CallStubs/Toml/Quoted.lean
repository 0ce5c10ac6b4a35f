import CallStubs.Toml.Lexical

/-! Strings in quotes: how they are read, and which quotes they are written with. -/

namespace CallStubs.Toml

def codePoint? (n : Nat) (t : Text) : Option (Char × Text) :=
  let ds := t.take n
  if ds.length = n ∧ ds.all isHexDigit then
    let v := numberOf 16 ds
    if v.isValidChar then some (Char.ofNat v, t.drop n) else none
  else none

def escape? : Text → Option (Char × Text)
  | 'b' :: r => some ('\x08', r)
  | 't' :: r => some ('\t', r)
  | 'n' :: r => some ('\n', r)
  | 'f' :: r => some ('\x0c', r)
  | 'r' :: r => some ('\r', r)
  | '"' :: r => some ('"', r)
  | '\\' :: r => some ('\\', r)
  | 'u' :: r => codePoint? 4 r
  | 'U' :: r => codePoint? 8 r
  | _ => none

def shortString? (q : Char) : Nat → Text → Option (Text × Text)
  | 0, _ => none
  | _, [] => none
  | n + 1, c :: r =>
    if c = q then some ([], r)
    else if c = '\\' ∧ q = '"' then do
      let (d, r) ← escape? r
      let (s, r) ← shortString? q n r
      some (d :: s, r)
    else if isPlain c then do
      let (s, r) ← shortString? q n r
      some (c :: s, r)
    else none

/-- A string over several lines, read from behind its three opening quotes. Up to two quotes may stand
right before the three that close it; line ends become line feeds; a backslash at the end of a line takes
away all space up to the next character. -/
def longString? (q : Char) : Nat → Text → Option (Text × Text)
  | 0, _ => none
  | _, [] => none
  | n + 1, c :: r =>
    if c = q then
      let run := ((c :: r).takeWhile (· == q)).length
      if 3 ≤ run then some (List.replicate (min (run - 3) 2) q, (c :: r).drop (min run 5))
      else do
        let (s, r) ← longString? q n ((c :: r).drop run)
        some (List.replicate run q ++ s, r)
    else if c = '\\' ∧ q = '"' then
      match newline? (skipGap r) with
      | some r => longString? q n (skipSpace r)
      | none => do
        let (d, r) ← escape? r
        let (s, r) ← longString? q n r
        some (d :: s, r)
    else
      match newline? (c :: r) with
      | some r => do
        let (s, r) ← longString? q n r
        some ('\n' :: s, r)
      | none =>
        if isPlain c then do
          let (s, r) ← longString? q n r
          some (c :: s, r)
        else none

def line? (t : Text) : Option (Text × Text) :=
  match t with
  | c :: r => if c = '"' ∨ c = '\'' then shortString? c (r.length + 1) r else none
  | [] => none

def string? (t : Text) : Option (Text × Text) :=
  match t with
  | a :: b :: c :: r =>
    if (a = '"' ∨ a = '\'') ∧ a = b ∧ b = c then
      let r := (newline? r).getD r
      longString? a (r.length + 1) r
    else line? t
  | _ => line? t

structure Traits where
  control : Bool
  backslash : Bool
  newline : Bool
  doubles : Nat
  singles : Nat

def longestRun (q : Char) (n m : Nat) : Text → Nat
  | [] => m
  | c :: t => if c = q then longestRun q (n + 1) (max m (n + 1)) t else longestRun q 0 m t

def Traits.of (s : Text) : Traits where
  control := s.any fun c => !isPlain c && c != '\n'
  backslash := s.contains '\\'
  newline := s.contains '\n'
  doubles := longestRun '"' 0 0 s
  singles := longestRun '\'' 0 0 s

def hexDigit (n : Nat) : Char :=
  if n < 10 then Char.ofNat (n + 48) else Char.ofNat (n + 55)

/-- Escapes for a string in double quotes; at most `limit` quotes in a row stay as they are. -/
def escapeFrom (long : Bool) (limit run : Nat) : Text → Text
  | [] => []
  | c :: t =>
    if c = '"' then
      if limit ≤ run then '\\' :: '"' :: escapeFrom long limit 0 t
      else '"' :: escapeFrom long limit (run + 1) t
    else
      let tail := escapeFrom long limit 0 t
      match c with
      | '\x08' => '\\' :: 'b' :: tail
      | '\t' => '\\' :: 't' :: tail
      | '\n' => if long then '\n' :: tail else '\\' :: 'n' :: tail
      | '\x0c' => '\\' :: 'f' :: tail
      | '\r' => '\\' :: 'r' :: tail
      | '\\' => '\\' :: '\\' :: tail
      | _ =>
        if isPlain c then c :: tail
        else '\\' :: 'u' :: '0' :: '0' :: hexDigit (c.toNat / 16) :: hexDigit (c.toNat % 16) :: tail

def writeShort (s : Text) : Text :=
  '"' :: escapeFrom false 0 0 s ++ ['"']

def writeLiteral (s : Text) : Text :=
  '\'' :: s ++ ['\'']

def writeLong (q : Char) (s body : Text) : Text :=
  [q, q, q] ++ (if s.contains '\n' then ['\n'] else []) ++ body ++ [q, q, q]

def writeString (s : Text) : Text :=
  let k := Traits.of s
  if !k.control && !k.backslash && k.doubles == 0 && !k.newline then writeShort s
  else if !k.control && k.singles == 0 && !k.newline then writeLiteral s
  else if !k.control && !k.backslash && k.doubles ≤ 2 then writeLong '"' s (escapeFrom true 2 0 s)
  else if !k.control && k.singles ≤ 2 then writeLong '\'' s s
  else if k.newline then writeLong '"' s (escapeFrom true 2 0 s)
  else writeShort s

def isBareKey (c : Char) : Bool :=
  c.isAlphanum || c == '_' || c == '-'

def writeKey (s : Text) : Text :=
  let k := Traits.of s
  if !s.isEmpty && s.all isBareKey then s
  else if !k.control && !k.newline && !k.backslash && k.doubles == 0 then writeShort s
  else if !k.control && !k.newline && k.singles == 0 then writeLiteral s
  else writeShort s

end CallStubs.Toml
