import CallStubs.Text

namespace CallStubs

inductive Json where
  | number (n : Nat)
  | text (t : Text)
  | list (items : List Json)
  | record (fields : List (Text × Json))

namespace Json

def hexDigit (n : Nat) : Char :=
  if n < 10 then Char.ofNat (n + 48) else Char.ofNat (n + 87)

def escape (c : Char) : Text :=
  match c with
  | '"' => ['\\', '"']
  | '\\' => ['\\', '\\']
  | '\x08' => ['\\', 'b']
  | '\t' => ['\\', 't']
  | '\n' => ['\\', 'n']
  | '\x0c' => ['\\', 'f']
  | '\r' => ['\\', 'r']
  | _ => if c.toNat < 32 then ['\\', 'u', '0', '0', hexDigit (c.toNat / 16), hexDigit (c.toNat % 16)] else [c]

def quote (t : Text) : Text :=
  '"' :: t.flatMap escape ++ ['"']

def newline (depth : Nat) : Text :=
  '\n' :: List.replicate (2 * depth) ' '

def block (l r : Char) (depth : Nat) (items : List Text) : Text :=
  if items.isEmpty then [l, r]
  else
    l :: newline (depth + 1) ++ Text.concatSep (',' :: newline (depth + 1)) items ++ newline depth ++ [r]

mutual

def pretty (depth : Nat) : Json → Text
  | number n => Text.ofNat n
  | text t => quote t
  | list items => block '[' ']' depth (prettyAll (depth + 1) items)
  | record fields => block '\x7b' '\x7d' depth (prettyFields (depth + 1) fields)

def prettyAll (depth : Nat) : List Json → List Text
  | [] => []
  | j :: js => pretty depth j :: prettyAll depth js

def prettyFields (depth : Nat) : List (Text × Json) → List Text
  | [] => []
  | (k, j) :: fs => (quote k ++ ": ".toList ++ pretty depth j) :: prettyFields depth fs

end

def texts (ts : List Text) : Json :=
  list (ts.map text)

end Json

end CallStubs
