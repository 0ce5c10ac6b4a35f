import CallStubs.Text.Hidden

namespace CallStubs.Log

inductive Level where
  | info
  | warn
  | error
deriving DecidableEq

def Level.name : Level → Text
  | info => "INFO".toList
  | warn => "WARN".toList
  | error => "ERROR".toList

structure Field where
  name : Text
  value : Text
  quoted : Bool
deriving DecidableEq

structure Entry where
  level : Level
  message : Text
  fields : List Field
deriving DecidableEq

def quotedField (name : String) (value : Text) : Field := ⟨name.toList, value, true⟩

def plainField (name : String) (value : Text) : Field := ⟨name.toList, value, false⟩

def numberField (name : String) (n : Nat) : Field := plainField name (Text.ofNat n)

def codeEscape (c : Char) : Text :=
  "\\u\x7b".toList ++ Nat.toDigits 16 c.toNat ++ "\x7d".toList

def escape (c : Char) : Text :=
  if c = '"' then ['\\', '"']
  else if c = '\\' then ['\\', '\\']
  else if c = '\t' then ['\\', 't']
  else if c = '\r' then ['\\', 'r']
  else if c = '\n' then ['\\', 'n']
  else if c.toNat = 0 then ['\\', '0']
  else if Text.isHidden c then codeEscape c
  else [c]

def quote (t : Text) : Text :=
  '"' :: t.flatMap escape ++ ['"']

def Field.text (f : Field) : Text :=
  f.name ++ '=' :: if f.quoted then quote f.value else f.value

/-- A terminal takes orders from the bell, backspace, form feed, escape and delete characters and from the
controls behind ASCII, so messages spell them out. -/
def defuse (c : Char) : Text :=
  if ['\x07', '\x08', '\x0c', '\x1b', '\x7f'].contains c then
    "\\x".toList ++ (Nat.toDigits 16 c.toNat).leftpad 2 '0'
  else if 0x80 ≤ c.toNat ∧ c.toNat ≤ 0x9F then codeEscape c
  else [c]

def Entry.text (e : Entry) : Text :=
  Text.concatSep [' '] (e.level.name :: e.message.flatMap defuse :: e.fields.map Field.text)

def Entry.stamped (e : Entry) : Text :=
  Text.trimEnd (e.text.takeWhile (· != '\n'))

def Entry.unstamped (e : Entry) : List Text :=
  (e.text.splitOn '\n').drop 1

end CallStubs.Log
