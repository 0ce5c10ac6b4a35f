import CallStubs.Text

namespace CallStubs.Signature

def opening? (t : Text) : Option Text := do
  let (_, r) ← Text.word? t
  let (_, r) ← Text.blanks? r
  let (_, r) ← Text.word? r
  match Text.skipBlanks r with
  | '(' :: r => some r
  | _ => none

def endsHead (t : Text) : Bool :=
  match Text.skipBlanks t with
  | '{' :: r => Text.isBlankText r
  | r => r.isEmpty

def closesHead (t : Text) : Bool :=
  match t.dropWhile (· != ')') with
  | ')' :: r => endsHead r
  | _ => false

def opensMain (t : Text) : Bool :=
  match "main".toList.isPrefixOf? t with
  | some r =>
    match Text.skipBlanks r with
    | '(' :: r => closesHead r
    | _ => false
  | none => false

/-- Whether the head of the entry point starts where no word goes on; `inWord` tells whether the character
before the text belongs to a word. -/
def hasMain (inWord : Bool) : Text → Bool
  | [] => false
  | c :: t => (!inWord && opensMain (c :: t)) || hasMain (Text.isWord c) t

def isHead (t : Text) : Bool :=
  (opening? t).any closesHead || hasMain false t

def opensHead (t : Text) : Bool :=
  (opening? t).any fun r => !r.contains ')'

/-- Whether a brace opens the body of a head that goes on in these lines: at the latest in the line after
the one that closes the parameters. -/
def bodyFollows : List Text → Bool
  | [] => false
  | l :: ls =>
    l.contains '{' ||
      if l.contains ')' then ls.head?.any (·.contains '{') else bodyFollows ls

def opensBody : Text → Bool
  | [] => false
  | c :: t => (c == ')' && (Text.skipBlanks t).head? == some '{') || (c != '\n' && opensBody t)

def opensBodyOf (name t : Text) : Bool :=
  match name.isPrefixOf? t with
  | some r =>
    match Text.skipBlanks r with
    | '(' :: r => opensBody r
    | _ => false
  | none => false

/-- Whether some of the blanks that the text starts with, at least one, can stand before the name. -/
def namesAfterBlanks (name : Text) : Text → Bool
  | [] => false
  | c :: t => Text.isBlank c && (opensBodyOf name t || namesAfterBlanks name t)

def defines (name t : Text) : Bool :=
  match Text.word? (Text.skipBlanks t) with
  | some (_, r) => namesAfterBlanks name r
  | none => false

end CallStubs.Signature
