namespace CallStubs

/-- Source text, one code point a character. -/
abbrev Text := List Char

namespace Text

def isWord (c : Char) : Bool :=
  c.isAlphanum || c == '_'

/-- The code points with the Unicode property White_Space. -/
def isBlank (c : Char) : Bool :=
  let n := c.toNat
  (0x09 ≤ n && n ≤ 0x0D) || n == 0x20 || n == 0x85 || n == 0xA0 || n == 0x1680 ||
    (0x2000 ≤ n && n ≤ 0x200A) || n == 0x2028 || n == 0x2029 || n == 0x202F || n == 0x205F || n == 0x3000

def isWordText (t : Text) : Bool :=
  !t.isEmpty && t.all isWord

def isBlankText (t : Text) : Bool :=
  t.all isBlank

def skipBlanks (t : Text) : Text :=
  t.dropWhile isBlank

def trimEnd (t : Text) : Text :=
  (t.reverse.dropWhile isBlank).reverse

def trim (t : Text) : Text :=
  trimEnd (skipBlanks t)

def word? (t : Text) : Option (Text × Text) :=
  match t.takeWhile isWord with
  | [] => none
  | c :: w => some (c :: w, t.dropWhile isWord)

def blanks? (t : Text) : Option (Text × Text) :=
  match t.takeWhile isBlank with
  | [] => none
  | c :: b => some (c :: b, t.dropWhile isBlank)

def blankWords (t : Text) : List Text :=
  (t.splitOnP isBlank).filter (!·.isEmpty)

def includes (s : Text) : Text → Bool
  | [] => s.isEmpty
  | c :: t => s.isPrefixOf (c :: t) || includes s t

def byteLength : Text → Nat
  | [] => 0
  | c :: t => c.utf8Size + byteLength t

def takeBytes (n : Nat) : Text → Text
  | [] => []
  | c :: t => if c.utf8Size ≤ n then c :: takeBytes (n - c.utf8Size) t else []

def dropBytes (n : Nat) : Text → Text
  | [] => []
  | c :: t => if c.utf8Size ≤ n then dropBytes (n - c.utf8Size) t else c :: t

def spliceBytes (start stop : Nat) (s t : Text) : Text :=
  takeBytes start t ++ s ++ dropBytes stop t

/-- Texts in order of their code points, which is also the order of their UTF-8 bytes. -/
def sort (ts : List Text) : List Text :=
  ts.mergeSort fun a b => !decide (b < a)

def ofNat (n : Nat) : Text :=
  Nat.toDigits 10 n

def concatSep (sep : Text) (ts : List Text) : Text :=
  sep.intercalate ts

theorem takeBytes_append_dropBytes (n : Nat) (t : Text) : takeBytes n t ++ dropBytes n t = t := by
  induction t generalizing n with
  | nil => rfl
  | cons c t ih => by_cases h : c.utf8Size ≤ n <;> simp [takeBytes, dropBytes, h, ih]

end Text

end CallStubs
