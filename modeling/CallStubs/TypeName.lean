import CallStubs.Text

namespace CallStubs.TypeName

def vectorCodes : List (Text × Text) :=
  [("i", "int"), ("d", "double"), ("f", "float"), ("c", "char"), ("s", "string"), ("b", "bool"),
    ("ll", "long long")].map fun p => (p.1.toList, p.2.toList)

def elementCodes : List (Text × Text) :=
  [("i", "int"), ("d", "double"), ("l", "long long"), ("c", "char"), ("s", "string"), ("b", "bool"),
    ("ll", "long long")].map fun p => (p.1.toList, p.2.toList)

def containers : List Text :=
  ["vector", "set", "unordered_set", "map", "unordered_map", "deque", "list", "pair", "priority_queue",
    "queue", "stack", "array"].map String.toList

def basics : List Text :=
  ["string", "int", "double", "char", "bool", "float", "auto", "long", "short", "size_t"].map String.toList

def applied (family : String) (args : List Text) : Text :=
  family.toList ++ '<' :: Text.concatSep ", ".toList args ++ ['>']

def elementAbbreviations (code type : Text) : List (Text × Text) :=
  [("vp".toList ++ code, applied "vector" [applied "pair" [type, type]]),
    ("s".toList ++ code, applied "set" [type]),
    ("us".toList ++ code, applied "unordered_set" [type]),
    ("sp".toList ++ code, applied "set" [applied "pair" [type, type]])]

def pairAbbreviations (key value : Text × Text) : List (Text × Text) :=
  [("m".toList ++ key.1 ++ value.1, applied "map" [key.2, value.2]),
    ("um".toList ++ key.1 ++ value.1, applied "unordered_map" [key.2, value.2]),
    ("p".toList ++ key.1 ++ value.1, applied "pair" [key.2, value.2])]

def abbreviations : List (Text × Text) :=
  ("ll".toList, "long long".toList) ::
    (vectorCodes.map (fun c => ("v".toList ++ c.1, applied "vector" [c.2])) ++
      elementCodes.flatMap (fun c => elementAbbreviations c.1 c.2) ++
      elementCodes.flatMap fun k => elementCodes.flatMap fun v => pairAbbreviations k v)

def expansion? (t : Text) : Option Text :=
  abbreviations.lookup t

def expand (t : Text) : Text :=
  (expansion? t).getD t

def isAbbreviation (t : Text) : Bool :=
  (expansion? t).isSome

def isScalar (t : Text) : Bool :=
  basics.contains t || isAbbreviation t || Text.blankWords t == ["long".toList, "long".toList]

def mentionsContainer (t : Text) : Bool :=
  containers.any fun k => Text.includes k t

end CallStubs.TypeName
