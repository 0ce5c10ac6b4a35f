import CallStubs.Path
import CallStubs.Utf8

namespace CallStubs

inductive ReadError where
  | notFound
  | notFolder
  | isFolder
  | nameTooLong
  | notText
  | other (reason : Text)
deriving DecidableEq

def ReadError.message : ReadError → Text
  | notFound => "No such file or directory (os error 2)".toList
  | notFolder => "Not a directory (os error 20)".toList
  | isFolder => "Is a directory (os error 21)".toList
  | nameTooLong => "File name too long (os error 36)".toList
  | notText => "stream did not contain valid UTF-8".toList
  | other reason => reason

/-- What stands at a path. A path that goes on behind a file is blocked; an overlong one names nothing. What is closed
is there, but the system does not let it be read. -/
inductive File where
  | missing
  | blocked
  | overlong
  | folder
  | closed (reason : Text)
  | garbled (bytes : List UInt8)
  | text (t : Text)
deriving DecidableEq

namespace File

def ofBytes (bs : List UInt8) : File :=
  match Utf8.decode? bs with
  | some t => text t
  | none => garbled bs

def exists? : File → Bool
  | missing => false
  | blocked => false
  | overlong => false
  | _ => true

def read : File → Except ReadError Text
  | missing => .error .notFound
  | blocked => .error .notFolder
  | overlong => .error .nameTooLong
  | folder => .error .isFolder
  | closed reason => .error (.other reason)
  | garbled _ => .error .notText
  | text t => .ok t

def view? : File → Option Text
  | garbled bs => some (Utf8.decodeLossy bs)
  | text t => some t
  | _ => none

end File

def unreadable (path : Text) (e : ReadError) : Text :=
  "could not read ".toList ++ path ++ ": ".toList ++ e.message

def unwritable (path reason : Text) : Text :=
  "could not write ".toList ++ path ++ ": ".toList ++ reason

inductive HostError where
  | read (e : ReadError)
  | write (reason : Text)
deriving DecidableEq

def HostError.message (path : Text) : HostError → Text
  | read e => unreadable path e
  | write reason => unwritable path reason

/-- A write that has failed, with what it left in the place of the file. -/
structure Fault where
  reason : Text
  left : File
deriving DecidableEq

end CallStubs
