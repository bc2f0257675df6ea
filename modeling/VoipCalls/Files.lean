import VoipCalls.Capture.Packet
import VoipCalls.Text.Path
import VoipCalls.Text.Quoted

/-!
# Files

What the program finds under a path.  `Files.find?` looks a path up in its normal form; a path whose
name is too long is at fault, and a folder is at fault where a file is wanted.  `Files.expandHome`
replaces a tilde in front of a path by a home folder.
-/

namespace VoipCalls

/-- What stands under a path: a folder, or a file with its bytes and, if it is a capture, its
packets. -/
inductive FileEntry where
  | folder
  | file (bytes : List UInt8) (packets : Option (List Packet))

/-- Why a path cannot be followed. -/
inductive PathFault where
  | folder (path : String)
  | tooLong (path : String)
  | noHome
deriving DecidableEq, Repr

/-- The wording of a fault. -/
def PathFault.message : PathFault → String
  | folder path => "[Errno 21] Is a directory: " ++ Text.quote path
  | tooLong path => "[Errno 36] File name too long: " ++ Text.quote path
  | noHome => "Could not determine home directory."

/-- The files under their paths, and the home folders under their names, which begin with a
tilde. -/
structure Files where
  entries : List (String × FileEntry)
  homes : List (String × String) := []

namespace Files

/-- The largest length of a part of a path, in bytes. -/
def maxPart : Nat := 255

/-- The length from which on paths are too long, in bytes. -/
def maxPath : Nat := 4096

/-- What stands under a beginning and parts.  From where the program works, one can always go up. -/
def entry? (fs : Files) (root : List Char) (parts : List (List Char)) : Option FileEntry :=
  if parts.all (· == ['.', '.']) then some .folder
  else fs.entries.lookup (Text.joinPath root parts)

/-- Whether parts, behind others that lead to a folder, run into a part that is too long. -/
def meetsLongPart (fs : Files) (root : List Char) (front : List (List Char)) :
    List (List Char) → Bool
  | [] => false
  | p :: ps =>
    maxPart < (String.ofList p).utf8ByteSize ||
      (match fs.entry? root (front ++ [p]) with
        | some .folder => fs.meetsLongPart root (front ++ [p]) ps
        | _ => false)

/-- Whether the name of a path is too long to be looked up. -/
def isTooLong (fs : Files) (path : String) : Bool :=
  maxPath ≤ (Text.normalPath path).utf8ByteSize ||
    fs.meetsLongPart (Text.rootSlashes path) [] (Text.pathParts path)

/-- What stands under a path. -/
def find? (fs : Files) (path : String) : Except PathFault (Option FileEntry) :=
  if fs.isTooLong path then .error (.tooLong (Text.normalPath path))
  else .ok (fs.entry? (Text.rootSlashes path) (Text.pathParts path))

/-- The bytes and the packets of the file under a path, if there is anything. -/
def file? (fs : Files) (path : String) :
    Except PathFault (Option (List UInt8 × Option (List Packet))) := do
  match ← fs.find? path with
  | none => return none
  | some .folder => throw (.folder (Text.normalPath path))
  | some (.file bytes packets) => return some (bytes, packets)

/-- Whether a path names a file that is there, word for word: no slash may follow its name. -/
def hasFile (fs : Files) (path : String) : Bool :=
  match fs.find? path with
  | .ok (some (.file _ _)) => !Text.namesFolder path
  | _ => false

/-- The path with a home folder in the place of a tilde in front. -/
def expandHome (fs : Files) (path : String) : Except PathFault String :=
  match Text.rootSlashes path, Text.pathParts path with
  | [], ('~' :: name) :: rest =>
    match fs.homes.lookup (String.ofList ('~' :: name)) with
    | some home =>
      .ok (Text.joinPath (Text.rootSlashes home) (Text.pathParts home ++ rest))
    | none => .error .noHome
  | _, _ => .ok path

end Files

end VoipCalls
