import VoipCalls.Text.Split

/-!
# Paths

The normal form of a path: no empty parts, and no parts that stay where they are.  Two slashes in
front of a path are not the same as one, but more than two are.
-/

namespace VoipCalls.Text

/-- The slashes that the normal form of a path begins with. -/
def rootSlashes (path : String) : List Char :=
  match (path.toList.takeWhile (· == '/')).length with
  | 0 => []
  | 2 => ['/', '/']
  | _ => ['/']

/-- The parts of a path that lead somewhere. -/
def pathParts (path : String) : List (List Char) :=
  (pieces '/' path.toList).filter fun p => !p.isEmpty && p != ['.']

/-- The path with a beginning and with parts behind it. -/
def joinPath (root : List Char) (parts : List (List Char)) : String :=
  if root.isEmpty && parts.isEmpty then "." else String.ofList (root ++ joinWith ['/'] parts)

/-- The normal form of a path. -/
def normalPath (path : String) : String :=
  joinPath (rootSlashes path) (pathParts path)

/-- Whether a path ends in a part that only folders can have. -/
def namesFolder (path : String) : Bool :=
  match (pieces '/' path.toList).getLast? with
  | some last => last.isEmpty || last == ['.'] || last == ['.', '.']
  | none => true

end VoipCalls.Text
