/-!
# Points of a text

A text that was put together from numbers may hold halves of surrogate pairs, which are no
characters.  A `Point` is a character or such a half, and a text that may be broken in this way is a
list of points.
-/

namespace VoipCalls.Text

/-- A character, or half of a surrogate pair that stands alone. -/
inductive Point where
  | char (c : Char)
  | surrogate (n : Nat)
deriving DecidableEq, Repr

namespace Point

/-- Whether a number belongs to half of a surrogate pair. -/
def isSurrogate (n : Nat) : Bool :=
  0xD800 ≤ n && n ≤ 0xDFFF

/-- The point of a number. -/
def ofNat (n : Nat) : Point :=
  if isSurrogate n then surrogate n else char (Char.ofNat n)

/-- The number of a point. -/
def toNat : Point → Nat
  | char c => c.toNat
  | surrogate n => n

/-- The character that a point shows as: the replacement character for half of a pair. -/
def toChar : Point → Char
  | char c => c
  | surrogate _ => Char.ofNat 0xFFFD

/-- The character that a point is. -/
def char? : Point → Option Char
  | char c => some c
  | surrogate _ => none

end Point

/-- The points of a text. -/
def points (cs : List Char) : List Point :=
  cs.map .char

/-- The characters of a text that is not broken. -/
def characters? (ps : List Point) : Option (List Char) :=
  ps.mapM Point.char?

/-- The characters that points show as. -/
def shown (ps : List Point) : List Char :=
  ps.map Point.toChar

@[simp] theorem shown_points (cs : List Char) : shown (points cs) = cs := by
  induction cs with
  | nil => rfl
  | cons c cs ih =>
    simp only [shown, points, List.map_cons, Point.toChar] at ih ⊢
    rw [ih]

end VoipCalls.Text
