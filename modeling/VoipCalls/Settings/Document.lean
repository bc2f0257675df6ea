import VoipCalls.Number.Double

/-!
# Documents

The tree of values that a settings file or a request body carries.  A mapping lists its entries in
the order of writing; where a key is repeated, the last entry counts.  A text in which half of a
surrogate pair stands alone is a value of its own kind, since it equals no text that is asked for.
-/

namespace VoipCalls

/-- A tree of values.  Values of any further kind, which no field accepts, are `foreign`. -/
inductive Document where
  | null
  | truth (b : Bool)
  | whole (n : Int)
  | real (x : Double)
  | text (s : String)
  | brokenText
  | octets (bs : List UInt8)
  | list (items : List Document)
  | mapping (entries : List (Document × Document))
  | foreign

namespace Document

/-- Whether a document is a given text. -/
def isText (s : String) : Document → Bool
  | text t => s == t
  | _ => false

/-- The value of a key in the entries of a mapping. -/
def lookup (entries : List (Document × Document)) (key : String) : Option Document :=
  (entries.reverse.find? fun e => e.1.isText key).map (·.2)

/-- A mapping with texts as keys. -/
def record (fields : List (String × Document)) : Document :=
  mapping (fields.map fun f => (text f.1, f.2))

/-- Whether a value counts as none given: null, false, zero, or nothing inside. -/
def isBlank : Document → Bool
  | null => true
  | truth b => !b
  | whole n => n == 0
  | real x => x.magnitude == 0
  | text s => s.isEmpty
  | octets bs => bs.isEmpty
  | list items => items.isEmpty
  | mapping entries => entries.isEmpty
  | brokenText | foreign => false

end Document

end VoipCalls
