import VoipCalls.Number.Power
import VoipCalls.Text.Quoted

/-!
# UTF-8

`encode` writes characters as bytes, and `encodePoints` writes a text that may be broken: half of a
surrogate pair has no bytes, and the first run of halves is refused.  Reading goes by `nextReading`,
which looks at the start of the bytes and finds either one character or one ill-formed piece: the
longest start of a well-formed sequence, or a single byte that starts none.  `decodeLossy` drops the
ill-formed pieces, and `decode` refuses the first one and says where it stands.
-/

namespace VoipCalls.Text.Utf8

/-- The bytes of a text. -/
def encode (cs : List Char) : List UInt8 :=
  cs.flatMap String.utf8EncodeChar

/-- Why a text has no bytes: a run of halves of surrogate pairs, by their numbers, and its place. -/
structure EncodeFault where
  position : Nat
  halves : List Nat
deriving DecidableEq

/-- The wording of the fault. -/
def EncodeFault.message (f : EncodeFault) : String :=
  "'utf-8' codec can't encode " ++
    (match f.halves with
      | [n] => s!"character '{String.ofList (numberEscape n)}' in position {f.position}"
      | ns => s!"characters in position {f.position}-{f.position + ns.length - 1}") ++
    ": surrogates not allowed"

/-- The halves of surrogate pairs at the start of a text. -/
def leadingHalves : List Point → List Nat
  | .surrogate n :: ps => n :: leadingHalves ps
  | _ => []

/-- The bytes of a text that starts at some position. -/
def encodeFrom (position : Nat) : List Point → Except EncodeFault (List UInt8)
  | [] => .ok []
  | .char c :: ps => (encodeFrom (position + 1) ps).map (String.utf8EncodeChar c ++ ·)
  | .surrogate n :: ps => .error ⟨position, n :: leadingHalves ps⟩

/-- The bytes of a text that may be broken, or the first run of halves in it. -/
def encodePoints (ps : List Point) : Except EncodeFault (List UInt8) :=
  encodeFrom 0 ps

/-- Why bytes are ill-formed. -/
inductive Flaw where
  | invalidStart
  | invalidContinuation
  | endOfData
deriving DecidableEq

/-- What stands at the start of some bytes, and over how many of them. -/
inductive Reading where
  | char (c : Char) (size : Nat)
  | flawed (flaw : Flaw) (size : Nat)
deriving DecidableEq

/-- The second bytes allowed behind a first byte, and how many bytes follow the first; nothing for a
byte that starts no longer sequence. -/
def shape? (b : Nat) : Option (Nat × Nat × Nat) :=
  if 0xC2 ≤ b ∧ b ≤ 0xDF then some (0x80, 0xBF, 1)
  else if b = 0xE0 then some (0xA0, 0xBF, 2)
  else if b = 0xED then some (0x80, 0x9F, 2)
  else if 0xE1 ≤ b ∧ b ≤ 0xEF then some (0x80, 0xBF, 2)
  else if b = 0xF0 then some (0x90, 0xBF, 3)
  else if 0xF1 ≤ b ∧ b ≤ 0xF3 then some (0x80, 0xBF, 3)
  else if b = 0xF4 then some (0x80, 0x8F, 3)
  else none

/-- Read `count` continuation bytes behind a sequence of `size` bytes with the value `n` so far;
the next byte lies between `low` and `high`, those after it anywhere. -/
def continuation (n size low high : Nat) : Nat → List UInt8 → Reading
  | 0, _ => .char (Char.ofNat n) size
  | _ + 1, [] => .flawed .endOfData size
  | count + 1, b :: bs =>
    if low ≤ b.toNat ∧ b.toNat ≤ high then
      continuation (n * 64 + b.toNat % 64) (size + 1) 0x80 0xBF count bs
    else .flawed .invalidContinuation size

/-- What stands at the start of the bytes `b, bs…`. -/
def nextReading (b : UInt8) (bs : List UInt8) : Reading :=
  if b.toNat < 0x80 then .char (Char.ofNat b.toNat) 1
  else
    match shape? b.toNat with
    | none => .flawed .invalidStart 1
    | some (low, high, count) =>
      continuation (b.toNat % Number.twoTo (6 - count)) 1 low high count bs

/-- Decode without the ill-formed pieces, after skipping some bytes. -/
def decodeAround : Nat → List UInt8 → List Char
  | _, [] => []
  | skip + 1, _ :: bs => decodeAround skip bs
  | 0, b :: bs =>
    match nextReading b bs with
    | .char c size => c :: decodeAround (size - 1) bs
    | .flawed _ size => decodeAround (size - 1) bs

/-- The text of some bytes, without their ill-formed pieces. -/
def decodeLossy (bs : List UInt8) : List Char :=
  decodeAround 0 bs

/-- Where and why bytes are no text: the ill-formed piece and its place. -/
structure Error where
  flaw : Flaw
  position : Nat
  piece : List UInt8
deriving DecidableEq

/-- Decode from a position on, after skipping some bytes. -/
def decodeFrom (position : Nat) : Nat → List UInt8 → Except Error (List Char)
  | _, [] => .ok []
  | skip + 1, _ :: bs => decodeFrom (position + 1) skip bs
  | 0, b :: bs =>
    match nextReading b bs with
    | .char c size => (decodeFrom (position + 1) (size - 1) bs).map (c :: ·)
    | .flawed flaw size => .error ⟨flaw, position, (b :: bs).take size⟩

/-- The text of some bytes, or the first ill-formed piece. -/
def decode (bs : List UInt8) : Except Error (List Char) :=
  decodeFrom 0 0 bs

/-- The wording of a flaw. -/
def Flaw.message : Flaw → String
  | .invalidStart => "invalid start byte"
  | .invalidContinuation => "invalid continuation byte"
  | .endOfData => "unexpected end of data"

/-- The wording of an error. -/
def Error.message (e : Error) : String :=
  "'utf-8' codec can't decode " ++
    (match e.piece with
      | [b] => s!"byte 0x{hexBytes [b]} in position {e.position}"
      | bs => s!"bytes in position {e.position}-{e.position + bs.length - 1}") ++
    ": " ++ e.flaw.message

end VoipCalls.Text.Utf8
