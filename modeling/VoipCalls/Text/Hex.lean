/-!
# Hexadecimal text

Numbers without leading zeros, and bytes with two digits each, in lower case.
-/

namespace VoipCalls.Text

/-- The lower-case character of a hexadecimal digit. -/
def hexChar (d : Nat) : Char :=
  if d < 10 then Char.ofNat ('0'.toNat + d) else Char.ofNat ('a'.toNat + (d - 10))

/-- The hexadecimal digits of a number. -/
def hexNat (n : Nat) : String :=
  String.ofList (Nat.toDigits 16 n)

/-- The hexadecimal text of an integer: a sign in front of the absolute value. -/
def hexInt (n : Int) : String :=
  if n < 0 then "-" ++ hexNat n.natAbs else hexNat n.natAbs

/-- The two digits of a byte. -/
def hexByte (b : UInt8) : List Char :=
  [hexChar (b.toNat / 16), hexChar (b.toNat % 16)]

/-- The hexadecimal text of a sequence of bytes. -/
def hexBytes (bs : List UInt8) : String :=
  String.ofList (bs.flatMap hexByte)

end VoipCalls.Text
