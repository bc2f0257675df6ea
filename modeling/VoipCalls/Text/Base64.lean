import VoipCalls.Number.Power

/-!
# Base 64

`Base64.decode?` reads bytes that are written as characters of six bits each.  Characters outside
the alphabet are skipped.  Three digits or two at the end have to be filled up to four by equals
signs, and what stands behind them is not read.
-/

namespace VoipCalls.Text.Base64

/-- The value of a character of the alphabet. -/
def digit? (c : Char) : Option Nat :=
  if 'A' ≤ c ∧ c ≤ 'Z' then some (c.toNat - 'A'.toNat)
  else if 'a' ≤ c ∧ c ≤ 'z' then some (c.toNat - 'a'.toNat + 26)
  else if '0' ≤ c ∧ c ≤ '9' then some (c.toNat - '0'.toNat + 52)
  else if c = '+' then some 62
  else if c = '/' then some 63
  else none

/-- The bytes of up to four digits: the whole bytes of their bits. -/
def bytesOf (ds : List Nat) : List UInt8 :=
  let bits := ds.length * 6
  let n := ds.foldl (fun n d => n * 64 + d) 0 / Number.twoTo (bits % 8)
  (List.range (bits / 8)).reverse.map fun i => UInt8.ofNat (n / Number.twoTo (8 * i))

/-- Decode behind the digits `ds` of a group of four that is not full yet; `signs` is the number of
equals signs since the last digit. -/
def decodeFrom (ds : List Nat) (signs : Nat) : List Char → Option (List UInt8)
  | [] => if ds.isEmpty then some [] else none
  | c :: cs =>
    if c = '=' then
      if 2 ≤ ds.length ∧ 4 ≤ ds.length + signs + 1 then some (bytesOf ds)
      else decodeFrom ds (if 2 ≤ ds.length then signs + 1 else signs) cs
    else
      match digit? c with
      | none => decodeFrom ds signs cs
      | some d =>
        if ds.length = 3 then (decodeFrom [] 0 cs).map (bytesOf (ds ++ [d]) ++ ·)
        else decodeFrom (ds ++ [d]) 0 cs

/-- The bytes that a text writes. -/
def decode? (cs : List Char) : Option (List UInt8) :=
  decodeFrom [] 0 cs

end VoipCalls.Text.Base64
