import VoipCalls.Text.Split
import VoipCalls.Text.Digit
import VoipCalls.Text.Hex

/-!
# IP addresses

The two families of IP addresses, with their literals.  `Ipv4.parse?` and `Ipv6.parse?` accept
exactly the literals; `Ipv4.text` and `Ipv6.text` write the canonical one.  The zone behind a
percent sign belongs to an IPv6 address, but not to its bytes.
-/

namespace VoipCalls

/-- An IPv4 address, as its four bytes. -/
structure Ipv4 where
  a : UInt8
  b : UInt8
  c : UInt8
  d : UInt8
deriving DecidableEq, Repr

/-- An IPv6 address: eight groups of sixteen bits and an optional zone. -/
structure Ipv6 where
  groups : List UInt16
  zone : Option String
  size_eq : groups.length = 8
deriving DecidableEq

namespace Ipv4

/-- The bytes of the address, highest first. -/
def octets (ip : Ipv4) : List UInt8 :=
  [ip.a, ip.b, ip.c, ip.d]

/-- Read one part of a literal: one to three ASCII digits without a needless zero in front. -/
def parsePart? (cs : List Char) : Option UInt8 := do
  let ds ← cs.mapM Text.asciiDigit?
  let n := Text.ofDigits 10 ds
  if ds.isEmpty || 3 < ds.length || (ds.head? == some 0 && 1 < ds.length) || 255 < n then none
  else some (UInt8.ofNat n)

/-- Read a literal: four parts with points between them. -/
def parse? (cs : List Char) : Option Ipv4 := do
  match (Text.pieces '.' cs).map parsePart? with
  | [some a, some b, some c, some d] => some ⟨a, b, c, d⟩
  | _ => none

/-- The address of four bytes. -/
def ofOctets? : List UInt8 → Option Ipv4
  | [a, b, c, d] => some ⟨a, b, c, d⟩
  | _ => none

/-- The literal of the address. -/
def text (ip : Ipv4) : String :=
  s!"{ip.a.toNat}.{ip.b.toNat}.{ip.c.toNat}.{ip.d.toNat}"

end Ipv4

namespace Ipv6

/-- The bytes of a group, highest first. -/
def groupOctets (g : UInt16) : List UInt8 :=
  [UInt8.ofNat (g.toNat / 256), UInt8.ofNat (g.toNat % 256)]

/-- The sixteen bytes of the address, highest first. -/
def octets (ip : Ipv6) : List UInt8 :=
  ip.groups.flatMap groupOctets

/-- The group of two bytes. -/
def group (high low : UInt8) : UInt16 :=
  UInt16.ofNat (high.toNat * 256 + low.toNat)

/-- The groups of a sequence of bytes. -/
def groupsOf : List UInt8 → List UInt16
  | high :: low :: bs => group high low :: groupsOf bs
  | _ => []

/-- The address of some groups and a zone, if there are eight groups. -/
def ofGroups? (groups : List UInt16) (zone : Option String) : Option Ipv6 :=
  if h : groups.length = 8 then some ⟨groups, zone, h⟩ else none

/-- The address of sixteen bytes. -/
def ofOctets? (bs : List UInt8) : Option Ipv6 :=
  if bs.length = 16 then ofGroups? (groupsOf bs) none else none

/-- Read one group: one to four hexadecimal digits. -/
def parseGroup? (cs : List Char) : Option UInt16 := do
  let ds ← cs.mapM Text.hexDigit?
  if ds.isEmpty || 4 < ds.length then none else some (UInt16.ofNat (Text.ofDigits 16 ds))

/-- Read groups with colons between them; the last may be written as an IPv4 literal, for two
groups. -/
def parseGroups? : List (List Char) → Option (List UInt16)
  | [] => some []
  | [last] =>
    if last.contains '.' then
      (Ipv4.parse? last).map fun ip => [group ip.a ip.b, group ip.c ip.d]
    else (parseGroup? last).map ([·])
  | p :: q :: ps => do return (← parseGroup? p) :: (← parseGroups? (q :: ps))

/-- Read the groups of one side of a gap; an empty side has none. -/
def parseSide? (cs : List Char) (dotted : Bool) : Option (List UInt16) :=
  if cs.isEmpty then some []
  else if dotted then parseGroups? (Text.pieces ':' cs)
  else (Text.pieces ':' cs).mapM parseGroup?

/-- Read a literal without a zone: eight groups, or fewer around one gap of zeros. -/
def parseGroupsWithGap? (cs : List Char) : Option (List UInt16) :=
  match Text.cutAt [':', ':'] cs with
  | none => parseGroups? (Text.pieces ':' cs)
  | some (front, back) => do
    let fs ← parseSide? front false
    let bs ← parseSide? back true
    if fs.length + bs.length < 8 then
      some (fs ++ List.replicate (8 - (fs.length + bs.length)) 0 ++ bs)
    else none

/-- Read a literal, with or without a zone behind a percent sign. -/
def parse? (cs : List Char) : Option Ipv6 :=
  if cs.contains '/' then none
  else
    match Text.cutAt ['%'] cs with
    | none => do ofGroups? (← parseGroupsWithGap? cs) none
    | some (front, zone) =>
      if zone.isEmpty || zone.contains '%' then none
      else do ofGroups? (← parseGroupsWithGap? front) (some (String.ofList zone))

/-- The number of zeros a list of groups starts with. -/
def zeroRun (gs : List UInt16) : Nat :=
  (gs.takeWhile (· == 0)).length

/-- The place and length of the longest run of zero groups, the first of several; `place` is the
place of the first group. -/
def longestZeroRun (place : Nat) : List UInt16 → Nat × Nat
  | [] => (place, 0)
  | g :: gs =>
    let here := zeroRun (g :: gs)
    let later := longestZeroRun (place + 1) gs
    if later.2 ≤ here then (place, here) else later

/-- Groups with colons between them. -/
def joined (gs : List UInt16) : String :=
  ":".intercalate (gs.map fun g => Text.hexNat g.toNat)

/-- The literal of the groups, the longest run of two or more zeros left out. -/
def groupsText (gs : List UInt16) : String :=
  let (place, size) := longestZeroRun 0 gs
  if size < 2 then joined gs
  else joined (gs.take place) ++ "::" ++ joined (gs.drop (place + size))

/-- The canonical literal of the address. -/
def text (ip : Ipv6) : String :=
  groupsText ip.groups ++
    (match ip.zone with
      | none => ""
      | some zone => "%" ++ zone)

end Ipv6

/-- An IP address of either family. -/
inductive Ip where
  | v4 (ip : Ipv4)
  | v6 (ip : Ipv6)
deriving DecidableEq

namespace Ip

/-- Read a literal of either family. -/
def parse? (s : String) : Option Ip :=
  match Ipv4.parse? s.toList with
  | some ip => some (.v4 ip)
  | none => (Ipv6.parse? s.toList).map .v6

/-- The address of four or of sixteen bytes. -/
def ofOctets? (bs : List UInt8) : Option Ip :=
  match Ipv4.ofOctets? bs with
  | some ip => some (.v4 ip)
  | none => (Ipv6.ofOctets? bs).map .v6

/-- The canonical literal of the address. -/
def text : Ip → String
  | .v4 ip => ip.text
  | .v6 ip => ip.text

end Ip

end VoipCalls
