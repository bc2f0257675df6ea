import VoipCalls.Address.Ip
import VoipCalls.Number.Shortest
import VoipCalls.Text.Blank
import VoipCalls.Text.Utf8

/-!
# Addresses

A `RawAddress` is an address as a packet or a dissector hands it over, in any of the forms it may
have; an `Address` is its normal form: none, an IP address, or the name of a host or endpoint.
`Address.ofRaw` normalises, `Address.text` is what a cell shows, and `Address.sortKey` is what
addresses are ordered by: unset addresses first, then IPv4, IPv6, and names, each kind by length
and bytes.
-/

namespace VoipCalls

/-- An address as it is handed over. -/
inductive RawAddress where
  | unset
  | ip (ip : Ip)
  | text (s : String)
  | octets (bs : List UInt8)
  | whole (n : Int)
  | truth (b : Bool)
  | real (x : Double)
deriving DecidableEq

namespace RawAddress

/-- The spelling of a byte inside quoted bytes, where `quote` is the quotation mark around them. -/
def quotedByte (quote : Char) (b : UInt8) : List Char :=
  let c := Char.ofNat b.toNat
  if c = '\t' then ['\\', 't']
  else if c = '\n' then ['\\', 'n']
  else if c = '\r' then ['\\', 'r']
  else if c = '\\' ∨ c = quote then ['\\', c]
  else if 32 ≤ b.toNat ∧ b.toNat < 127 then [c]
  else '\\' :: 'x' :: Text.hexByte b

/-- Bytes between quotation marks, double ones where only single ones stand among the bytes. -/
def quoted (bs : List UInt8) : String :=
  let single := bs.any (·.toNat == '\''.toNat)
  let double := bs.any (·.toNat == '"'.toNat)
  let quote := if single && !double then '"' else '\''
  String.ofList ('b' :: quote :: bs.flatMap (quotedByte quote) ++ [quote])

/-- What the address says when it is shown without being normalised. -/
def display : RawAddress → String
  | unset => ""
  | ip i => i.text
  | text s => s
  | octets bs => quoted bs
  | whole n => toString n
  | truth b => if b then "True" else "False"
  | real x => x.shortest

end RawAddress

/-- A normalised address. -/
inductive Address where
  | unset
  | ip (ip : Ip)
  | name (s : String)
deriving DecidableEq

/-- What addresses are ordered by. -/
structure AddressKey where
  family : Nat
  length : Nat
  octets : List UInt8
deriving DecidableEq

namespace Address

/-- The address that a text says: none when it is blank, an IP address when it is a literal. -/
def ofText (s : String) : Address :=
  let t := Text.strip s
  if t.isEmpty then unset
  else
    match Ip.parse? t with
    | some i => ip i
    | none => name t

/-- The normal form of an address.  Four or sixteen bytes are an IP address, other bytes are named
by their hexadecimal text. -/
def ofRaw : RawAddress → Address
  | .unset => unset
  | .ip i => ip i
  | .octets bs =>
    match Ip.ofOctets? bs with
    | some i => ip i
    | none => name (Text.hexBytes bs)
  | raw => ofText raw.display

/-- What a cell shows of the address. -/
def text : Address → String
  | unset => ""
  | ip i => i.text
  | name s => s

/-- What the address is ordered by. -/
def sortKey : Address → AddressKey
  | unset => ⟨0, 0, []⟩
  | ip (.v4 i) => ⟨1, 4, i.octets⟩
  | ip (.v6 i) => ⟨2, 16, i.octets⟩
  | name s =>
    let bs := Text.Utf8.encode s.toList
    ⟨3, bs.length, bs⟩

end Address

/-- Lexicographic order of byte sequences. -/
def compareOctets : List UInt8 → List UInt8 → Ordering
  | [], [] => .eq
  | [], _ :: _ => .lt
  | _ :: _, [] => .gt
  | a :: as, b :: bs => (compare a.toNat b.toNat).then (compareOctets as bs)

/-- Keys are compared by family, then by length, then by bytes. -/
def AddressKey.order (k l : AddressKey) : Ordering :=
  ((compare k.family l.family).then (compare k.length l.length)).then
    (compareOctets k.octets l.octets)

end VoipCalls
