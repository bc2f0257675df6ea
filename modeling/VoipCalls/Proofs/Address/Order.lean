import VoipCalls.Address.Basic
import VoipCalls.Proofs.Number.Digits
import VoipCalls.Proofs.Text.Utf8Order

/-!
# The order of addresses

`Address.order` says in which order addresses are sorted: by kind, IP addresses of one family by the
number that their bits are, and names by the number of their bytes in UTF-8 and then by their code
points.  This is the order of the keys (`order_sortKey`), although keys are compared byte by byte:
as many bytes of two numbers are ordered like the numbers, and the bytes of two texts like their
code points.
-/

namespace VoipCalls

/-- Sequences of bytes are ordered like those of the numbers that the bytes are. -/
lemma compareOctets_eq (as bs : List UInt8) :
    compareOctets as bs = compare (as.map UInt8.toNat) (bs.map UInt8.toNat) := by
  induction as generalizing bs with
  | nil => cases bs <;> rfl
  | cons a as ih =>
    cases bs with
    | nil => rfl
    | cons b bs =>
      rw [compareOctets, ih, List.map_cons, List.map_cons, List.compare_cons_cons]

/-- Two sequences of as many bytes are ordered like the numbers with these digits in base 256. -/
lemma compareOctets_eq_ofDigits {as bs : List UInt8} (hlength : as.length = bs.length) :
    compareOctets as bs =
      compare (Text.ofDigits 256 (as.map UInt8.toNat))
        (Text.ofDigits 256 (bs.map UInt8.toNat)) := by
  have hdigit : ∀ (cs : List UInt8), ∀ n ∈ cs.map UInt8.toNat, n < 256 := by
    intro cs n hn
    obtain ⟨c, -, rfl⟩ := List.mem_map.mp hn
    exact c.toNat_lt
  rw [compareOctets_eq, Text.compare_ofDigits (by simpa using hlength) (hdigit as) (hdigit bs)]

/-! ## Addresses as numbers -/

/-- The number of 32 bits that the address is. -/
def Ipv4.value (ip : Ipv4) : ℕ :=
  ip.a.toNat * 0x1000000 + ip.b.toNat * 0x10000 + ip.c.toNat * 0x100 + ip.d.toNat

/-- The number of 128 bits that the address is. -/
def Ipv6.value (ip : Ipv6) : ℕ :=
  Text.ofDigits 0x10000 (ip.groups.map UInt16.toNat)

/-- The bytes of an IPv4 address are the digits of its number. -/
lemma Ipv4.ofDigits_octets (ip : Ipv4) :
    Text.ofDigits 256 (ip.octets.map UInt8.toNat) = ip.value := by
  simp only [Text.ofDigits, octets, value, List.map_cons, List.map_nil, List.foldl_cons,
    List.foldl_nil]
  omega

/-- The two bytes of a group are its digits. -/
lemma Ipv6.map_toNat_groupOctets (g : UInt16) :
    (groupOctets g).map UInt8.toNat = [g.toNat / 256, g.toNat % 256] := by
  have hgroup : g.toNat < 256 * 256 := g.toNat_lt
  simp only [groupOctets, List.map_cons, List.map_nil, UInt8.toNat_ofNat', List.cons.injEq,
    and_true]
  omega

/-- The bytes of an IPv6 address are the digits of its number. -/
lemma Ipv6.ofDigits_octets (ip : Ipv6) :
    Text.ofDigits 256 (ip.octets.map UInt8.toNat) = ip.value := by
  -- two digits in base 256 are one in base 65536, behind whatever stands in front
  have hgroups : ∀ (gs : List UInt16) (n : ℕ),
      ((gs.flatMap groupOctets).map UInt8.toNat).foldl (fun n d => n * 256 + d) n =
        (gs.map UInt16.toNat).foldl (fun n d => n * 0x10000 + d) n := by
    intro gs n
    induction gs generalizing n with
    | nil => rw [List.flatMap_nil, List.map_nil, List.map_nil, List.foldl_nil, List.foldl_nil]
    | cons g gs ih =>
      have hdigits : (n * 256 + g.toNat / 256) * 256 + g.toNat % 256 = n * 0x10000 + g.toNat := by
        omega
      rw [List.flatMap_cons, List.map_append, map_toNat_groupOctets, List.foldl_append, ih,
        List.map_cons, List.foldl_cons, List.foldl_cons, List.foldl_cons, List.foldl_nil, hdigits]
  exact hgroups ip.groups 0

/-- An IPv6 address has sixteen bytes. -/
lemma Ipv6.length_octets (ip : Ipv6) : ip.octets.length = 16 := by
  have hgroups : ∀ gs : List UInt16, (gs.flatMap groupOctets).length = 2 * gs.length := by
    intro gs
    induction gs with
    | nil => rfl
    | cons g gs ih =>
      have hgroup : (groupOctets g).length = 2 := rfl
      rw [List.flatMap_cons, List.length_append, List.length_cons, hgroup, ih]
      omega
  rw [octets, hgroups, ip.size_eq]

/-! ## The order of the keys -/

/-- Keys of one kind and length are ordered by their bytes. -/
lemma AddressKey.order_mk (family length : ℕ) (as bs : List UInt8) :
    order ⟨family, length, as⟩ ⟨family, length, bs⟩ = compareOctets as bs := by
  simp [order]

namespace Address

/-- The order of addresses: unset addresses first, then IPv4, IPv6, and names. -/
def order : Address → Address → Ordering
  | unset, unset => .eq
  | unset, _ => .lt
  | _, unset => .gt
  | ip (.v4 i), ip (.v4 j) => compare i.value j.value
  | ip (.v4 _), _ => .lt
  | _, ip (.v4 _) => .gt
  | ip (.v6 i), ip (.v6 j) => compare i.value j.value
  | ip (.v6 _), name _ => .lt
  | name _, ip (.v6 _) => .gt
  | name s, name t =>
    (compare s.utf8ByteSize t.utf8ByteSize).then
      (compare (s.toList.map Char.toNat) (t.toList.map Char.toNat))

/-- The keys of addresses are in the order of the addresses. -/
theorem order_sortKey (a b : Address) : a.sortKey.order b.sortKey = a.order b := by
  rcases a with _ | (i | i) | s
  case unset => rcases b with _ | (j | j) | t <;> rfl
  case ip.v4 =>
    rcases b with _ | (j | j) | t
    case ip.v4 =>
      have hlength : i.octets.length = j.octets.length := rfl
      rw [sortKey, sortKey, AddressKey.order_mk, compareOctets_eq_ofDigits hlength,
        i.ofDigits_octets, j.ofDigits_octets]
      rfl
    all_goals rfl
  case ip.v6 =>
    rcases b with _ | (j | j) | t
    case ip.v6 =>
      have hlength : i.octets.length = j.octets.length := by rw [i.length_octets, j.length_octets]
      rw [sortKey, sortKey, AddressKey.order_mk, compareOctets_eq_ofDigits hlength,
        i.ofDigits_octets, j.ofDigits_octets]
      rfl
    all_goals rfl
  case name =>
    rcases b with _ | (j | j) | t
    case name =>
      rw [sortKey, sortKey, AddressKey.order]
      dsimp only
      rw [Text.Utf8.length_encode, Text.Utf8.length_encode, compareOctets_eq,
        Text.Utf8.compare_encode]
      rfl
    all_goals rfl

end Address

end VoipCalls
