import VoipCalls.Proofs.Address.Display
import VoipCalls.Proofs.Call.Comparison

/-!
# Calls of one speaker

The column of the speakers shows the text of an address, but calls are compared there by the key of
the address.  They tie exactly if the keys are the same
(`CallRecord.compareCalls_initialSpeaker_eq_iff`), and the text nearly always determines the key:
it is the literal of an IP address only for that address (`Address.SaysIp`), so that two addresses
with one text are the same address, or else both show nothing.

Nothing is shown for an unset address and for the empty name, and these have different keys.  The
empty name is what no bytes at all are normalised to, and nothing else is
(`Address.ofRaw_eq_name_empty_iff`).  Hence no bytes at all are the one value that does not tie with
what looks the same (`Address.ties_of_text_eq`).
-/

namespace VoipCalls

/-! ## Ties of keys -/

/-- Sequences of bytes tie only with themselves. -/
lemma compareOctets_eq_eq_iff {as bs : List UInt8} : compareOctets as bs = .eq ↔ as = bs := by
  have hbytes : Function.Injective (List.map UInt8.toNat) :=
    List.map_injective_iff.mpr fun _ _ => UInt8.toNat_inj.mp
  rw [compareOctets_eq, Std.LawfulEqOrd.compare_eq_iff_eq, hbytes.eq_iff]

/-- Keys tie only with themselves. -/
lemma AddressKey.order_eq_eq_iff {k l : AddressKey} : k.order l = .eq ↔ k = l := by
  rw [order, Ordering.then_eq_eq, Ordering.then_eq_eq, Std.LawfulEqOrd.compare_eq_iff_eq,
    Std.LawfulEqOrd.compare_eq_iff_eq, compareOctets_eq_eq_iff, and_assoc, AddressKey.mk.injEq]

/-- Calls tie in the column of the speakers exactly if the keys of the speakers are the same,
whatever texts are given. -/
lemma CallRecord.compareCalls_initialSpeaker_eq_iff {a b : CallRecord}
    {aText bText : Option String} {precision : ℕ} :
    compareCalls a b .initialSpeaker aText bText precision = .eq ↔
      a.initialSpeaker.sortKey = b.initialSpeaker.sortKey :=
  AddressKey.order_eq_eq_iff

namespace Address

/-! ## Addresses of one text -/

/-- The IP address that the address is, if it is one. -/
def ip? : Address → Option Ip
  | ip i => some i
  | unset | name _ => none

/-- The text is a literal exactly if the address is an IP address, and says this one. -/
def SaysIp (a : Address) : Prop :=
  Ip.parse? a.text = a.ip?

variable {a b : Address}

lemma IsReadable.saysIp (h : a.IsReadable) : a.SaysIp := by
  cases h with
  | unset => rfl
  | ip shown => exact Ip.parse?_text shown.writable
  | name trimmed ne_empty plain => exact plain

/-- Two addresses of one text are the same, or one is unset and the other is the empty name. -/
lemma eq_or_of_text_eq (ha : a.SaysIp) (hb : b.SaysIp) (h : a.text = b.text) :
    a = b ∨ (a = unset ∧ b = name "") ∨ (a = name "" ∧ b = unset) := by
  have hip : a.ip? = b.ip? := by rw [← ha, ← hb, h]
  cases a with
  | unset =>
    cases b with
    | unset => exact Or.inl rfl
    | ip j => cases hip
    | name t => exact Or.inr (Or.inl ⟨rfl, congrArg name h.symm⟩)
  | ip i =>
    cases b with
    | unset | name t => cases hip
    | ip j => exact Or.inl (congrArg ip (Option.some.inj hip))
  | name s =>
    cases b with
    | unset => exact Or.inr (Or.inr ⟨congrArg name h, rfl⟩)
    | ip j => cases hip
    | name t => exact Or.inl (congrArg name h)

/-- Two addresses of one text have the same key, unless exactly one of them is the empty name. -/
lemma sortKey_eq_iff_of_text_eq (ha : a.SaysIp) (hb : b.SaysIp) (h : a.text = b.text) :
    a.sortKey = b.sortKey ↔ (a = name "" ↔ b = name "") := by
  rcases eq_or_of_text_eq ha hb h with rfl | ⟨rfl, rfl⟩ | ⟨rfl, rfl⟩
  · exact iff_of_true rfl Iff.rfl
  · exact iff_of_false (by decide) (by decide)
  · exact iff_of_false (by decide) (by decide)

end Address

/-! ## Values as they are handed over -/

namespace RawAddress

/-- The value can be written: an IP address has no zone, or one that can stand in a literal. -/
def IsWritable : RawAddress → Prop
  | ip i => i.IsWritable
  | unset | text _ | octets _ | whole _ | truth _ | real _ => True

/-- What is not read back is no bytes at all or an IP address. -/
lemma eq_of_not_isReadable {v : RawAddress} (h : ¬ v.IsReadable) :
    v = octets [] ∨ ∃ i, v = ip i := by
  cases v with
  | ip i => exact Or.inr ⟨i, rfl⟩
  | octets bs => exact Or.inl (congrArg octets (of_not_not h))
  | unset | text _ | whole _ | truth _ | real _ => exact absurd trivial h

end RawAddress

namespace Address

variable {v w : RawAddress}

/-- The text of a normal form says which IP address it is. -/
lemma saysIp_ofRaw (hv : v.IsWritable) : (ofRaw v).SaysIp := by
  by_cases hread : v.IsReadable
  · exact ((isReadable_ofRaw_iff v).mpr hread).saysIp
  · obtain rfl | ⟨i, rfl⟩ := RawAddress.eq_of_not_isReadable hread
    · rfl
    · -- there may be blanks around the literal, but the literal itself can be read
      exact Ip.parse?_text hv

/-- Only no bytes at all are normalised to the empty name. -/
lemma ofRaw_eq_name_empty_iff : ofRaw v = name "" ↔ v = .octets [] := by
  refine ⟨fun h => ?_, fun h => h ▸ rfl⟩
  have hread : ¬ v.IsReadable := by
    rw [← isReadable_ofRaw_iff, h]
    rintro (- | - | ⟨-, hne, -⟩)
    exact hne rfl
  obtain hv | ⟨i, rfl⟩ := RawAddress.eq_of_not_isReadable hread
  · exact hv
  · cases h

/-- Two values that look the same have the same key, and calls of these speakers tie, unless exactly
one of the values is no bytes at all.  What is shown as nothing has the key of an unset address,
with the same exception. -/
theorem ties_of_text_eq (hv : v.IsWritable) (hw : w.IsWritable)
    (h : (ofRaw v).text = (ofRaw w).text) :
    ((ofRaw v).sortKey = (ofRaw w).sortKey ↔ (v = .octets [] ↔ w = .octets [])) ∧
      ((ofRaw v).text = "" → ((ofRaw v).sortKey = unset.sortKey ↔ v ≠ .octets [])) ∧
      ∀ (a b : CallRecord) (aText bText : Option String) (precision : ℕ),
        a.initialSpeaker = ofRaw v → b.initialSpeaker = ofRaw w →
          (compareCalls a b .initialSpeaker aText bText precision = .eq ↔
            (v = .octets [] ↔ w = .octets [])) := by
  have hkeys := sortKey_eq_iff_of_text_eq (saysIp_ofRaw hv) (saysIp_ofRaw hw) h
  rw [ofRaw_eq_name_empty_iff, ofRaw_eq_name_empty_iff] at hkeys
  refine ⟨hkeys, fun hempty => ?_, fun a b aText bText precision ha hb => ?_⟩
  · have hunset := sortKey_eq_iff_of_text_eq (saysIp_ofRaw hv) IsReadable.unset.saysIp hempty
    have hother : unset ≠ name "" := by decide
    rw [hunset, ofRaw_eq_name_empty_iff, iff_false_right hother]
  · rw [CallRecord.compareCalls_initialSpeaker_eq_iff, ha, hb]
    exact hkeys

/-- The bytes of the loopback address look like its literal, with zeros written out and blanks
around it, and a text of blanks looks like no address. -/
theorem ties_of_text_eq_loopback :
    (ofRaw (.octets [0, 0, 0, 0, 0, 0, 0, 0, 0, 0, 0, 0, 0, 0, 0, 1])).text = "::1" ∧
      (ofRaw (.octets [0, 0, 0, 0, 0, 0, 0, 0, 0, 0, 0, 0, 0, 0, 0, 1])).sortKey =
        (ofRaw (.text " 0:0::0001\n")).sortKey ∧
      (ofRaw (.text " \t")).sortKey = unset.sortKey := by
  have hbytes :
      (ofRaw (.octets [0, 0, 0, 0, 0, 0, 0, 0, 0, 0, 0, 0, 0, 0, 0, 1])).text = "::1" := by
    decide +kernel
  have hliteral : (ofRaw (.text " 0:0::0001\n")).text = "::1" := by decide +kernel
  have hblanks : (ofRaw (.text " \t")).text = "" := by decide +kernel
  have hsame := (ties_of_text_eq (v := .octets _) (w := .text _) trivial trivial
    (hbytes.trans hliteral.symm)).1
  have hnothing := (ties_of_text_eq (v := .text _) (w := .unset) trivial trivial
    hblanks).2.1 hblanks
  exact ⟨hbytes, hsame.mpr (by decide), hnothing.mpr (by decide)⟩

/-- No bytes at all look like no address, but have another key, and come after an IP address. -/
theorem text_eq_noBytes :
    (ofRaw (.octets [])).text = (ofRaw .unset).text ∧
      (ofRaw (.octets [])).sortKey ≠ (ofRaw .unset).sortKey ∧
      (ofRaw .unset).sortKey.order (ofRaw (.text "10.0.0.1")).sortKey = .lt ∧
      (ofRaw (.text "10.0.0.1")).sortKey.order (ofRaw (.octets [])).sortKey = .lt := by
  decide +kernel

end Address

end VoipCalls
