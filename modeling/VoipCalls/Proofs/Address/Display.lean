import VoipCalls.Address.Basic
import VoipCalls.Proofs.Address.Literal

/-!
# The text of an address

The text that a cell shows of an address is read as that address again, exactly if the address
`IsReadable`: an IP address has to be one that can be shown, and a name a text that is trimmed, not
empty and no literal.

Every address that a text says is readable, since reading trims the text and tries the literals
first.  So is the hexadecimal text of some bytes, which never is a literal (`isReadable_ofRaw_iff`).
Among the values as they are handed over, then, those without bytes and IP addresses with a zone
that no literal has are the only ones that are not read back.  For all others the text determines
the address (`ofRaw_text`).
-/

namespace VoipCalls

/-! ## Names of bytes -/

/-- A byte is written with hexadecimal digits. -/
lemma Text.isSome_hexDigit?_of_mem_hexBytes {bs : List UInt8} {c : Char}
    (hc : c ∈ (Text.hexBytes bs).toList) : (Text.hexDigit? c).isSome = true := by
  have hdigit : ∀ d < 16, (Text.hexDigit? (Text.hexChar d)).isSome = true := by decide
  rw [Text.hexBytes, String.toList_ofList] at hc
  obtain ⟨b, -, hc⟩ := List.mem_flatMap.mp hc
  have hbyte : b.toNat < 256 := b.toNat_lt
  rcases List.mem_pair.mp hc with rfl | rfl
  · exact hdigit _ (by omega)
  · exact hdigit _ (by omega)

/-- Only no bytes are written as the empty text. -/
lemma Text.hexBytes_eq_empty_iff {bs : List UInt8} : Text.hexBytes bs = "" ↔ bs = [] := by
  cases bs with
  | nil => exact ⟨fun _ => rfl, fun _ => rfl⟩
  | cons b bs =>
    refine ⟨fun h => ?_, fun h => absurd h (List.cons_ne_nil b bs)⟩
    have hchars := congrArg String.toList h
    rw [Text.hexBytes, String.toList_ofList, List.flatMap_cons] at hchars
    cases hchars

namespace Address

/-! ## Readable addresses -/

/-- The addresses whose text is read as the address. -/
inductive IsReadable : Address → Prop
  | unset : IsReadable unset
  | ip {i : Ip} (shown : i.IsShown) : IsReadable (ip i)
  | name {s : String} (trimmed : Text.IsTrimmed s.toList) (ne_empty : s ≠ "")
      (plain : Ip.parse? s = none) : IsReadable (name s)

variable {s : String}

/-- What a trimmed text says. -/
lemma ofText_of_isTrimmed (hs : Text.IsTrimmed s.toList) (hne : s ≠ "") :
    ofText s = (Ip.parse? s).elim (name s) ip := by
  have hstrip : Text.strip s = s := by rw [Text.strip, hs.trim_eq, String.ofList_toList]
  have hempty : s.isEmpty = false := by simpa using hne
  unfold ofText
  dsimp only
  rw [hstrip, hempty, if_neg Bool.false_ne_true]
  cases Ip.parse? s <;> rfl

/-- What a text says is readable. -/
lemma isReadable_ofText (s : String) : (ofText s).IsReadable := by
  have htrimmed : Text.IsTrimmed (Text.strip s).toList := by
    rw [Text.strip, String.toList_ofList]
    exact Text.isTrimmed_trim s.toList
  unfold ofText
  dsimp only
  split
  · exact .unset
  · rename_i hempty
    split
    · rename_i i hparse
      exact .ip (Ip.isShown_of_parse? htrimmed hparse)
    · rename_i hparse
      exact .name htrimmed (by simpa using hempty) hparse

/-- The text of an address is read as that address exactly if the address is readable. -/
lemma ofText_text_iff {a : Address} : ofText a.text = a ↔ a.IsReadable := by
  refine ⟨fun h => h ▸ isReadable_ofText a.text, fun h => ?_⟩
  cases h with
  | unset => rfl
  | @ip i hi =>
    have hparse := Ip.parse?_text hi.writable
    have hne : i.text ≠ "" := by
      intro hempty
      rw [hempty] at hparse
      cases hparse
    change ofText i.text = _
    rw [ofText_of_isTrimmed hi.trimmed hne, hparse]
    rfl
  | @name s htrimmed hne hparse =>
    change ofText s = _
    rw [ofText_of_isTrimmed htrimmed hne, hparse]
    rfl

/-- Readable addresses with the same text are the same. -/
lemma text_injective {a b : Address} (ha : a.IsReadable) (hb : b.IsReadable)
    (h : a.text = b.text) : a = b := by
  rw [← ofText_text_iff.mpr ha, h, ofText_text_iff.mpr hb]

end Address

/-! ## Values as they are handed over -/

/-- The values whose normal form is readable: all but no bytes at all, and IP addresses that cannot
be shown. -/
def RawAddress.IsReadable : RawAddress → Prop
  | ip i => i.IsShown
  | octets bs => bs ≠ []
  | unset | text _ | whole _ | truth _ | real _ => True

namespace Address

/-- Which normal forms are readable. -/
lemma isReadable_ofRaw_iff (v : RawAddress) : (ofRaw v).IsReadable ↔ v.IsReadable := by
  cases v with
  | unset => exact iff_of_true .unset trivial
  | ip i => exact ⟨fun | .ip hi => hi, .ip⟩
  | text _ | whole _ | truth _ | real _ =>
    refine iff_of_true ?_ trivial
    rw [ofRaw]
    · exact isReadable_ofText _
    all_goals nofun
  | octets bs =>
    rw [ofRaw]
    split
    · rename_i i hbytes
      refine iff_of_true (.ip (Ip.isShown_of_ofOctets? hbytes)) ?_
      rintro rfl
      cases hbytes
    · -- digits are not blank, and no literal is made of them
      have hdigits : ∀ c ∈ (Text.hexBytes bs).toList, (Text.hexDigit? c).isSome = true :=
        fun c => Text.isSome_hexDigit?_of_mem_hexBytes
      have htrimmed : Text.IsTrimmed (Text.hexBytes bs).toList :=
        Text.isTrimmed_of_forall fun c hc => Text.isBlank_of_hexDigit? (hdigits c hc)
      constructor
      · rintro (- | - | ⟨-, hne, -⟩) hnil
        exact hne (Text.hexBytes_eq_empty_iff.mpr hnil)
      · intro hne
        exact .name htrimmed (mt Text.hexBytes_eq_empty_iff.mp hne)
          (Ip.parse?_eq_none_of_digits hdigits)

/-- What a cell shows of any text, or of any bytes that are not none, is read as the same address,
and two of these are the same address exactly if they show the same. -/
theorem ofRaw_text {v w : RawAddress} (hv : v.IsReadable) (hw : w.IsReadable) :
    ofRaw (.text (ofRaw v).text) = ofRaw v ∧
      (ofRaw v = ofRaw w ↔ (ofRaw v).text = (ofRaw w).text) := by
  have hv' := (isReadable_ofRaw_iff v).mpr hv
  have hw' := (isReadable_ofRaw_iff w).mpr hw
  change ofText (ofRaw v).text = ofRaw v ∧ _
  exact ⟨ofText_text_iff.mpr hv', congrArg text, text_injective hv' hw'⟩

/-- A literal with blanks around it, zeros written out and capital letters, beside the bytes of an
address. -/
theorem ofRaw_text_linkLocal :
    let v : RawAddress := .text " FE80:0:0:0:0:0:00a:1%eth0\n"
    let w : RawAddress := .octets [0xFE, 0x80, 0, 0, 0, 0, 0, 0, 0, 0, 0, 0, 0, 0xA, 0, 1]
    (ofRaw v).text = "fe80::a:1%eth0" ∧ (ofRaw w).text = "fe80::a:1" ∧
      ofRaw (.text (ofRaw v).text) = ofRaw v ∧ ofRaw v ≠ ofRaw w := by
  have hv : (ofRaw (.text " FE80:0:0:0:0:0:00a:1%eth0\n")).text = "fe80::a:1%eth0" := by
    decide +kernel
  have hw : (ofRaw (.octets [0xFE, 0x80, 0, 0, 0, 0, 0, 0, 0, 0, 0, 0, 0, 0xA, 0, 1])).text =
      "fe80::a:1" := by
    decide +kernel
  obtain ⟨hread, hsame⟩ := ofRaw_text (v := .text " FE80:0:0:0:0:0:00a:1%eth0\n")
    (w := .octets [0xFE, 0x80, 0, 0, 0, 0, 0, 0, 0, 0, 0, 0, 0, 0xA, 0, 1])
    trivial (List.cons_ne_nil _ _)
  refine ⟨hv, hw, hread, fun h => ?_⟩
  have htext := hsame.mp h
  rw [hv, hw] at htext
  exact absurd htext (by decide)

end Address

end VoipCalls
