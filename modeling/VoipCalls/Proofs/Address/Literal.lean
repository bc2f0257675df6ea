import Mathlib.Data.List.TakeWhile
import VoipCalls.Address.Ip
import VoipCalls.Proofs.Number.Digits
import VoipCalls.Proofs.Text.Cutting

/-!
# Literals of IP addresses

The canonical literal of an IP address is read back (`Ip.parse?_text`).  The parts of an IPv4
literal are decimal numbers below 256; the groups of an IPv6 literal are hexadecimal numbers with
colons between them, and two colons stand for the longest run of zero groups.  A text falls into its
groups at the colons, and no group is empty, so that two colons side by side stand at the gap and
nowhere else (`HasNoGap`).

The zone of an IPv6 address is read back if it could be read at all.  That is so for every address
that a text says or that is made of its bytes, and no blank stands around its literal either
(`Ip.IsShown`).
-/

namespace VoipCalls

/-! ## IPv4 literals -/

namespace Ipv4

/-- A byte in decimal digits is read back. -/
lemma parsePart?_toDigits (b : UInt8) : parsePart? (Nat.toDigits 10 b.toNat) = some b := by
  obtain ⟨ds, hds, hvalue, hlength, hhead⟩ :=
    Text.exists_digits (by decide) Text.asciiDigit?_digitChar b.toNat
  have hbyte : b.toNat < 256 := b.toNat_lt
  have hlong : ¬ 3 < ds.length := by
    rw [hlength, Nat.not_lt, Nat.length_toDigits_le_iff (by decide) (by decide)]
    omega
  have hempty : ds.isEmpty = false := by
    rw [List.isEmpty_eq_false_iff, ← List.length_pos_iff, hlength]
    exact Nat.length_toDigits_pos
  -- a number with a needless zero in front would be zero
  have hzero : ¬ (ds.head? = some 0 ∧ 1 < ds.length) := by
    rintro ⟨hhead0, hlength1⟩
    rcases Nat.eq_zero_or_pos b.toNat with hb | hb
    · rw [hlength, hb] at hlength1
      exact absurd hlength1 (by decide)
    · exact hhead hb hhead0
  have hlarge : ¬ 255 < b.toNat := by omega
  unfold parsePart?
  rw [hds]
  simp only [Option.bind_eq_bind, Option.bind_some, hvalue]
  rw [if_neg]
  · rw [UInt8.ofNat_toNat]
  · simp only [hempty, hlong, hlarge, Bool.false_or, Bool.or_false, decide_false, Bool.and_eq_true,
      beq_iff_eq, decide_eq_true_eq]
    exact hzero

/-- A text without points is no literal. -/
lemma parse?_eq_none_of_not_mem {cs : List Char} (h : '.' ∉ cs) : parse? cs = none := by
  unfold parse?
  rw [Text.pieces_of_not_mem h, List.map_singleton]
  cases parsePart? cs <;> rfl

/-- Nor is a text with a colon in front of the first point. -/
lemma parse?_append_eq_none {front : List Char} (hcolon : ':' ∈ front) (hpoint : '.' ∉ front)
    (rest : List Char) : parse? (front ++ rest) = none := by
  obtain ⟨p, ps, hp⟩ := Text.exists_pieces_eq '.' rest
  have hpart : parsePart? (front ++ p) = none := by
    unfold parsePart?
    rw [Text.mapM_eq_none (List.mem_append_left p hcolon) (by decide)]
    rfl
  unfold parse?
  rw [Text.pieces_append hpoint hp, List.map_cons, hpart]

/-- The characters of a literal. -/
lemma toList_text (ip : Ipv4) : ip.text.toList = ['.'].intercalate
    ([ip.a, ip.b, ip.c, ip.d].map fun b => Nat.toDigits 10 b.toNat) := by
  have hpoint : (toString ".").toList = ['.'] := rfl
  simp [text, List.intercalate_cons_cons, Nat.repr_eq_ofList_toDigits, hpoint]

/-- A literal is trimmed. -/
lemma isTrimmed_text (ip : Ipv4) : Text.IsTrimmed ip.text.toList := by
  apply Text.isTrimmed_of_forall
  intro c hc
  rw [toList_text] at hc
  rcases Text.exists_of_mem_intercalate hc with hpoint | ⟨part, hpart, hc⟩
  · rw [List.mem_singleton.mp hpoint]
    rfl
  · obtain ⟨b, -, rfl⟩ := List.mem_map.mp hpart
    obtain ⟨ds, hds, -⟩ := Text.exists_digits (by decide) Text.asciiDigit?_digitChar b.toNat
    exact Text.isBlank_of_hexDigit? (Text.isSome_hexDigit?_of_ascii (Text.isSome_of_mapM hds c hc))

/-- The literal of an address is read back. -/
lemma parse?_text (ip : Ipv4) : parse? ip.text.toList = some ip := by
  have hparts : ∀ part ∈ [ip.a, ip.b, ip.c, ip.d].map fun b => Nat.toDigits 10 b.toNat,
      '.' ∉ part := by
    intro part hpart hpoint
    obtain ⟨b, -, rfl⟩ := List.mem_map.mp hpart
    have hdigit := Nat.isDigit_of_mem_toDigits (by decide) (Nat.le_refl 10) hpoint
    cases hdigit
  unfold parse?
  rw [toList_text, List.map_cons, Text.pieces_intercalate hparts]
  simp only [List.map_cons, List.map_nil, parsePart?_toDigits]

end Ipv4

/-! ## Groups of IPv6 literals -/

namespace Ipv6

/-- The characters that groups are written with. -/
def IsGroupChar (c : Char) : Prop :=
  c = ':' ∨ (Text.hexDigit? c).isSome = true

/-- A group in hexadecimal digits. -/
def groupDigits (g : UInt16) : List Char :=
  Nat.toDigits 16 g.toNat

/-- The digits of a group are read back. -/
lemma parseGroup?_groupDigits (g : UInt16) : parseGroup? (groupDigits g) = some g := by
  obtain ⟨ds, hds, hvalue, hlength, -⟩ :=
    Text.exists_digits (by decide) Text.hexDigit?_digitChar g.toNat
  have hgroup : g.toNat < 16 ^ 4 := g.toNat_lt
  have hlong : ¬ 4 < ds.length := by
    rw [hlength, Nat.not_lt, Nat.length_toDigits_le_iff (by decide) (by decide)]
    exact hgroup
  have hne : ds ≠ [] := by
    rw [← List.length_pos_iff, hlength]
    exact Nat.length_toDigits_pos
  unfold parseGroup? groupDigits
  rw [hds]
  simp [hvalue, hlong, hne]

/-- A character that is no hexadecimal digit stands in no group. -/
lemma not_mem_groupDigits {c : Char} (hc : Text.hexDigit? c = none) (g : UInt16) :
    c ∉ groupDigits g := by
  intro hin
  have hdigit := Text.isSome_hexDigit? _ c hin
  rw [hc] at hdigit
  cases hdigit

/-- The characters of groups with colons between them. -/
lemma toList_joined (gs : List UInt16) :
    (joined gs).toList = [':'].intercalate (gs.map groupDigits) := by
  rw [joined, String.toList_intercalate, List.map_map]
  have hdigits : (String.toList ∘ fun g : UInt16 => Text.hexNat g.toNat) = groupDigits := by
    funext g
    exact String.toList_ofList
  rw [hdigits]
  rfl

/-- Groups fall apart at the colons between them. -/
lemma pieces_joined {gs : List UInt16} (hne : gs ≠ []) :
    Text.pieces ':' (joined gs).toList = gs.map groupDigits := by
  obtain ⟨g, gs, rfl⟩ := List.exists_cons_of_ne_nil hne
  rw [toList_joined, List.map_cons]
  apply Text.pieces_intercalate
  rw [← List.map_cons]
  intro part hpart
  obtain ⟨h, -, rfl⟩ := List.mem_map.mp hpart
  exact not_mem_groupDigits (by decide) h

/-- Groups are read back. -/
lemma parseGroups?_groupDigits (gs : List UInt16) :
    parseGroups? (gs.map groupDigits) = some gs := by
  induction gs with
  | nil => rfl
  | cons g gs ih =>
    cases gs with
    | nil =>
      have hpoint : (groupDigits g).contains '.' = false := by
        simpa using not_mem_groupDigits (by decide) g
      rw [List.map_singleton, parseGroups?, hpoint, if_neg Bool.false_ne_true,
        parseGroup?_groupDigits]
      rfl
    | cons h gs =>
      rw [List.map_cons] at ih
      rw [List.map_cons, List.map_cons, parseGroups?, parseGroup?_groupDigits, ih]
      rfl

/-- Groups are read back one by one. -/
lemma mapM_parseGroup?_groupDigits (gs : List UInt16) :
    (gs.map groupDigits).mapM parseGroup? = some gs := by
  have hread : parseGroup? ∘ groupDigits = fun g => pure (id g) :=
    funext parseGroup?_groupDigits
  rw [List.mapM_map, hread, List.mapM_pure, List.map_id]
  rfl

/-- The groups of one side of a gap are read back. -/
lemma parseSide?_joined (gs : List UInt16) (dotted : Bool) :
    parseSide? (joined gs).toList dotted = some gs := by
  cases gs with
  | nil => rfl
  | cons g gs =>
    have hpieces := pieces_joined (List.cons_ne_nil g gs)
    have hempty : (joined (g :: gs)).toList.isEmpty = false := by
      rw [List.isEmpty_eq_false_iff]
      intro hnil
      rw [hnil] at hpieces
      exact Nat.toDigits_ne_nil (List.cons.inj hpieces).1.symm
    unfold parseSide?
    rw [hempty, if_neg Bool.false_ne_true, hpieces, parseGroups?_groupDigits,
      mapM_parseGroup?_groupDigits, ite_self]

/-! ## Gaps -/

/-- The text has no empty group, unless it has no groups at all. -/
def HasNoGap (cs : List Char) : Prop :=
  cs = [] ∨ [] ∉ Text.pieces ':' cs

/-- Groups with colons between them have no gap. -/
lemma hasNoGap_joined (gs : List UInt16) : HasNoGap (joined gs).toList := by
  by_cases hgs : gs = []
  · subst hgs
    exact Or.inl rfl
  · refine Or.inr fun hempty => ?_
    rw [pieces_joined hgs] at hempty
    obtain ⟨g, -, hg⟩ := List.mem_map.mp hempty
    exact Nat.toDigits_ne_nil hg

/-- Where there is no gap, no two colons stand side by side. -/
lemma HasNoGap.cutAt_eq_none {cs : List Char} (h : HasNoGap cs) :
    Text.cutAt [':', ':'] cs = none := by
  rw [Option.eq_none_iff_forall_ne_some]
  rintro ⟨front, rest⟩ hcut
  have hcs := Text.eq_of_cutAt hcut
  subst hcs
  rcases h with hnil | hpieces
  · simp at hnil
  · apply hpieces
    rw [List.cons_append, Text.pieces_append_self_cons, List.cons_append, Text.pieces_self_cons]
    exact List.mem_append_right _ List.mem_cons_self

/-- Where there is no gap, no colon stands at the end. -/
lemma HasNoGap.getLast?_ne {cs : List Char} (h : HasNoGap cs) : cs.getLast? ≠ some ':' := by
  intro hlast
  obtain ⟨front, rfl⟩ := List.getLast?_eq_some_iff.mp hlast
  rcases h with hnil | hpieces
  · simp at hnil
  · apply hpieces
    rw [Text.pieces_append_self_cons]
    exact List.mem_append_right _ List.mem_cons_self

/-! ## The longest run of zeros -/

/-- A list of groups begins with as many zeros as are counted. -/
lemma exists_zeroRun (gs : List UInt16) : ∃ back, gs = List.replicate (zeroRun gs) 0 ++ back := by
  have hzeros : gs.takeWhile (· == 0) = List.replicate (zeroRun gs) 0 := by
    rw [List.eq_replicate_iff]
    refine ⟨rfl, fun g hg => ?_⟩
    simpa using List.mem_takeWhile_imp hg
  refine ⟨gs.dropWhile (· == 0), ?_⟩
  rw [← hzeros, List.takeWhile_append_dropWhile]

/-- The longest run of zeros stands where it is said to. -/
lemma exists_longestZeroRun (place : ℕ) (gs : List UInt16) :
    ∃ front back, (longestZeroRun place gs).1 = place + front.length ∧
      gs = front ++ (List.replicate (longestZeroRun place gs).2 0 ++ back) := by
  induction gs generalizing place with
  | nil => exact ⟨[], [], rfl, rfl⟩
  | cons g gs ih =>
    rw [longestZeroRun]
    split
    · obtain ⟨back, hback⟩ := exists_zeroRun (g :: gs)
      exact ⟨[], back, rfl, hback⟩
    · obtain ⟨front, back, hplace, hgs⟩ := ih (place + 1)
      refine ⟨g :: front, back, ?_, ?_⟩
      · rw [hplace, List.length_cons]
        omega
      · rw [List.cons_append, ← hgs]

/-- The literal of some groups is all of them, or what stands around two or more zeros. -/
lemma groupsText_cases (gs : List UInt16) :
    groupsText gs = joined gs ∨
      ∃ front back size, 2 ≤ size ∧ gs = front ++ (List.replicate size 0 ++ back) ∧
        (groupsText gs).toList = (joined front).toList ++ ':' :: ':' :: (joined back).toList := by
  obtain ⟨front, back, hplace, hgs⟩ := exists_longestZeroRun 0 gs
  unfold groupsText
  generalize hrun : longestZeroRun 0 gs = run at hplace hgs ⊢
  obtain ⟨place, size⟩ := run
  dsimp only at hplace hgs ⊢
  split
  · exact Or.inl rfl
  · rename_i hsize
    refine Or.inr ⟨front, back, size, Nat.le_of_not_lt hsize, hgs, ?_⟩
    have htake : gs.take place = front := by
      rw [hplace, hgs]
      simp
    have hdrop : gs.drop (place + size) = back := by
      rw [hplace, hgs]
      simp
    rw [htake, hdrop]
    simp

/-! ## IPv6 literals -/

/-- Eight groups are read back from their literal. -/
lemma parseGroupsWithGap?_groupsText {gs : List UInt16} (hgs : gs.length = 8) :
    parseGroupsWithGap? (groupsText gs).toList = some gs := by
  have hne : gs ≠ [] := by
    rintro rfl
    cases hgs
  rcases groupsText_cases gs with hall | ⟨front, back, size, hsize, hparts, htext⟩
  · unfold parseGroupsWithGap?
    rw [hall, (hasNoGap_joined gs).cutAt_eq_none]
    dsimp only
    rw [pieces_joined hne, parseGroups?_groupDigits]
  · have hcut := Text.cutAt_append_twice (hasNoGap_joined front).cutAt_eq_none
      (hasNoGap_joined front).getLast?_ne (joined back).toList
    have hlength := congrArg List.length hparts
    simp only [List.length_append, List.length_replicate] at hlength
    have hshort : front.length + back.length < 8 := by omega
    have hfill : 8 - (front.length + back.length) = size := by omega
    unfold parseGroupsWithGap?
    rw [htext, hcut]
    dsimp only
    rw [parseSide?_joined, parseSide?_joined]
    simp [hshort, hfill, hparts]

/-- Groups are written with digits and colons only. -/
lemma isGroupChar_of_mem_joined {gs : List UInt16} {c : Char} (h : c ∈ (joined gs).toList) :
    IsGroupChar c := by
  rw [toList_joined] at h
  rcases Text.exists_of_mem_intercalate h with hcolon | ⟨part, hpart, hc⟩
  · exact Or.inl (List.mem_singleton.mp hcolon)
  · obtain ⟨g, -, rfl⟩ := List.mem_map.mp hpart
    exact Or.inr (Text.isSome_hexDigit? _ c hc)

/-- So is the literal of some groups. -/
lemma isGroupChar_of_mem_groupsText {gs : List UInt16} {c : Char}
    (h : c ∈ (groupsText gs).toList) : IsGroupChar c := by
  rcases groupsText_cases gs with hall | ⟨front, back, -, -, -, htext⟩
  · rw [hall] at h
    exact isGroupChar_of_mem_joined h
  · rw [htext] at h
    rcases List.mem_append.mp h with hfront | h
    · exact isGroupChar_of_mem_joined hfront
    · rcases List.mem_cons.mp h with hcolon | h
      · exact Or.inl hcolon
      · rcases List.mem_cons.mp h with hcolon | hback
        · exact Or.inl hcolon
        · exact isGroupChar_of_mem_joined hback

/-- A character that is neither a colon nor a digit does not stand in the literal. -/
lemma not_mem_groupsText {c : Char} (hc : Text.hexDigit? c = none) (hcolon : c ≠ ':')
    (gs : List UInt16) : c ∉ (groupsText gs).toList := by
  intro hin
  rcases isGroupChar_of_mem_groupsText hin with heq | hdigit
  · exact hcolon heq
  · rw [hc] at hdigit
    cases hdigit

/-- A colon stands in the literal of eight groups. -/
lemma colon_mem_groupsText {gs : List UInt16} (hgs : gs.length = 8) :
    ':' ∈ (groupsText gs).toList := by
  rcases groupsText_cases gs with hall | ⟨front, back, -, -, -, htext⟩
  · by_contra hcolon
    have hne : gs ≠ [] := by
      rintro rfl
      cases hgs
    have hpieces := pieces_joined hne
    rw [← hall, Text.pieces_of_not_mem hcolon] at hpieces
    have hlength := congrArg List.length hpieces
    rw [List.length_map, hgs] at hlength
    cases hlength
  · rw [htext]
    exact List.mem_append_right _ List.mem_cons_self

/-- A zone that can stand in a literal. -/
structure IsZone (zone : String) : Prop where
  /-- The zone is not empty. -/
  ne_empty : zone.toList ≠ []
  /-- There is one percent sign, in front of the zone. -/
  percent : '%' ∉ zone.toList
  /-- There is no slash in a literal. -/
  slash : '/' ∉ zone.toList

/-- The literal of an address can be read. -/
def IsWritable (ip : Ipv6) : Prop :=
  ∀ zone, ip.zone = some zone → IsZone zone

/-- The characters of a literal. -/
lemma toList_text (ip : Ipv6) : ip.text.toList = (groupsText ip.groups).toList ++
    (ip.zone.elim [] fun zone => '%' :: zone.toList) := by
  unfold text
  cases ip.zone <;> simp

/-- The literal of an address is read back. -/
lemma parse?_text {ip : Ipv6} (h : ip.IsWritable) : parse? ip.text.toList = some ip := by
  have hslash := not_mem_groupsText (c := '/') (by decide) (by decide) ip.groups
  have hpercent := not_mem_groupsText (c := '%') (by decide) (by decide) ip.groups
  have hgroups := parseGroupsWithGap?_groupsText ip.size_eq
  obtain ⟨groups, zone, hsize⟩ := ip
  dsimp only at hslash hpercent hgroups
  rw [toList_text]
  dsimp only
  unfold parse?
  cases zone with
  | none =>
    have hcut := Text.cutAt_eq_none (List.mem_singleton_self '%') hpercent
    simp [hslash, hcut, hgroups, ofGroups?, hsize]
  | some zone =>
    obtain ⟨hne, hzonePercent, hzoneSlash⟩ := h zone rfl
    have hcut : Text.cutAt ['%'] ((groupsText groups).toList ++ '%' :: zone.toList) =
        some ((groupsText groups).toList, zone.toList) := by
      have hself : Text.cutAt ['%'] ('%' :: zone.toList) = some ([], zone.toList) :=
        Text.cutAt_self ['%'] zone.toList
      rw [Text.cutAt_append hpercent, hself]
      simp
    simp [hslash, hzoneSlash, hcut, hne, hzonePercent, hgroups, ofGroups?, hsize]

/-- The zone of an address is the one it was made with. -/
lemma zone_of_ofGroups? {gs : List UInt16} {zone : Option String} {ip : Ipv6}
    (h : ofGroups? gs zone = some ip) : ip.zone = zone := by
  unfold ofGroups? at h
  split at h
  · rw [← Option.some.inj h]
  · cases h

/-- The zone of an address stands at the end of every literal that says it. -/
lemma exists_zone_of_parse? {cs : List Char} {ip : Ipv6} {zone : String} (h : parse? cs = some ip)
    (hzone : ip.zone = some zone) : IsZone zone ∧ ∃ front, cs = front ++ '%' :: zone.toList := by
  unfold parse? at h
  split at h
  · cases h
  · rename_i hslash
    split at h
    · obtain ⟨gs, -, hip⟩ := Option.bind_eq_some_iff.mp h
      rw [zone_of_ofGroups? hip] at hzone
      cases hzone
    · rename_i front text hcut
      split at h
      · cases h
      · rename_i hplain
        obtain ⟨gs, -, hip⟩ := Option.bind_eq_some_iff.mp h
        rw [zone_of_ofGroups? hip, Option.some_inj] at hzone
        subst hzone
        have hcs := Text.eq_of_cutAt hcut
        have hnotSlash : '/' ∉ cs := by simpa using hslash
        obtain ⟨hne, hpercent⟩ : text ≠ [] ∧ '%' ∉ text := by simpa using hplain
        rw [String.toList_ofList]
        refine ⟨⟨?_, ?_, ?_⟩, front, hcs⟩
        · rwa [String.toList_ofList]
        · rwa [String.toList_ofList]
        · rw [String.toList_ofList]
          intro hin
          apply hnotSlash
          rw [hcs]
          exact List.mem_append_right _ (List.mem_append_right _ hin)

/-- A text of digits is no literal. -/
lemma parse?_eq_none_of_digits {cs : List Char} (h : ∀ c ∈ cs, (Text.hexDigit? c).isSome = true) :
    parse? cs = none := by
  have hother : ∀ {c : Char}, Text.hexDigit? c = none → c ∉ cs := by
    intro c hc hin
    have hdigit := h c hin
    rw [hc] at hdigit
    cases hdigit
  have hslash : '/' ∉ cs := hother (by decide)
  have hpercent : '%' ∉ cs := hother (by decide)
  have hcolon : ':' ∉ cs := hother (by decide)
  have hpoint : '.' ∉ cs := hother (by decide)
  -- the only group there can be is one of eight
  have hgroups : parseGroupsWithGap? cs = (parseGroup? cs).map ([·]) := by
    unfold parseGroupsWithGap?
    rw [Text.cutAt_eq_none List.mem_cons_self hcolon]
    dsimp only
    rw [Text.pieces_of_not_mem hcolon, parseGroups?, List.contains_eq_mem]
    simp [hpoint]
  unfold parse?
  rw [Text.cutAt_eq_none List.mem_cons_self hpercent, hgroups]
  cases parseGroup? cs <;> simp [hslash, ofGroups?]

/-- A literal without a zone, or one whose zone does not end with a blank, is trimmed. -/
lemma isTrimmed_text {ip : Ipv6} (hzone : ∀ zone, ip.zone = some zone →
      ∀ c, zone.toList.getLast? = some c → Text.isBlank c = false) :
    Text.IsTrimmed ip.text.toList := by
  have hplain : ∀ c ∈ (groupsText ip.groups).toList, Text.isBlank c = false := by
    intro c hc
    rcases isGroupChar_of_mem_groupsText hc with rfl | hdigit
    · rfl
    · exact Text.isBlank_of_hexDigit? hdigit
  obtain ⟨d, ds, hgroups⟩ := List.exists_cons_of_ne_nil
    (List.ne_nil_of_mem (colon_mem_groupsText ip.size_eq))
  rw [toList_text]
  rw [hgroups] at hplain ⊢
  cases hip : ip.zone with
  | none => exact Text.isTrimmed_of_forall (by simpa using hplain)
  | some zone =>
    refine ⟨fun c hc => hplain c ?_, fun c hc => ?_⟩
    · exact Option.some.inj hc ▸ List.mem_cons_self
    · rw [Option.elim_some, List.getLast?_append, List.getLast?_cons] at hc
      cases hlast : zone.toList.getLast? with
      | none =>
        rw [hlast] at hc
        rw [← Option.some.inj hc]
        rfl
      | some d =>
        rw [hlast] at hc
        rw [← Option.some.inj hc]
        exact hzone zone hip d hlast

end Ipv6

/-! ## Both families -/

namespace Ip

/-- The literal of the address can be read. -/
def IsWritable : Ip → Prop
  | v4 _ => True
  | v6 ip => ip.IsWritable

/-- The literal of an address is read back. -/
lemma parse?_text {ip : Ip} (h : ip.IsWritable) : parse? ip.text = some ip := by
  cases ip with
  | v4 ip =>
    unfold parse? text
    rw [Ipv4.parse?_text]
  | v6 ip =>
    have hcolon := Ipv6.colon_mem_groupsText ip.size_eq
    have hpoint := Ipv6.not_mem_groupsText (c := '.') (by decide) (by decide) ip.groups
    have hother : Ipv4.parse? ip.text.toList = none := by
      rw [Ipv6.toList_text]
      exact Ipv4.parse?_append_eq_none hcolon hpoint _
    unfold parse? text
    rw [hother]
    dsimp only
    rw [Ipv6.parse?_text h]
    rfl

/-- The address can be shown as a text: its literal can be read, and no blank stands around it. -/
structure IsShown (ip : Ip) : Prop where
  /-- The literal can be read. -/
  writable : ip.IsWritable
  /-- No blank stands around the literal. -/
  trimmed : Text.IsTrimmed ip.text.toList

/-- An address that a trimmed literal says can be shown. -/
lemma isShown_of_parse? {s : String} {ip : Ip} (hs : Text.IsTrimmed s.toList)
    (h : parse? s = some ip) : ip.IsShown := by
  cases ip with
  | v4 ip => exact ⟨trivial, Ipv4.isTrimmed_text ip⟩
  | v6 ip =>
    have hparse : Ipv6.parse? s.toList = some ip := by
      unfold parse? at h
      split at h
      · cases h
      · simpa using h
    refine ⟨fun zone hzone => (Ipv6.exists_zone_of_parse? hparse hzone).1,
      Ipv6.isTrimmed_text fun zone hzone c hc => hs.last c ?_⟩
    -- the zone ends where the text ends
    obtain ⟨-, front, hfront⟩ := Ipv6.exists_zone_of_parse? hparse hzone
    rw [hfront, List.getLast?_append, List.getLast?_cons, hc]
    rfl

/-- An address that is made of its bytes can be shown. -/
lemma isShown_of_ofOctets? {bs : List UInt8} {ip : Ip} (h : ofOctets? bs = some ip) :
    ip.IsShown := by
  cases ip with
  | v4 ip => exact ⟨trivial, Ipv4.isTrimmed_text ip⟩
  | v6 ip =>
    have hnone : ip.zone = none := by
      unfold ofOctets? at h
      split at h
      · cases h
      · have hbytes : Ipv6.ofOctets? bs = some ip := by simpa using h
        unfold Ipv6.ofOctets? at hbytes
        split at hbytes
        · exact Ipv6.zone_of_ofGroups? hbytes
        · cases hbytes
    have hzone : ∀ zone, ip.zone ≠ some zone := by simp [hnone]
    exact ⟨fun zone h => absurd h (hzone zone),
      Ipv6.isTrimmed_text fun zone h => absurd h (hzone zone)⟩

/-- A text of digits is no literal. -/
lemma parse?_eq_none_of_digits {s : String}
    (h : ∀ c ∈ s.toList, (Text.hexDigit? c).isSome = true) : parse? s = none := by
  have hpoint : '.' ∉ s.toList := by
    intro hin
    have hdigit := h '.' hin
    cases hdigit
  unfold parse?
  rw [Ipv4.parse?_eq_none_of_not_mem hpoint]
  dsimp only
  rw [Ipv6.parse?_eq_none_of_digits h]
  rfl

end Ip

end VoipCalls
