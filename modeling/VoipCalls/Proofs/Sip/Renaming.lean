import VoipCalls.Proofs.Sip.LineEnds
import VoipCalls.Proofs.Sip.Writing
import VoipCalls.Sip.StartLine

/-!
# Renaming headers

Three headers have a short name besides their full one.  `Sip.shortNamed` puts the short names in
the place of the full ones, in the lines of the head of a text behind the first.  That moves no
empty line (`Sip.cutAt_shortNamed`), so the message keeps its start line and its body, and every
header is read under the new name (`Sip.ofUnified_shortNamed`).

If there were no short names before, a header is found under its short name exactly as it was found
under the full one (`Sip.header?_shortNamed`).  The two names are not asked alike, though: the full
name is given up where its value is empty (`Sip.headerOr?_of_hasNoShortNames`), and the short one is
not (`Sip.headerOr?_shortNamed`).
-/

namespace VoipCalls.Sip

variable {name : List Char} {n long short : String} {m : Message}

/-! ## Names -/

/-- The short name of a header. -/
def shortName? : String → Option String
  | "call-id" => some "i"
  | "from" => some "f"
  | "to" => some "t"
  | _ => none

/-- The headers with a short name. -/
lemma cases_of_shortName? (h : shortName? n = some short) :
    (n = "call-id" ∧ short = "i") ∨ (n = "from" ∧ short = "f") ∨ (n = "to" ∧ short = "t") := by
  unfold shortName? at h
  split at h
  · exact Or.inl ⟨rfl, (Option.some.inj h).symm⟩
  · exact Or.inr (Or.inl ⟨rfl, (Option.some.inj h).symm⟩)
  · exact Or.inr (Or.inr ⟨rfl, (Option.some.inj h).symm⟩)
  · cases h

/-- A short name has no short name. -/
lemma shortName?_short (h : shortName? long = some short) : shortName? short = none := by
  obtain ⟨-, rfl⟩ | ⟨-, rfl⟩ | ⟨-, rfl⟩ := cases_of_shortName? h <;> rfl

/-- A short name belongs to one header. -/
lemma shortName?_inj (h : shortName? long = some short) (hn : shortName? n = some short) :
    n = long := by
  obtain ⟨rfl, rfl⟩ | ⟨rfl, rfl⟩ | ⟨rfl, rfl⟩ := cases_of_shortName? h <;>
    obtain ⟨rfl, hshort⟩ | ⟨rfl, hshort⟩ | ⟨rfl, hshort⟩ := cases_of_shortName? hn <;>
    first | rfl | exact absurd hshort (by decide)

/-- The header under its short name, if it has one. -/
def Header.shortened (h : Header) : Header :=
  ⟨(shortName? h.name).getD h.name, h.value⟩

/-! ## Lines -/

/-- The line of a header with the short name in the place of the full one. -/
def shortLine (l : List Char) : List Char :=
  match Text.cutAt [':'] l with
  | some (name, value) =>
    match shortName? (String.ofList (Text.lower (Text.trim name))) with
    | some short => short.toList ++ ':' :: value
    | none => l
  | none => l

/-- A line stays as it is, or it is the line of a header with a short name. -/
lemma shortLine_cases (l : List Char) :
    (shortLine l = l ∧ (Header.ofLine? l).map Header.shortened = Header.ofLine? l) ∨
    ∃ name value short, l = name ++ ':' :: value ∧ Text.cutAt [':'] l = some (name, value) ∧
      shortName? (String.ofList (Text.lower (Text.trim name))) = some short ∧
      shortLine l = short.toList ++ ':' :: value := by
  unfold shortLine
  cases hcut : Text.cutAt [':'] l with
  | none => exact Or.inl ⟨rfl, by rw [Header.ofLine?, hcut]; rfl⟩
  | some parts =>
    obtain ⟨name, value⟩ := parts
    dsimp only
    cases hshort : shortName? (String.ofList (Text.lower (Text.trim name))) with
    | none =>
      refine Or.inl ⟨rfl, ?_⟩
      rw [Header.ofLine?, hcut, Option.map_some, Option.map_some, Header.shortened, hshort]
      rfl
    | some short => exact Or.inr ⟨name, value, short, Text.eq_of_cutAt hcut, rfl, hshort, rfl⟩

/-- Short names are read as they are written. -/
lemma read_of_shortName? (h : shortName? n = some short) :
    String.ofList (Text.lower (Text.trim short.toList)) = short ∧ ':' ∉ short.toList ∧
      '/' ∉ short.toList ∧ ∀ c ∈ short.toList, Text.isLineBreak c = false := by
  obtain ⟨-, rfl⟩ | ⟨-, rfl⟩ | ⟨-, rfl⟩ := cases_of_shortName? h <;>
    exact ⟨by decide +kernel, by decide, by decide, forall_line_of_all rfl⟩

/-- The line says the header under its short name. -/
lemma ofLine?_shortLine (l : List Char) :
    Header.ofLine? (shortLine l) = (Header.ofLine? l).map Header.shortened := by
  obtain ⟨hsame, hheader⟩ | ⟨name, value, short, -, hcut, hshort, hline⟩ := shortLine_cases l
  · rw [hsame, hheader]
  · obtain ⟨hread, hcolon, -, -⟩ := read_of_shortName? hshort
    have hcut' : Text.cutAt [':'] (short.toList ++ ':' :: value) = some (short.toList, value) := by
      have hself : Text.cutAt [':'] (':' :: value) = some ([], value) := Text.cutAt_self [':'] value
      rw [Text.cutAt_append hcolon, hself, Option.map_some]
      simp
    rw [hline, Header.ofLine?, Header.ofLine?, hcut', hcut]
    simp only [Option.map_some, Header.shortened, hread, hshort, Option.getD_some]

/-- Only an empty line becomes empty. -/
lemma shortLine_eq_nil_iff (l : List Char) : shortLine l = [] ↔ l = [] := by
  obtain ⟨hsame, -⟩ | ⟨name, value, short, hl, -, -, hline⟩ := shortLine_cases l
  · rw [hsame]
  · rw [hline, hl]
    simp

/-- A line stays one line. -/
lemma shortLine_line (l : List Char) (h : ∀ c ∈ l, Text.isLineBreak c = false) :
    ∀ c ∈ shortLine l, Text.isLineBreak c = false := by
  obtain ⟨hsame, -⟩ | ⟨name, value, short, hl, -, hshort, hline⟩ := shortLine_cases l
  · rw [hsame]
    exact h
  · rw [hl, List.forall_mem_append] at h
    rw [hline, List.forall_mem_append]
    exact ⟨(read_of_shortName? hshort).2.2.2, h.2⟩

/-- The name of a header with a short name has no slash in it. -/
lemma slash_not_mem (h : shortName? (String.ofList (Text.lower (Text.trim name))) = some short) :
    '/' ∉ name := by
  have hkept : ∀ (cs : List Char) (behind : Bool), '/' ∈ cs → '/' ∈ Text.lowerAfter behind cs := by
    intro cs
    induction cs with
    | nil => exact fun _ hin => absurd hin List.not_mem_nil
    | cons c cs ih =>
      intro behind hin
      rw [Text.lowerAfter]
      rcases List.mem_cons.mp hin with rfl | hin
      · exact List.mem_append_left _ (List.mem_singleton_self '/')
      · exact List.mem_append_right _ (ih _ hin)
  intro hin
  have htrim := hkept _ false (Text.mem_trim_of_mem rfl hin)
  obtain ⟨hname, -⟩ | ⟨hname, -⟩ | ⟨hname, -⟩ := cases_of_shortName? h <;>
    · have hlower := congrArg String.toList hname
      rw [String.toList_ofList, Text.lower] at hlower
      rw [hlower] at htrim
      revert htrim
      decide

/-- The version stands in a line whatever the name of the header. -/
lemma version_infix_shortLine (l : List Char) :
    version.toList <:+: shortLine l ↔ version.toList <:+: l := by
  have hcolon : ':' ∉ version.toList := by decide
  have hslash : ∀ cs : List Char, '/' ∉ cs → ¬ version.toList <:+: cs := by
    intro cs hcs hin
    exact hcs (hin.subset (by decide))
  obtain ⟨hsame, -⟩ | ⟨name, value, short, hl, -, hshort, hline⟩ := shortLine_cases l
  · rw [hsame]
  · rw [hline, hl, Text.infix_append_cons_iff hcolon, Text.infix_append_cons_iff hcolon]
    refine or_congr_left (iff_of_false (hslash _ ?_) (hslash _ (slash_not_mem hshort)))
    exact (read_of_shortName? hshort).2.2.1

/-! ## Texts -/

/-- The text with short names in the place of full ones, in the lines of its head behind the
first. -/
def shortNamed (cs : List Char) : List Char :=
  ((Text.Broken.ofText (Text.headOf cs)).map shortLine shortLine_line).text ++
    cs.drop (Text.headOf cs).length

/-- The short names move no empty line: the head ends where it did, and the body is the same. -/
lemma cutAt_shortNamed (cs : List Char) :
    (Text.cutAt ['\n', '\n'] (shortNamed cs)).getD (shortNamed cs, []) =
      (((Text.Broken.ofText (Text.headOf cs)).map shortLine shortLine_line).text,
        ((Text.cutAt ['\n', '\n'] cs).getD (cs, [])).2) := by
  have hblank := (Text.Broken.ofText (Text.headOf cs)).infix_newlines_text_map shortLine_line
    shortLine_eq_nil_iff
  rw [Text.Broken.text_ofText] at hblank
  unfold shortNamed
  generalize ((Text.Broken.ofText (Text.headOf cs)).map shortLine shortLine_line).text = head
    at hblank ⊢
  unfold Text.headOf at hblank ⊢
  cases hcut : Text.cutAt ['\n', '\n'] cs with
  | none =>
    rw [hcut] at hblank
    have hnone := hblank []
    rw [List.append_nil, List.append_nil, ← Text.isSome_cutAt_iff, ← Text.isSome_cutAt_iff,
      Option.getD_none, hcut] at hnone
    have hhead : Text.cutAt ['\n', '\n'] head = none := by
      rw [← Option.not_isSome_iff_eq_none, hnone]
      exact Bool.false_ne_true
    simp [hhead]
  | some parts =>
    obtain ⟨front, body⟩ := parts
    rw [hcut] at hblank
    obtain rfl := Text.eq_of_cutAt hcut
    have hhead : Text.cutAt ['\n', '\n'] (head ++ '\n' :: '\n' :: body) = some (head, body) := by
      rw [Text.cutAt_blankLine_iff, hblank ['\n']]
      exact Text.cutAt_blankLine_iff.mp hcut
    simp [hhead]

/-- The short names take the version from no place, and bring it to none. -/
lemma version_infix_shortNamed (cs : List Char) :
    version.toList <:+: shortNamed cs ↔ version.toList <:+: cs := by
  have hfeed : '\n' ∉ version.toList := by decide
  have hline : ∀ c ∈ version.toList, Text.isLineBreak c = false := forall_line_of_all rfl
  have hhead : version.toList <:+:
      ((Text.Broken.ofText (Text.headOf cs)).map shortLine shortLine_line).text ↔
        version.toList <:+: Text.headOf cs := by
    conv_rhs => rw [← Text.Broken.text_ofText (Text.headOf cs)]
    rw [Text.Broken.infix_text_iff _ hline, Text.Broken.infix_text_iff _ hline]
    refine or_congr_right ⟨?_, ?_⟩
    · rintro ⟨s, hs, hin⟩
      obtain ⟨t, ht, rfl⟩ := List.mem_map.mp hs
      exact ⟨t, ht, (version_infix_shortLine t.2).mp hin⟩
    · rintro ⟨s, hs, hin⟩
      exact ⟨_, List.mem_map_of_mem hs, (version_infix_shortLine s.2).mpr hin⟩
  obtain ⟨behind, hcs, hbehind⟩ := Text.exists_behind_headOf cs
  unfold shortNamed
  generalize Text.headOf cs = head at hcs hhead ⊢
  subst hcs
  rw [List.drop_left]
  obtain rfl | ⟨body, rfl⟩ := hbehind
  · rw [List.append_nil, List.append_nil, hhead]
  · rw [Text.infix_append_cons_iff hfeed, Text.infix_append_cons_iff hfeed, hhead]

variable {cs : List Char}

/-- The start line of a text is the first line of its head. -/
lemma startLine_ofUnified (b : Text.Broken) (hhead : Text.headOf cs = b.text) :
    (Message.ofUnified cs).startLine = String.ofList (Text.trim b.first) := by
  have hfirst := congrArg Prod.fst b.gist_lines_text
  rw [← hhead] at hfirst
  exact congrArg (fun l => String.ofList (Text.trim l)) hfirst

/-- The headers of a text are those of the other lines of its head. -/
lemma headers_ofUnified (b : Text.Broken) (hhead : Text.headOf cs = b.text) :
    (Message.ofUnified cs).headers = headersOf (b.rest.map (·.2)) := by
  have hgist := b.gist_lines_text
  rw [← hhead] at hgist
  exact headersOf_tail_of_gist hgist

/-- The body of a text stands behind its head. -/
lemma body_ofUnified (cs : List Char) : (Message.ofUnified cs).body =
    String.ofList ((Text.cutAt ['\n', '\n'] cs).getD (cs, [])).2 :=
  rfl

/-- With the short names a text has the start line and the body that it had, and all headers of its
lines under their short names. -/
lemma ofUnified_shortNamed (cs : List Char) :
    ∃ hs : List Header, (Message.ofUnified cs).headers = hs.foldl addHeader [] ∧
      Message.ofUnified (shortNamed cs) =
        { startLine := (Message.ofUnified cs).startLine
          headers := (hs.map Header.shortened).foldl addHeader []
          body := (Message.ofUnified cs).body } := by
  have hcut := cutAt_shortNamed cs
  have htext := (Text.Broken.text_ofText (Text.headOf cs)).symm
  generalize Text.Broken.ofText (Text.headOf cs) = b at hcut htext
  have htext' : Text.headOf (shortNamed cs) = (b.map shortLine shortLine_line).text :=
    congrArg Prod.fst hcut
  have hheaders : ((b.rest.map fun s => (s.1, shortLine s.2)).map (·.2)).filterMap Header.ofLine? =
      ((b.rest.map (·.2)).filterMap Header.ofLine?).map Header.shortened := by
    rw [List.map_filterMap, List.map_map, List.filterMap_map, List.filterMap_map]
    exact List.filterMap_congr fun s _ => ofLine?_shortLine s.2
  refine ⟨(b.rest.map Prod.snd).filterMap Header.ofLine?, headers_ofUnified b htext, ?_⟩
  have hstart := (startLine_ofUnified _ htext').trans (startLine_ofUnified b htext).symm
  have hbody : (Message.ofUnified (shortNamed cs)).body = (Message.ofUnified cs).body := by
    rw [body_ofUnified, body_ofUnified, hcut]
  rw [← hheaders, ← hstart, ← hbody]
  exact congrArg (fun hs => Message.mk _ hs _) (headers_ofUnified _ htext')

/-! ## Headers under their short names -/

section Headers

variable {hs : List Header} {k : Header}

/-- A header has no name that has a short one. -/
lemma Header.name_shortened_ne (h : shortName? long = some short) : k.shortened.name ≠ long := by
  intro hname
  unfold Header.shortened at hname
  cases hk : shortName? k.name with
  | none =>
    rw [hk, Option.getD_none] at hname
    rw [hname, h] at hk
    cases hk
  | some short' =>
    rw [hk, Option.getD_some] at hname
    have hname : short' = long := hname
    have hnone := shortName?_short hk
    rw [hname, h] at hnone
    cases hnone

/-- A header gets a short name from the full one, unless it had it before. -/
lemma Header.name_shortened_eq_iff (h : shortName? long = some short) (hother : k.name ≠ short) :
    k.shortened.name = short ↔ k.name = long := by
  unfold Header.shortened
  constructor
  · intro hname
    cases hk : shortName? k.name with
    | none =>
      rw [hk, Option.getD_none] at hname
      exact absurd hname hother
    | some short' =>
      rw [hk, Option.getD_some] at hname
      exact shortName?_inj h (hname ▸ hk)
  · intro hname
    rw [hname, h, Option.getD_some]

/-- A name that is neither short nor has a short one stays. -/
lemma Header.name_shortened_of_other (hlong : shortName? n = none)
    (hshort : ∀ long, shortName? long ≠ some n) : k.shortened.name = n ↔ k.name = n := by
  unfold Header.shortened
  cases hk : shortName? k.name with
  | none => exact Iff.rfl
  | some short' =>
    refine iff_of_false (fun hname => hshort k.name (hname ▸ hk)) fun hname => ?_
    rw [hname, hlong] at hk
    cases hk

/-- The first header of a name is the first one that had the name it comes from. -/
lemma find?_shortened {name : String} (h : ∀ k ∈ hs, k.shortened.name = name ↔ k.name = n) :
    ((hs.map Header.shortened).find? (·.name == name)).map (·.value) =
      (hs.find? (·.name == n)).map (·.value) := by
  induction hs with
  | nil => rfl
  | cons k hs ih =>
    obtain ⟨hk, hlater⟩ := List.forall_mem_cons.mp h
    have hsame : (k.shortened.name == name) = (k.name == n) := by
      rw [Bool.eq_iff_iff, beq_iff_eq, beq_iff_eq]
      exact hk
    rw [List.map_cons, List.find?_cons, List.find?_cons, hsame]
    split
    · rfl
    · exact ih hlater

end Headers

/-- The message has no header under a short name. -/
def Message.HasNoShortNames (m : Message) : Prop :=
  ∀ short ∈ ["i", "f", "t"], m.header? short = none

instance : DecidablePred Message.HasNoShortNames := fun m =>
  inferInstanceAs (Decidable (∀ short ∈ ["i", "f", "t"], m.header? short = none))

/-- So it has none under the short name of any header. -/
lemma Message.HasNoShortNames.header?_eq_none (h : m.HasNoShortNames)
    (hname : shortName? long = some short) : m.header? short = none := by
  obtain ⟨-, rfl⟩ | ⟨-, rfl⟩ | ⟨-, rfl⟩ := cases_of_shortName? hname <;> exact h _ (by decide)

/-- Under the short names a message has the headers that it had under the full ones. -/
lemma header?_shortNamed (h : (Message.ofUnified cs).HasNoShortNames) :
    (∀ long short, shortName? long = some short →
      (Message.ofUnified (shortNamed cs)).header? long = none ∧
      (Message.ofUnified (shortNamed cs)).header? short = (Message.ofUnified cs).header? long) ∧
    (Message.ofUnified (shortNamed cs)).header? "cseq" = (Message.ofUnified cs).header? "cseq" := by
  obtain ⟨hs, hheaders, hshort⟩ := ofUnified_shortNamed cs
  have hfind : ∀ name, (Message.ofUnified cs).header? name =
      (hs.find? (·.name == name)).map (·.value) := by
    intro name
    rw [Message.header?, hheaders, find?_foldl_addHeader, List.find?_nil, Option.none_or]
  have hfind' : ∀ name, (Message.ofUnified (shortNamed cs)).header? name =
      ((hs.map Header.shortened).find? (·.name == name)).map (·.value) := by
    intro name
    rw [Message.header?, hshort, find?_foldl_addHeader, List.find?_nil, Option.none_or]
  constructor
  · intro long short hname
    have hnone := h.header?_eq_none hname
    rw [hfind, Option.map_eq_none_iff, List.find?_eq_none] at hnone
    rw [hfind', hfind', hfind]
    constructor
    · rw [Option.map_eq_none_iff, List.find?_eq_none]
      intro k hk heq
      obtain ⟨k, -, rfl⟩ := List.mem_map.mp hk
      exact Header.name_shortened_ne hname (beq_iff_eq.mp heq)
    · refine find?_shortened fun k hk => Header.name_shortened_eq_iff hname fun heq => ?_
      exact hnone k hk (beq_iff_eq.mpr heq)
  · rw [hfind', hfind]
    refine find?_shortened fun k _ => Header.name_shortened_of_other rfl fun long hlong => ?_
    obtain ⟨-, hname⟩ | ⟨-, hname⟩ | ⟨-, hname⟩ := cases_of_shortName? hlong <;>
      exact absurd hname (by decide)

/-- A value counts under the full name only if it is not empty. -/
lemma headerOr?_of_hasNoShortNames (h : m.HasNoShortNames)
    (hname : shortName? long = some short) :
    m.headerOr? long short = (m.header? long).filter (!·.isEmpty) := by
  have h := h.header?_eq_none hname
  unfold Message.headerOr?
  cases m.header? long with
  | none => exact h
  | some v => cases hv : v.isEmpty <;> simp [h, hv, Option.filter]

/-- Under the short name it counts as it is. -/
lemma headerOr?_shortNamed (h : (Message.ofUnified cs).HasNoShortNames)
    (hname : shortName? long = some short) :
    (Message.ofUnified (shortNamed cs)).headerOr? long short =
      (Message.ofUnified cs).header? long := by
  obtain ⟨hlong, hshort⟩ := (header?_shortNamed h).1 long short hname
  unfold Message.headerOr?
  rw [hlong]
  exact hshort

/-- For an identity an empty value is as good as none. -/
lemma identity?_filter (value : Option String) :
    identity? (value.filter (!·.isEmpty)) = identity? value := by
  cases value with
  | none => rfl
  | some v => cases hv : v.isEmpty <;> simp [identity?, hv, Option.filter]

end VoipCalls.Sip
