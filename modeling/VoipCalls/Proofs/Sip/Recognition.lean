import Mathlib.Data.List.Basic
import Mathlib.Data.List.TakeWhile
import VoipCalls.Proofs.Sip.Events
import VoipCalls.Proofs.Text.Cutting

/-!
# What is taken for a SIP message

A packet is looked at if it has addresses and names the version anywhere in what it carries.  Then
its start line decides.  `IsRequestLine` and `IsStatusLine` say what a SIP message starts with.

A line that begins with the version is dropped unless it is a status line.  No other line is
dropped, be it a request line or not (`Sip.isSome_packetEvent?_iff`): a packet that only mentions
the version becomes an event that has no method and no state, and is labelled with a question mark.
`Sip.events_recognition` says this of all events of a capture, and `Sip.events_straySegment` shows
such an event.
-/

namespace VoipCalls.Sip

variable {line : String} {e : Event} {cs : List Char}

/-! ## Start lines -/

/-- The line begins with the version. -/
def BeginsWithVersion (line : String) : Prop :=
  version.toList <+: line.toList

instance : DecidablePred BeginsWithVersion := fun line =>
  inferInstanceAs (Decidable (version.toList <+: line.toList))

/-- The line is one of a request: it has at least three words, and the last one is the version. -/
def IsRequestLine (line : String) : Prop :=
  3 ≤ (Text.words line.toList).length ∧
    (Text.words line.toList).getLast? = some version.toList

instance : DecidablePred IsRequestLine := fun line =>
  inferInstanceAs (Decidable (3 ≤ (Text.words line.toList).length ∧
    (Text.words line.toList).getLast? = some version.toList))

/-- Blanks, and a code of three digits behind them. -/
def BeginsWithCode (cs : List Char) : Prop :=
  ∃ blanks code reason, cs = blanks ++ (code ++ reason) ∧
    blanks ≠ [] ∧ (∀ c ∈ blanks, Text.isBlank c = true) ∧
    code.length = 3 ∧ ∀ c ∈ code, (Text.decimalValue? c).isSome = true

/-- The line is one of a response: the version, blanks, a code of three digits, and a reason. -/
def IsStatusLine (line : String) : Prop :=
  ∃ rest, line.toList = version.toList ++ rest ∧ BeginsWithCode rest

/-- A status line begins with the version. -/
lemma IsStatusLine.beginsWithVersion (h : IsStatusLine line) : BeginsWithVersion line := by
  obtain ⟨rest, hrest, -⟩ := h
  exact ⟨rest, hrest.symm⟩

/-! ## Reading a status line -/

/-- No digit is blank. -/
lemma isBlank_of_digit {c : Char} (h : (Text.decimalValue? c).isSome = true) :
    Text.isBlank c = false := by
  have htable : ∀ z ∈ Text.digitZeros, ∀ d < 10, ∀ n, n = z + d →
      ((9 ≤ n && n ≤ 13) || (28 ≤ n && n ≤ 32) || n == 0x85 || n == 0xA0 || n == 0x1680 ||
        (0x2000 ≤ n && n ≤ 0x200A) || n == 0x2028 || n == 0x2029 || n == 0x202F || n == 0x205F ||
        n == 0x3000) = false := by
    intro z hz d hd n hn
    subst hn
    revert z d
    decide
  unfold Text.decimalValue? at h
  rw [Option.isSome_map, List.find?_isSome] at h
  obtain ⟨z, hz, hrange⟩ := h
  simp only [Bool.and_eq_true, decide_eq_true_eq] at hrange
  exact htable z hz (c.toNat - z) (by omega) c.toNat (by omega)

/-- Three decimal digits that denote a number. -/
def DenotesCode (code : List Char) (n : ℕ) : Prop :=
  code.length = 3 ∧ (code.mapM Text.decimalValue?).map (Text.ofDigits 10) = some n

instance (code : List Char) (n : ℕ) : Decidable (DenotesCode code n) :=
  inferInstanceAs (Decidable (code.length = 3 ∧
    (code.mapM Text.decimalValue?).map (Text.ofDigits 10) = some n))

/-- Characters that denote a number are digits. -/
lemma DenotesCode.isSome_digit {code : List Char} {n : ℕ} (h : DenotesCode code n) :
    ∀ c ∈ code, (Text.decimalValue? c).isSome = true := by
  obtain ⟨hlength, hdigits⟩ := h
  obtain ⟨x, y, z, rfl⟩ := List.length_eq_three.mp hlength
  cases hx : Text.decimalValue? x <;> cases hy : Text.decimalValue? y <;>
    cases hz : Text.decimalValue? z <;> simp [hx, hy, hz] at hdigits ⊢

/-- Three digits denote a number. -/
lemma exists_denotesCode {code : List Char} (hlength : code.length = 3)
    (hdigits : ∀ c ∈ code, (Text.decimalValue? c).isSome = true) : ∃ n, DenotesCode code n := by
  obtain ⟨a, b, c, rfl⟩ := List.length_eq_three.mp hlength
  simp only [List.mem_cons, List.not_mem_nil, or_false, forall_eq_or_imp, forall_eq,
    Option.isSome_iff_exists] at hdigits
  obtain ⟨⟨x, hx⟩, ⟨y, hy⟩, ⟨z, hz⟩⟩ := hdigits
  exact ⟨Text.ofDigits 10 [x, y, z], rfl, by simp [hx, hy, hz]⟩

/-- The code at the beginning of a text is read, and nothing else is. -/
lemma threeDigits?_eq_some_iff {n : ℕ} {tail : List Char} :
    threeDigits? cs = some (n, tail) ↔ ∃ code, cs = code ++ tail ∧ DenotesCode code n := by
  constructor
  · intro h
    match cs, h with
    | a :: b :: c :: rest, h =>
      cases ha : Text.decimalValue? a <;> cases hb : Text.decimalValue? b <;>
        cases hc : Text.decimalValue? c <;> simp [threeDigits?, ha, hb, hc] at h
      obtain ⟨rfl, rfl⟩ := h
      exact ⟨[a, b, c], rfl, rfl, by simp [ha, hb, hc]⟩
  · rintro ⟨code, rfl, hlength, hdigits⟩
    obtain ⟨a, b, c, rfl⟩ := List.length_eq_three.mp hlength
    cases ha : Text.decimalValue? a <;> cases hb : Text.decimalValue? b <;>
      cases hc : Text.decimalValue? c <;> simp [ha, hb, hc] at hdigits
    simp [threeDigits?, ha, hb, hc, hdigits]

/-- Blanks in front of a code are trimmed away. -/
lemma trimLeft_append_code {blanks code : List Char} {n : ℕ}
    (hblanks : ∀ c ∈ blanks, Text.isBlank c = true) (hcode : DenotesCode code n)
    (tail : List Char) : Text.trimLeft (blanks ++ (code ++ tail)) = code ++ tail := by
  refine Text.trimLeft_append hblanks fun c hc => isBlank_of_digit (hcode.isSome_digit c ?_)
  cases code with
  | nil => cases hcode.1
  | cons d code => exact Option.some.inj hc ▸ List.mem_cons_self

/-- Behind the version a code and its reason are read exactly if blanks, three digits and a tail
stand there, and the tail is on one line but for the blanks it begins with.  The reason is that
tail, whatever it begins with. -/
lemma statusLine?_eq_some_iff (hlast : cs.getLast? ≠ some '\n') {n : ℕ} {reason : List Char} :
    statusLine? cs = some (n, reason) ↔
      ∃ blanks code tail, cs = blanks ++ (code ++ tail) ∧ blanks ≠ [] ∧
        (∀ c ∈ blanks, Text.isBlank c = true) ∧ DenotesCode code n ∧
        '\n' ∉ Text.trimLeft tail ∧ reason = Text.trim tail := by
  -- a line feed at the end of the reason would be one at the end of the text
  have hkept : ∀ {front tail : List Char}, cs = front ++ tail →
      (Text.trimLeft tail).getLast? ≠ some '\n' := by
    rintro front tail rfl hend
    obtain ⟨dropped, hdropped⟩ := List.dropWhile_suffix (l := tail) Text.isBlank
    apply hlast
    rw [← hdropped, ← List.append_assoc, List.getLast?_append]
    unfold Text.trimLeft at hend
    rw [hend]
    rfl
  constructor
  · intro h
    have hparts : cs = cs.takeWhile Text.isBlank ++ Text.trimLeft cs :=
      List.takeWhile_append_dropWhile.symm
    have hspaced : (Text.trimLeft cs).length ≠ cs.length := by
      intro hlength
      simp [statusLine?, hlength] at h
    cases hthree : threeDigits? (Text.trimLeft cs) with
    | none => simp [statusLine?, hthree] at h
    | some p =>
      obtain ⟨m, tail⟩ := p
      obtain ⟨code, hcode, hdenotes⟩ := threeDigits?_eq_some_iff.mp hthree
      have hfront : cs = cs.takeWhile Text.isBlank ++ code ++ tail := by
        rw [List.append_assoc, ← hcode]
        exact hparts
      have hend := hkept hfront
      by_cases hin : '\n' ∈ Text.trimLeft tail
      · simp [statusLine?, hspaced, hthree, hend, hin] at h
      obtain ⟨rfl, rfl⟩ : m = n ∧ Text.trim tail = reason := by
        simpa [statusLine?, hspaced, hthree, hend, hin, Text.trim_trimLeft] using h
      refine ⟨cs.takeWhile Text.isBlank, code, tail, ?_, ?_, ?_, hdenotes, hin, rfl⟩
      · rw [← hcode]
        exact hparts
      · intro hnone
        rw [hnone, List.nil_append] at hparts
        exact hspaced (congrArg List.length hparts.symm)
      · exact fun c hc => List.mem_takeWhile_imp hc
  · rintro ⟨blanks, code, tail, rfl, hne, hblanks, hcode, hline, rfl⟩
    have hthree : threeDigits? (code ++ tail) = some (n, tail) :=
      threeDigits?_eq_some_iff.mpr ⟨code, rfl, hcode⟩
    have hend := hkept (List.append_assoc blanks code tail).symm
    unfold statusLine?
    simp [trimLeft_append_code hblanks hcode, hne, hthree, hend, hline, Text.trim_trimLeft]

/-- Behind the version a status line is read exactly if a code stands there, on a line without a
line feed. -/
lemma isSome_statusLine?_iff (hline : '\n' ∉ cs) :
    (statusLine? cs).isSome = true ↔ BeginsWithCode cs := by
  have hlast : cs.getLast? ≠ some '\n' := fun hlast => hline (List.mem_of_getLast? hlast)
  rw [Option.isSome_iff_exists]
  constructor
  · rintro ⟨⟨n, reason⟩, h⟩
    obtain ⟨blanks, code, tail, hcs, hne, hblanks, hcode, -⟩ := (statusLine?_eq_some_iff hlast).mp h
    exact ⟨blanks, code, tail, hcs, hne, hblanks, hcode.1, hcode.isSome_digit⟩
  · rintro ⟨blanks, code, tail, rfl, hne, hblanks, hlength, hdigits⟩
    obtain ⟨n, hcode⟩ := exists_denotesCode hlength hdigits
    have htail : '\n' ∉ Text.trimLeft tail := by
      intro hin
      apply hline
      exact List.mem_append_right _
        (List.mem_append_right _ ((List.dropWhile_sublist _).subset hin))
    exact ⟨(n, Text.trim tail), (statusLine?_eq_some_iff hlast).mpr
      ⟨blanks, code, tail, rfl, hne, hblanks, hcode, htail, rfl⟩⟩

/-! ## Reading a start line -/

/-- A line that begins with the version is one of a response, and has a code exactly if it is a
status line. -/
lemma ofText_of_version (hline : '\n' ∉ line.toList) (h : BeginsWithVersion line) :
    (StartLine.ofText line).isRequest = false ∧
      ((StartLine.ofText line).status.isSome = true ↔ IsStatusLine line) := by
  obtain ⟨rest, hrest⟩ := h
  have hafter : Text.after? version.toList line.toList = some rest :=
    Text.after?_eq_some_iff.mpr hrest.symm
  have hstatus : IsStatusLine line ↔ BeginsWithCode rest := by
    constructor
    · rintro ⟨rest', hrest', hcode⟩
      obtain rfl : rest = rest' := List.append_cancel_left (hrest.trans hrest')
      exact hcode
    · exact fun hcode => ⟨rest, hrest.symm, hcode⟩
  have hnewline : '\n' ∉ rest := fun hin => hline (hrest ▸ List.mem_append_right _ hin)
  rw [hstatus, ← isSome_statusLine?_iff hnewline]
  unfold StartLine.ofText
  rw [hafter]
  dsimp only
  cases statusLine? rest with
  | none => exact ⟨rfl, Iff.rfl⟩
  | some p => exact ⟨rfl, iff_of_true rfl rfl⟩

/-- The first word of a line, in upper case. -/
def methodOf (line : String) : String :=
  String.ofList (Text.upper ((Text.words line.toList).headD []))

/-- Any other line is one of a request. -/
lemma ofText_of_not_version (h : ¬ BeginsWithVersion line) :
    StartLine.ofText line =
      match Text.words line.toList with
      | method :: _ :: ws =>
        if ws.getLast? = some version.toList then
          { isRequest := true, method := some (String.ofList (Text.upper method)) }
        else { isRequest := true }
      | _ => { isRequest := true } := by
  have hafter : Text.after? version.toList line.toList = none := by
    rw [← Option.not_isSome_iff_eq_none, Text.isSome_after?_iff]
    exact h
  unfold StartLine.ofText
  generalize Text.after? version.toList line.toList = rest at hafter ⊢
  subst hafter
  rfl

/-- A request line has its first word as its method. -/
lemma ofText_of_requestLine (h : ¬ BeginsWithVersion line) (hline : IsRequestLine line) :
    StartLine.ofText line = { isRequest := true, method := some (methodOf line) } := by
  obtain ⟨hlength, hlast⟩ := hline
  rw [ofText_of_not_version h, methodOf]
  match hwords : Text.words line.toList with
  | [] | [_] | [_, _] => simp [hwords] at hlength
  | method :: address :: w :: ws =>
    rw [hwords, List.getLast?_cons_cons, List.getLast?_cons_cons] at hlast
    exact if_pos hlast

/-- A line that is neither has no method. -/
lemma ofText_of_neither (h : ¬ BeginsWithVersion line) (hline : ¬ IsRequestLine line) :
    StartLine.ofText line = { isRequest := true } := by
  rw [ofText_of_not_version h]
  match hwords : Text.words line.toList with
  | [] | [_] | [_, _] => rfl
  | method :: address :: w :: ws =>
    refine if_neg fun hlast => hline ⟨?_, ?_⟩
    · rw [hwords]
      exact Nat.le_add_left 3 ws.length
    · rw [hwords, List.getLast?_cons_cons, List.getLast?_cons_cons]
      exact hlast

/-! ## Packets -/

/-- The start line of what a packet carries, if the packet has addresses and names the version
anywhere. -/
def startLine? (p : Packet) : Option String :=
  let text := Text.Utf8.decodeLossy p.payload
  if p.ends.isSome && Text.occursIn version.toList text then
    some (Message.ofUnified (Text.unifyBreaks text)).startLine
  else none

/-- A start line is one line. -/
lemma newline_not_mem_startLine (cs : List Char) :
    '\n' ∉ (Message.ofUnified cs).startLine.toList := by
  unfold Message.ofUnified
  dsimp only
  rw [String.toList_ofList]
  intro hin
  have hfirst := Text.mem_of_mem_trim hin
  cases hlines : Text.lines ((Text.cutAt ['\n', '\n'] cs).getD (cs, [])).1 with
  | nil =>
    rw [hlines] at hfirst
    exact absurd hfirst List.not_mem_nil
  | cons l ls =>
    rw [hlines] at hfirst
    have hbreak := Text.isLineBreak_of_mem_lines (hlines ▸ List.mem_cons_self) '\n' hfirst
    cases hbreak

/-- What a packet becomes depends on its start line first. -/
lemma packetEvent?_eq (first : Double) (frame : ℕ) (p : Packet) :
    (startLine? p = none ∧ packetEvent? first frame p = none) ∨
    ∃ ends m, startLine? p = some m.startLine ∧ '\n' ∉ m.startLine.toList ∧
      packetEvent? first frame p = messageEvent? frame (p.time.sub first) ends m := by
  unfold startLine? packetEvent?
  cases p.ends with
  | none => exact Or.inl ⟨rfl, rfl⟩
  | some ends =>
    dsimp only
    cases hoccurs : Text.occursIn version.toList (Text.Utf8.decodeLossy p.payload) with
    | false => exact Or.inl ⟨rfl, rfl⟩
    | true =>
      obtain ⟨m, hm⟩ : ∃ m, m = Message.ofUnified
          (Text.unifyBreaks (Text.Utf8.decodeLossy p.payload)) := ⟨_, rfl⟩
      rw [← hm]
      refine Or.inr ⟨ends, m, rfl, ?_, rfl⟩
      rw [hm]
      exact newline_not_mem_startLine _

/-! ## Events -/

/-- What an event tells about the start line of its packet. -/
inductive Tells (line : String) (e : Event) : Prop
  /-- The event of a request has the first word of the line as its method. -/
  | request (hversion : ¬ BeginsWithVersion line) (hline : IsRequestLine line)
    (hmethod : e.method = some (methodOf line)) (hcomment : e.comment = some "SIP Request")
  /-- The event of a response has no method. -/
  | response (hline : IsStatusLine line) (hmethod : e.method = none)
    (hcomment : e.comment = some "SIP Status")
  /-- The event of any other line looks like one of a request, but has no method and no state. -/
  | neither (hversion : ¬ BeginsWithVersion line) (hline : ¬ IsRequestLine line)
    (hmethod : e.method = none) (hstate : e.callState = none)
    (hcomment : e.comment = some "SIP Request")
    (hlabel : e.frameLabel = "?" ∨ e.frameLabel = "? SDP")

/-- An event shows that its start line is that of a SIP message exactly if it has a method or is one
of a response. -/
lemma Tells.isMessage_iff (h : Tells line e) : IsRequestLine line ∨ IsStatusLine line ↔
    e.method.isSome = true ∨ e.comment = some "SIP Status" := by
  cases h with
  | request _ hline hmethod _ =>
    rw [hmethod]
    exact iff_of_true (Or.inl hline) (Or.inl rfl)
  | response hline _ hcomment => exact iff_of_true (Or.inr hline) (Or.inr hcomment)
  | neither hversion hline hmethod _ hcomment _ =>
    rw [hmethod, hcomment]
    refine iff_of_false ?_ (by decide)
    rintro (hrequest | hstatus)
    · exact hline hrequest
    · exact hversion hstatus.beginsWithVersion

variable {frame : ℕ} {time : Double} {ends : PacketEnds} {m : Message}

/-- A message becomes an event if its start line is one of a request or has a code. -/
lemma isSome_messageEvent? : (messageEvent? frame time ends m).isSome = true ↔
    (StartLine.ofText m.startLine).isRequest = true ∨
      (StartLine.ofText m.startLine).status.isSome = true := by
  unfold messageEvent?
  dsimp only
  cases (StartLine.ofText m.startLine).isRequest <;>
    cases (StartLine.ofText m.startLine).status <;> simp

/-- The parts of an event that are read off the start line. -/
lemma parts_of_messageEvent? (he : messageEvent? frame time ends m = some e) :
    e.method = (if (StartLine.ofText m.startLine).isRequest then
      (StartLine.ofText m.startLine).method else none) ∧
    e.comment = some (commentOf (StartLine.ofText m.startLine)) ∧
    (∃ answered, e.callState = (StartLine.ofText m.startLine).callState answered) ∧
    ∃ hasSdp, e.frameLabel = (StartLine.ofText m.startLine).label hasSdp := by
  unfold messageEvent? at he
  dsimp only at he
  split at he
  · cases he
  · obtain rfl := Option.some.inj he
    exact ⟨rfl, rfl, ⟨_, rfl⟩, ⟨_, rfl⟩⟩

/-- A message becomes an event unless its start line begins with the version and is no status
line. -/
lemma isSome_messageEvent?_iff (hline : '\n' ∉ m.startLine.toList) :
    (messageEvent? frame time ends m).isSome = true ↔
      (BeginsWithVersion m.startLine → IsStatusLine m.startLine) := by
  rw [isSome_messageEvent?]
  by_cases hversion : BeginsWithVersion m.startLine
  · obtain ⟨hrequest, hstatus⟩ := ofText_of_version hline hversion
    rw [hrequest, hstatus]
    simp [hversion]
  · have hrequest : (StartLine.ofText m.startLine).isRequest = true := by
      by_cases hwords : IsRequestLine m.startLine
      · rw [ofText_of_requestLine hversion hwords]
      · rw [ofText_of_neither hversion hwords]
    exact iff_of_true (Or.inl hrequest) fun h => absurd h hversion

/-- The event of a message tells about its start line. -/
lemma tells_of_messageEvent? (hline : '\n' ∉ m.startLine.toList)
    (he : messageEvent? frame time ends m = some e) : Tells m.startLine e := by
  have hkept := (isSome_messageEvent?_iff hline).mp (Option.isSome_iff_exists.mpr ⟨e, he⟩)
  obtain ⟨hmethod, hcomment, ⟨answered, hstate⟩, ⟨hasSdp, hlabel⟩⟩ := parts_of_messageEvent? he
  by_cases hversion : BeginsWithVersion m.startLine
  case pos =>
    obtain ⟨hrequest, -⟩ := ofText_of_version hline hversion
    unfold commentOf at hcomment
    rw [hrequest] at hmethod hcomment
    exact .response (hkept hversion) hmethod hcomment
  case neg =>
    by_cases hwords : IsRequestLine m.startLine
    case pos =>
      rw [ofText_of_requestLine hversion hwords] at hmethod hcomment
      exact .request hversion hwords hmethod hcomment
    case neg =>
      rw [ofText_of_neither hversion hwords] at hmethod hcomment hstate hlabel
      refine .neither hversion hwords hmethod hstate hcomment ?_
      cases hasSdp with
      | false => exact Or.inl hlabel
      | true => exact Or.inr (hlabel.trans (by decide))

/-- A packet becomes an event exactly if it has addresses and names the version, and its start line
does not begin with the version or is a status line. -/
theorem isSome_packetEvent?_iff (first : Double) (frame : ℕ) (p : Packet) :
    (packetEvent? first frame p).isSome = true ↔
      ∃ line, startLine? p = some line ∧ (BeginsWithVersion line → IsStatusLine line) := by
  rcases packetEvent?_eq first frame p with ⟨hnone, hevent⟩ | ⟨ends, m, hsome, hline, hevent⟩
  · simp [hnone, hevent]
  · rw [hsome, hevent, isSome_messageEvent?_iff hline]
    simp

/-- The event of a packet tells about its start line. -/
lemma tells_of_packetEvent? {first : Double} {p : Packet}
    (he : packetEvent? first frame p = some e) :
    ∃ line, startLine? p = some line ∧ Tells line e := by
  rcases packetEvent?_eq first frame p with ⟨-, hevent⟩ | ⟨ends, m, hsome, hline, hevent⟩
  · rw [hevent] at he
    cases he
  · rw [hevent] at he
    exact ⟨m.startLine, hsome, tells_of_messageEvent? hline he⟩

/-- Exactly these events come of a capture: a packet with addresses that names the version becomes
one, unless its start line begins with the version and is no status line.  The event tells about the
start line, and shows that it is one of a SIP message exactly if it has a method or is one of a
response. -/
theorem events_recognition (packets : List Packet) :
    (∀ i : ℕ, (∃ e ∈ events packets, e.frame = some ((i : Int) + 1)) ↔
      ∃ p line, packets[i]? = some p ∧ startLine? p = some line ∧
        (BeginsWithVersion line → IsStatusLine line)) ∧
    ∀ e ∈ events packets, ∃ (i : ℕ) (p : Packet) (line : String),
      e.frame = some ((i : Int) + 1) ∧ packets[i]? = some p ∧ startLine? p = some line ∧
        Tells line e ∧ (IsRequestLine line ∨ IsStatusLine line ↔
          e.method.isSome = true ∨ e.comment = some "SIP Status") := by
  refine ⟨fun i => ⟨?_, ?_⟩, fun e he => ?_⟩
  · rintro ⟨e, he, hframe⟩
    obtain ⟨j, -, hj⟩ := mem_events_iff.mp he
    obtain rfl : j = i := by
      have hnumber := frame_eventAt? hj
      rw [hframe, Option.some_inj] at hnumber
      omega
    obtain ⟨first, p, hp, hevent⟩ := exists_of_eventAt? hj
    obtain ⟨line, hline, hkept⟩ :=
      (isSome_packetEvent?_iff _ _ _).mp (Option.isSome_iff_exists.mpr ⟨e, hevent⟩)
    exact ⟨p, line, hp, hline, hkept⟩
  · rintro ⟨p, line, hp, hline, hkept⟩
    obtain ⟨first, hfirst⟩ := exists_eventAt?_eq hp
    obtain ⟨e, hevent⟩ := Option.isSome_iff_exists.mp
      ((isSome_packetEvent?_iff first (i + 1) p).mpr ⟨line, hline, hkept⟩)
    rw [← hfirst] at hevent
    exact ⟨e, mem_events_iff.mpr ⟨i, (List.getElem?_eq_some_iff.mp hp).1, hevent⟩,
      frame_eventAt? hevent⟩
  · obtain ⟨i, -, hi⟩ := mem_events_iff.mp he
    obtain ⟨first, p, hp, hevent⟩ := exists_of_eventAt? hi
    obtain ⟨line, hline, htells⟩ := tells_of_packetEvent? hevent
    exact ⟨i, p, line, frame_eventAt? hi, hp, hline, htells, htells.isMessage_iff⟩

/-- A packet whose start line is a greeting, and which names the version in a header. -/
def straySegment : Packet :=
  { time := .zero
    ends := some ⟨"10.0.0.1", "10.0.0.2"⟩
    payload := Text.Utf8.encode "hello\r\nVia: SIP/2.0/UDP x\r\n\r\n".toList }

/-- It becomes an event, although its start line is not that of a SIP message. -/
theorem events_straySegment :
    startLine? straySegment = some "hello" ∧ ¬ IsRequestLine "hello" ∧ ¬ IsStatusLine "hello" ∧
    ∃ e ∈ events [straySegment], e.frame = some 1 ∧ e.method = none ∧ e.callState = none ∧
      e.frameLabel = "?" := by
  have hversion : ¬ BeginsWithVersion "hello" := by decide
  exact ⟨by decide +kernel, by decide +kernel, fun h => hversion h.beginsWithVersion,
    by decide +kernel⟩

end VoipCalls.Sip
