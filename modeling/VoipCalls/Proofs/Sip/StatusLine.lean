import VoipCalls.Proofs.Sip.Recognition

/-!
# Status codes

A status line is the version, blanks, a code of three decimal digits, and a reason.  In the protocol
the line ends behind the code, or a blank stands there (`SaysStatus`).  The reader does not look for
it: whatever stands behind three digits is the reason (`HasCode`), a fourth digit or letters glued
to the code included.

`StartLine.ofText_statusLine` says of every trimmed line that begins with the version what is read
from it.  The reader agrees with the protocol about a line exactly if nothing is glued to the code
in it.  `StartLine.ofText_fourDigits` shows a line about which it does not.
-/

namespace VoipCalls.Sip

variable {line : String} {n m : ℕ} {tail tail' : List Char}

/-! ## Codes and what stands behind them -/

/-- The line is the version, blanks, three digits that denote a code, and a tail. -/
def HasCode (line : String) (n : ℕ) (tail : List Char) : Prop :=
  ∃ blanks code, line.toList = version.toList ++ (blanks ++ (code ++ tail)) ∧ blanks ≠ [] ∧
    (∀ c ∈ blanks, Text.isBlank c = true) ∧ DenotesCode code n

/-- Nothing is glued to the code: the line ends there, or the tail begins with a blank. -/
def IsApart (tail : List Char) : Prop :=
  tail.head?.all Text.isBlank = true

instance : DecidablePred IsApart := fun tail =>
  inferInstanceAs (Decidable (tail.head?.all Text.isBlank = true))

/-- The line says a code of exactly three digits, and the reason behind it. -/
def SaysStatus (line : String) (n : ℕ) (reason : String) : Prop :=
  ∃ tail, HasCode line n tail ∧ IsApart tail ∧ reason = String.ofList (Text.trim tail)

/-- The start line of a response with a code and a reason. -/
def response (n : ℕ) (reason : String) : StartLine :=
  { isRequest := false, status := some n, reason }

/-- Responses are the same if their codes and reasons are. -/
lemma response_inj {reason reason' : String} :
    response n reason = response m reason' ↔ n = m ∧ reason = reason' := by
  simp only [response, StartLine.mk.injEq, Option.some_inj, Int.natCast_inj, true_and]

/-- The code and the tail of a line are found behind the version and the blanks. -/
lemma HasCode.threeDigits?_eq (h : HasCode line n tail) :
    threeDigits? (Text.trimLeft (line.toList.drop version.toList.length)) = some (n, tail) := by
  obtain ⟨blanks, code, hline, -, hblanks, hcode⟩ := h
  rw [hline, List.drop_left, trimLeft_append_code hblanks hcode]
  exact threeDigits?_eq_some_iff.mpr ⟨code, rfl, hcode⟩

/-- A line has one code and one tail. -/
lemma HasCode.unique (h : HasCode line n tail) (h' : HasCode line m tail') :
    n = m ∧ tail = tail' := by
  have hread := h.threeDigits?_eq.symm.trans h'.threeDigits?_eq
  simpa using hread

/-- A line without line feeds has none in the tail. -/
lemma HasCode.newline_not_mem (h : HasCode line n tail) (hline : '\n' ∉ line.toList) :
    '\n' ∉ Text.trimLeft tail := by
  obtain ⟨blanks, code, hparts, -⟩ := h
  intro hin
  apply hline
  have htail : '\n' ∈ tail := (List.dropWhile_sublist _).subset hin
  rw [hparts]
  exact List.mem_append_right _ (List.mem_append_right _ (List.mem_append_right _ htail))

/-! ## Reading the code -/

/-- A line that begins with the version is read behind it. -/
lemma StartLine.ofText_version_append {rest : List Char}
    (hline : line.toList = version.toList ++ rest) :
    StartLine.ofText line =
      match statusLine? rest with
      | some (n, reason) => response n (String.ofList reason)
      | none => { isRequest := false } := by
  have hafter : Text.after? version.toList line.toList = some rest :=
    Text.after?_eq_some_iff.mpr hline
  unfold StartLine.ofText
  rw [hafter]
  rfl

/-- The code and the reason that are read from a line. -/
lemma StartLine.ofText_eq_response_iff (hlast : line.toList.getLast? ≠ some '\n')
    (hversion : BeginsWithVersion line) {reason : String} :
    StartLine.ofText line = response n reason ↔
      ∃ tail, HasCode line n tail ∧ '\n' ∉ Text.trimLeft tail ∧
        reason = String.ofList (Text.trim tail) := by
  obtain ⟨rest, hrest⟩ := hversion
  have hlast' : rest.getLast? ≠ some '\n' := by
    intro hend
    apply hlast
    rw [← hrest, List.getLast?_append, hend]
    rfl
  have hread : StartLine.ofText line = response n reason ↔
      statusLine? rest = some (n, reason.toList) := by
    rw [StartLine.ofText_version_append hrest.symm]
    cases statusLine? rest with
    | none => simp [response]
    | some p =>
      obtain ⟨m, reason'⟩ := p
      simp [response_inj, ← String.toList_inj]
  have hcode : ∀ {tail : List Char}, HasCode line n tail ↔
      ∃ blanks code, rest = blanks ++ (code ++ tail) ∧ blanks ≠ [] ∧
        (∀ c ∈ blanks, Text.isBlank c = true) ∧ DenotesCode code n := by
    intro tail
    unfold HasCode
    simp only [← hrest, List.append_cancel_left_eq]
  rw [hread, statusLine?_eq_some_iff hlast']
  constructor
  · rintro ⟨blanks, code, tail, hparts, hne, hblanks, hdenotes, htail, hreason⟩
    refine ⟨tail, hcode.mpr ⟨blanks, code, hparts, hne, hblanks, hdenotes⟩, htail, ?_⟩
    rw [← hreason, String.ofList_toList]
  · rintro ⟨tail, htail, hline, rfl⟩
    obtain ⟨blanks, code, hparts, hne, hblanks, hdenotes⟩ := hcode.mp htail
    exact ⟨blanks, code, tail, hparts, hne, hblanks, hdenotes, hline, String.toList_ofList⟩

/-- For every trimmed line that begins with the version: a code and a reason are read exactly if the
line is the version, blanks, three digits that denote the code, and a tail on one line, and then the
reason is that tail without the blanks around it.  Otherwise neither is read.

The protocol also wants the line to end behind the code, or a blank to stand there.  What is read is
what the line says by the protocol exactly if that is so in the line. -/
theorem StartLine.ofText_statusLine (hline : Text.strip line = line)
    (hversion : BeginsWithVersion line) :
    (∀ n reason, StartLine.ofText line = response n reason ↔
      ∃ tail, HasCode line n tail ∧ '\n' ∉ Text.trimLeft tail ∧
        reason = String.ofList (Text.trim tail)) ∧
    ((∀ n reason, StartLine.ofText line ≠ response n reason) →
      StartLine.ofText line = { isRequest := false }) ∧
    ('\n' ∉ line.toList →
      ((∀ n reason, StartLine.ofText line = response n reason ↔ SaysStatus line n reason) ↔
        ∀ n tail, HasCode line n tail → IsApart tail)) := by
  have hlast : line.toList.getLast? ≠ some '\n' := by
    intro hend
    have hblank := (Text.isTrimmed_of_strip hline).last '\n' hend
    cases hblank
  have hread := fun n reason =>
    (StartLine.ofText_eq_response_iff hlast hversion :
      StartLine.ofText line = response n reason ↔ _)
  refine ⟨hread, fun hnone => ?_, fun hfeed =>
    ⟨fun hlaw n tail htail => ?_, fun hapart n reason => ?_⟩⟩
  · obtain ⟨rest, hrest⟩ := hversion
    rw [StartLine.ofText_version_append hrest.symm] at hnone ⊢
    cases hstatus : statusLine? rest with
    | none => rfl
    | some p =>
      rw [hstatus] at hnone
      exact absurd rfl (hnone p.1 (String.ofList p.2))
  · have hresponse : StartLine.ofText line = response n (String.ofList (Text.trim tail)) :=
      (hread _ _).mpr ⟨tail, htail, htail.newline_not_mem hfeed, rfl⟩
    obtain ⟨tail', htail', hapart, -⟩ := (hlaw _ _).mp hresponse
    rw [(htail.unique htail').2]
    exact hapart
  · rw [hread]
    constructor
    · rintro ⟨tail, htail, -, hreason⟩
      exact ⟨tail, htail, hapart n tail htail, hreason⟩
    · rintro ⟨tail, htail, -, hreason⟩
      exact ⟨tail, htail, htail.newline_not_mem hfeed, hreason⟩

/-- The code and the reason of a line with a tab in front of the code and two blanks behind it. -/
theorem StartLine.ofText_busy :
    StartLine.ofText "SIP/2.0\t486  Busy Here" = response 486 "Busy Here" ∧
    SaysStatus "SIP/2.0\t486  Busy Here" 486 "Busy Here" := by
  have hcode : HasCode "SIP/2.0\t486  Busy Here" 486 "  Busy Here".toList :=
    ⟨['\t'], "486".toList, by decide, by decide, List.forall_mem_singleton.mpr rfl, by decide⟩
  have hsays : SaysStatus "SIP/2.0\t486  Busy Here" 486 "Busy Here" :=
    ⟨"  Busy Here".toList, hcode, by decide, by decide +kernel⟩
  have htrimmed : Text.strip "SIP/2.0\t486  Busy Here" = "SIP/2.0\t486  Busy Here" := by
    decide +kernel
  obtain ⟨-, -, hlaw⟩ := StartLine.ofText_statusLine htrimmed (by decide)
  have hagrees := (hlaw (by decide)).mpr fun n tail htail => by
    rw [← (hcode.unique htail).2]
    decide
  exact ⟨(hagrees 486 "Busy Here").mpr hsays, hsays⟩

/-- A line whose code has four digits.  By the protocol it says no code, and the first three digits
are read as one. -/
theorem StartLine.ofText_fourDigits :
    Text.strip "SIP/2.0 2000 OK" = "SIP/2.0 2000 OK" ∧ BeginsWithVersion "SIP/2.0 2000 OK" ∧
    (∀ n reason, ¬ SaysStatus "SIP/2.0 2000 OK" n reason) ∧
    StartLine.ofText "SIP/2.0 2000 OK" = response 200 "0 OK" := by
  have hcode : HasCode "SIP/2.0 2000 OK" 200 "0 OK".toList :=
    ⟨[' '], "200".toList, by decide, by decide, List.forall_mem_singleton.mpr rfl, by decide⟩
  refine ⟨by decide +kernel, by decide, ?_, by decide +kernel⟩
  rintro n reason ⟨tail, htail, hapart, -⟩
  rw [← (hcode.unique htail).2] at hapart
  exact absurd hapart (by decide)

end VoipCalls.Sip
