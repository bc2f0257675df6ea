import Mathlib.Data.List.Basic
import VoipCalls.Proofs.Text.Cutting
import VoipCalls.Sip.Message

/-!
# Writing SIP messages

A `Sip.Draft` is a message that can be written: a start line, some fields and a body, where the
start line and the fields each stay on one line.  `Sip.Draft.text` writes it, with either kind of
line break.

Reading a message undoes writing it (`Sip.Draft.ofText_text`).  Nothing is asked of the body.  It
stands behind the first empty line, and neither the start line nor a field can be mistaken for one
(`Text.cutAt_blankLine`).  Of several fields of one name the first is read, which is what adding
headers one by one amounts to (`Sip.find?_foldl_addHeader`).
-/

namespace VoipCalls.Sip

/-! ## Adding headers -/

section Headers

variable (hs ls : List Header) (h : Header) (name : String)

/-- A header that is added is found under its name, unless another one is. -/
lemma find?_addHeader : (addHeader hs h).find? (·.name == name) =
    (hs.find? (·.name == name)).or (if h.name = name then some h else none) := by
  unfold addHeader
  split
  · rename_i hany
    by_cases hname : h.name = name
    · subst hname
      obtain ⟨k, hk⟩ :=
        Option.isSome_iff_exists.mp (List.find?_isSome.mpr (List.any_eq_true.mp hany))
      rw [hk]
      rfl
    · rw [if_neg hname, Option.or_none]
  · rw [List.find?_append, List.find?_singleton]
    simp

/-- Of several headers of one name the first counts. -/
lemma find?_foldl_addHeader : (ls.foldl addHeader hs).find? (·.name == name) =
    (hs.find? (·.name == name)).or (ls.find? (·.name == name)) := by
  induction ls generalizing hs with
  | nil => exact (Option.or_none).symm
  | cons k ls ih =>
    rw [List.foldl_cons, ih, find?_addHeader, Option.or_assoc]
    by_cases hname : k.name = name
    · have hfirst : (k :: ls).find? (·.name == name) = some k :=
        List.find?_cons_of_pos (beq_iff_eq.mpr hname)
      rw [if_pos hname, hfirst]
      rfl
    · have hlater : (k :: ls).find? (·.name == name) = ls.find? (·.name == name) :=
        List.find?_cons_of_neg fun heq => hname (beq_iff_eq.mp heq)
      rw [if_neg hname, hlater]
      rfl

variable {hs ls}

/-- Adding a header keeps the names different. -/
lemma nodup_addHeader (hnames : (hs.map (·.name)).Nodup) :
    ((addHeader hs h).map (·.name)).Nodup := by
  unfold addHeader
  split
  · exact hnames
  · rename_i hany
    rw [List.map_append, List.nodup_append]
    refine ⟨hnames, List.pairwise_singleton _ _, fun n hn m hm hnm => hany ?_⟩
    obtain ⟨k, hk, rfl⟩ := List.mem_map.mp hn
    obtain rfl := List.mem_singleton.mp hm
    exact List.any_eq_true.mpr ⟨k, hk, beq_iff_eq.mpr hnm⟩

/-- So does adding several. -/
lemma nodup_foldl_addHeader (hnames : (hs.map (·.name)).Nodup) :
    ((ls.foldl addHeader hs).map (·.name)).Nodup := by
  induction ls generalizing hs with
  | nil => exact hnames
  | cons k ls ih => exact ih (nodup_addHeader k hnames)

end Headers

/-! ## Drafts -/

/-- A field of a message: a name without colons and a value, on one line. -/
structure Field where
  name : String
  value : String
  /-- There is no line break in the name. -/
  name_line : ∀ c ∈ name.toList, Text.isLineBreak c = false
  /-- There is no colon in the name. -/
  name_colon : ':' ∉ name.toList
  /-- There is no line break in the value. -/
  value_line : ∀ c ∈ value.toList, Text.isLineBreak c = false

/-- A message that can be written. -/
structure Draft where
  startLine : String
  fields : List Field
  body : String
  /-- The start line is not empty. -/
  start_ne : startLine ≠ ""
  /-- There are no blanks around the start line. -/
  start_trimmed : Text.strip startLine = startLine
  /-- There is no line break in the start line. -/
  start_line : ∀ c ∈ startLine.toList, Text.isLineBreak c = false

/-- How a line ends. -/
inductive LineEnd where
  | crlf
  | lf
deriving DecidableEq

/-- The text of a line end. -/
def LineEnd.text : LineEnd → String
  | .crlf => "\r\n"
  | .lf => "\n"

/-- The line of a field. -/
def Field.line (f : Field) : String :=
  f.name ++ ": " ++ f.value

/-- The header that a field stands for. -/
def Field.header (f : Field) : Header :=
  ⟨Text.toLower (Text.strip f.name), Text.strip f.value⟩

/-- The text of a message: the start line, the fields, an empty line and the body. -/
def Draft.text (d : Draft) (ending : LineEnd) : String :=
  d.startLine ++ ending.text ++ String.join (d.fields.map fun f => f.line ++ ending.text) ++
    ending.text ++ d.body

/-! ## Reading the lines -/

/-- The line of a field is written. -/
lemma Field.isWritten (f : Field) : Text.IsWritten f.line.toList := by
  have hline : f.line.toList = f.name.toList ++ ':' :: ' ' :: f.value.toList := by
    simp [Field.line]
  rw [hline]
  refine ⟨by simp, fun c hc => ?_⟩
  rcases List.mem_append.mp hc with hname | hvalue
  · exact f.name_line c hname
  · rcases List.mem_cons.mp hvalue with rfl | hvalue
    · rfl
    · rcases List.mem_cons.mp hvalue with rfl | hvalue
      · rfl
      · exact f.value_line c hvalue

/-- The line of a field is read as its header. -/
lemma Field.ofLine?_line (f : Field) : Header.ofLine? f.line.toList = some f.header := by
  have hline : f.line.toList = f.name.toList ++ ([':'] ++ ' ' :: f.value.toList) := by
    simp [Field.line]
  have htrim : Text.trim (' ' :: f.value.toList) = Text.trim f.value.toList :=
    Text.trim_cons_of_isBlank rfl _
  unfold Header.ofLine?
  rw [hline, Text.cutAt_append f.name_colon, Text.cutAt_self]
  simp [Field.header, Text.toLower, Text.strip, htrim]

/-- The start line is written. -/
lemma Draft.isWritten_startLine (d : Draft) : Text.IsWritten d.startLine.toList :=
  ⟨fun hnil => d.start_ne (String.toList_eq_nil_iff.mp hnil), d.start_line⟩

/-- The start line is read as it is. -/
lemma Draft.trim_startLine (d : Draft) : Text.trim d.startLine.toList = d.startLine.toList := by
  have htrimmed := congrArg String.toList d.start_trimmed
  rwa [Text.strip, String.toList_ofList] at htrimmed

/-- A line end of either kind becomes a line feed. -/
lemma LineEnd.unifyBreaks_text (ending : LineEnd) (cs : List Char) :
    Text.unifyBreaks (ending.text.toList ++ cs) = '\n' :: Text.unifyBreaks cs := by
  cases ending <;> rfl

/-- The lines of some fields, each with an end, and an empty line in front of a body. -/
def fieldsText (fs : List Field) (ending : LineEnd) (body : List Char) : List Char :=
  fs.flatMap (fun f => f.line.toList ++ ending.text.toList) ++ (ending.text.toList ++ body)

/-- Behind a line feed the fields are lines, and an empty line stands between them and the body. -/
lemma unifyBreaks_fieldsText (fs : List Field) (ending : LineEnd) (body : List Char) :
    '\n' :: Text.unifyBreaks (fieldsText fs ending body) =
      (fs.map (·.line.toList)).flatMap ('\n' :: ·) ++
        '\n' :: '\n' :: Text.unifyBreaks body := by
  induction fs with
  | nil => exact congrArg ('\n' :: ·) (ending.unifyBreaks_text body)
  | cons f fs ih =>
    have hreturn : '\r' ∉ f.line.toList := by
      intro hin
      have hbreak := f.isWritten.2 '\r' hin
      cases hbreak
    have hsplit : fieldsText (f :: fs) ending body =
        f.line.toList ++ (ending.text.toList ++ fieldsText fs ending body) := by
      simp [fieldsText]
    rw [hsplit, Text.unifyBreaks_append hreturn, ending.unifyBreaks_text, ih]
    simp

/-- The text of a draft, with its breaks made line feeds. -/
lemma Draft.unifyBreaks_text (d : Draft) (ending : LineEnd) :
    Text.unifyBreaks (d.text ending).toList =
      d.startLine.toList ++ ((d.fields.map (·.line.toList)).flatMap ('\n' :: ·) ++
        '\n' :: '\n' :: Text.unifyBreaks d.body.toList) := by
  have hreturn : '\r' ∉ d.startLine.toList := by
    intro hin
    have hbreak := d.start_line '\r' hin
    cases hbreak
  have hsplit : (d.text ending).toList = d.startLine.toList ++
      (ending.text.toList ++ fieldsText d.fields ending d.body.toList) := by
    simp [Draft.text, fieldsText, List.flatMap_map]
  rw [hsplit, Text.unifyBreaks_append hreturn, ending.unifyBreaks_text, unifyBreaks_fieldsText]

/-! ## Reading undoes writing -/

/-- A draft is read as its start line, the headers of its fields and its body. -/
lemma Draft.ofText_eq (d : Draft) (ending : LineEnd) : Message.ofText (d.text ending) =
    { startLine := d.startLine
      headers := (d.fields.map Field.header).foldl addHeader []
      body := String.ofList (Text.unifyBreaks d.body.toList) } := by
  have hlines : ∀ l ∈ d.fields.map (·.line.toList), Text.IsWritten l := by
    intro l hl
    obtain ⟨f, -, rfl⟩ := List.mem_map.mp hl
    exact f.isWritten
  have hheaders : (d.fields.map (·.line.toList)).filterMap Header.ofLine? =
      d.fields.map Field.header := by
    rw [List.filterMap_map, ← List.filterMap_eq_map]
    exact List.filterMap_congr fun f _ => f.ofLine?_line
  unfold Message.ofText Message.ofUnified
  rw [d.unifyBreaks_text, Text.cutAt_blankLine d.isWritten_startLine hlines]
  dsimp only [Option.getD_some]
  rw [Text.lines_joined d.isWritten_startLine hlines, List.headD_cons, List.tail_cons,
    d.trim_startLine, hheaders, String.ofList_toList]

/-- Reading a message undoes writing it, with either kind of line break: the start line is read as
it was written, every name has the value of the first field of that name and no name is read twice,
names in lower case and both without the blanks around them, and the body is the one that was
written, with its breaks made line feeds. -/
theorem Draft.ofText_text (d : Draft) (ending : LineEnd) :
    (Message.ofText (d.text ending)).startLine = d.startLine ∧
    (∀ name, (Message.ofText (d.text ending)).header? name =
      (d.fields.find? fun f => Text.toLower (Text.strip f.name) == name).map
        fun f => Text.strip f.value) ∧
    ((Message.ofText (d.text ending)).headers.map (·.name)).Nodup ∧
    (Message.ofText (d.text ending)).body = String.ofList (Text.unifyBreaks d.body.toList) := by
  rw [d.ofText_eq]
  refine ⟨rfl, fun name => ?_, nodup_foldl_addHeader List.nodup_nil, rfl⟩
  unfold Message.header?
  rw [find?_foldl_addHeader, List.find?_nil, Option.none_or, List.find?_map, Option.map_map]
  rfl

/-- Whether a text has no line breaks can be computed. -/
lemma forall_line_of_all {s : String} (h : s.toList.all (!Text.isLineBreak ·) = true) :
    ∀ c ∈ s.toList, Text.isLineBreak c = false := by
  simpa using h

/-- An answer with a field that comes twice, one without a value, and a body that starts with line
breaks and has an empty line and a line like a field in it. -/
def answer : Draft where
  startLine := "SIP/2.0 200 OK"
  fields :=
    [{ name := "Via ", value := " one: 1", name_line := forall_line_of_all rfl,
       name_colon := by decide, value_line := forall_line_of_all rfl },
     { name := "VIA", value := "two", name_line := forall_line_of_all rfl,
       name_colon := by decide, value_line := forall_line_of_all rfl },
     { name := "Subject", value := "", name_line := forall_line_of_all rfl,
       name_colon := by decide, value_line := forall_line_of_all rfl }]
  body := "\r\n\r\nv=0\r\n\r\nTo: b"
  start_ne := by decide
  start_trimmed := by decide +kernel
  start_line := forall_line_of_all rfl

/-- The answer is read with the first of the two fields and with all of its body. -/
theorem ofText_answer :
    (Message.ofText (answer.text .crlf)).startLine = "SIP/2.0 200 OK" ∧
    (Message.ofText (answer.text .crlf)).header? "via" = some "one: 1" ∧
    (Message.ofText (answer.text .lf)).header? "subject" = some "" ∧
    (Message.ofText (answer.text .lf)).header? "to" = none ∧
    (Message.ofText (answer.text .crlf)).body = "\n\nv=0\n\nTo: b" := by
  obtain ⟨hstart, hheader, -, hbody⟩ := answer.ofText_text .crlf
  obtain ⟨-, hheader', -, -⟩ := answer.ofText_text .lf
  rw [hstart, hheader, hheader', hheader', hbody]
  decide +kernel

end VoipCalls.Sip
