import VoipCalls.Text.Blank
import VoipCalls.Text.Case
import VoipCalls.Text.Line
import VoipCalls.Text.Split

/-!
# SIP messages

A SIP message is a start line, headers, and a body behind the first empty line.  `Message.ofText`
cuts a text into these parts.  Header names are compared in lower case, and of several headers of
one name the first counts.
-/

namespace VoipCalls.Sip

/-- A header: its name in lower case and its value. -/
structure Header where
  name : String
  value : String
deriving DecidableEq

/-- The parts of a SIP message. -/
structure Message where
  startLine : String
  headers : List Header
  body : String
deriving DecidableEq

/-- The header that a line says, if there is a colon in the line. -/
def Header.ofLine? (cs : List Char) : Option Header :=
  (Text.cutAt [':'] cs).map fun (name, value) =>
    ⟨String.ofList (Text.lower (Text.trim name)), String.ofList (Text.trim value)⟩

/-- Add a header unless there is one of its name. -/
def addHeader (hs : List Header) (h : Header) : List Header :=
  if hs.any (·.name == h.name) then hs else hs ++ [h]

namespace Message

/-- The parts of a text of which the line breaks are line feeds. -/
def ofUnified (cs : List Char) : Message :=
  let (head, body) := (Text.cutAt ['\n', '\n'] cs).getD (cs, [])
  let ls := Text.lines head
  { startLine := String.ofList (Text.trim (ls.headD []))
    headers := (ls.tail.filterMap Header.ofLine?).foldl addHeader []
    body := String.ofList body }

/-- The parts of a text. -/
def ofText (s : String) : Message :=
  ofUnified (Text.unifyBreaks s.toList)

/-- The value of a header. -/
def header? (m : Message) (name : String) : Option String :=
  (m.headers.find? (·.name == name)).map (·.value)

/-- The value of a header under its full name, or under its short name if that one is missing or
empty. -/
def headerOr? (m : Message) (name short : String) : Option String :=
  match m.header? name with
  | some v => if v.isEmpty then m.header? short else some v
  | none => m.header? short

end Message

end VoipCalls.Sip
