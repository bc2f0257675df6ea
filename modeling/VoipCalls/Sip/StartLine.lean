import VoipCalls.Call.Protocol
import VoipCalls.Number.Integer
import VoipCalls.Text.Case
import VoipCalls.Text.Split

/-!
# What a SIP message says

The start line of a message makes it a request or a response; the CSeq header names the request that
a response answers; the From and To headers hold identities.  From these follow the state that the
message proposes for its call and the label of its arrow in the flow diagram.
-/

namespace VoipCalls.Sip

/-- The version that every SIP message names. -/
def version : String := "SIP/2.0"

/-- A start line.  The method of a request and the code of a response are missing where the line is
ill-formed. -/
structure StartLine where
  isRequest : Bool
  method : Option String := none
  status : Option Int := none
  reason : String := ""
deriving DecidableEq

/-- Three decimal digits at the start of a text, and what is behind them. -/
def threeDigits? : List Char → Option (Nat × List Char)
  | a :: b :: c :: rest => do
    let ds := [← Text.decimalValue? a, ← Text.decimalValue? b, ← Text.decimalValue? c]
    return (Text.ofDigits 10 ds, rest)
  | _ => none

/-- Read a status line behind the version: blanks, three digits, and a reason on one line. -/
def statusLine? (cs : List Char) : Option (Nat × List Char) := do
  let spaced := Text.trimLeft cs
  if spaced.length = cs.length then none
  let (code, rest) ← threeDigits? spaced
  let reason := Text.trimLeft rest
  let line := if reason.getLast? = some '\n' then reason.dropLast else reason
  if line.contains '\n' then none
  return (code, Text.trim line)

namespace StartLine

/-- Read a start line. -/
def ofText (s : String) : StartLine :=
  match Text.after? version.toList s.toList with
  | some rest =>
    match statusLine? rest with
    | some (code, reason) =>
      { isRequest := false, status := some code, reason := String.ofList reason }
    | none => { isRequest := false }
  | none =>
    match Text.words s.toList with
    | method :: _ :: ws =>
      if ws.getLast? = some version.toList then
        { isRequest := true, method := some (String.ofList (Text.upper method)) }
      else { isRequest := true }
    | _ => { isRequest := true }

/-- The label of the message in the flow diagram. -/
def label (l : StartLine) (hasSdp : Bool) : String :=
  let what :=
    if l.isRequest then
      match l.method with
      | some m => if m.isEmpty then "?" else m
      | none => "?"
    else
      let code :=
        match l.status with
        | some n => toString n
        | none => "None"
      Text.strip (code ++ " " ++ l.reason)
  if hasSdp then what ++ " SDP" else what

/-- The state that a request proposes for its call. -/
def requestState (method : Option String) : Option CallState :=
  match method with
  | some "INVITE" => some .callSetup
  | some "CANCEL" => some .cancelled
  | some "BYE" => some .completed
  | _ => none

/-- The state that a response to an INVITE proposes for its call.  A challenge to authenticate
rejects nothing: the INVITE is sent again. -/
def responseState (code : Int) : Option CallState :=
  if code = 180 ∨ code = 183 then some .ringing
  else if 200 ≤ code ∧ code < 300 then some .inCall
  else if 300 ≤ code ∧ code ≠ 401 ∧ code ≠ 407 then some .rejected
  else none

/-- The state that a message proposes for its call; `answered` is the method in its CSeq header. -/
def callState (l : StartLine) (answered : Option String) : Option CallState :=
  if l.isRequest then requestState l.method
  else if answered = some "INVITE" then l.status.bind responseState
  else none

end StartLine

/-- The number and the method of a CSeq header; both are missing unless there are two words. -/
def readCseq (value : Option String) : Option Int × Option String :=
  match Text.words (textOf value) with
  | number :: method :: _ =>
    (Number.readInteger? (String.ofList number), some (String.ofList (Text.upper method)))
  | _ => (none, none)
where
  /-- The characters of a header, none for a missing one. -/
  textOf (value : Option String) : List Char := (value.getD "").toList

/-- What stands between angle brackets in a text, the first time a bracket is closed. -/
def bracketed? : List Char → Option (List Char)
  | [] => none
  | c :: cs =>
    if c = '<' then
      match Text.cutAt ['>'] cs with
      | some (uri, _) => some uri
      | none => none
    else bracketed? cs

/-- The identity in a From or To header: the address in angle brackets, else what stands before the
parameters. -/
def identity? (value : Option String) : Option String :=
  match value with
  | none => none
  | some v =>
    if v.isEmpty then none
    else
      match bracketed? v.toList with
      | some uri => some (String.ofList (Text.trim uri))
      | none => some (String.ofList (Text.trim ((Text.pieces ';' v.toList).headD [])))

end VoipCalls.Sip
