import VoipCalls.Call.Record
import VoipCalls.Number.Fixed

/-!
# Columns of the call table

The nine columns, their titles, and the text of a record's cell in each.
-/

namespace VoipCalls

/-- A column of the call table. -/
inductive Column where
  | startTime
  | stopTime
  | initialSpeaker
  | fromIdentity
  | toIdentity
  | protocol
  | packets
  | state
  | comments
deriving DecidableEq, Repr

namespace Column

/-- All columns, from left to right. -/
def all : List Column :=
  [startTime, stopTime, initialSpeaker, fromIdentity, toIdentity, protocol, packets, state,
    comments]

/-- The name a column is asked for by. -/
def name : Column → String
  | startTime => "start_time"
  | stopTime => "stop_time"
  | initialSpeaker => "initial_speaker"
  | fromIdentity => "from"
  | toIdentity => "to"
  | protocol => "protocol"
  | packets => "packets"
  | state => "state"
  | comments => "comments"

/-- The title of a column. -/
def title : Column → String
  | startTime => "Start Time"
  | stopTime => "Stop Time"
  | initialSpeaker => "Initial Speaker"
  | fromIdentity => "From"
  | toIdentity => "To"
  | protocol => "Protocol"
  | packets => "Packets"
  | state => "State"
  | comments => "Comments"

/-- The column of a name. -/
def ofName? (s : String) : Option Column :=
  all.find? (·.name == s)

end Column

/-- The number of decimal places of a time unless settings say otherwise. -/
def defaultPrecision : Nat := 6

/-- The text of a record's cell. -/
def CallRecord.cell (r : CallRecord) (c : Column) (precision : Nat) : String :=
  match c with
  | .startTime => r.start.fixed precision
  | .stopTime => r.stop.fixed precision
  | .initialSpeaker => r.initialSpeaker.text
  | .fromIdentity => r.fromIdentity
  | .toIdentity => r.toIdentity
  | .protocol => r.protocolText
  | .packets => toString r.packetCount
  | .state => r.callState.text
  | .comments => r.commentText

/-- The texts of all cells of a record. -/
def CallRecord.cells (r : CallRecord) (precision : Nat) : List (Column × String) :=
  Column.all.map fun c => (c, r.cell c precision)

end VoipCalls
