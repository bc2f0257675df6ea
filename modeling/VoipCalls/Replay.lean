import VoipCalls.Files
import VoipCalls.Session.Basic
import VoipCalls.Sip.Events

/-!
# Replaying a capture

`Session.replay` opens a session and feeds it all SIP events of a capture, a batch at a time, with a
redraw after every batch and one at the end.
-/

namespace VoipCalls

/-- Cut a list into pieces of a size, the last one possibly shorter, until a piece is empty. -/
def chunks {α : Type} (size : Nat) (xs : List α) : List (List α) :=
  go xs.length xs
where
  /-- Cut off at most `n` pieces. -/
  go : Nat → List α → List (List α)
    | 0, _ => []
    | n + 1, xs =>
      if (xs.take size).isEmpty then [] else xs.take size :: go n (xs.drop size)

/-- Why a capture cannot be replayed: it is not there, its path cannot be followed, or the file is
no capture. -/
inductive CaptureFault where
  | missing (name : String)
  | path (fault : PathFault)
  | notACapture
deriving DecidableEq, Repr

/-- The wording of a fault. -/
def CaptureFault.message : CaptureFault → String
  | missing name => "SIP pcap not found: " ++ name
  | path fault => fault.message
  | notACapture => "Not a supported capture file"

/-- Whether a fault is one that its author is told about. -/
def CaptureFault.isReported : CaptureFault → Bool
  | missing _ => true
  | _ => false

/-- The packets of the capture file under a path. -/
def Files.capture (fs : Files) (path : String) : Except CaptureFault (List Packet) := do
  match ← (fs.file? path).mapError .path with
  | none => throw (.missing (Text.normalPath path))
  | some (_, none) => throw .notACapture
  | some (_, some packets) => return packets

namespace Session

/-- Feed one event within a replay: count it if it was accepted. -/
def feed (r : Reply Nat) (e : Event) : Reply Nat :=
  let p := r.session.packet e
  { value := if p.value = .accepted then r.value + 1 else r.value
    session := p.session
    hooks := r.hooks ++ p.hooks
    alerts := r.alerts ++ p.alerts }

/-- Redraw within a replay. -/
def redraw (r : Reply Nat) : Reply Nat :=
  let p := r.session.draw
  { value := r.value
    session := p.session
    hooks := r.hooks ++ p.hooks
    alerts := r.alerts ++ p.alerts }

/-- Feed a batch of events and redraw. -/
def feedBatch (r : Reply Nat) (es : List Event) : Reply Nat :=
  let fed := es.foldl feed { r with session := r.session.enter }
  redraw { fed with session := fed.session.leave }

/-- Open the session and feed it the events of a capture; the answer is how many were accepted.
Batches hold at least one event. -/
def replay (s : Session) (packets : List Packet) (batchSize : Int) : Reply Nat :=
  let start : Reply Nat := { value := 0, session := s.openCapture }
  redraw ((chunks (max 1 batchSize).toNat (Sip.events packets)).foldl feedBatch start)

/-- Replay the capture file under a path. -/
def replayFile (s : Session) (fs : Files) (path : String) (batchSize : Int) :
    Except CaptureFault (Reply Nat) := do
  return s.replay (← fs.capture path) batchSize

/-- The number of events in a batch unless something else is asked for. -/
def defaultBatchSize : Int := 100

end Session

end VoipCalls
