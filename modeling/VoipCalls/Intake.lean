import VoipCalls.Sequence
import VoipCalls.Store
import VoipCalls.Tap

/-!
# The intake

The intake takes classification events one by one and brings them into the store and the sequence
index.  `Intake.packet` answers with a `Verdict`: every event is accepted, or it meets exactly one
reason not to be.

Bringing an event in is an `Attempt` that writes in four places, one after the other.  A malformed
event is counted on top of what was written until then, and a number that cannot be read stops the
tap where it is.
-/

namespace VoipCalls

/-- What became of an event. -/
inductive Verdict where
  | accepted
  | detached
  | duplicate
  | ignored
  | malformed (cause : Malformed)
  | timeOverflow
  | missingNumber (kind : NumberKind)
deriving DecidableEq

/-- Read a value that may be missing as a whole number. -/
def readWhole {σ : Type} : Option Int → Attempt Refusal σ Int
  | some n => pure n
  | none => throw (.missingNumber .whole)

/-- Read a time that may be missing as a double. -/
def readReal {σ : Type} : Option RawTime → Attempt Refusal σ Double
  | some time => time.read
  | none => throw (.missingNumber .real)

/-- The store and the sequence index, and the tap that feeds them. -/
structure Intake where
  store : Store := {}
  sequence : SequenceIndex := {}
  tap : Tap := {}
deriving DecidableEq

namespace Intake

/-- Count a malformed event. -/
def countMalformed (x : Intake) : Intake :=
  { x with tap := { x.tap with malformed := x.tap.malformed + 1 } }

/-- Count an ignored event. -/
def countIgnored (x : Intake) : Intake :=
  { x with tap := { x.tap with ignored := x.tap.ignored + 1 } }

/-- The event of the sequence index that belongs to a stored event. -/
def sequenceEvent (e : Event) (call frame : Int) (time : Double) : SequenceEvent where
  call := call
  frame := frame
  time := time
  src := e.src
  dst := e.dst
  frameLabel := e.frameLabel
  comment := textOrEmpty e.comment

/-- The intake with a changed tap. -/
def onTap (change : Tap → Tap) (x : Intake) : Intake :=
  { x with tap := change x.tap }

/-- The intake with one more event in the sequence index. -/
def appended (q : SequenceEvent) (x : Intake) : Intake :=
  { x with sequence := x.sequence.append q }

/-- A step on the store of the intake. -/
def onStore {α : Type} (step : Attempt Refusal Store α) : Attempt Refusal Intake α :=
  step.within Intake.store fun x store => { x with store }

/-- Bring an event of a key into the store, register the key if it had no call, remember the packet
and append it to the sequence index. -/
def accept (e : Event) (k : CorrelationKey) (known : Option Int) :
    Attempt Refusal Intake Verdict := do
  let call ← onStore (Store.enroll e known)
  modify (onTap fun t => if known.isNone then t.register e.protocol k call else t)
  let frame ← readWhole e.frame
  modify (onTap fun t => t.see e.protocol k frame)
  let time ← readReal e.time
  modify (appended (sequenceEvent e call frame time))
  modify (onTap Tap.outdate)
  return .accepted

/-- Bring an event in, unless its packet was taken before or it may not open the call that it would
have to open. -/
def ingest (e : Event) : Attempt Refusal Intake Verdict := do
  match e.key with
  | none => throw (.malformed .noKey)
  | some k =>
    let x ← get
    if (e.frame.map (x.tap.hasSeen e.protocol k)).getD false then return .duplicate
    else if (x.tap.callFor e.protocol k).isNone && !x.tap.opensCall e then
      modify countIgnored
      return .ignored
    else accept e k (x.tap.callFor e.protocol k)

/-- Take one classification event. -/
def packet (x : Intake) (e : Event) : Verdict × Intake :=
  if !x.tap.attached then (.detached, x)
  else
    match (ingest e).outcome x with
    | (.ok verdict, y) => (verdict, y)
    | (.error (.malformed cause), y) => (.malformed cause, y.countMalformed)
    | (.error .timeOverflow, y) => (.timeOverflow, y)
    | (.error (.missingNumber kind), y) => (.missingNumber kind, y)

/-- Ask for a redraw.  It is due if something was accepted since the last one; while a batch is
open nothing is published, so it stays due. -/
def draw (x : Intake) : Bool × Intake :=
  if x.tap.attached && x.tap.redraw && !x.store.inBatch then
    (true, { x with tap := { x.tap with redraw := false } })
  else (false, x)

end Intake

end VoipCalls
