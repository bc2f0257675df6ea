import VoipCalls.Filter.Frames

/-!
# Filters by correlation field

The second form of a display filter compares the correlation fields of each selected call: the
identifier of a SIP dialog, the circuit and the point codes of an ISUP call, the identifiers and
addresses of an H.323 call, the context of an H.248 call.  A call of another protocol, or one whose
fields are not known, has a clause that holds of every frame, so that the filter stays well-formed.

As in filters by frame, numbers are written out however large they are.
-/

namespace VoipCalls

/-- The clause of a call without correlation fields; it holds of every frame. -/
def placeholderClause : String := "(frame)"

/-- The two low bytes of a call reference value, low one first.  A negative value stands for its
two's complement. -/
def crvBytes (crv : Int) : String :=
  let word := (crv % 65536).toNat
  Text.hexNat (word % 256) ++ ":" ++ Text.hexNat (word / 256)

/-- The clause that matches an H.245 address. -/
def h245Clause (e : H245Endpoint) : String :=
  s!" || (ip.addr == {e.address.display} && tcp.port == {e.tcpPort} && h245)"

/-- A frame number in a clause. -/
def frameText (frame : Option Int) : String :=
  match frame with
  | none => "None"
  | some n => toString n

/-- The clause that matches the packets of a call by its correlation fields. -/
def fieldClause (r : CallRecord) : String :=
  match r.protocol, r.payload with
  | .sip, .sip info =>
    match info.callIdentifier with
    | some id => if id.isEmpty then placeholderClause else s!"(sip.Call-ID == \"{id}\")"
    | none => placeholderClause
  | .isup, .isup info =>
    match info.cic, info.ni, info.opc, info.dpc with
    | some cic, some ni, some opc, some dpc =>
      s!"(isup.cic == {cic} and frame.number >= {frameText r.startFrame} " ++
        s!"and frame.number <= {frameText r.stopFrame} and mtp3.network_indicator == {ni} " ++
        s!"and ((mtp3.dpc == {dpc}) and (mtp3.opc == {opc})) " ++
        s!"or ((mtp3.dpc == {opc}) and (mtp3.opc == {dpc})))"
    | _, _, _, _ => placeholderClause
  | .h323, .h323 info =>
    match info.guid with
    | some guid =>
      if guid.isEmpty then placeholderClause
      else
        s!"((h225.guid == {guid} || q931.call_ref == {crvBytes (info.q931Crv.getD 0)} " ++
          s!"|| q931.call_ref == {crvBytes (info.q931Crv2.getD 0)})" ++
          String.join (info.h245Addresses.map h245Clause) ++ ")"
    | none => placeholderClause
  | .h248, .h248 info =>
    match info.contextId with
    | some context => s!"(h248.ctx == 0x{Text.hexInt context})"
    | none => placeholderClause
  | _, _ => placeholderClause

/-- The filter that compares the correlation fields of the selected calls. -/
def fieldFilter (selected : List Int) (s : Store) : String :=
  let clauses := (s.published.filter fun r => selected.contains r.callId).map fieldClause
  if clauses.isEmpty then "" else "(" ++ disjunction clauses ++ ")"

end VoipCalls
