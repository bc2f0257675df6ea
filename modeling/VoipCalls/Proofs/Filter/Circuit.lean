import VoipCalls.Filter.Fields
import VoipCalls.Proofs.Filter.Meaning

/-!
# The clause of a circuit

An ISUP call is found again by its circuit, its network indicator, the range of its frames and its
two point codes, which stand for one direction of the circuit or for the other.  In the clause the
two directions are joined by "or" behind conditions that are joined by "and", and "and" binds
tighter.  So the conditions are met by the packets of the call's own direction only, and a packet
of the other direction is found by its point codes alone (`fieldClause_circuit`).
-/

namespace VoipCalls.DisplayFilter

/-- What the clause of a circuit compares in a packet. -/
structure CircuitPacket where
  cic : Int
  frame : Int
  ni : Int
  opc : Int
  dpc : Int
deriving DecidableEq

/-- The fields of such a packet. -/
def CircuitPacket.fields (p : CircuitPacket) (field : String) : Option Int :=
  if field = "isup.cic" then some p.cic
  else if field = "frame.number" then some p.frame
  else if field = "mtp3.network_indicator" then some p.ni
  else if field = "mtp3.opc" then some p.opc
  else if field = "mtp3.dpc" then some p.dpc
  else none

/-- A packet of the circuit that stands in the range of frames. -/
structure CircuitPacket.Within (p : CircuitPacket) (r : CallRecord) (cic ni : Int) : Prop where
  cic : p.cic = cic
  first : ∃ first ∈ r.startFrame, first ≤ p.frame
  last : ∃ last ∈ r.stopFrame, p.frame ≤ last
  ni : p.ni = ni

/-- A packet from one point code to another. -/
def CircuitPacket.Runs (p : CircuitPacket) (opc dpc : Int) : Prop :=
  p.opc = opc ∧ p.dpc = dpc

/-- The condition on the point codes for one direction. -/
def directionFactor (opc dpc : Int) : Factor :=
  .group (.single (.both
    (.single (.group (.single (.single (.compare "mtp3.dpc" .equal (toString dpc))))))
    (.group (.single (.single (.compare "mtp3.opc" .equal (toString opc)))))))

/-- The conditions of a circuit that stand behind one another. -/
def circuitConjunction (r : CallRecord) (cic ni : Int) : Conjunction :=
  .both (.both (.both (.single (.compare "isup.cic" .equal (toString cic)))
    (.compare "frame.number" .atLeast (frameText r.startFrame)))
    (.compare "frame.number" .atMost (frameText r.stopFrame)))
    (.compare "mtp3.network_indicator" .equal (toString ni))

/-- The clause of a circuit. -/
def circuitFilter (r : CallRecord) (cic ni opc dpc : Int) : Disjunction :=
  .single (.single (.group (.either
    (.single (.both (circuitConjunction r cic ni) (directionFactor opc dpc)))
    (.single (directionFactor dpc opc)))))

variable {esc : Escapes} {r : CallRecord} {cic ni opc dpc : Int} {p : CircuitPacket}

/-! ## The clause as it is written -/

/-- The clause of a call of which the circuit is known. -/
lemma fieldClause_eq_circuitFilter (hprotocol : r.protocol = .isup)
    (hpayload : r.payload = .isup ⟨some cic, some ni, some opc, some dpc⟩) :
    fieldClause r = (circuitFilter r cic ni opc dpc).text := by
  -- The fixed texts between the numbers, word by word.
  have hcic : "(isup.cic == " = "(" ++ "isup.cic" ++ " " ++ "==" ++ " " := rfl
  have hfirst : " and frame.number >= " =
      " " ++ "and" ++ " " ++ "frame.number" ++ " " ++ ">=" ++ " " := rfl
  have hlast : "and frame.number <= " = "and" ++ " " ++ "frame.number" ++ " " ++ "<=" ++ " " := rfl
  have hni : " and mtp3.network_indicator == " =
      " " ++ "and" ++ " " ++ "mtp3.network_indicator" ++ " " ++ "==" ++ " " := rfl
  have hdpc : "((mtp3.dpc == " = "(" ++ "(" ++ "mtp3.dpc" ++ " " ++ "==" ++ " " := rfl
  have hand : "and ((mtp3.dpc == " = "and" ++ " " ++ "((mtp3.dpc == " := rfl
  have hor : "or ((mtp3.dpc == " = "or" ++ " " ++ "((mtp3.dpc == " := rfl
  have hopc : ") and (mtp3.opc == " =
      ")" ++ " " ++ "and" ++ " " ++ "(" ++ "mtp3.opc" ++ " " ++ "==" ++ " " := rfl
  have hforward : ")) " = ")" ++ ")" ++ " " := rfl
  have hbackward : ")))" = ")" ++ ")" ++ ")" := rfl
  rw [fieldClause, hprotocol, hpayload]
  simp only [hcic, hfirst, hlast, hni, hand, hor, hdpc, hopc, hforward, hbackward, circuitFilter,
    circuitConjunction, directionFactor, Factor.compare, Factor.text, Conjunction.text,
    Disjunction.text, Test.text, Operand.text, Comparison.text, toString_text, String.append_assoc]

/-- It can be read back. -/
lemma isReadable_circuitFilter : (circuitFilter r cic ni opc dpc).IsReadable := by
  have hframe : ∀ c frame, (Factor.compare "frame.number" c (frameText frame)).IsReadable := by
    intro c frame
    cases frame with
    | none => exact isReadable_compare c rfl rfl
    | some n => exact isReadable_compare c rfl (isWord_toString n)
  have hdirection : ∀ opc dpc, (directionFactor opc dpc).IsReadable := by
    intro opc dpc
    simp only [directionFactor, Factor.IsReadable, Conjunction.IsReadable, Disjunction.IsReadable]
    exact ⟨isReadable_compare _ rfl (isWord_toString dpc),
      isReadable_compare _ rfl (isWord_toString opc)⟩
  have hcircuit : (circuitConjunction r cic ni).IsReadable := by
    simp only [circuitConjunction, Conjunction.IsReadable]
    exact ⟨⟨⟨isReadable_compare _ rfl (isWord_toString cic), hframe _ _⟩, hframe _ _⟩,
      isReadable_compare _ rfl (isWord_toString ni)⟩
  simp only [circuitFilter, Factor.IsReadable, Conjunction.IsReadable, Disjunction.IsReadable]
  exact ⟨⟨hcircuit, hdirection opc dpc⟩, hdirection dpc opc⟩

/-- The clause of a circuit is read as it is grouped here. -/
lemma ofText?_fieldClause (hprotocol : r.protocol = .isup)
    (hpayload : r.payload = .isup ⟨some cic, some ni, some opc, some dpc⟩) :
    ofText? esc (fieldClause r) = some (circuitFilter r cic ni opc dpc) := by
  rw [fieldClause_eq_circuitFilter hprotocol hpayload]
  exact Disjunction.ofText?_text isReadable_circuitFilter

/-! ## What the clause says of a packet -/

/-- A bound of the frames holds of a packet if the bound is known and the packet keeps to it. -/
lemma holds_compare_frame {fields : String → Option Int} {m : Int}
    (hm : fields "frame.number" = some m) (c : Comparison) (frame : Option Int) :
    (Factor.compare "frame.number" c (frameText frame)).holds fields = true ↔
      ∃ n ∈ frame, c.holds m n = true := by
  cases frame with
  | none =>
    have hnone : (Operand.word (frameText none)).number? = none := rfl
    rw [Factor.compare, Factor.holds, Test.holds, hm, hnone]
    simp
  | some n =>
    rw [frameText, holds_compare hm]
    simp

/-- The condition on the point codes holds of the packets of one direction. -/
lemma holds_directionFactor :
    (directionFactor opc dpc).holds p.fields = true ↔ p.Runs opc dpc := by
  have hopc : p.fields "mtp3.opc" = some p.opc := rfl
  have hdpc : p.fields "mtp3.dpc" = some p.dpc := rfl
  simp only [directionFactor, Factor.holds, Conjunction.holds, Disjunction.holds,
    holds_compare hopc, holds_compare hdpc, Comparison.holds, Bool.and_eq_true, beq_iff_eq]
  exact And.comm

/-- The conditions that stand behind one another hold of the packets of the circuit in the range of
frames. -/
lemma holds_circuitConjunction :
    (circuitConjunction r cic ni).holds p.fields = true ↔ p.Within r cic ni := by
  have hcic : p.fields "isup.cic" = some p.cic := rfl
  have hframe : p.fields "frame.number" = some p.frame := rfl
  have hni : p.fields "mtp3.network_indicator" = some p.ni := rfl
  simp only [circuitConjunction, Conjunction.holds, Bool.and_eq_true, holds_compare hcic,
    holds_compare_frame hframe, holds_compare hni, Comparison.holds, beq_iff_eq, decide_eq_true_eq]
  exact ⟨fun ⟨⟨⟨hc, hfirst⟩, hlast⟩, hn⟩ => ⟨hc, hfirst, hlast, hn⟩,
    fun h => ⟨⟨⟨h.cic, h.first⟩, h.last⟩, h.ni⟩⟩

/-- The conditions bind to one direction only. -/
lemma holds_circuitFilter :
    (circuitFilter r cic ni opc dpc).holds p.fields = true ↔
      (p.Within r cic ni ∧ p.Runs opc dpc) ∨ p.Runs dpc opc := by
  simp only [circuitFilter, Factor.holds, Conjunction.holds, Disjunction.holds, Bool.or_eq_true,
    Bool.and_eq_true, holds_directionFactor, holds_circuitConjunction]

/-- The clause of a call of which the circuit is known is met by the packets that run in the
direction of the call, on its circuit and in its range of frames, and by every packet that runs the
other way between its point codes.  That it is met by the packets of both directions on the circuit
and in the range, and by no others, is true of a packet exactly if it keeps to them itself where it
runs the other way. -/
theorem fieldClause_circuit (esc : Escapes) (hprotocol : r.protocol = .isup)
    (hpayload : r.payload = .isup ⟨some cic, some ni, some opc, some dpc⟩) :
    ∃ f, ofText? esc (fieldClause r) = some f ∧ ∀ p : CircuitPacket,
      (f.holds p.fields = true ↔ (p.Within r cic ni ∧ p.Runs opc dpc) ∨ p.Runs dpc opc) ∧
      ((f.holds p.fields = true ↔ p.Within r cic ni ∧ (p.Runs opc dpc ∨ p.Runs dpc opc)) ↔
        (p.Runs dpc opc → p.Within r cic ni)) := by
  refine ⟨_, ofText?_fieldClause hprotocol hpayload, fun p => ⟨holds_circuitFilter, ?_⟩⟩
  rw [holds_circuitFilter]
  constructor
  · exact fun hboth hback => (hboth.mp (.inr hback)).1
  · intro hback
    constructor
    · rintro (⟨hwithin, hforward⟩ | hbackward)
      · exact ⟨hwithin, .inl hforward⟩
      · exact ⟨hback hbackward, .inr hbackward⟩
    · rintro ⟨hwithin, hforward | hbackward⟩
      · exact .inl ⟨hwithin, hforward⟩
      · exact .inr hbackward

/-- A call on circuit 12 from point code 100 to point code 200, in the frames 2 to 20. -/
def circuitCall : CallRecord where
  callId := 0
  protocol := .isup
  payload := .isup ⟨some 12, some 2, some 100, some 200⟩
  startFrame := some 2
  stopFrame := some 20

/-- Its clause is met by a packet of the call, but not by one of another circuit. -/
theorem fieldClause_circuitCall :
    circuitCall.protocol = .isup ∧
    circuitCall.payload = .isup ⟨some 12, some 2, some 100, some 200⟩ ∧
    ∃ f, ofText? .verbatim (fieldClause circuitCall) = some f ∧
      f.holds (CircuitPacket.mk 12 7 2 100 200).fields = true ∧
      ¬ f.holds (CircuitPacket.mk 13 7 2 100 200).fields = true := by
  obtain ⟨f, hf, hholds⟩ := fieldClause_circuit (r := circuitCall) .verbatim rfl rfl
  refine ⟨rfl, rfl, f, hf, ?_, ?_⟩
  · rw [(hholds _).1]
    exact .inl ⟨⟨rfl, ⟨2, rfl, by decide⟩, ⟨20, rfl, by decide⟩, rfl⟩, rfl, rfl⟩
  · rw [(hholds _).1]
    rintro (⟨hwithin, -⟩ | hbackward)
    · exact absurd hwithin.cic (by decide)
    · exact absurd hbackward.1 (by decide)

/-- It is also met by a packet that runs the other way on another circuit, in another network and
after the call. -/
theorem fieldClause_strayPacket :
    ∃ f, ofText? .verbatim (fieldClause circuitCall) = some f ∧
      f.holds (CircuitPacket.mk 13 99 3 200 100).fields = true ∧
      ¬ ((CircuitPacket.mk 13 99 3 200 100).Within circuitCall 12 2 ∧
        ((CircuitPacket.mk 13 99 3 200 100).Runs 100 200 ∨
          (CircuitPacket.mk 13 99 3 200 100).Runs 200 100)) := by
  refine ⟨_, ofText?_fieldClause rfl rfl, ?_, ?_⟩
  · rw [holds_circuitFilter]
    exact .inr ⟨rfl, rfl⟩
  · rintro ⟨hwithin, -⟩
    exact absurd hwithin.cic (by decide)

end VoipCalls.DisplayFilter
