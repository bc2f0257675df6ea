import VoipCalls.Proofs.Store.Integrity

/-!
# The endpoints of a call

A call of H.323 collects the endpoints on which H.245 was opened.  What its first event offers is
taken as it stands; what a later one offers is added where it is new.  So a later event adds no
repetition, whatever it offers (`repeatFree_foldl_addNew`), but nothing removes one that the first
event brought.

`Store.run_endpoints` says this of all records of all runs: the endpoints of a record are free of
repetition exactly if those of the event that created the call are.
`Store.endpoints_repeatedOffer` is a call whose first event offers the same endpoint twice.
-/

namespace VoipCalls

/-! ## Lists without repetition -/

/-- No endpoint stands behind one that is the same. -/
def RepeatFree (es : List H245Endpoint) : Prop :=
  es.Pairwise fun e f => e.agrees f = false

instance (es : List H245Endpoint) : Decidable (RepeatFree es) :=
  inferInstanceAs (Decidable (es.Pairwise fun e f => e.agrees f = false))

/-- An endpoint that is added where it is new brings no repetition and removes none. -/
lemma repeatFree_addNew {known : List H245Endpoint} {e : H245Endpoint} :
    RepeatFree (addNew known e) ↔ RepeatFree known := by
  unfold addNew
  split
  · exact Iff.rfl
  · rename_i hnew
    rw [RepeatFree, List.pairwise_append]
    constructor
    · exact fun h => h.1
    · intro h
      refine ⟨h, List.pairwise_singleton _ e, ?_⟩
      intro f hf g hg
      rw [List.mem_singleton.mp hg]
      rw [Bool.not_eq_true, List.any_eq_false] at hnew
      exact Bool.eq_false_iff.mpr (hnew f hf)

/-- Endpoints that are added one after another where they are new bring no repetition and remove
none. -/
lemma repeatFree_foldl_addNew {known : List H245Endpoint} (offered : List H245Endpoint) :
    RepeatFree (offered.foldl addNew known) ↔ RepeatFree known := by
  induction offered generalizing known with
  | nil => exact Iff.rfl
  | cons e offered ih => exact ih.trans repeatFree_addNew

/-! ## The endpoints of payloads and events -/

/-- The endpoints that a payload knows.  Only one of H.323 knows any. -/
def Payload.endpoints : Payload → List H245Endpoint
  | h323 info => info.h245Addresses
  | common | sip _ | isup _ | h248 _ => []

/-- The endpoints that an event offers. -/
def Event.endpoints (e : Event) : List H245Endpoint :=
  (e.payload.map Payload.endpoints).getD []

/-- A payload of another kind than H.323 knows no endpoints. -/
lemma Payload.endpoints_eq_nil {a : Payload} (h : a.kind ≠ .h323) : a.endpoints = [] := by
  cases a with
  | h323 info => exact absurd rfl h
  | common | sip | isup | h248 => rfl

/-- The endpoints that an H.323 payload is offered are added where they are new. -/
lemma Payload.endpoints_merge {a : Payload} (h : a.kind = .h323) (b : Payload) :
    (a.merge b).endpoints = b.endpoints.foldl addNew a.endpoints := by
  cases a <;> cases b <;> first | rfl | cases h

namespace CallRecord

variable {r : CallRecord} {id : Int} {e : Event}

/-- A record is opened with the endpoints that its first event offers. -/
lemma endpoints_openedBy (id : Int) (e : Event) :
    (openedBy id e).payload.endpoints = e.endpoints := by
  change (e.payload.getD e.protocol.emptyPayload).endpoints = e.endpoints
  unfold Event.endpoints
  cases e.payload with
  | none => cases e.protocol <;> rfl
  | some offered => rfl

/-- To an H.323 record the endpoints of a further event are added where they are new. -/
lemma endpoints_revisedBy (h : r.payload.kind = .h323) (e : Event) :
    (r.revisedBy e).payload.endpoints = e.endpoints.foldl addNew r.payload.endpoints := by
  unfold revisedBy revised Event.endpoints
  cases e.payload with
  | none => rfl
  | some offered => exact Payload.endpoints_merge h offered

/-- What the endpoints of a record say about its events, the first one and the later ones. -/
structure Collects (r : CallRecord) (first : Event) (later : List Event) : Prop where
  /-- A record of H.323 has the endpoints of the first event, as they were offered, and those of the
  later ones that were new when they were offered. -/
  endpoints : r.payload.kind = .h323 →
    r.payload.endpoints = (later.flatMap Event.endpoints).foldl addNew first.endpoints
  /-- They are free of repetition exactly if those of the first event are. -/
  repeatFree : RepeatFree r.payload.endpoints ↔ RepeatFree first.endpoints

/-- Revisions keep the kind of the payload. -/
lemma kind_foldl_revisedBy (r : CallRecord) (later : List Event) :
    (later.foldl revisedBy r).payload.kind = r.payload.kind := by
  induction later generalizing r with
  | nil => rfl
  | cons e later ih => exact (ih (r.revisedBy e)).trans (kind_revisedBy r e)

/-- To an H.323 record the endpoints of all further events are added where they are new. -/
lemma endpoints_foldl_revisedBy (h : r.payload.kind = .h323) (later : List Event) :
    (later.foldl revisedBy r).payload.endpoints =
      (later.flatMap Event.endpoints).foldl addNew r.payload.endpoints := by
  induction later generalizing r with
  | nil => rfl
  | cons e later ih =>
    have hkind : (r.revisedBy e).payload.kind = .h323 := (kind_revisedBy r e).trans h
    rw [List.foldl_cons, ih hkind, endpoints_revisedBy h, List.flatMap_cons, List.foldl_append]

/-- The record of a first event and some later ones collects their endpoints. -/
lemma collects_ofEvents {first : Event} {later : List Event}
    (h : ofEvents id (first :: later) = some r) : r.Collects first later := by
  obtain rfl : later.foldl revisedBy (openedBy id first) = r := Option.some.inj h
  have hkind := kind_foldl_revisedBy (openedBy id first) later
  have hendpoints : (later.foldl revisedBy (openedBy id first)).payload.kind = .h323 →
      (later.foldl revisedBy (openedBy id first)).payload.endpoints =
        (later.flatMap Event.endpoints).foldl addNew first.endpoints := by
    intro hh323
    rw [endpoints_foldl_revisedBy (hkind.symm.trans hh323), endpoints_openedBy]
  refine ⟨hendpoints, ?_⟩
  by_cases hh323 : (later.foldl revisedBy (openedBy id first)).payload.kind = .h323
  · rw [hendpoints hh323]
    exact repeatFree_foldl_addNew _
  · have hfirst : (openedBy id first).payload.kind ≠ .h323 := hkind ▸ hh323
    rw [← endpoints_openedBy id first, Payload.endpoints_eq_nil hh323,
      Payload.endpoints_eq_nil hfirst]

end CallRecord

/-! ## The endpoints of a run -/

namespace Store

/-- After every run, the endpoints of each record, be it a working record or one that readers see,
are those that its first event offered and the new ones of later events.  They are free of
repetition exactly if the first event offered none twice. -/
theorem run_endpoints (ops : List Operation) {i : ℕ} {r : CallRecord}
    (hr : (run {} ops).working[i]? = some r ∨ (run {} ops).published[i]? = some r) :
    ∃ first later, first :: later <+: history i ops ∧ r.Collects first later := by
  obtain ⟨seen, hseen, hevents⟩ : ∃ seen, seen <+: history i ops ∧
      CallRecord.ofEvents i seen = some r := by
    rcases hr with hr | hr
    · exact ⟨_, List.prefix_refl _, (holds_history i ops).record.symm.trans hr⟩
    · exact shown_history i ops r hr
  cases seen with
  | nil => cases hevents
  | cons first later => exact ⟨first, later, hseen, CallRecord.collects_ofEvents hevents⟩

/-- An event of H.323 that offers some endpoints of one host by their ports. -/
def offer (frame : Int) (ports : List Int) : Event where
  protocol := .h323
  frame := some frame
  time := some (.whole frame)
  payload := some (.h323
    { h245Addresses := ports.map fun port => { address := .text "10.0.0.5", tcpPort := port } })

/-- A call is offered an endpoint, and then the same one and twice another one. -/
def laterOffers : List Operation :=
  [.upsert (offer 1 [1720]) none, .upsert (offer 2 [1720, 1721, 1721]) (some 0)]

/-- The call has both endpoints once. -/
theorem run_laterOffers :
    ∃ r, (run {} laterOffers).working[0]? = some r ∧
      (∃ first later, first :: later <+: history 0 laterOffers ∧ r.Collects first later) ∧
      r.payload.endpoints.map (·.tcpPort) = [1720, 1721] ∧ RepeatFree r.payload.endpoints := by
  have hsome : ((run {} laterOffers).working[0]?).isSome = true := by decide
  obtain ⟨r, hr⟩ := Option.isSome_iff_exists.mp hsome
  have hports : ((run {} laterOffers).working[0]?).map
      (fun r => r.payload.endpoints.map (·.tcpPort)) = some [1720, 1721] := by decide
  rw [hr] at hports
  obtain ⟨first, later, hprefix, hcollects⟩ := run_endpoints laterOffers (Or.inl hr)
  have hhistory : history 0 laterOffers = [offer 1 [1720], offer 2 [1720, 1721, 1721]] := by decide
  obtain rfl : first = offer 1 [1720] := by
    have hbegins : first :: later <+: history 0 laterOffers := hprefix
    rw [hhistory, List.cons_prefix_cons] at hbegins
    exact hbegins.1
  exact ⟨r, hr, ⟨_, _, hprefix, hcollects⟩, Option.some.inj hports,
    hcollects.repeatFree.mpr (by decide)⟩

/-- A call is opened by an event that offers the same endpoint twice. -/
def repeatedOffer : List Operation :=
  [.upsert (offer 1 [1720, 1720]) none]

/-- The event is stored, and its repetition stays in the record of the call. -/
theorem endpoints_repeatedOffer :
    answers {} repeatedOffer = [.ok 0] ∧
    (run {} repeatedOffer).published.map (fun r => r.payload.endpoints.map (·.tcpPort)) =
      [[1720, 1720]] ∧
    ¬ ∀ r ∈ (run {} repeatedOffer).published, RepeatFree r.payload.endpoints := by
  decide

end Store

end VoipCalls
