import VoipCalls.Proofs.Store.Endpoints

/-!
# Payloads that are merged one after another

What a payload knows is its scalar fields (`Payload.scalar?`) and its endpoints, and nothing besides
(`Payload.eq_of_fields`).  One merge lets the later of two scalars win, and adds the endpoints that
are new, so that a whole list of merges can be told field by field:

* a scalar is the last one that is known, be it a text without characters, a zero or a `false`;
* the endpoints are the first occurrences in what was offered, if the first list has no repetition.

`Payload.foldl_merge` says this of all lists of payloads of one kind, and also that nothing known is
ever lost and that the payload merged last may be merged once more.
-/

namespace VoipCalls

/-! ## Adding what is new -/

section AddNew

variable {known offered : List H245Endpoint} {e f : H245Endpoint}

/-- It makes no difference which of two endpoints is compared with the other. -/
lemma H245Endpoint.agrees_comm (e f : H245Endpoint) : e.agrees f = f.agrees e := by
  have hkey : e.address.key.equals f.address.key = f.address.key.equals e.address.key := by
    rw [Bool.eq_iff_iff, CorrelationKey.equals_iff, CorrelationKey.equals_iff]
    constructor
    · rintro ⟨hkeys, hcomparable⟩
      exact ⟨hkeys.symm, hkeys ▸ hcomparable⟩
    · rintro ⟨hkeys, hcomparable⟩
      exact ⟨hkeys.symm, hkeys ▸ hcomparable⟩
  have hport : (e.tcpPort == f.tcpPort) = (f.tcpPort == e.tcpPort) := Bool.beq_comm
  rw [agrees, agrees, hkey, hport]

/-- An endpoint is the same as itself, unless its address is a NaN. -/
lemma H245Endpoint.agrees_self_iff : e.agrees e = true ↔ e.address.key.isComparable = true := by
  simp [agrees, CorrelationKey.equals_iff]

/-- Adding keeps what is known in its place. -/
lemma prefix_addNew (known : List H245Endpoint) (e : H245Endpoint) : known <+: addNew known e := by
  unfold addNew
  split
  · exact List.prefix_refl known
  · exact List.prefix_append known [e]

lemma prefix_foldl_addNew (known offered : List H245Endpoint) :
    known <+: offered.foldl addNew known := by
  induction offered generalizing known with
  | nil => exact List.prefix_refl known
  | cons e offered ih => exact (prefix_addNew known e).trans (ih (addNew known e))

/-- Where everything offered is new, it is appended. -/
lemma foldl_addNew_of_repeatFree (h : RepeatFree (known ++ offered)) :
    offered.foldl addNew known = known ++ offered := by
  induction offered generalizing known with
  | nil => exact (List.append_nil known).symm
  | cons e offered ih =>
    have hnew : known.any (·.agrees e) = false := by
      rw [List.any_eq_false]
      intro f hf
      have hne := (List.pairwise_append.mp h).2.2 f hf e List.mem_cons_self
      simp [hne]
    have hstep : addNew known e = known ++ [e] := by simp [addNew, hnew]
    have hsplit : known ++ e :: offered = known ++ [e] ++ offered := by simp
    rw [List.foldl_cons, hstep, ih (hsplit ▸ h), hsplit]

/-- The loop that removes repetitions adds what is new to what it has kept, which it holds in
reverse. -/
lemma eraseDupsBy_loop_eq (offered kept : List H245Endpoint) :
    List.eraseDupsBy.loop H245Endpoint.agrees offered kept =
      offered.foldl addNew kept.reverse := by
  induction offered generalizing kept with
  | nil => rfl
  | cons e offered ih =>
    have hany : kept.any (e.agrees ·) = kept.reverse.any (·.agrees e) := by
      rw [List.any_reverse]
      exact congrArg kept.any (funext fun f => e.agrees_comm f)
    rw [List.eraseDupsBy.loop, List.foldl_cons, addNew, hany]
    cases kept.reverse.any (·.agrees e) with
    | true => exact ih kept
    | false => exact (ih (e :: kept)).trans (by simp)

/-- What was known without repetition, together with what was added where it was new, are the first
occurrences in both. -/
lemma foldl_addNew_eq_eraseDupsBy (h : RepeatFree known) (offered : List H245Endpoint) :
    offered.foldl addNew known = (known ++ offered).eraseDupsBy H245Endpoint.agrees := by
  have hknown : known.foldl addNew [] = [] ++ known := foldl_addNew_of_repeatFree h
  rw [List.eraseDupsBy, eraseDupsBy_loop_eq, List.reverse_nil, List.foldl_append, hknown,
    List.nil_append]

/-- An endpoint that was added is known, as one that is the same at least. -/
lemma any_agrees_addNew (hself : e.agrees e = true) (known : List H245Endpoint) :
    (addNew known e).any (·.agrees e) = true := by
  unfold addNew
  split
  · assumption
  · rw [List.any_append]
    simp [hself]

/-- What is known stays known. -/
lemma any_agrees_foldl_addNew (offered : List H245Endpoint)
    (h : known.any (·.agrees e) = true) : (offered.foldl addNew known).any (·.agrees e) = true := by
  obtain ⟨f, hf, hagrees⟩ := List.any_eq_true.mp h
  exact List.any_eq_true.mpr ⟨f, (prefix_foldl_addNew known offered).subset hf, hagrees⟩

/-- What is all known already leaves a list as it is. -/
lemma foldl_addNew_eq_self (h : ∀ e ∈ offered, known.any (·.agrees e) = true) :
    offered.foldl addNew known = known := by
  induction offered with
  | nil => rfl
  | cons e offered ih =>
    have hstep : addNew known e = known := if_pos (h e List.mem_cons_self)
    rw [List.foldl_cons, hstep, ih fun f hf => h f (List.mem_cons_of_mem e hf)]

/-- After a list was added, everything in it is known. -/
lemma any_agrees_of_mem_offered (hself : ∀ e ∈ offered, e.agrees e = true)
    (he : e ∈ offered) : (offered.foldl addNew known).any (·.agrees e) = true := by
  induction offered generalizing known with
  | nil => exact absurd he List.not_mem_nil
  | cons f offered ih =>
    rw [List.foldl_cons]
    rcases List.mem_cons.mp he with rfl | he
    · exact any_agrees_foldl_addNew offered (any_agrees_addNew (hself e List.mem_cons_self) known)
    · exact ih (fun g hg => hself g (List.mem_cons_of_mem f hg)) he

/-- Adding the same list once more adds nothing. -/
lemma foldl_addNew_again (hself : ∀ e ∈ offered, e.agrees e = true)
    (known : List H245Endpoint) :
    offered.foldl addNew (offered.foldl addNew known) = offered.foldl addNew known :=
  foldl_addNew_eq_self fun _ he => any_agrees_of_mem_offered hself he

end AddNew

/-! ## The later value wins -/

section LastKnown

variable {α β : Type}

lemma map_lastKnown (g : α → β) (known offered : Option α) :
    (lastKnown known offered).map g = lastKnown (known.map g) (offered.map g) := by
  cases offered <;> rfl

/-- The later of two values is the last one in any list that ends with them. -/
lemma lastKnown_getLast? (vs : List α) (offered : Option α) :
    lastKnown vs.getLast? offered = (vs ++ offered.toList).getLast? := by
  cases offered with
  | none => simp [lastKnown]
  | some v => simp [lastKnown]

/-- A value that is known stays known. -/
lemma isSome_lastKnown {known : Option α} (h : known.isSome = true) (offered : Option α) :
    (lastKnown known offered).isSome = true := by
  cases offered with
  | none => exact h
  | some v => rfl

end LastKnown

/-! ## The fields of payloads -/

/-- The scalar fields of all kinds of payload. -/
inductive PayloadField where
  | callIdentifier | inviteCseq
  | cic | ni | opc | dpc
  | guid | q931Crv | q931Crv2 | isH245Tunneling | isFaststartSetup | isFaststartProc
  | contextId
deriving DecidableEq

/-- What a scalar field may hold. -/
inductive FieldValue where
  | text (s : String)
  | number (n : Int)
  | truth (b : Bool)
deriving DecidableEq

namespace Payload

/-- The value of a scalar field, if it is known.  A payload knows only the fields of its kind. -/
def scalar? : Payload → PayloadField → Option FieldValue
  | sip info, .callIdentifier => info.callIdentifier.map .text
  | sip info, .inviteCseq => info.inviteCseq.map .number
  | isup info, .cic => info.cic.map .number
  | isup info, .ni => info.ni.map .number
  | isup info, .opc => info.opc.map .number
  | isup info, .dpc => info.dpc.map .number
  | h323 info, .guid => info.guid.map .text
  | h323 info, .q931Crv => info.q931Crv.map .number
  | h323 info, .q931Crv2 => info.q931Crv2.map .number
  | h323 info, .isH245Tunneling => info.isH245Tunneling.map .truth
  | h323 info, .isFaststartSetup => info.isFaststartSetup.map .truth
  | h323 info, .isFaststartProc => info.isFaststartProc.map .truth
  | h248 info, .contextId => info.contextId.map .number
  | _, _ => none

variable {a b d : Payload} {ds : List Payload}

/-- In one merge the later value of each scalar field wins. -/
lemma scalar?_merge (h : b.kind = a.kind) (f : PayloadField) :
    (a.merge b).scalar? f = lastKnown (a.scalar? f) (b.scalar? f) := by
  cases a <;> cases b <;> cases h <;> cases f <;> first | rfl | exact map_lastKnown _ _ _

/-- In one merge the endpoints are added that are new. -/
lemma endpoints_merge_of_kind (h : b.kind = a.kind) :
    (a.merge b).endpoints = b.endpoints.foldl addNew a.endpoints := by
  by_cases hh323 : a.kind = .h323
  · exact endpoints_merge hh323 b
  · rw [endpoints_eq_nil (h.trans_ne hh323), endpoints_eq_nil hh323,
      endpoints_eq_nil ((kind_merge a b).trans_ne hh323)]
    rfl

/-- A payload is what its fields hold. -/
theorem eq_of_fields (hkind : a.kind = b.kind) (hscalar : ∀ f, a.scalar? f = b.scalar? f)
    (hendpoints : a.endpoints = b.endpoints) : a = b := by
  have htext : Function.Injective FieldValue.text := fun _ _ h => FieldValue.text.inj h
  have hnumber : Function.Injective FieldValue.number := fun _ _ h => FieldValue.number.inj h
  have htruth : Function.Injective FieldValue.truth := fun _ _ h => FieldValue.truth.inj h
  cases a with
  | common => cases b <;> first | rfl | cases hkind
  | sip info =>
    cases b with
    | sip info' =>
      have hid := Option.map_injective htext (hscalar .callIdentifier)
      have hcseq := Option.map_injective hnumber (hscalar .inviteCseq)
      cases info
      cases info'
      simp_all
    | common | isup | h323 | h248 => cases hkind
  | isup info =>
    cases b with
    | isup info' =>
      have hcic := Option.map_injective hnumber (hscalar .cic)
      have hni := Option.map_injective hnumber (hscalar .ni)
      have hopc := Option.map_injective hnumber (hscalar .opc)
      have hdpc := Option.map_injective hnumber (hscalar .dpc)
      cases info
      cases info'
      simp_all
    | common | sip | h323 | h248 => cases hkind
  | h323 info =>
    cases b with
    | h323 info' =>
      have hguid := Option.map_injective htext (hscalar .guid)
      have hcrv := Option.map_injective hnumber (hscalar .q931Crv)
      have hcrv2 := Option.map_injective hnumber (hscalar .q931Crv2)
      have htunneling := Option.map_injective htruth (hscalar .isH245Tunneling)
      have hsetup := Option.map_injective htruth (hscalar .isFaststartSetup)
      have hproc := Option.map_injective htruth (hscalar .isFaststartProc)
      cases info
      cases info'
      simp_all [endpoints]
    | common | sip | isup | h248 => cases hkind
  | h248 info =>
    cases b with
    | h248 info' =>
      have hcontext := Option.map_injective hnumber (hscalar .contextId)
      cases info
      cases info'
      simp_all
    | common | sip | isup | h323 => cases hkind

/-! ## Lists of payloads -/

/-- Merging keeps the kind. -/
@[simp] lemma kind_foldl_merge (a : Payload) (ds : List Payload) :
    (ds.foldl merge a).kind = a.kind := by
  induction ds generalizing a with
  | nil => rfl
  | cons d ds ih => exact (ih (a.merge d)).trans (kind_merge a d)

/-- Of the values of a scalar field the last one that is known wins. -/
lemma scalar?_foldl_merge (hds : ∀ d ∈ ds, d.kind = a.kind) (f : PayloadField) :
    (ds.foldl merge a).scalar? f = ((a :: ds).filterMap (·.scalar? f)).getLast? := by
  induction ds using List.reverseRecOn with
  | nil => cases hf : a.scalar? f <;> simp [hf]
  | append_singleton ds d ih =>
    have hfront := ih fun c hc => hds c (List.mem_append_left [d] hc)
    have hkind : d.kind = (ds.foldl merge a).kind := by
      rw [kind_foldl_merge]
      exact hds d (by simp)
    have hlast : [d].filterMap (·.scalar? f) = (d.scalar? f).toList := by
      cases hd : d.scalar? f <;> simp [hd]
    rw [List.foldl_append, List.foldl_cons, List.foldl_nil, scalar?_merge hkind, hfront,
      lastKnown_getLast?, ← List.cons_append, List.filterMap_append, hlast]

/-- The endpoints of all payloads are added, one after another, where they are new. -/
lemma endpoints_foldl_merge (hds : ∀ d ∈ ds, d.kind = a.kind) :
    (ds.foldl merge a).endpoints = (ds.flatMap endpoints).foldl addNew a.endpoints := by
  induction ds generalizing a with
  | nil => rfl
  | cons d ds ih =>
    have hd : d.kind = a.kind := hds d List.mem_cons_self
    have hrest : ∀ c ∈ ds, c.kind = (a.merge d).kind := by
      intro c hc
      rw [kind_merge]
      exact hds c (List.mem_cons_of_mem d hc)
    rw [List.foldl_cons, ih hrest, endpoints_merge_of_kind hd, List.flatMap_cons,
      List.foldl_append]

/-- Merging the same payload once more changes nothing. -/
lemma merge_again (h : d.kind = a.kind)
    (hself : ∀ e ∈ d.endpoints, e.address.key.isComparable = true) :
    (a.merge d).merge d = a.merge d := by
  have hkind : d.kind = (a.merge d).kind := h.trans (kind_merge a d).symm
  refine eq_of_fields (kind_merge _ d) (fun f => ?_) ?_
  · rw [scalar?_merge hkind, scalar?_merge h]
    cases d.scalar? f <;> rfl
  · rw [endpoints_merge_of_kind hkind, endpoints_merge_of_kind h]
    exact foldl_addNew_again (fun e he => H245Endpoint.agrees_self_iff.mpr (hself e he)) a.endpoints

/-- A scalar that is known stays known. -/
lemma isSome_scalar?_foldl_merge (hds : ∀ d ∈ ds, d.kind = a.kind) {f : PayloadField}
    (h : (a.scalar? f).isSome = true) : ((ds.foldl merge a).scalar? f).isSome = true := by
  induction ds generalizing a with
  | nil => exact h
  | cons d ds ih =>
    have hd : d.kind = a.kind := hds d List.mem_cons_self
    apply ih
    · intro c hc
      rw [kind_merge]
      exact hds c (List.mem_cons_of_mem d hc)
    · rw [scalar?_merge hd]
      exact isSome_lastKnown h (d.scalar? f)

/-- What a payload is after others of its kind were merged into it, one after another. -/
structure Gathers (a : Payload) (ds : List Payload) (r : Payload) : Prop where
  /-- It is still of its kind. -/
  kind : r.kind = a.kind
  /-- Each scalar field has the last value that was known for it. -/
  scalar : ∀ f, r.scalar? f = ((a :: ds).filterMap (·.scalar? f)).getLast?
  /-- The endpoints are the first occurrences in all lists together, unless the first list has a
  repetition itself. -/
  endpoints : RepeatFree a.endpoints →
    r.endpoints = ((a :: ds).flatMap endpoints).eraseDupsBy H245Endpoint.agrees
  /-- Merging the last payload once more changes nothing.  Only a NaN is not known again, and no
  address is one. -/
  again : ∀ d, ds.getLast? = some d → (∀ e ∈ d.endpoints, e.address.key.isComparable = true) →
    r.merge d = r
  /-- What was known at some point stays known: no scalar is lost, and the endpoints stay in their
  places. -/
  kept : ∀ front behind, ds = front ++ behind →
    (∀ f, ((front.foldl merge a).scalar? f).isSome = true → (r.scalar? f).isSome = true) ∧
      (front.foldl merge a).endpoints <+: r.endpoints

/-- Merging payloads of one kind into another one of the kind gathers what they know. -/
theorem foldl_merge (hds : ∀ d ∈ ds, d.kind = a.kind) : a.Gathers ds (ds.foldl merge a) where
  kind := kind_foldl_merge a ds
  scalar := scalar?_foldl_merge hds
  endpoints hfree := by
    rw [endpoints_foldl_merge hds, foldl_addNew_eq_eraseDupsBy hfree, List.flatMap_cons]
  again d hlast hself := by
    obtain ⟨front, rfl⟩ := List.getLast?_eq_some_iff.mp hlast
    have hkind : d.kind = (front.foldl merge a).kind := by
      rw [kind_foldl_merge]
      exact hds d (by simp)
    rw [List.foldl_append]
    exact merge_again hkind hself
  kept front behind hsplit := by
    subst hsplit
    have hbehind : ∀ d ∈ behind, d.kind = (front.foldl merge a).kind := by
      intro d hd
      rw [kind_foldl_merge]
      exact hds d (List.mem_append_right front hd)
    rw [List.foldl_append]
    refine ⟨fun f => isSome_scalar?_foldl_merge hbehind, ?_⟩
    rw [endpoints_foldl_merge hbehind]
    exact prefix_foldl_addNew _ _

/-- A call of H.323 of which some features and two endpoints are known. -/
def callSoFar : Payload :=
  .h323 { guid := some "g", q931Crv := some 7, isH245Tunneling := some true,
          h245Addresses := [⟨.text "10.0.0.5", 1720⟩, ⟨.whole 1, 1720⟩] }

/-- Later packets deny a feature, offer an empty text and a zero, and name endpoints again, one of
them by another kind of number. -/
def laterDeltas : List Payload :=
  [.h323 { isH245Tunneling := some false, h245Addresses := [⟨.text "10.0.0.6", 1720⟩] },
    .h323 { guid := some "", q931Crv := some 0,
            h245Addresses := [⟨.text "10.0.0.6", 1720⟩, ⟨.truth true, 1720⟩,
              ⟨.text "10.0.0.7", 1720⟩] }]

/-- The call ends up with the later values, with four endpoints, and as it would if the last packet
came twice. -/
theorem foldl_merge_laterDeltas :
    callSoFar.Gathers laterDeltas (laterDeltas.foldl merge callSoFar) ∧
    (laterDeltas.foldl merge callSoFar).scalar? .isH245Tunneling = some (.truth false) ∧
    (laterDeltas.foldl merge callSoFar).scalar? .guid = some (.text "") ∧
    (laterDeltas.foldl merge callSoFar).endpoints.map (·.address) =
      [.text "10.0.0.5", .whole 1, .text "10.0.0.6", .text "10.0.0.7"] ∧
    (laterDeltas ++ laterDeltas.getLast?.toList).foldl merge callSoFar =
      laterDeltas.foldl merge callSoFar := by
  have hgathers : callSoFar.Gathers laterDeltas (laterDeltas.foldl merge callSoFar) :=
    foldl_merge (by decide)
  refine ⟨hgathers, ?_, ?_, ?_, ?_⟩
  · rw [hgathers.scalar]
    decide
  · rw [hgathers.scalar]
    decide
  · rw [hgathers.endpoints (by decide)]
    decide
  · rw [List.foldl_append]
    exact hgathers.again _ rfl (by decide)

end Payload

end VoipCalls
