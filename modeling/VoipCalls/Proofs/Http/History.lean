import VoipCalls.Http.Api
import VoipCalls.Proofs.Session.Appearance

/-!
# Histories of requests

All requests to the interface are answered by one session, which loads replace, sorts rearrange and
flows hide events of.  Which of this is heard later?  What stands between the requests and the
session, and what is found in the files, is a `Front`; all that follows holds for each of them.

An `Exchange` is a request with its answer, and `Api.exchanges` is what is heard of several
requests.  `Api.Effect` says once what a request can do.  From it follows that a request that is
refused does nothing, so that it can be taken out of a history and nothing else is heard
(`Thinned.exchanges`).

For the frames, the filters and the flows even less of a history matters: the capture and the choice
of flows of the last load that was granted, and for the flows also whether the capture was closed
since.  This is the `Basis` of a history, and `Api.onBasis` is an interface that has seen nothing
else.  `Api.StandsOn` is what one request preserves between the two, and `Api.history` puts both
laws together.
-/

namespace VoipCalls.Http

variable {ρ φ : Type}

/-! ## Exchanges -/

/-- Whether a command is to load a capture or to close it. -/
def Command.turns : Command → Bool
  | .load _ _ | .close => true
  | _ => false

/-- Whether a command is to go to a frame or to compile a filter. -/
def Command.asksForFrames : Command → Bool
  | .activate _ | .filter _ => true
  | _ => false

/-- Whether a command is to show a flow. -/
def Command.asksForFlow : Command → Bool
  | .sequence _ => true
  | _ => false

/-- Whether a request is no command to load a capture or to close it. -/
def Front.IsQuiet (front : Front ρ φ) (r : ρ) : Prop :=
  ∀ c, front.command r = .ok c → c.turns = false

/-- The packets of the capture under a path, if it is there while a request is answered. -/
def Front.packets? (front : Front ρ φ) (r : ρ) (path : String) : Option (List Packet) := do
  let path ← (front.expandHome r path).toOption
  (front.capture r path).toOption.join

/-- A request with its answer.  There is no response where the answering was ended. -/
structure Exchange (ρ φ : Type) where
  request : ρ
  answer : Except φ Response

namespace Exchange

/-- The status of the response. -/
def status? (x : Exchange ρ φ) : Option ℕ :=
  x.answer.toOption.map (·.status)

/-- The request was refused. -/
def IsRefused (x : Exchange ρ φ) : Prop :=
  ∃ n, x.status? = some n ∧ 400 ≤ n ∧ n < 500

end Exchange

namespace Api

variable {front : Front ρ φ} {a : Api} {r : ρ}

/-- What is heard of a request. -/
def answered (front : Front ρ φ) (a : Api) (r : ρ) : Except φ Response :=
  (a.handle front r).map (·.2)

/-- The interface after a request.  Where the answering is ended, it stays as it was. -/
def next (front : Front ρ φ) (a : Api) (r : ρ) : Api :=
  match a.handle front r with
  | .ok (after, _) => after
  | .error _ => a

/-- The interface after some requests. -/
def after (front : Front ρ φ) (a : Api) (rs : List ρ) : Api :=
  rs.foldl (next front) a

/-- A request with what is heard of it. -/
def exchange (front : Front ρ φ) (a : Api) (r : ρ) : Exchange ρ φ :=
  ⟨r, a.answered front r⟩

/-- What is heard of some requests. -/
def exchanges (front : Front ρ φ) (a : Api) : List ρ → List (Exchange ρ φ)
  | [] => []
  | r :: rs => a.exchange front r :: (a.next front r).exchanges front rs

/-- The first of several requests is answered first. -/
lemma after_cons (a : Api) (r : ρ) (rs : List ρ) :
    a.after front (r :: rs) = (a.next front r).after front rs :=
  List.foldl_cons ..

/-- Its answer is heard first. -/
lemma exchanges_cons (a : Api) (r : ρ) (rs : List ρ) :
    a.exchanges front (r :: rs) =
      a.exchange front r :: (a.next front r).exchanges front rs := by
  rw [exchanges]

/-! ## What a request can do -/

/-- What a request can do: nothing, or it is granted and sorts the table, shows a flow, closes the
capture or loads one. -/
inductive Effect (front : Front ρ φ) (a : Api) (r : ρ) : Prop
  /-- The request does nothing, and it was not granted if it was to load or close. -/
  | nothing (hnext : a.next front r = a)
    (hquiet : (a.exchange front r).status? = some 200 → front.IsQuiet r)
  /-- The table is sorted. -/
  | sort (hquiet : front.IsQuiet r) (hstatus : (a.exchange front r).status? = some 200)
    (c : Column) (descending : Bool)
    (hnext : a.next front r = { a with session := a.session.sortBy c descending })
  /-- A flow is shown. -/
  | flow (hquiet : front.IsQuiet r) (hstatus : (a.exchange front r).status? = some 200)
    (selected : List Int)
    (hnext : a.next front r = { a with session := (a.session.showSequence selected).session })
  /-- The capture is closed. -/
  | close (hcommand : front.command r = .ok .close)
    (hstatus : (a.exchange front r).status? = some 200)
    (hnext : a.next front r = { a with session := a.session.closeCapture })
  /-- A capture is loaded into a new session. -/
  | load (path : String) (allFlows : Option Bool)
    (hcommand : front.command r = .ok (.load path allFlows))
    (hstatus : (a.exchange front r).status? = some 200) (packets : List Packet)
    (hpackets : front.packets? r path = some packets)
    (hnext : a.next front r = { a with session := ((Session.new a.settings allFlows).replay packets
      Session.defaultBatchSize).session })

/-- Where there is a response, the interface goes on as it stands next to it. -/
lemma next_of_handle {b : Api} {response : Response}
    (h : a.handle front r = .ok (b, response)) : a.next front r = b := by
  rw [next, h]

/-- And the status that is heard is that of the response. -/
lemma status?_of_handle {b : Api} {response : Response}
    (h : a.handle front r = .ok (b, response)) :
    (a.exchange front r).status? = some response.status := by
  rw [exchange, answered, h]
  rfl

/-- A request that is answered without a change does nothing. -/
lemma effect_of_unchanged {response : Response} (h : a.handle front r = .ok (a, response))
    (hquiet : response.status = 200 → front.IsQuiet r) : a.Effect front r := by
  refine .nothing (next_of_handle h) fun hstatus => hquiet ?_
  rw [status?_of_handle h] at hstatus
  exact Option.some.inj hstatus

/-- A command to list the calls changes nothing, or it is granted and the table is sorted. -/
lemma calls_cases (a : Api) (sort : Option String) (descending : Bool) :
    (∃ response, a.calls sort descending = (a, response)) ∨
    ∃ c body, a.calls sort descending =
      ({ a with session := a.session.sortBy c descending }, ⟨200, body⟩) := by
  unfold calls
  dsimp only
  split
  · exact Or.inl ⟨_, rfl⟩
  · split
    · exact Or.inl ⟨_, rfl⟩
    · exact Or.inr ⟨_, _, rfl⟩

/-- A load ends the answering, or it is not granted and changes nothing, or it is granted and the
capture is replayed in a new session. -/
lemma load_cases (front : Front ρ φ) (a : Api) (r : ρ) (path : String)
    (allFlows : Option Bool) :
    (∃ fault, a.load front r path allFlows = .error fault) ∨
    (∃ response, a.load front r path allFlows = .ok (a, response) ∧ response.status ≠ 200) ∨
    ∃ packets body, front.packets? r path = some packets ∧ a.load front r path allFlows =
      .ok ({ a with session := ((Session.new a.settings allFlows).replay packets
        Session.defaultBatchSize).session }, ⟨200, body⟩) := by
  have hrefused : ∀ detail, (refusal 400 detail).status ≠ 200 := fun _ => by
    change 400 ≠ 200
    decide
  unfold load Front.packets?
  cases front.expandHome r path with
  | error fault => exact Or.inl ⟨fault, rfl⟩
  | ok path =>
    dsimp only [bind, Except.bind, Except.toOption, Option.bind]
    cases front.capture r path with
    | error fault =>
      dsimp only
      cases front.wrongValue? fault with
      | some wording => exact Or.inr (Or.inl ⟨_, rfl, hrefused wording⟩)
      | none => exact Or.inl ⟨fault, rfl⟩
    | ok found =>
      cases found with
      | none => exact Or.inr (Or.inl ⟨_, rfl, hrefused _⟩)
      | some packets => exact Or.inr (Or.inr ⟨packets, _, rfl, rfl⟩)

/-- Every request has one of the effects. -/
theorem effect (front : Front ρ φ) (a : Api) (r : ρ) : a.Effect front r := by
  cases hcommand : front.command r with
  | error response =>
    -- the request does not get as far as the session
    have hhandle : a.handle front r = .ok (a, response) := by rw [handle, hcommand]
    refine effect_of_unchanged hhandle fun _ c hc => ?_
    rw [hcommand] at hc
    cases hc
  | ok command =>
    have hhandle : a.handle front r = a.obey front r command := by rw [handle, hcommand]
    have hquiet : command.turns = false → front.IsQuiet r := by
      intro hturns c hc
      obtain rfl : command = c := Except.ok.inj (hcommand.symm.trans hc)
      exact hturns
    cases command with
    | health | activate | filter => exact effect_of_unchanged hhandle fun _ => hquiet rfl
    | close => exact .close hcommand (status?_of_handle hhandle) (next_of_handle hhandle)
    | calls sort descending =>
      rcases a.calls_cases sort descending with ⟨response, h⟩ | ⟨c, body, h⟩
      · exact effect_of_unchanged (hhandle.trans (congrArg Except.ok h)) fun _ => hquiet rfl
      · have hsorted := hhandle.trans (congrArg Except.ok h)
        exact .sort (hquiet rfl) (status?_of_handle hsorted) c descending (next_of_handle hsorted)
    | sequence selected =>
      exact .flow (hquiet rfl) (status?_of_handle hhandle) selected (next_of_handle hhandle)
    | load path allFlows =>
      rcases a.load_cases front r path allFlows with ⟨fault, h⟩ | ⟨response, h, hstatus⟩ |
        ⟨packets, body, hpackets, h⟩
      · have hended : a.handle front r = .error fault := hhandle.trans h
        refine .nothing (by rw [next, hended]) fun hstatus => ?_
        rw [exchange, answered, hended] at hstatus
        cases hstatus
      · exact effect_of_unchanged (hhandle.trans h) fun h200 => absurd h200 hstatus
      · have hloaded := hhandle.trans h
        exact .load path allFlows hcommand (status?_of_handle hloaded) packets hpackets
          (next_of_handle hloaded)

/-! ## Leaving out what is refused -/

/-- A request that is refused does nothing. -/
theorem next_of_isRefused (h : (a.exchange front r).IsRefused) : a.next front r = a := by
  obtain ⟨n, hn, hlow, -⟩ := h
  have hother : (a.exchange front r).status? ≠ some 200 := by
    intro hgranted
    rw [hgranted] at hn
    cases hn
    exact absurd hlow (by decide)
  cases a.effect front r with
  | nothing hnext => exact hnext
  | sort _ hstatus => exact absurd hstatus hother
  | flow _ hstatus => exact absurd hstatus hother
  | close _ hstatus => exact absurd hstatus hother
  | load _ _ _ hstatus => exact absurd hstatus hother

end Api

/-- The second history is the first without some of the requests that were refused. -/
inductive Thinned : List (Exchange ρ φ) → List (Exchange ρ φ) → Prop
  | nil : Thinned [] []
  | keep (x : Exchange ρ φ) {xs ys : List (Exchange ρ φ)} (h : Thinned xs ys) :
    Thinned (x :: xs) (x :: ys)
  | leave {x : Exchange ρ φ} (hx : x.IsRefused) {xs ys : List (Exchange ρ φ)}
    (h : Thinned xs ys) : Thinned (x :: xs) ys

/-- Without the requests that were refused, everything else is answered as before. -/
theorem Thinned.exchanges {front : Front ρ φ} {a : Api} {rs : List ρ}
    {xs : List (Exchange ρ φ)} (h : Thinned (a.exchanges front rs) xs) :
    a.exchanges front (xs.map (·.request)) = xs := by
  induction rs generalizing a xs with
  | nil =>
    cases h
    rfl
  | cons r rs ih =>
    cases h with
    | keep _ h => exact congrArg (List.cons _) (ih h)
    | leave hx h =>
      -- the rest was heard of an interface that the refused request has left as it was
      rw [Api.next_of_isRefused hx] at h
      exact ih h

/-! ## What later answers rest on -/

/-- What is left of a history: the packets and the choice of flows of the last load that was
granted, if there was one, and whether the capture was closed since. -/
structure Basis where
  capture : Option (List Packet × Option Bool) := none
  closed : Bool := false

namespace Basis

/-- The basis after an exchange. -/
def next (front : Front ρ φ) (b : Basis) (x : Exchange ρ φ) : Basis :=
  if x.status? = some 200 then
    match front.command x.request with
    | .ok (.load path allFlows) =>
      ⟨(front.packets? x.request path).map fun packets => (packets, allFlows), false⟩
    | .ok .close => { b with closed := true }
    | _ => b
  else b

/-- The basis that a history leaves. -/
def ofHistory (front : Front ρ φ) (xs : List (Exchange ρ φ)) : Basis :=
  xs.foldl (next front) {}

/-- The session right after a capture was loaded.  If none was, it is an empty one. -/
def loaded (settings : Settings) : Option (List Packet × Option Bool) → Session
  | none => Session.new settings none
  | some (packets, allFlows) =>
    ((Session.new settings allFlows).replay packets Session.defaultBatchSize).session

/-- The session that was loaded, closed if the capture was. -/
def session (settings : Settings) (b : Basis) : Session :=
  if b.closed then (loaded settings b.capture).closeCapture else loaded settings b.capture

variable {front : Front ρ φ} {b : Basis} {x : Exchange ρ φ}

/-- What was neither granted as a load nor as a closing leaves the basis as it is. -/
lemma next_of_quiet (h : x.status? = some 200 → front.IsQuiet x.request) :
    b.next front x = b := by
  unfold next
  split
  · rename_i hgranted
    have hquiet := h hgranted
    split
    · rename_i hcommand
      cases hquiet _ hcommand
    · rename_i hcommand
      cases hquiet _ hcommand
    · rfl
  · rfl

/-- A load that was granted leaves what it asked for. -/
lemma next_load {path : String} {allFlows : Option Bool}
    (hcommand : front.command x.request = .ok (.load path allFlows))
    (hstatus : x.status? = some 200) {packets : List Packet}
    (hpackets : front.packets? x.request path = some packets) :
    b.next front x = ⟨some (packets, allFlows), false⟩ := by
  rw [next, if_pos hstatus, hcommand]
  dsimp only
  rw [hpackets]
  rfl

/-- A closing that was granted is remembered. -/
lemma next_close (hcommand : front.command x.request = .ok .close)
    (hstatus : x.status? = some 200) : b.next front x = { b with closed := true } := by
  rw [next, if_pos hstatus, hcommand]

end Basis

namespace Api

/-- An interface that has seen nothing but what a basis tells. -/
def onBasis (settings : Settings) (b : Basis) : Api where
  settings := settings
  session := b.session settings

/-- What an interface keeps of its history: it has the settings, its session looks as after the
last load, and it is closed if the capture was. -/
structure StandsOn (settings : Settings) (a : Api) (b : Basis) : Prop where
  /-- The settings never change. -/
  settings_eq : a.settings = settings
  /-- The session looks as after the load. -/
  looks : a.session.LooksAs (Basis.loaded settings b.capture)
  /-- The session is closed if the capture was. -/
  closed : a.session.closed = b.closed

variable {front : Front ρ φ} {settings : Settings} {a a' : Api} {b : Basis} {r : ρ}

/-- In a new interface there is an empty session. -/
lemma standsOn_new (settings : Settings) : StandsOn settings (new settings) {} :=
  ⟨rfl, .refl rfl, rfl⟩

/-- One request keeps the interface on its basis. -/
lemma StandsOn.next (h : StandsOn settings a b) (front : Front ρ φ) (r : ρ) :
    StandsOn settings (a.next front r) (b.next front (a.exchange front r)) := by
  cases a.effect front r with
  | nothing hnext hquiet =>
    rw [hnext, Basis.next_of_quiet hquiet]
    exact h
  | sort hquiet _ c descending hnext =>
    rw [hnext, Basis.next_of_quiet fun _ => hquiet]
    exact ⟨h.settings_eq, h.looks.sortBy c descending, h.closed⟩
  | flow hquiet _ selected hnext =>
    rw [hnext, Basis.next_of_quiet fun _ => hquiet]
    exact ⟨h.settings_eq, h.looks.showSequence selected,
      (Session.closed_showSequence a.session selected).trans h.closed⟩
  | close hcommand hstatus hnext =>
    rw [hnext, Basis.next_close hcommand hstatus]
    exact ⟨h.settings_eq, h.looks.closeCapture, rfl⟩
  | load path allFlows hcommand hstatus packets hpackets hnext =>
    -- the new session owes nothing to the one before it
    rw [hnext, Basis.next_load hcommand hstatus hpackets, ← h.settings_eq]
    exact ⟨rfl, .refl (Session.inOrder_replay rfl packets _), Session.closed_replay _ packets _⟩

/-- So does a history, whose exchanges move the basis along. -/
theorem StandsOn.after (h : StandsOn settings a b) (front : Front ρ φ) (rs : List ρ) :
    StandsOn settings (a.after front rs) ((a.exchanges front rs).foldl (Basis.next front) b) := by
  induction rs generalizing a b with
  | nil => exact h
  | cons r rs ih =>
    rw [after_cons, exchanges_cons, List.foldl_cons]
    exact ih (h.next front r)

/-- It also looks like the session of its basis, since closing a capture does not show. -/
lemma StandsOn.looks_session (h : StandsOn settings a b) :
    a.session.LooksAs (b.session settings) := by
  unfold Basis.session
  split
  · exact h.looks.symm.closeCapture.symm
  · exact h.looks

/-- The session of a basis is closed if the capture was. -/
lemma closed_session (settings : Settings) (b : Basis) :
    (b.session settings).closed = b.closed := by
  have hopen : (Basis.loaded settings b.capture).closed = false := by
    cases b.capture with
    | none => rfl
    | some load => exact Session.closed_replay _ load.1 _
  unfold Basis.session
  split
  · rename_i hclosed
    exact hclosed.symm
  · rename_i hclosed
    rw [hopen, Bool.eq_false_of_not_eq_true hclosed]

/-- Interfaces answer a request the same if they obey its command, if it is one, in the same way. -/
lemma answered_congr (h : ∀ c, front.command r = .ok c →
    (a.obey front r c).map (·.2) = (a'.obey front r c).map (·.2)) :
    a.answered front r = a'.answered front r := by
  unfold answered handle
  cases hcommand : front.command r with
  | error response => rfl
  | ok c => exact h c hcommand

/-- Interfaces whose sessions look the same go to the same frame. -/
lemma activate_congr (h : a.session.LooksAs a'.session) (id : Int) :
    a.activate id = a'.activate id := by
  unfold activate
  rw [h.value_activate]

/-- They prepare the same filters. -/
lemma filter_congr (h : a.session.LooksAs a'.session) (selected : List Int) :
    a.filter selected = a'.filter selected := by
  unfold filter
  rw [h.value_prepareFilter]

/-- If both are open or both are closed, they show the same flows. -/
lemma sequence_congr (h : a.session.LooksAs a'.session)
    (hclosed : a.session.closed = a'.session.closed) (selected : List Int) :
    (a.sequence selected).2 = (a'.sequence selected).2 := by
  unfold sequence
  have hvalue := h.value_showSequence hclosed selected
  dsimp only
  cases hs : (a.session.showSequence selected).value with
  | none => rw [← hvalue, hs, h.analysisType]
  | some handoff =>
    rw [hs] at hvalue
    rw [← hvalue, h.diagram_showSequence hs hvalue.symm]

/-- So they obey the commands for frames and filters in the same way. -/
lemma obey_congr_frames (h : a.session.LooksAs a'.session) {c : Command}
    (hc : c.asksForFrames = true) :
    (a.obey front r c).map (·.2) = (a'.obey front r c).map (·.2) := by
  cases c with
  | activate id => exact congrArg (fun response => Except.ok response) (activate_congr h id)
  | filter selected => exact congrArg (fun response => Except.ok response) (filter_congr h selected)
  | health | load | close | calls | sequence => cases hc

/-- And those for flows, if both are open or both are closed. -/
lemma obey_congr_flow (h : a.session.LooksAs a'.session)
    (hclosed : a.session.closed = a'.session.closed) {c : Command} (hc : c.asksForFlow = true) :
    (a.obey front r c).map (·.2) = (a'.obey front r c).map (·.2) := by
  cases c with
  | sequence selected =>
    exact congrArg (fun response => Except.ok response) (sequence_congr h hclosed selected)
  | health | load | close | calls | activate | filter => cases hc

/-! ## Histories -/

/-- After every history of requests, whether they were granted, refused or ended, and whatever the
framework and the files make of them, frames and filters are answered from the settings and from
what the last load that was granted has loaded, and flows are answered from that and from whether
the capture was closed since.  And from every history requests that were refused can be left out,
and all the others are answered as before. -/
theorem history (front : Front ρ φ) (settings : Settings) (rs : List ρ) :
    (∀ r, (∀ c, front.command r = .ok c → c.asksForFrames = true) →
      ((new settings).after front rs).answered front r =
        (onBasis settings
          { Basis.ofHistory front ((new settings).exchanges front rs) with
            closed := false }).answered front r) ∧
    (∀ r, (∀ c, front.command r = .ok c → c.asksForFlow = true) →
      ((new settings).after front rs).answered front r =
        (onBasis settings
          (Basis.ofHistory front ((new settings).exchanges front rs))).answered front r) ∧
    ∀ xs, Thinned ((new settings).exchanges front rs) xs →
      (new settings).exchanges front (xs.map (·.request)) = xs := by
  have hstands : StandsOn settings ((new settings).after front rs)
      (Basis.ofHistory front ((new settings).exchanges front rs)) :=
    (standsOn_new settings).after front rs
  have hclosed := hstands.closed.trans (closed_session settings _).symm
  refine ⟨fun r hframes => ?_, fun r hflow => ?_, fun xs h => h.exchanges⟩
  · exact answered_congr fun c hc => obey_congr_frames hstands.looks (hframes c hc)
  · exact answered_congr fun c hc =>
      obey_congr_flow hstands.looks_session hclosed (hflow c hc)

/-- A request as it is sent: its method, its target, and the fields of its body. -/
structure Sent where
  method : String
  target : String
  fields : List (String × Document) := []

/-- What a framework makes of the requests of a visit.  A slash too many is answered with the
address without it. -/
def desk : Front Sent PathFault where
  command
    | ⟨"POST", "/api/session/load", [("pcap_path", .text path)]⟩ => .ok (.load path none)
    | ⟨"POST", "/api/session/load", [("pcap_path", .text path), ("all_flows", .truth flows)]⟩ =>
      .ok (.load path (some flows))
    | ⟨"POST", "/api/session/close", []⟩ => .ok .close
    | ⟨"POST", "/api/session/close/", []⟩ => .error ⟨307, none⟩
    | ⟨"GET", "/api/calls?sort=color", []⟩ => .ok (.calls (some "color") false)
    | ⟨"POST", "/api/filter", [("call_ids", .list [.whole id])]⟩ => .ok (.filter [id])
    | ⟨"POST", "/api/sequence", [("call_ids", .list [.whole id])]⟩ => .ok (.sequence [id])
    | _ => .error (refusal 404 "Not Found")
  expandHome _ path := .ok path
  capture _ path := .ok (if path = "in.pcap" then some Session.mixedCapture else none)
  wrongValue? _ := none

/-- Somebody asks for a capture that is not there, loads one that is, sorts by a column that there
is not, writes a slash too many, and closes the capture. -/
def visit : List Sent :=
  [⟨"POST", "/api/session/load", [("pcap_path", .text "out.pcap")]⟩,
    ⟨"POST", "/api/session/load", [("pcap_path", .text "in.pcap"), ("all_flows", .truth true)]⟩,
    ⟨"GET", "/api/calls?sort=color", []⟩,
    ⟨"POST", "/api/session/close/", []⟩,
    ⟨"POST", "/api/session/close", []⟩]

/-- A request about the first call. -/
def aboutFirst (target : String) : Sent :=
  ⟨"POST", target, [("call_ids", .list [.whole 1])]⟩

/-- The filter is prepared from the capture that was loaded, a flow is no longer shown, and without
the two requests that were refused the other three are answered as before. -/
theorem history_visit :
    ((new {}).after desk visit).answered desk (aboutFirst "/api/filter") =
      (onBasis {} ⟨some (Session.mixedCapture, some true), false⟩).answered desk
        (aboutFirst "/api/filter") ∧
    ((new {}).after desk visit).answered desk (aboutFirst "/api/sequence") =
      (onBasis {} ⟨some (Session.mixedCapture, some true), true⟩).answered desk
        (aboutFirst "/api/sequence") ∧
    (new {}).exchanges desk (visit.eraseIdx 2).tail =
      (((new {}).exchanges desk visit).eraseIdx 2).tail := by
  obtain ⟨hlook, hflow, hthinned⟩ := history desk {} visit
  have hbasis : Basis.ofHistory desk ((new {}).exchanges desk visit) =
      ⟨some (Session.mixedCapture, some true), true⟩ := rfl
  rw [hbasis] at hlook hflow
  have hrest : Thinned ((new {}).exchanges desk visit)
      (((new {}).exchanges desk visit).eraseIdx 2).tail :=
    .leave ⟨400, rfl, by decide, by decide⟩
      (.keep _ (.leave ⟨400, rfl, by decide, by decide⟩ (.keep _ (.keep _ .nil))))
  refine ⟨hlook _ fun c hc => ?_, hflow _ fun c hc => ?_, hthinned _ hrest⟩
  · obtain rfl : .filter [1] = c := Except.ok.inj hc
    rfl
  · obtain rfl : .sequence [1] = c := Except.ok.inj hc
    rfl

end Api

end VoipCalls.Http
