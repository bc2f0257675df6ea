import VoipCalls.Call.Column
import VoipCalls.Settings.Field
import VoipCalls.Tap

/-!
# Settings

What a settings document decides: which flows are listed, how times are shown, how the table is
sorted at first, and when a filter takes its short form.  `Settings.ofDocument` reads a document
and reports every bad field with its place; unknown keys are ignored and missing ones have their
default.
-/

namespace VoipCalls

/-- The settings of the program. -/
structure Settings where
  flowShow : FlowShow := .onlyInvites
  precision : Nat := defaultPrecision
  sortColumn : Column := .startTime
  descending : Bool := false
  maxLength : Nat := 0
deriving DecidableEq

/-- A bad field: where it stands and what is wrong with it. -/
structure FieldError where
  place : List String
  fault : FieldFault
deriving DecidableEq

namespace Settings

/-- The largest number of decimal places of a time. -/
def maxPrecision : Nat := 9

/-- The text of a field without blanks around it, in lower case. -/
def normalText (s : String) : String :=
  Text.toLower (Text.strip s)

/-- Read the choice of flows; null is the default choice. -/
def readFlowShow : Document → Except FieldFault FlowShow
  | .null => .ok .onlyInvites
  | .text s =>
    match normalText s with
    | "invites" => .ok .onlyInvites
    | "all" => .ok .all
    | _ => .error .notAMember
  | .brokenText => .error .brokenText
  | _ => .error .notAMember

/-- Read the number of decimal places. -/
def readPrecision (d : Document) : Except FieldFault Nat :=
  match d.toInteger with
  | .error fault => .error fault
  | .ok n => if 0 ≤ n ∧ n ≤ maxPrecision then .ok n.toNat else .error .outOfRange

/-- Read the name or the title of a column. -/
def readColumn : Document → Except FieldFault Column
  | .text s =>
    let cs := (normalText s).toList.map fun c => if c = ' ' ∨ c = '-' then '_' else c
    match Column.ofName? (String.ofList cs) with
    | some c => .ok c
    | none => .error .notAMember
  | .brokenText => .error .brokenText
  | _ => .error .notAMember

/-- Read the direction of sorting: true for descending. -/
def readDescending (d : Document) : Except FieldFault Bool :=
  if d.isBlank then .ok false
  else
    match d with
    | .text s =>
      match normalText s with
      | "ascending" => .ok false
      | "descending" => .ok true
      | _ => .error .outOfRange
    | _ => .error .outOfRange

/-- Read the limit on the length of a filter. -/
def readMaxLength (d : Document) : Except FieldFault Nat :=
  match d.toInteger with
  | .error fault => .error fault
  | .ok n => if 0 ≤ n then .ok n.toNat else .error .outOfRange

/-- Apply a field of a section, or note what is wrong with it.  A missing field changes nothing. -/
def field {α : Type} (section? : Except FieldFault (List (Document × Document)))
    (place key : String) (read : Document → Except FieldFault α) (set : α → Settings → Settings)
    (r : Settings × List FieldError) : Settings × List FieldError :=
  match section? with
  | .error _ => r
  | .ok entries =>
    match Document.lookup entries key with
    | none => r
    | some d =>
      match read d with
      | .ok v => (set v r.1, r.2)
      | .error fault => (r.1, r.2 ++ [⟨[place, key], fault⟩])

/-- The entries of a section; a missing section is empty. -/
def sectionOf (entries : List (Document × Document)) (key : String) :
    Except FieldFault (List (Document × Document)) :=
  match Document.lookup entries key with
  | none => .ok []
  | some (.mapping fields) => .ok fields
  | some _ => .error .notAMapping

/-- Note a section that is not a mapping. -/
def checkSection (section? : Except FieldFault (List (Document × Document))) (place : String)
    (r : Settings × List FieldError) : Settings × List FieldError :=
  match section? with
  | .ok _ => r
  | .error fault => (r.1, r.2 ++ [⟨[place], fault⟩])

/-- Read the sections of a document, in their order. -/
def readSections (entries : List (Document × Document)) : Settings × List FieldError :=
  let calls := sectionOf entries "calls"
  let table := sectionOf entries "table"
  let filter := sectionOf entries "filter"
  let r : Settings × List FieldError := ({}, [])
  let r := checkSection calls "calls" r
  let r := field calls "calls" "flow_show" readFlowShow (fun v s => { s with flowShow := v }) r
  let r :=
    field calls "calls" "time_precision" readPrecision (fun v s => { s with precision := v }) r
  let r := checkSection table "table" r
  let r := field table "table" "sort_column" readColumn (fun v s => { s with sortColumn := v }) r
  let r :=
    field table "table" "sort_order" readDescending (fun v s => { s with descending := v }) r
  let r := checkSection filter "filter" r
  field filter "filter" "max_length" readMaxLength (fun v s => { s with maxLength := v }) r

/-- The settings of a document, or all its bad fields. -/
def ofDocument : Document → Except (List FieldError) Settings
  | .mapping entries =>
    match readSections entries with
    | (settings, []) => .ok settings
    | (_, errors) => .error errors
  | _ => .error [⟨[], .notAMapping⟩]

/-- The word for the direction of sorting. -/
def orderText (s : Settings) : String :=
  if s.descending then "descending" else "ascending"

end Settings

end VoipCalls
