import VoipCalls.Text.CaseTable
import VoipCalls.Text.Ranges

/-!
# Upper and lower case

The full case mappings of a text.  `upper` maps character by character, and some characters become
several.  `lower` does so too, except that a capital sigma at the end of a word becomes the final
form: one that follows a letter with case and is followed by none, when the marks in
`caseIgnorableRanges` are looked through.
-/

namespace VoipCalls.Text

/-- Letters with case. -/
def isCased (c : Char) : Bool :=
  inRanges casedRanges c.toNat

/-- Marks that do not separate a letter from its neighbours. -/
def isCaseIgnorable (c : Char) : Bool :=
  inRanges caseIgnorableRanges c.toNat

/-- The image of a character under the tables of one case mapping. -/
def mapCase (runs : List Run) (expansions : List (Nat × List Nat)) (c : Char) : List Char :=
  match expansions.lookup c.toNat with
  | some cs => cs.map Char.ofNat
  | none =>
    match runs.find? (·.covers c.toNat) with
    | some r => [Char.ofNat (c.toNat + r.shift).toNat]
    | none => [c]

/-- The upper-case form of a character. -/
def upperChar (c : Char) : List Char :=
  if c.toNat < 128 then [c.toUpper] else mapCase upperRuns upperExpansions c

/-- The lower-case form of a character outside any context. -/
def lowerChar (c : Char) : List Char :=
  if c.toNat < 128 then [c.toLower] else mapCase lowerRuns lowerExpansions c

/-- The upper-case form of a text. -/
def upper (cs : List Char) : List Char :=
  cs.flatMap upperChar

/-- Whether the first character that is not looked through is a letter with case. -/
def startsCased : List Char → Bool
  | [] => false
  | c :: cs => if isCaseIgnorable c then startsCased cs else isCased c

/-- The lower-case form of a text that stands behind a letter with case, or behind none. -/
def lowerAfter (behindCased : Bool) : List Char → List Char
  | [] => []
  | c :: cs =>
    (if c = 'Σ' then [if behindCased && !startsCased cs then 'ς' else 'σ'] else lowerChar c) ++
      lowerAfter (if isCaseIgnorable c then behindCased else isCased c) cs

/-- The lower-case form of a text. -/
def lower (cs : List Char) : List Char :=
  lowerAfter false cs

/-- The upper-case form of a text. -/
def toUpper (s : String) : String :=
  String.ofList (upper s.toList)

/-- The lower-case form of a text. -/
def toLower (s : String) : String :=
  String.ofList (lower s.toList)

end VoipCalls.Text
