import VoipCalls.Filter.Fields

/-!
# The filter of a selection

A selection of calls is compiled into the filter by frame, or into the filter by correlation field
where the first exceeds a limit.
-/

namespace VoipCalls

/-- The filter of a selection: the frames, or the correlation fields where listing the frames
exceeds a positive limit. -/
def buildFilter (selected : List Int) (x : SequenceIndex) (s : Store) (maxLength : Int) : String :=
  let frames := frameFilter selected x (some s)
  if 0 < maxLength ∧ maxLength < frames.length then fieldFilter selected s else frames

end VoipCalls
