/-!
# Control sequences of a terminal

A control sequence tells a terminal how to show the text behind it: an escape character, a bracket,
parameters, intermediate characters, and a final one, each from a range of its own in ASCII.
`withoutControls` is a text as it is printed where there is no terminal.
-/

namespace VoipCalls.Text

/-- Whether a character may stand among the parameters of a control sequence. -/
def isControlParameter (c : Char) : Bool :=
  '0' ≤ c && c ≤ '?'

/-- Whether a character may stand between the parameters and the end of a control sequence. -/
def isControlIntermediate (c : Char) : Bool :=
  ' ' ≤ c && c ≤ '/'

/-- Whether a character ends a control sequence. -/
def isControlFinal (c : Char) : Bool :=
  '@' ≤ c && c ≤ '~'

/-- The length of the control sequence at the start of a text; zero if there is none. -/
def controlLength : List Char → Nat
  | escape :: '[' :: cs =>
    let rest := (cs.dropWhile isControlParameter).dropWhile isControlIntermediate
    match rest with
    | final :: _ =>
      if escape.toNat = 27 ∧ isControlFinal final then cs.length - rest.length + 3 else 0
    | [] => 0
  | _ => 0

/-- The text without control sequences, after skipping some characters. -/
def withoutControlsFrom : Nat → List Char → List Char
  | _, [] => []
  | skip + 1, _ :: cs => withoutControlsFrom skip cs
  | 0, c :: cs =>
    match controlLength (c :: cs) with
    | 0 => c :: withoutControlsFrom 0 cs
    | n + 1 => withoutControlsFrom n cs

/-- The text without control sequences. -/
def withoutControls (cs : List Char) : List Char :=
  withoutControlsFrom 0 cs

end VoipCalls.Text
