/-!
# Cutting a text at a separator

`cutAt sep cs` is the text before and after the first place where `sep` stands in `cs`, and `none`
where it stands nowhere.
-/

namespace VoipCalls.Text

/-- What is left of a text that starts with the given characters. -/
def after? : List Char → List Char → Option (List Char)
  | [], cs => some cs
  | _ :: _, [] => none
  | p :: ps, c :: cs => if p = c then after? ps cs else none

/-- The parts of a text before and after the first occurrence of a separator. -/
def cutAt (sep : List Char) : List Char → Option (List Char × List Char)
  | [] => (after? sep []).map fun rest => ([], rest)
  | c :: cs =>
    match after? sep (c :: cs) with
    | some rest => some ([], rest)
    | none => (cutAt sep cs).map fun (front, rest) => (c :: front, rest)

/-- Whether the characters `part` stand somewhere in a text. -/
def occursIn (part cs : List Char) : Bool :=
  (cutAt part cs).isSome

/-- The pieces of a list between the occurrences of one element; one piece if there is none. -/
def pieces {α : Type} [DecidableEq α] (sep : α) : List α → List (List α)
  | [] => [[]]
  | c :: cs =>
    if c = sep then [] :: pieces sep cs
    else
      match pieces sep cs with
      | [] => [[c]]
      | p :: ps => (c :: p) :: ps

/-- The pieces put back together, with the separator between neighbours. -/
def joinWith (sep : List Char) : List (List Char) → List Char
  | [] => []
  | [p] => p
  | p :: q :: ps => p ++ sep ++ joinWith sep (q :: ps)

/-- The text with blanks added on the right up to `width` characters. -/
def padRight (width : Nat) (s : String) : String :=
  s ++ String.ofList (List.replicate (width - s.length) ' ')

/-- The text with blanks added on the left up to `width` characters. -/
def padLeft (width : Nat) (s : String) : String :=
  String.ofList (List.replicate (width - s.length) ' ') ++ s

end VoipCalls.Text
