import VoipCalls.Text.Digit
import VoipCalls.Text.Utf8

/-!
# Percent escapes

In a tag of a settings file a percent sign with two hexadecimal digits stands for a byte, and the
bytes spell characters in UTF-8.  `unescape?` refuses a percent sign without digits and bytes that
spell nothing.
-/

namespace VoipCalls.Text.Percent

/-- The byte that an escape at the start of a text stands for, and the text behind it. -/
def escape? : List Char → Option (UInt8 × List Char)
  | '%' :: a :: b :: cs => do
    return (UInt8.ofNat (ofDigits 16 [← hexDigit? a, ← hexDigit? b]), cs)
  | _ => none

/-- The bytes of the escapes at the start of a text, at most `n` of them, and the text behind
them. -/
def escapes : Nat → List Char → List UInt8 × List Char
  | 0, cs => ([], cs)
  | n + 1, cs =>
    match escape? cs with
    | none => ([], cs)
    | some (b, rest) =>
      let (bs, rest) := escapes n rest
      (b :: bs, rest)

/-- Read the escapes of a text, where every run of escapes has to be well-formed; `n` is at least
the length of the text. -/
def unescapeRuns? : Nat → List Char → Option (List Char)
  | _, [] => some []
  | 0, _ => none
  | n + 1, c :: cs =>
    if c = '%' then
      match escapes (cs.length + 1) (c :: cs) with
      | ([], _) => none
      | (bs, rest) => do return (← (Utf8.decode bs).toOption) ++ (← unescapeRuns? n rest)
    else (unescapeRuns? n cs).map (c :: ·)

/-- The text that escapes spell; nothing if one of them is ill-formed. -/
def unescape? (cs : List Char) : Option (List Char) :=
  unescapeRuns? cs.length cs

end VoipCalls.Text.Percent
