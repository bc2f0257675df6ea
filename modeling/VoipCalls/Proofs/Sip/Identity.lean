import VoipCalls.Proofs.Text.Cutting
import VoipCalls.Sip.StartLine

/-!
# Identities

A From or To header names its party by an address in angle brackets, with a display name in
quotation marks in front of it and parameters behind it (`NameAddr`).  The identity is what stands
between the first angle bracket that opens and the next one that closes.

The reader looks for the brackets in the display name too.  `identity?_nameAddr` says what it finds
there: the identity is the address if no bracket opens in the name, and otherwise only if the name
holds the same address in brackets.  So whoever chooses the display name chooses the identity, as in
`identity?_bracketedName`.
-/

namespace VoipCalls.Sip

variable {front part rest : List Char}

/-! ## What stands between brackets -/

/-- No bracket opens in what stands in front. -/
lemma bracketed?_append (h : '<' ∉ front) (cs : List Char) :
    bracketed? (front ++ cs) = bracketed? cs := by
  induction front with
  | nil => rfl
  | cons c front ih =>
    rw [List.mem_cons, not_or] at h
    rw [List.cons_append, bracketed?, if_neg (Ne.symm h.1), ih h.2]

/-- What stands up to the next bracket that closes is found. -/
lemma bracketed?_opening_append (h : '>' ∉ part) (rest : List Char) :
    bracketed? ('<' :: (part ++ '>' :: rest)) = some part := by
  have hcut : Text.cutAt ['>'] ('>' :: rest) = some ([], rest) := Text.cutAt_self ['>'] rest
  rw [bracketed?, if_pos rfl, Text.cutAt_append h, hcut]
  exact congrArg some (List.append_nil part)

/-- Without a bracket that closes nothing is found. -/
lemma bracketed?_eq_none_of_closing (h : '>' ∉ rest) : bracketed? ('<' :: rest) = none := by
  rw [bracketed?, if_pos rfl, Text.cutAt_eq_none (List.mem_singleton_self '>') h]

/-! ## Identities of headers -/

/-- A display name, an address and parameters. -/
structure NameAddr where
  name : String
  uri : String
  params : String
  /-- The name needs no escapes between quotation marks. -/
  name_plain : '"' ∉ name.toList ∧ '\\' ∉ name.toList
  /-- No angle bracket stands in the address. -/
  uri_plain : '<' ∉ uri.toList ∧ '>' ∉ uri.toList
  /-- No blank stands around the address. -/
  uri_trimmed : Text.strip uri = uri
  /-- The parameters begin with a semicolon. -/
  params_begin : params = "" ∨ params.toList.head? = some ';'

namespace NameAddr

variable (a : NameAddr)

/-- The header that says them. -/
def text : String :=
  "\"" ++ a.name ++ "\" <" ++ a.uri ++ ">" ++ a.params

/-- The characters behind the display name. -/
def behindName : List Char :=
  '"' :: ' ' :: '<' :: (a.uri.toList ++ '>' :: a.params.toList)

/-- The characters of the header. -/
lemma toList_text : a.text.toList = '"' :: (a.name.toList ++ a.behindName) := by
  simp [text, behindName]

/-- If no bracket opens in the name, the address is found. -/
lemma bracketed?_text (h : '<' ∉ a.name.toList) :
    bracketed? a.text.toList = some a.uri.toList := by
  have hfront : '<' ∉ '"' :: (a.name.toList ++ ['"', ' ']) := by simp [h]
  have hparts : a.text.toList = '"' :: (a.name.toList ++ ['"', ' ']) ++
      '<' :: (a.uri.toList ++ '>' :: a.params.toList) := by
    simp [toList_text, behindName]
  rw [hparts, bracketed?_append hfront, bracketed?_opening_append a.uri_plain.2]

variable {a} {front part rest : List Char}

/-- If a bracket opens in the name and closes there, what stands between is found. -/
lemma bracketed?_text_of_closed (hname : a.name.toList = front ++ '<' :: (part ++ '>' :: rest))
    (hfront : '<' ∉ front) (hpart : '>' ∉ part) : bracketed? a.text.toList = some part := by
  have hfront' : '<' ∉ '"' :: front := by simp [hfront]
  have hparts : a.text.toList = '"' :: front ++ '<' :: (part ++ '>' :: (rest ++ a.behindName)) := by
    simp [toList_text, hname]
  rw [hparts, bracketed?_append hfront', bracketed?_opening_append hpart]

/-- If a bracket opens in the name and does not close there, what is found goes on up to the end of
the address. -/
lemma bracketed?_text_of_open (hname : a.name.toList = front ++ '<' :: rest)
    (hfront : '<' ∉ front) (hrest : '>' ∉ rest) :
    bracketed? a.text.toList = some (rest ++ '"' :: ' ' :: '<' :: a.uri.toList) := by
  have hfront' : '<' ∉ '"' :: front := by simp [hfront]
  have hpart : '>' ∉ rest ++ '"' :: ' ' :: '<' :: a.uri.toList := by simp [hrest, a.uri_plain.2]
  have hparts : a.text.toList = '"' :: front ++
      '<' :: (rest ++ '"' :: ' ' :: '<' :: a.uri.toList ++ '>' :: a.params.toList) := by
    simp [toList_text, behindName, hname]
  rw [hparts, bracketed?_append hfront', bracketed?_opening_append hpart]

end NameAddr

/-- The identity of a header in which something stands between brackets. -/
lemma identity?_of_bracketed? {v : String} {part : List Char}
    (h : bracketed? v.toList = some part) :
    identity? (some v) = some (String.ofList (Text.trim part)) := by
  have hne : v.isEmpty = false := by
    rw [Bool.eq_false_iff, Ne, String.isEmpty_iff]
    rintro rfl
    cases h
  simp [identity?, hne, h]

/-- For every display name, address and parameters: the identity of the header is the address if no
angle bracket opens in the name.  If the first one that opens in the name is closed there, the
identity is what stands between them.  If it is not, the identity is the rest of the name, with the
address behind it.

So the identity is the address exactly if no bracket opens in the name, or if what stands between
the first brackets in the name is that address. -/
theorem identity?_nameAddr (a : NameAddr) :
    ('<' ∉ a.name.toList → identity? (some a.text) = some a.uri) ∧
    (∀ front part rest, a.name.toList = front ++ '<' :: (part ++ '>' :: rest) → '<' ∉ front →
      '>' ∉ part → identity? (some a.text) = some (String.ofList (Text.trim part))) ∧
    (∀ front rest, a.name.toList = front ++ '<' :: rest → '<' ∉ front → '>' ∉ rest →
      identity? (some a.text) =
        some (String.ofList (Text.trim (rest ++ '"' :: ' ' :: '<' :: a.uri.toList)))) ∧
    (identity? (some a.text) = some a.uri ↔ '<' ∉ a.name.toList ∨
      ∃ part, bracketed? a.name.toList = some part ∧ Text.trim part = a.uri.toList) := by
  have hplain : '<' ∉ a.name.toList → identity? (some a.text) = some a.uri := by
    intro h
    have htrim := (Text.isTrimmed_of_strip a.uri_trimmed).trim_eq
    rw [identity?_of_bracketed? (a.bracketed?_text h), htrim, String.ofList_toList]
  refine ⟨hplain,
    fun _ _ _ hname hfront hpart =>
      identity?_of_bracketed? (NameAddr.bracketed?_text_of_closed hname hfront hpart),
    fun _ _ hname hfront hrest =>
      identity?_of_bracketed? (NameAddr.bracketed?_text_of_open hname hfront hrest), ?_⟩
  by_cases hopening : '<' ∈ a.name.toList
  case neg => exact iff_of_true (hplain hopening) (Or.inl hopening)
  case pos =>
    have hsame : ∀ part, some (String.ofList part) = some a.uri ↔ part = a.uri.toList := by
      intro part
      rw [Option.some_inj, ← String.toList_inj, String.toList_ofList]
    obtain ⟨front, back, hname, hfront⟩ := List.eq_append_cons_of_mem hopening
    by_cases hclosing : '>' ∈ back
    case pos =>
      obtain ⟨part, rest, rfl, hpart⟩ := List.eq_append_cons_of_mem hclosing
      have hfound : bracketed? a.name.toList = some part := by
        rw [hname, bracketed?_append hfront, bracketed?_opening_append hpart]
      rw [identity?_of_bracketed? (NameAddr.bracketed?_text_of_closed hname hfront hpart), hsame,
        hfound]
      simp [hopening]
    case neg =>
      have hfound : bracketed? a.name.toList = none := by
        rw [hname, bracketed?_append hfront, bracketed?_eq_none_of_closing hclosing]
      -- a bracket that opens stays in what was found, and none is in the address
      have hother : Text.trim (back ++ '"' :: ' ' :: '<' :: a.uri.toList) ≠ a.uri.toList := by
        intro heq
        apply a.uri_plain.1
        rw [← heq]
        exact Text.mem_trim_of_mem rfl (by simp)
      rw [identity?_of_bracketed? (NameAddr.bracketed?_text_of_open hname hfront hclosing), hsame,
        hfound]
      simp [hopening, hother]

/-- A display name with the address of somebody else in brackets. -/
def bracketedName : NameAddr where
  name := "Bob <sip:bob@x>"
  uri := "sip:carol@x"
  params := ";tag=1"
  name_plain := by decide
  uri_plain := by decide
  uri_trimmed := by decide +kernel
  params_begin := by decide

/-- The identity is the address in the display name. -/
theorem identity?_bracketedName :
    bracketedName.text = "\"Bob <sip:bob@x>\" <sip:carol@x>;tag=1" ∧
    identity? (some bracketedName.text) = some "sip:bob@x" ∧
    identity? (some bracketedName.text) ≠ some bracketedName.uri := by
  decide +kernel

end VoipCalls.Sip
