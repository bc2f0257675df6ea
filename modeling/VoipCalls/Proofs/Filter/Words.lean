import Mathlib.Data.List.Induction
import Mathlib.Tactic.Lemma

/-!
# The words of a display filter

The program that a filter is handed to reads it word by word.  A parenthesis is a word of its own, a
quotation mark opens a literal that goes on to the next quotation mark, and everything else up to a
blank is one word.  In a literal a backslash starts an escape, which takes at least the character
behind it.  What the escapes denote is left open (`Escapes`).

`tokensFrom` reads a text character by character.  It reads a word of the right characters as this
word (`tokensFrom_word`), and a literal in which nothing has to be escaped as the text that stands
between the quotation marks (`tokensFrom_literal`).  A text between quotation marks that holds a
quotation mark or a backslash is never read as itself (`isPlainText_of_tokensFrom`).
-/

namespace VoipCalls.DisplayFilter

/-! ## Reading a text -/

/-- The escapes of literals.  From the characters behind a backslash `read` tells the character that
is denoted, and how many of them belong to the escape: any one, and letters or digits behind it. -/
structure Escapes where
  read : List Char → Option (Char × ℕ)
  takes : ∀ {cs c n}, read cs = some (c, n) → ∃ first digits rest,
    cs = first :: (digits ++ rest) ∧ n = digits.length + 1 ∧ ∀ d ∈ digits, d.isAlphanum = true

/-- The escapes that denote the character behind the backslash. -/
def Escapes.verbatim : Escapes where
  read cs := cs.head?.map fun c => (c, 1)
  takes := by
    rintro (_ | ⟨first, rest⟩) c n h
    · cases h
    · cases h
      exact ⟨first, [], rest, rfl, rfl, fun _ hd => absurd hd List.not_mem_nil⟩

/-- A word of a filter. -/
inductive Token where
  | opening
  | closing
  | word (s : String)
  | literal (s : String)
deriving DecidableEq

/-- Whether a character can stand in a word. -/
def isBare (c : Char) : Bool :=
  c != ' ' && c != '(' && c != ')' && c != '"'

/-- Whether a character stands for itself in a literal. -/
def isPlain (c : Char) : Bool :=
  c != '"' && c != '\\'

/-- Where a reader stands in a text: between words, in a word, or in a literal, the next characters
of which may belong to an escape that was read already. -/
inductive Place where
  | between
  | inWord (read : List Char)
  | inLiteral (read : List Char) (skip : ℕ)

/-- What a character says behind a word. -/
def start (c : Char) : List Token × Place :=
  if c = ' ' then ([], .between)
  else if c = '(' then ([.opening], .between)
  else if c = ')' then ([.closing], .between)
  else if c = '"' then ([], .inLiteral [] 0)
  else ([], .inWord [c])

/-- What a character says at a place, if `cs` are the characters behind it. -/
def step (esc : Escapes) (p : Place) (c : Char) (cs : List Char) :
    Option (List Token × Place) :=
  match p with
  | .between => some (start c)
  | .inWord w =>
    if isBare c then some ([], .inWord (w ++ [c]))
    else some (.word (String.ofList w) :: (start c).1, (start c).2)
  | .inLiteral l (skip + 1) => some ([], .inLiteral l skip)
  | .inLiteral l 0 =>
    if c = '"' then some ([.literal (String.ofList l)], .between)
    else if c = '\\' then (esc.read cs).map fun (d, n) => ([], .inLiteral (l ++ [d]) n)
    else some ([], .inLiteral (l ++ [c]) 0)

/-- What the end of a text says at a place: a literal has to be closed. -/
def finish : Place → Option (List Token)
  | .between => some []
  | .inWord w => some [.word (String.ofList w)]
  | .inLiteral _ _ => none

/-- The words of a text that is read from a place on. -/
def tokensFrom (esc : Escapes) (p : Place) : List Char → Option (List Token)
  | [] => finish p
  | c :: cs =>
    (step esc p c cs).bind fun said => (tokensFrom esc said.2 cs).map fun ts => said.1 ++ ts

/-- The words of a text. -/
def tokens? (esc : Escapes) (s : String) : Option (List Token) :=
  tokensFrom esc .between s.toList

/-- Whether a text can stand as a word. -/
def isWord (s : String) : Bool :=
  !s.isEmpty && s.toList.all isBare

/-- Whether nothing in a text has to be escaped in a literal. -/
def isPlainText (s : String) : Bool :=
  s.toList.all isPlain

variable {esc : Escapes} {c : Char} {cs rest u w : List Char} {s : String} {p p' : Place}

/-- A character that says no word changes the place. -/
lemma tokensFrom_of_silent (h : step esc p c cs = some ([], p')) :
    tokensFrom esc p (c :: cs) = tokensFrom esc p' cs := by
  rw [tokensFrom, h, Option.bind_some]
  exact Option.map_id_apply

/-- The words that a character says come first. -/
lemma tokensFrom_of_step {ts : List Token} (h : step esc p c cs = some (ts, p')) :
    tokensFrom esc p (c :: cs) = (tokensFrom esc p' cs).map fun us => ts ++ us := by
  rw [tokensFrom, h, Option.bind_some]

lemma tokensFrom_blank : tokensFrom esc .between (' ' :: cs) = tokensFrom esc .between cs :=
  tokensFrom_of_silent rfl

/-- A word ends in front of a blank. -/
lemma isBare_of_mem_head?_blank : ∀ c ∈ (' ' :: cs).head?, isBare c = false := by
  rintro c ⟨⟩
  rfl

lemma tokensFrom_opening : tokensFrom esc .between ('(' :: cs) =
    (tokensFrom esc .between cs).map fun us => .opening :: us := rfl

lemma tokensFrom_closing : tokensFrom esc .between (')' :: cs) =
    (tokensFrom esc .between cs).map fun us => .closing :: us := rfl

/-! ## Reading a word -/

/-- The characters of a word are read one after the other. -/
lemma tokensFrom_inWord_append (hw : ∀ c ∈ w, isBare c = true) :
    tokensFrom esc (.inWord u) (w ++ rest) = tokensFrom esc (.inWord (u ++ w)) rest := by
  induction w generalizing u with
  | nil => rw [List.nil_append, List.append_nil]
  | cons c w ih =>
    have hstep : step esc (.inWord u) c (w ++ rest) = some ([], .inWord (u ++ [c])) :=
      if_pos (hw c List.mem_cons_self)
    rw [List.cons_append, tokensFrom_of_silent hstep,
      ih fun d hd => hw d (List.mem_cons_of_mem c hd), List.append_assoc, List.singleton_append]

/-- A word ends where no further character of a word follows. -/
lemma tokensFrom_inWord (hrest : ∀ c ∈ rest.head?, isBare c = false) :
    tokensFrom esc (.inWord w) rest =
      (tokensFrom esc .between rest).map fun us => .word (String.ofList w) :: us := by
  cases rest with
  | nil => rfl
  | cons c cs =>
    have hc : ¬ isBare c = true := by simp [hrest c rfl]
    have hstep : step esc (.inWord w) c cs =
        some (.word (String.ofList w) :: (start c).1, (start c).2) := if_neg hc
    have hstart : step esc .between c cs = some ((start c).1, (start c).2) := rfl
    rw [tokensFrom_of_step hstep, tokensFrom_of_step hstart, Option.map_map]
    rfl

/-- A character of a word begins a word. -/
lemma start_of_isBare (hc : isBare c = true) : start c = ([], .inWord [c]) := by
  simp only [isBare, Bool.and_eq_true, bne_iff_ne] at hc
  obtain ⟨⟨⟨hblank, hopening⟩, hclosing⟩, hquote⟩ := hc
  rw [start, if_neg hblank, if_neg hopening, if_neg hclosing, if_neg hquote]

/-- A word is read as itself, unless more of it follows. -/
lemma tokensFrom_word (hs : isWord s = true) (hrest : ∀ c ∈ rest.head?, isBare c = false) :
    tokensFrom esc .between (s.toList ++ rest) =
      (tokensFrom esc .between rest).map fun us => .word s :: us := by
  rw [isWord, Bool.and_eq_true, List.all_eq_true] at hs
  obtain ⟨hne, hbare⟩ := hs
  cases hcs : s.toList with
  | nil =>
    rw [String.toList_eq_nil_iff.mp hcs] at hne
    cases hne
  | cons c w =>
    rw [hcs] at hbare
    have hstep : step esc .between c (w ++ rest) = some ([], .inWord [c]) :=
      congrArg some (start_of_isBare (hbare c List.mem_cons_self))
    rw [List.cons_append, tokensFrom_of_silent hstep,
      tokensFrom_inWord_append fun d hd => hbare d (List.mem_cons_of_mem c hd),
      List.singleton_append, ← hcs, tokensFrom_inWord hrest, String.ofList_toList]

/-! ## Reading a literal -/

/-- A quotation mark opens a literal. -/
lemma tokensFrom_quote :
    tokensFrom esc .between ('"' :: cs) = tokensFrom esc (.inLiteral [] 0) cs :=
  tokensFrom_of_silent rfl

/-- A quotation mark closes a literal. -/
lemma tokensFrom_inLiteral_quote : tokensFrom esc (.inLiteral w 0) ('"' :: cs) =
    (tokensFrom esc .between cs).map fun us => .literal (String.ofList w) :: us := rfl

/-- A character that stands for itself is read as such. -/
lemma tokensFrom_inLiteral_plain (hc : isPlain c = true) :
    tokensFrom esc (.inLiteral w 0) (c :: cs) = tokensFrom esc (.inLiteral (w ++ [c]) 0) cs := by
  simp only [isPlain, Bool.and_eq_true, bne_iff_ne] at hc
  refine tokensFrom_of_silent ?_
  rw [step, if_neg hc.1, if_neg hc.2]

/-- The plain characters of a literal are read one after the other. -/
lemma tokensFrom_inLiteral_append (hw : ∀ c ∈ w, isPlain c = true) :
    tokensFrom esc (.inLiteral u 0) (w ++ rest) =
      tokensFrom esc (.inLiteral (u ++ w) 0) rest := by
  induction w generalizing u with
  | nil => rw [List.nil_append, List.append_nil]
  | cons c w ih =>
    rw [List.cons_append, tokensFrom_inLiteral_plain (hw c List.mem_cons_self),
      ih fun d hd => hw d (List.mem_cons_of_mem c hd), List.append_assoc, List.singleton_append]

/-- A literal in which nothing has to be escaped is read as what stands between the marks. -/
lemma tokensFrom_literal (hs : isPlainText s = true) :
    tokensFrom esc .between ('"' :: (s.toList ++ '"' :: rest)) =
      (tokensFrom esc .between rest).map fun us => .literal s :: us := by
  rw [tokensFrom_quote, tokensFrom_inLiteral_append (List.all_eq_true.mp hs), List.nil_append,
    tokensFrom_inLiteral_quote, String.ofList_toList]

/-! ## Texts that are not read as themselves -/

/-- The characters that belong to an escape are passed over. -/
lemma tokensFrom_inLiteral_skip (w : List Char) :
    tokensFrom esc (.inLiteral u w.length) (w ++ rest) =
      tokensFrom esc (.inLiteral u 0) rest := by
  induction w with
  | nil => rfl
  | cons c w ih =>
    have hstep : step esc (.inLiteral u (w.length + 1)) c (w ++ rest) =
        some ([], .inLiteral u w.length) := rfl
    rw [List.length_cons, List.cons_append, tokensFrom_of_silent hstep, ih]

/-- A backslash in a literal that is read to its end starts an escape, and the literal goes on
behind it. -/
lemma exists_escape {ts : List Token}
    (h : tokensFrom esc (.inLiteral u 0) ('\\' :: cs) = some ts) :
    ∃ d first digits rest, cs = first :: (digits ++ rest) ∧
      (∀ d ∈ digits, d.isAlphanum = true) ∧
      tokensFrom esc (.inLiteral (u ++ [d]) 0) rest = some ts := by
  cases hread : esc.read cs with
  | none =>
    have hstep : step esc (.inLiteral u 0) '\\' cs = none := by simp [step, hread]
    rw [tokensFrom, hstep] at h
    cases h
  | some escape =>
    obtain ⟨d, n⟩ := escape
    have hstep : step esc (.inLiteral u 0) '\\' cs = some ([], .inLiteral (u ++ [d]) n) := by
      simp [step, hread]
    obtain ⟨first, digits, rest, rfl, rfl, hdigits⟩ := esc.takes hread
    rw [tokensFrom_of_silent hstep] at h
    exact ⟨d, first, digits, rest, rfl, hdigits,
      (tokensFrom_inLiteral_skip (first :: digits)).symm.trans h⟩

/-- Letters and digits do not reach a quotation mark behind them. -/
lemma exists_of_append_eq {v y digits : List Char} (h : v ++ '"' :: y = digits ++ rest)
    (hdigits : ∀ d ∈ digits, d.isAlphanum = true) :
    ∃ v', v = digits ++ v' ∧ rest = v' ++ '"' :: y := by
  rcases List.append_eq_append_iff.mp h with ⟨z, rfl, hz⟩ | ⟨z, rfl, hz⟩
  · cases z with
    | nil => exact ⟨[], by simp, by simpa using hz.symm⟩
    | cons c z =>
      obtain ⟨rfl, -⟩ := List.cons.inj hz
      exact absurd (hdigits '"' (by simp)) (by decide)
  · exact ⟨z, rfl, hz⟩

/-- A text behind the closing mark of a literal that does not help the literal on: no escape takes
its first character, and a literal that runs into it ends behind a blank or is never closed. -/
structure Closes (esc : Escapes) (y : List Char) : Prop where
  head : ∀ c ∈ y.head?, c.isAlphanum = false
  ends : ∀ u ts, tokensFrom esc (.inLiteral u 0) y = some ts →
    ∃ w us, ts = .literal (String.ofList w) :: us ∧ w.getLast? = some ' '

/-- How a literal `w` came to its end if `u` was read before the text `v`: within the text, with the
text as it stands, or behind the mark that should have closed it. -/
inductive LiteralEnd (u v w : List Char) : Prop
  | early (h : w.length < u.length + v.length)
  | whole (hw : w = u ++ v) (hv : ∀ c ∈ v, isPlain c = true)
  | late (hv : v.getLast? = some '\\') (hw : w.getLast? = some ' ')

namespace LiteralEnd

variable {v : List Char}

/-- A plain character in front changes nothing. -/
lemma cons (hc : isPlain c = true) (h : LiteralEnd (u ++ [c]) v w) : LiteralEnd u (c :: v) w := by
  cases h with
  | early hlt =>
    refine .early ?_
    simp only [List.length_append, List.length_cons, List.length_nil] at hlt ⊢
    omega
  | whole hw hv =>
    refine .whole (by rw [hw, List.append_assoc, List.singleton_append]) fun d hd => ?_
    rcases List.mem_cons.mp hd with rfl | hd
    · exact hc
    · exact hv d hd
  | late hv hw => exact .late (by rw [List.getLast?_cons, hv]; rfl) hw

/-- An escape in front makes the literal shorter than the text. -/
lemma escape {d first : Char} {digits : List Char} (h : LiteralEnd (u ++ [d]) v w) :
    LiteralEnd u ('\\' :: first :: (digits ++ v)) w := by
  cases h with
  | early hlt =>
    refine .early ?_
    simp only [List.length_append, List.length_cons, List.length_nil] at hlt ⊢
    omega
  | whole hw _ =>
    refine .early ?_
    rw [hw]
    simp only [List.length_append, List.length_cons, List.length_nil]
    omega
  | late hv hw =>
    refine .late ?_ hw
    rw [List.getLast?_cons, List.getLast?_cons, List.getLast?_append, hv]
    rfl

end LiteralEnd

/-- Everything that can become of a text between quotation marks. -/
lemma literalEnd_of_tokensFrom {y : List Char} (hy : Closes esc y) {v : List Char}
    {ts : List Token} (h : tokensFrom esc (.inLiteral u 0) (v ++ '"' :: y) = some ts) :
    ∃ w us, ts = .literal (String.ofList w) :: us ∧ LiteralEnd u v w := by
  -- on the length of the text, because an escape takes several characters at once
  induction hn : v.length using Nat.strongRecOn generalizing u v with
  | ind n ih =>
  cases v with
  | nil =>
    rw [List.nil_append, tokensFrom_inLiteral_quote] at h
    obtain ⟨us, -, rfl⟩ := Option.map_eq_some_iff.mp h
    exact ⟨u, us, rfl, .whole (List.append_nil u).symm fun _ hc => absurd hc List.not_mem_nil⟩
  | cons c v =>
    by_cases hquote : c = '"'
    · subst hquote
      rw [List.cons_append, tokensFrom_inLiteral_quote] at h
      obtain ⟨us, -, rfl⟩ := Option.map_eq_some_iff.mp h
      exact ⟨u, us, rfl, .early (by simp)⟩
    by_cases hescape : c = '\\'
    · subst hescape
      rw [List.cons_append] at h
      obtain ⟨d, first, digits, rest, hcs, hdigits, hrest⟩ := exists_escape h
      cases v with
      | nil =>
        obtain ⟨rfl, rfl⟩ := List.cons.inj hcs
        have hnil : digits = [] := by
          cases digits with
          | nil => rfl
          | cons e digits =>
            have he := hy.head e rfl
            rw [hdigits e List.mem_cons_self] at he
            cases he
        subst hnil
        obtain ⟨w, us, rfl, hw⟩ := hy.ends _ _ hrest
        exact ⟨w, us, rfl, .late rfl hw⟩
      | cons c v =>
        obtain ⟨rfl, hv⟩ := List.cons.inj hcs
        obtain ⟨v', rfl, rfl⟩ := exists_of_append_eq hv hdigits
        obtain ⟨w, us, rfl, hend⟩ := ih v'.length (by rw [← hn]; simp; omega) hrest rfl
        exact ⟨w, us, rfl, hend.escape⟩
    · have hc : isPlain c = true := by simp [isPlain, hquote, hescape]
      rw [List.cons_append, tokensFrom_inLiteral_plain hc] at h
      obtain ⟨w, us, rfl, hend⟩ := ih v.length (by rw [← hn]; exact Nat.lt_succ_self _) h rfl
      exact ⟨w, us, rfl, hend.cons hc⟩

/-- A text between quotation marks that is read as itself holds nothing that has to be escaped. -/
lemma isPlainText_of_tokensFrom {y : List Char} (hy : Closes esc y) {ts : List Token}
    (h : tokensFrom esc .between ('"' :: (s.toList ++ '"' :: y)) = some (.literal s :: ts)) :
    isPlainText s = true := by
  rw [tokensFrom_quote] at h
  obtain ⟨w, us, hts, hend⟩ := literalEnd_of_tokensFrom hy h
  obtain ⟨hs, -⟩ := List.cons.inj hts
  have hw : s.toList = w := by rw [Token.literal.inj hs, String.toList_ofList]
  cases hend with
  | early hlt =>
    rw [hw, List.length_nil, Nat.zero_add] at hlt
    exact absurd hlt (Nat.lt_irrefl _)
  | whole _ hv => exact List.all_eq_true.mpr hv
  | late hv hlast =>
    rw [hw, hlast] at hv
    exact absurd (Option.some.inj hv) (by decide)

/-- A text in which no literal ends does not help a literal on. -/
lemma closes_of_plain (hhead : ∀ c ∈ rest.head?, c.isAlphanum = false)
    (hrest : ∀ c ∈ rest, isPlain c = true) : Closes esc rest where
  head := hhead
  ends u ts h := by
    rw [← List.append_nil rest, tokensFrom_inLiteral_append hrest] at h
    cases h

/-- Nor does a text in which one ends behind a blank. -/
lemma closes_of_blank (hhead : ∀ c ∈ w.head?, c.isAlphanum = false)
    (hw : ∀ c ∈ w, isPlain c = true) (hlast : w.getLast? = some ' ') :
    Closes esc (w ++ '"' :: rest) where
  head c hc := by
    cases w with
    | nil => cases hlast
    | cons d w => exact hhead c hc
  ends u ts h := by
    rw [tokensFrom_inLiteral_append hw, tokensFrom_inLiteral_quote] at h
    obtain ⟨us, -, rfl⟩ := Option.map_eq_some_iff.mp h
    exact ⟨u ++ w, us, rfl, by rw [List.getLast?_append, hlast]; rfl⟩

end VoipCalls.DisplayFilter
