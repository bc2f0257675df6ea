import Mathlib.Data.List.DropRight
import Mathlib.Tactic.Lemma
import VoipCalls.Text.Blank
import VoipCalls.Text.Line
import VoipCalls.Text.Split

/-!
# Cutting texts

How the functions that cut a text up go through a text that is put together.  A part without the
first character of a separator is passed over (`cutAt_append`), one without carriage returns is left
alone by `unifyBreaks` (`unifyBreaks_append`), and one without line breaks is one line
(`lines_append_newline`).

The pieces of a text between the occurrences of one character are read off what was joined by it
(`pieces_joined`, `pieces_intercalate`).

`cutAll` cuts a text at all occurrences of a separator.  What was joined by a separator is read back
from it if its second character stands in none of the parts (`cutAll_intercalate`); the first one
may.

`cutAt_blankLine` and `lines_joined` say together what a reader makes of some lines with an empty
line behind them.

A text is `IsTrimmed` if it neither begins nor ends with a blank, which is what `trim` makes of a
text (`isTrimmed_trim`) and what it leaves alone (`IsTrimmed.trim_eq`).
-/

namespace VoipCalls.Text

variable {cs front rest : List Char}

/-! ## Beginnings -/

/-- What is left behind a beginning. -/
lemma after?_eq_some_iff {p : List Char} : after? p cs = some rest ↔ cs = p ++ rest := by
  induction p generalizing cs with
  | nil => exact ⟨Option.some.inj, congrArg some⟩
  | cons a p ih =>
    cases cs with
    | nil => simp [after?]
    | cons c cs =>
      by_cases hac : a = c
      · subst hac
        simp [after?, ih]
      · simp [after?, hac, Ne.symm hac]

/-- A text begins with a part exactly if something is left behind it. -/
lemma isSome_after?_iff {p : List Char} : (after? p cs).isSome = true ↔ p <+: cs := by
  rw [Option.isSome_iff_exists]
  constructor
  · rintro ⟨rest, hrest⟩
    exact ⟨rest, (after?_eq_some_iff.mp hrest).symm⟩
  · rintro ⟨rest, rfl⟩
    exact ⟨rest, after?_eq_some_iff.mpr rfl⟩

/-! ## The first separator -/

/-- A separator at the beginning is the first one. -/
lemma cutAt_self (sep rest : List Char) : cutAt sep (sep ++ rest) = some ([], rest) := by
  have hafter : after? sep (sep ++ rest) = some rest := after?_eq_some_iff.mpr rfl
  cases hcs : sep ++ rest with
  | nil =>
    rw [hcs] at hafter
    rw [cutAt, hafter]
    rfl
  | cons c cs =>
    rw [hcs] at hafter
    rw [cutAt, hafter]

/-- A part in which the first character of the separator does not stand is passed over. -/
lemma cutAt_append {c : Char} {sep : List Char} (h : c ∉ front) (cs : List Char) :
    cutAt (c :: sep) (front ++ cs) =
      (cutAt (c :: sep) cs).map fun (before, rest) => (front ++ before, rest) := by
  induction front with
  | nil => simp
  | cons d front ih =>
    rw [List.mem_cons, not_or] at h
    have hnone : after? (c :: sep) (d :: (front ++ cs)) = none := by simp [after?, h.1]
    rw [List.cons_append, cutAt, hnone, ih h.2]
    cases cutAt (c :: sep) cs <;> rfl

/-- A part in which a character never stands twice in a row, nor at the end, ends where it first
stands twice. -/
lemma cutAt_append_twice {c : Char} (hcut : cutAt [c, c] front = none)
    (hlast : front.getLast? ≠ some c) (rest : List Char) :
    cutAt [c, c] (front ++ c :: c :: rest) = some (front, rest) := by
  induction front with
  | nil => exact cutAt_self [c, c] rest
  | cons d front ih =>
    rw [cutAt] at hcut
    cases hafter : after? [c, c] (d :: front) with
    | some behind =>
      rw [hafter] at hcut
      cases hcut
    | none =>
      rw [hafter] at hcut
      have hnone : after? [c, c] (d :: (front ++ c :: c :: rest)) = none := by
        cases front with
        | nil =>
          have hd : c ≠ d := fun hd => hlast (congrArg some hd.symm)
          simp [after?, hd]
        | cons e front =>
          simpa [after?] using hafter
      have hlast' : front.getLast? ≠ some c := by
        intro hend
        apply hlast
        rw [List.getLast?_cons, hend]
        rfl
      rw [List.cons_append, cutAt, hnone, ih (by simpa using hcut) hlast']
      rfl

/-- The parts around the first separator and the separator itself are the text. -/
lemma eq_of_cutAt {sep : List Char} (h : cutAt sep cs = some (front, rest)) :
    cs = front ++ (sep ++ rest) := by
  induction cs generalizing front with
  | nil =>
    obtain ⟨rest', hafter, hparts⟩ := Option.map_eq_some_iff.mp h
    cases hparts
    rw [List.nil_append]
    exact after?_eq_some_iff.mp hafter
  | cons c cs ih =>
    rw [cutAt] at h
    split at h
    · rename_i hafter
      cases h
      rw [List.nil_append]
      exact after?_eq_some_iff.mp hafter
    · obtain ⟨⟨front', rest'⟩, hcut, hparts⟩ := Option.map_eq_some_iff.mp h
      cases hparts
      rw [ih hcut, List.cons_append]

/-- A separator of which a character does not stand in a text does not stand there either. -/
lemma cutAt_eq_none {c : Char} {sep : List Char} (hc : c ∈ sep) (h : c ∉ cs) :
    cutAt sep cs = none := by
  rw [Option.eq_none_iff_forall_ne_some]
  rintro ⟨front, rest⟩ hcut
  apply h
  rw [eq_of_cutAt hcut]
  exact List.mem_append_right _ (List.mem_append_left _ hc)

/-! ## All separators -/

/-- What stands behind the first separator is shorter than the text. -/
lemma length_lt_of_cutAt {c : Char} {sep : List Char}
    (h : cutAt (c :: sep) cs = some (front, rest)) : rest.length < cs.length := by
  rw [eq_of_cutAt h]
  simp only [List.length_append, List.length_cons]
  omega

/-- The parts of a text between the occurrences of a separator; one part if there is none. -/
def cutAll (c : Char) (sep cs : List Char) : List (List Char) :=
  match hcut : cutAt (c :: sep) cs with
  | none => [cs]
  | some (front, rest) =>
    have := length_lt_of_cutAt hcut
    front :: cutAll c sep rest
termination_by cs.length

/-- A part in which the second character of the separator does not stand ends where the next
separator begins. -/
lemma cutAt_append_of_second {c d : Char} (hcd : c ≠ d) (h : d ∉ front) (sep cs : List Char) :
    cutAt (c :: d :: sep) (front ++ (c :: d :: sep ++ cs)) = some (front, cs) := by
  induction front with
  | nil => exact cutAt_self (c :: d :: sep) cs
  | cons e front ih =>
    rw [List.mem_cons, not_or] at h
    -- behind the first character stands another one of the part or the first one of the separator
    have hnone : after? (c :: d :: sep) (e :: (front ++ (c :: d :: sep ++ cs))) = none := by
      cases front with
      | nil => simp [after?, Ne.symm hcd]
      | cons b front =>
        rw [List.mem_cons, not_or] at h
        simp [after?, h.2.1]
    rw [List.cons_append, cutAt, hnone, ih h.2]
    rfl

/-- Parts in which the second character of the separator does not stand are read back from what they
are joined to. -/
lemma cutAll_intercalate {c d : Char} (hcd : c ≠ d) (sep : List Char) {l : List Char}
    {ls : List (List Char)} (h : ∀ k ∈ l :: ls, d ∉ k) :
    cutAll c (d :: sep) ((c :: d :: sep).intercalate (l :: ls)) = l :: ls := by
  induction ls generalizing l with
  | nil =>
    rw [List.intercalate_singleton, cutAll]
    split
    · rfl
    · rename_i hcut
      rw [cutAt_eq_none (by simp) (h l List.mem_cons_self)] at hcut
      cases hcut
  | cons k ks ih =>
    rw [List.intercalate_cons_cons, List.append_assoc, cutAll]
    split
    · rename_i hcut
      rw [cutAt_append_of_second hcd (h l List.mem_cons_self)] at hcut
      cases hcut
    · rename_i hcut
      rw [cutAt_append_of_second hcd (h l List.mem_cons_self)] at hcut
      cases hcut
      exact congrArg (l :: ·) (ih fun b hb => h b (List.mem_cons_of_mem _ hb))

/-! ## Pieces -/

/-- A character other than the separator belongs to the first piece. -/
lemma pieces_cons_of_ne {c sep : Char} (hc : c ≠ sep) (cs : List Char) :
    pieces sep (c :: cs) = consLine c (pieces sep cs) := by
  rw [pieces, if_neg hc]
  cases pieces sep cs <;> rfl

/-- A separator ends the first piece. -/
lemma pieces_self_cons (sep : Char) (cs : List Char) :
    pieces sep (sep :: cs) = [] :: pieces sep cs :=
  if_pos rfl

/-- A text has a first piece. -/
lemma exists_pieces_eq (sep : Char) (cs : List Char) : ∃ p ps, pieces sep cs = p :: ps := by
  cases cs with
  | nil => exact ⟨[], [], rfl⟩
  | cons c cs =>
    by_cases hc : c = sep
    · exact ⟨[], pieces sep cs, if_pos hc⟩
    · rw [pieces_cons_of_ne hc]
      cases pieces sep cs with
      | nil => exact ⟨[c], [], rfl⟩
      | cons p ps => exact ⟨c :: p, ps, rfl⟩

/-- A part without separators belongs to the first piece. -/
lemma pieces_append {sep : Char} (h : sep ∉ front) {p : List Char} {ps : List (List Char)}
    (hcs : pieces sep cs = p :: ps) : pieces sep (front ++ cs) = (front ++ p) :: ps := by
  induction front with
  | nil => exact hcs
  | cons c front ih =>
    rw [List.mem_cons, not_or] at h
    rw [List.cons_append, pieces_cons_of_ne (Ne.symm h.1), ih h.2]
    rfl

/-- A text without separators is one piece. -/
lemma pieces_of_not_mem {sep : Char} (h : sep ∉ cs) : pieces sep cs = [cs] := by
  have hone := pieces_append h (rfl : pieces sep [] = [[]])
  rwa [List.append_nil] at hone

/-- The pieces on both sides of a separator are those of the two sides. -/
lemma pieces_append_self_cons (sep : Char) (cs ds : List Char) :
    pieces sep (cs ++ sep :: ds) = pieces sep cs ++ pieces sep ds := by
  induction cs with
  | nil => exact pieces_self_cons sep ds
  | cons c cs ih =>
    by_cases hc : c = sep
    · rw [hc, List.cons_append, pieces_self_cons, pieces_self_cons, ih, List.cons_append]
    · obtain ⟨p, ps, hp⟩ := exists_pieces_eq sep cs
      rw [List.cons_append, pieces_cons_of_ne hc, pieces_cons_of_ne hc, ih, hp]
      rfl

/-- Parts without separators are the pieces of what they are joined to. -/
lemma pieces_joined {sep : Char} {l : List Char} {ls : List (List Char)}
    (h : ∀ k ∈ l :: ls, sep ∉ k) : pieces sep (l ++ ls.flatMap (sep :: ·)) = l :: ls := by
  induction ls generalizing l with
  | nil =>
    rw [List.flatMap_nil, List.append_nil]
    exact pieces_of_not_mem (h l List.mem_cons_self)
  | cons k ks ih =>
    rw [List.flatMap_cons, List.cons_append, pieces_append_self_cons,
      pieces_of_not_mem (h l List.mem_cons_self), ih fun m hm => h m (List.mem_cons_of_mem l hm)]
    rfl

/-- So it is with parts that are joined by the separator alone. -/
lemma pieces_intercalate {sep : Char} {l : List Char} {ls : List (List Char)}
    (h : ∀ k ∈ l :: ls, sep ∉ k) : pieces sep ([sep].intercalate (l :: ls)) = l :: ls := by
  have hjoined : [sep].intercalate (l :: ls) = l ++ ls.flatMap (sep :: ·) := by
    clear h
    induction ls generalizing l with
    | nil => rw [List.intercalate_singleton, List.flatMap_nil, List.append_nil]
    | cons k ks ih =>
      rw [List.intercalate_cons_cons, ih, List.flatMap_cons, List.append_assoc]
      rfl
  rw [hjoined, pieces_joined h]

/-- A character of what was joined belongs to the separator or to one of the parts. -/
lemma exists_of_mem_intercalate {c : Char} {sep : List Char} {ls : List (List Char)}
    (h : c ∈ sep.intercalate ls) : c ∈ sep ∨ ∃ l ∈ ls, c ∈ l := by
  induction ls with
  | nil => exact absurd h List.not_mem_nil
  | cons l ls ih =>
    cases ls with
    | nil =>
      rw [List.intercalate_singleton] at h
      exact Or.inr ⟨l, List.mem_cons_self, h⟩
    | cons k ks =>
      rw [List.intercalate_cons_cons, List.append_assoc] at h
      rcases List.mem_append.mp h with hl | h
      · exact Or.inr ⟨l, List.mem_cons_self, hl⟩
      rcases List.mem_append.mp h with hsep | h
      · exact Or.inl hsep
      rcases ih h with hsep | ⟨m, hm, hc⟩
      · exact Or.inl hsep
      · exact Or.inr ⟨m, List.mem_cons_of_mem l hm, hc⟩

/-! ## Line breaks -/

/-- A part without carriage returns keeps its breaks. -/
lemma unifyBreaks_append (h : '\r' ∉ front) (cs : List Char) :
    unifyBreaks (front ++ cs) = front ++ unifyBreaks cs := by
  induction front with
  | nil => rfl
  | cons c front ih =>
    rw [List.mem_cons, not_or] at h
    rw [List.cons_append, unifyBreaks, ih h.2, List.cons_append]
    exact fun _ hreturn => absurd hreturn.symm h.1

/-- A character that is no line break belongs to the first line. -/
lemma lines_cons {c : Char} (h : isLineBreak c = false) (cs : List Char) :
    lines (c :: cs) = consLine c (lines cs) := by
  rw [lines, h]
  · rfl
  · rintro rest rfl
    cases h

/-- A text without line breaks is one line. -/
lemma lines_of_noBreak (h : ∀ c ∈ cs, isLineBreak c = false) (hne : cs ≠ []) :
    lines cs = [cs] := by
  induction cs with
  | nil => exact absurd rfl hne
  | cons c cs ih =>
    rw [lines_cons (h c List.mem_cons_self)]
    cases cs with
    | nil => rfl
    | cons d cs =>
      rw [ih (fun b hb => h b (List.mem_cons_of_mem _ hb)) (List.cons_ne_nil d cs)]
      rfl

/-- A text without line breaks has no line feed in it. -/
lemma newline_not_mem (h : ∀ c ∈ cs, isLineBreak c = false) : '\n' ∉ cs := by
  intro hin
  have hbreak := h '\n' hin
  cases hbreak

/-- A text without line breaks in front of a line feed is the first line. -/
lemma lines_append_newline (h : ∀ c ∈ front, isLineBreak c = false) (cs : List Char) :
    lines (front ++ '\n' :: cs) = front :: lines cs := by
  induction front with
  | nil => rfl
  | cons c front ih =>
    rw [List.cons_append, lines_cons (h c List.mem_cons_self),
      ih fun b hb => h b (List.mem_cons_of_mem _ hb)]
    rfl

/-- No line has a line break in it. -/
lemma isLineBreak_of_mem_lines {l : List Char} (hl : l ∈ lines cs) :
    ∀ c ∈ l, isLineBreak c = false := by
  induction cs using lines.induct generalizing l with
  | case1 => exact absurd hl List.not_mem_nil
  | case2 rest ih =>
    rw [lines] at hl
    rcases List.mem_cons.mp hl with rfl | hl
    · exact fun c hc => absurd hc List.not_mem_nil
    · exact ih hl
  | case3 d rest hcrlf hbreak ih =>
    rw [lines, if_pos hbreak] at hl
    · rcases List.mem_cons.mp hl with rfl | hl
      · exact fun c hc => absurd hc List.not_mem_nil
      · exact ih hl
    · exact hcrlf
  | case4 d rest hcrlf hbreak ih =>
    rw [lines_cons (Bool.eq_false_iff.mpr hbreak)] at hl
    cases hrest : lines rest with
    | nil =>
      rw [hrest] at hl
      obtain rfl := List.mem_singleton.mp hl
      intro c hc
      rw [List.mem_singleton.mp hc]
      exact Bool.eq_false_iff.mpr hbreak
    | cons k ks =>
      rw [hrest] at hl ih
      rcases List.mem_cons.mp hl with rfl | hl
      · intro c hc
        rcases List.mem_cons.mp hc with rfl | hc
        · exact Bool.eq_false_iff.mpr hbreak
        · exact ih List.mem_cons_self c hc
      · exact ih (List.mem_cons_of_mem _ hl)

/-! ## Lines in front of an empty line -/

/-- A line is written if it is not empty and has no line break in it. -/
def IsWritten (l : List Char) : Prop :=
  l ≠ [] ∧ ∀ c ∈ l, isLineBreak c = false

/-- A written line has no line feed in it. -/
lemma IsWritten.newline_not_mem {l : List Char} (h : IsWritten l) : '\n' ∉ l :=
  Text.newline_not_mem h.2

/-- A line feed in front of another character begins no empty line. -/
lemma cutAt_newline_cons {c : Char} (hc : c ≠ '\n') (cs : List Char) :
    cutAt ['\n', '\n'] ('\n' :: c :: cs) =
      (cutAt ['\n', '\n'] (c :: cs)).map fun (before, rest) => ('\n' :: before, rest) := by
  have hnone : after? ['\n', '\n'] ('\n' :: c :: cs) = none := by simp [after?, Ne.symm hc]
  rw [cutAt, hnone]

/-- The first empty line behind some written lines is the one that stands behind them all. -/
lemma cutAt_blankLine {l : List Char} {ls : List (List Char)} (hl : IsWritten l)
    (hls : ∀ k ∈ ls, IsWritten k) (rest : List Char) :
    cutAt ['\n', '\n'] (l ++ (ls.flatMap ('\n' :: ·) ++ '\n' :: '\n' :: rest)) =
      some (l ++ ls.flatMap ('\n' :: ·), rest) := by
  induction ls generalizing l with
  | nil =>
    have hcut : cutAt ['\n', '\n'] ('\n' :: '\n' :: rest) = some ([], rest) :=
      cutAt_self ['\n', '\n'] rest
    rw [List.flatMap_nil, List.nil_append, cutAt_append hl.newline_not_mem, hcut]
    rfl
  | cons k ks ih =>
    have hk := hls k List.mem_cons_self
    have hrest := ih hk fun b hb => hls b (List.mem_cons_of_mem _ hb)
    obtain ⟨c, k', rfl⟩ := List.exists_cons_of_ne_nil hk.1
    have hc : c ≠ '\n' := by
      rintro rfl
      exact hk.newline_not_mem List.mem_cons_self
    have hshape : ((c :: k') :: ks).flatMap ('\n' :: ·) ++ '\n' :: '\n' :: rest =
        '\n' :: c :: (k' ++ (ks.flatMap ('\n' :: ·) ++ '\n' :: '\n' :: rest)) := by simp
    rw [cutAt_append hl.newline_not_mem, hshape, cutAt_newline_cons hc, ← List.cons_append, hrest]
    rfl

/-- Written lines are read as they are. -/
lemma lines_joined {l : List Char} {ls : List (List Char)} (hl : IsWritten l)
    (hls : ∀ k ∈ ls, IsWritten k) : lines (l ++ ls.flatMap ('\n' :: ·)) = l :: ls := by
  induction ls generalizing l with
  | nil =>
    rw [List.flatMap_nil, List.append_nil]
    exact lines_of_noBreak hl.2 hl.1
  | cons k ks ih =>
    have hrest := ih (hls k List.mem_cons_self) fun b hb => hls b (List.mem_cons_of_mem _ hb)
    rw [List.flatMap_cons, List.cons_append, lines_append_newline hl.2, hrest]

/-! ## Trimming -/

/-- A blank in front of a text is trimmed away. -/
lemma trim_cons_of_isBlank {c : Char} (h : isBlank c = true) (cs : List Char) :
    trim (c :: cs) = trim cs := by
  unfold trim trimLeft
  rw [List.dropWhile_cons_of_pos h]

/-- Trimming adds nothing. -/
lemma mem_of_mem_trim {c : Char} (h : c ∈ trim cs) : c ∈ cs := by
  unfold trim trimRight at h
  have hleft := (List.dropWhile_sublist _).subset (List.mem_reverse.mp h)
  exact (List.dropWhile_sublist _).subset (List.mem_reverse.mp hleft)

/-- A character that is not blank is not trimmed away. -/
lemma mem_trim_of_mem {c : Char} (hc : isBlank c = false) (h : c ∈ cs) : c ∈ trim cs := by
  have hdrop : ∀ ds : List Char, c ∈ ds → c ∈ ds.dropWhile isBlank := by
    intro ds
    induction ds with
    | nil => exact fun hin => hin
    | cons d ds ih =>
      intro hin
      by_cases hd : isBlank d = true
      · rw [List.dropWhile_cons_of_pos hd]
        rcases List.mem_cons.mp hin with rfl | hin
        · rw [hc] at hd
          cases hd
        · exact ih hin
      · rwa [List.dropWhile_cons_of_neg hd]
  unfold trim trimRight
  exact List.mem_reverse.mpr (hdrop _ (List.mem_reverse.mpr (hdrop _ h)))

/-- Blanks are trimmed away in front of what does not begin with one. -/
lemma trimLeft_append {blanks : List Char} (hblanks : ∀ c ∈ blanks, isBlank c = true)
    (hcs : ∀ c, cs.head? = some c → isBlank c = false) : trimLeft (blanks ++ cs) = cs := by
  unfold trimLeft
  rw [List.dropWhile_append_of_pos hblanks]
  cases cs with
  | nil => rfl
  | cons c cs => exact List.dropWhile_cons_of_neg (Bool.eq_false_iff.mp (hcs c rfl))

/-- What is left behind the blanks at the beginning does not begin with one. -/
lemma isBlank_head_trimLeft {c : Char} (h : (trimLeft cs).head? = some c) : isBlank c = false := by
  have hnot := List.head?_dropWhile_not isBlank cs
  unfold trimLeft at h
  rw [h] at hnot
  exact hnot

/-- Blanks at the beginning make no difference to what is trimmed. -/
lemma trim_trimLeft (cs : List Char) : trim (trimLeft cs) = trim cs := by
  unfold trim trimLeft
  rw [List.dropWhile_idempotent]

/-- The text neither begins nor ends with a blank. -/
structure IsTrimmed (cs : List Char) : Prop where
  /-- No blank stands at the beginning. -/
  head : ∀ c, cs.head? = some c → isBlank c = false
  /-- No blank stands at the end. -/
  last : ∀ c, cs.getLast? = some c → isBlank c = false

/-- A text that was trimmed neither begins nor ends with a blank. -/
lemma isTrimmed_trim (cs : List Char) : IsTrimmed (trim cs) where
  head c hc := by
    obtain ⟨dropped, hdropped⟩ : trim cs <+: trimLeft cs :=
      List.rdropWhile_prefix isBlank (trimLeft cs)
    have hhead : (trimLeft cs).head? = some c := by
      rw [← hdropped, List.head?_append, hc]
      rfl
    exact isBlank_head_trimLeft hhead
  last c hc := by
    unfold trim trimRight at hc
    rw [List.getLast?_reverse] at hc
    exact isBlank_head_trimLeft hc

/-- Nothing is trimmed away from a text that neither begins nor ends with a blank. -/
lemma IsTrimmed.trim_eq (h : IsTrimmed cs) : trim cs = cs := by
  have hleft : ∀ {ds : List Char}, (∀ c, ds.head? = some c → isBlank c = false) →
      trimLeft ds = ds := fun hds => trimLeft_append (List.forall_mem_nil _) hds
  have hright : trimLeft cs.reverse = cs.reverse := by
    apply hleft
    intro c hc
    rw [List.head?_reverse] at hc
    exact h.last c hc
  unfold trim trimRight
  rw [hleft h.head]
  unfold trimLeft at hright
  rw [hright, List.reverse_reverse]

/-- A text without blanks is trimmed. -/
lemma isTrimmed_of_forall (h : ∀ c ∈ cs, isBlank c = false) : IsTrimmed cs where
  head c hc := h c (List.mem_of_head? hc)
  last c hc := h c (List.mem_of_getLast? hc)

/-- A text from which nothing is stripped is trimmed. -/
lemma isTrimmed_of_strip {s : String} (h : strip s = s) : IsTrimmed s.toList := by
  rw [← h, strip, String.toList_ofList]
  exact isTrimmed_trim s.toList

end VoipCalls.Text
