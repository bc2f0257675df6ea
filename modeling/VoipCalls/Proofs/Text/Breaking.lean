import Mathlib.Data.List.Infix
import Mathlib.Data.List.TakeWhile
import VoipCalls.Proofs.Text.Cutting

/-!
# Breaking texts into lines

Two ways to break a text into lines are compared up to empty lines behind the first, by the `gist`
of what they make of it.  `lines` breaks at every line break, `plainLines` only at carriage returns
and line feeds; the first does what the second does once all other breaks are made line feeds
(`gist_lines_eq_plainLines`).

A text ends its head at the first empty line.  `headOf` is what the reader of a message takes for
the head, and its lines are those in front of the first empty one (`gist_pieces_headOf`).

`Broken` is a text broken at every line break, each line with the break in front of it.  Lines can
be put in the place of lines there (`Broken.map`), which moves no empty line and leaves every part
that stays within its line where it is.
-/

namespace VoipCalls.Text

variable {cs front rest part : List Char} {c : Char} {ks ls : List (List Char)}

/-! ## Lines up to empty ones -/

/-- The first line, and those of the others that are not empty. -/
def gist (ls : List (List Char)) : List Char × List (List Char) :=
  (ls.headD [], ls.tail.filter (!·.isEmpty))

/-- What is made of single lines behind the first, and of nothing from an empty one, is made of the
gist. -/
lemma filterMap_tail_of_gist {α : Type} {f : List Char → Option α} (hf : f [] = none)
    (h : gist ks = gist ls) : ks.tail.filterMap f = ls.tail.filterMap f := by
  have hskip : ∀ ms : List (List Char), ms.filterMap f = (ms.filter (!·.isEmpty)).filterMap f := by
    intro ms
    rw [List.filterMap_filter]
    refine List.filterMap_congr fun m _ => ?_
    cases m with
    | nil => exact hf
    | cons c m => rfl
  rw [hskip, hskip ls.tail]
  exact congrArg (·.2.filterMap f) h

/-- The lines that are not empty can be told from the gist. -/
lemma filter_eq_filter_gist (ls : List (List Char)) :
    ls.filter (!·.isEmpty) = ((gist ls).1 :: (gist ls).2).filter (!·.isEmpty) := by
  cases ls with
  | nil => rfl
  | cons l ls => simp [gist, List.filter_cons, List.filter_filter]

/-- None of the lines in front of the first empty one is empty. -/
lemma filter_takeWhile_isEmpty (ls : List (List Char)) :
    (ls.takeWhile (!·.isEmpty)).filter (!·.isEmpty) = ls.takeWhile (!·.isEmpty) := by
  rw [List.filter_eq_self]
  intro l hl
  have hkept := List.mem_takeWhile_imp hl
  exact hkept

/-- An empty line may come in front. -/
lemma gist_nil_cons (h : gist ks = gist ls) : gist ([] :: ks) = gist ([] :: ls) := by
  have hfilter : ks.filter (!·.isEmpty) = ls.filter (!·.isEmpty) := by
    rw [filter_eq_filter_gist, h, ← filter_eq_filter_gist]
  exact congrArg (Prod.mk []) hfilter

/-- And a second one behind it does not count. -/
lemma gist_nil_nil_cons (ls : List (List Char)) : gist ([] :: [] :: ls) = gist ([] :: ls) :=
  rfl

/-- A character in front belongs to the first line. -/
lemma gist_consLine (c : Char) (ls : List (List Char)) :
    gist (consLine c ls) = (c :: (gist ls).1, (gist ls).2) := by
  cases ls <;> rfl

/-! ## Which characters break lines -/

/-- The text with the characters of a class made line feeds. -/
def toFeeds (breaks : Char → Bool) (cs : List Char) : List Char :=
  cs.map fun c => if breaks c then '\n' else c

/-- The lines of a text that carriage returns and line feeds end, a carriage return with a line feed
behind it once. -/
def plainLines (cs : List Char) : List (List Char) :=
  pieces '\n' (universalBreaks cs)

/-- A line break that is neither a carriage return nor a line feed. -/
def isForeignBreak (c : Char) : Bool :=
  isLineBreak c && c != '\r' && c != '\n'

/-- What is in front of two texts may be the same character. -/
lemma gist_pieces_cons {ds : List Char} (h : gist (pieces '\n' cs) = gist (pieces '\n' ds))
    (c : Char) : gist (pieces '\n' (c :: cs)) = gist (pieces '\n' (c :: ds)) := by
  by_cases hc : c = '\n'
  · subst hc
    rw [pieces_self_cons, pieces_self_cons]
    exact gist_nil_cons h
  · rw [pieces_cons_of_ne hc, pieces_cons_of_ne hc, gist_consLine, gist_consLine, h]

/-- Every line break ends a line, as a line feed does. -/
lemma gist_lines (cs : List Char) :
    gist (lines cs) = gist (pieces '\n' (toFeeds isLineBreak cs)) := by
  induction cs using lines.induct with
  | case1 => rfl
  | case2 rest ih =>
    have hfeeds : toFeeds isLineBreak ('\r' :: '\n' :: rest) =
        '\n' :: '\n' :: toFeeds isLineBreak rest := rfl
    rw [lines, hfeeds, pieces_self_cons, pieces_self_cons, gist_nil_nil_cons]
    exact gist_nil_cons ih
  | case3 c rest hcrlf hbreak ih =>
    have hfeeds : toFeeds isLineBreak (c :: rest) = '\n' :: toFeeds isLineBreak rest := by
      rw [toFeeds, List.map_cons, if_pos hbreak, toFeeds]
    rw [lines, if_pos hbreak, hfeeds, pieces_self_cons]
    · exact gist_nil_cons ih
    · exact hcrlf
  | case4 c rest hcrlf hbreak ih =>
    have hfeeds : toFeeds isLineBreak (c :: rest) = c :: toFeeds isLineBreak rest := by
      rw [toFeeds, List.map_cons, if_neg hbreak, toFeeds]
    have hc : c ≠ '\n' := by
      rintro rfl
      exact hbreak rfl
    rw [lines_cons (Bool.eq_false_iff.mpr hbreak), hfeeds, pieces_cons_of_ne hc, gist_consLine,
      gist_consLine, ih]

/-- A carriage return ends a plain line, as a line feed does. -/
lemma gist_plainLines (cs : List Char) :
    gist (plainLines cs) = gist (pieces '\n' (toFeeds (· == '\r') cs)) := by
  unfold plainLines
  induction cs using universalBreaks.induct with
  | case1 => rfl
  | case2 rest ih =>
    have hfeeds : toFeeds (· == '\r') ('\r' :: '\n' :: rest) =
        '\n' :: '\n' :: toFeeds (· == '\r') rest := rfl
    rw [universalBreaks, hfeeds, pieces_self_cons, pieces_self_cons, pieces_self_cons,
      gist_nil_nil_cons]
    exact gist_nil_cons ih
  | case3 c rest hcrlf ih =>
    have hfeeds : toFeeds (· == '\r') (c :: rest) =
        (if c = '\r' then '\n' else c) :: toFeeds (· == '\r') rest := by
      simp [toFeeds]
    rw [universalBreaks, hfeeds]
    · exact gist_pieces_cons ih _
    · exact hcrlf

/-- The lines of a text are the plain lines of the text of which all other line breaks are made line
feeds. -/
lemma gist_lines_eq_plainLines (cs : List Char) :
    gist (lines cs) = gist (plainLines (toFeeds isForeignBreak cs)) := by
  have hfeeds : toFeeds (· == '\r') (toFeeds isForeignBreak cs) = toFeeds isLineBreak cs := by
    unfold toFeeds
    rw [List.map_map]
    refine List.map_congr_left fun c _ => ?_
    by_cases hreturn : c = '\r'
    · subst hreturn
      rfl
    by_cases hfeed : c = '\n'
    · subst hfeed
      rfl
    cases hbreak : isLineBreak c <;> simp [isForeignBreak, hreturn, hfeed, hbreak]
  rw [gist_lines, gist_plainLines, hfeeds]

/-- Nothing is made a line feed where nothing is to be. -/
lemma toFeeds_eq_self {breaks : Char → Bool} (h : ∀ c ∈ cs, breaks c = false) :
    toFeeds breaks cs = cs := by
  refine (List.map_congr_left fun c hc => ?_).trans (List.map_id cs)
  rw [h c hc]
  rfl

/-! ## Parts of a text -/

/-- A separator cuts a text exactly if it stands somewhere in it. -/
lemma isSome_cutAt_iff {sep : List Char} : (cutAt sep cs).isSome = true ↔ sep <:+: cs := by
  induction cs with
  | nil => rw [cutAt, Option.isSome_map, isSome_after?_iff, List.prefix_nil, List.infix_nil]
  | cons c cs ih =>
    rw [List.infix_cons_iff, ← isSome_after?_iff, ← ih, cutAt]
    cases after? sep (c :: cs) with
    | none => simp
    | some rest => simp

/-- A part without a certain character stands on one side of it. -/
lemma infix_append_cons_iff (h : c ∉ part) (front rest : List Char) :
    part <:+: front ++ c :: rest ↔ part <:+: front ∨ part <:+: rest := by
  constructor
  · intro hpart
    obtain hfront | hrest | ⟨l, k, rfl, hl, hk⟩ := List.infix_append_iff.mp hpart
    · exact Or.inl hfront
    · obtain hbegin | hrest := List.infix_cons_iff.mp hrest
      · obtain rfl | ⟨part', rfl, -⟩ := List.prefix_cons_iff.mp hbegin
        · exact Or.inl (List.nil_infix)
        · exact absurd List.mem_cons_self h
      · exact Or.inr hrest
    · -- the part cannot reach across the character
      obtain rfl | ⟨k', rfl, -⟩ := List.prefix_cons_iff.mp hk
      · rw [List.append_nil]
        exact Or.inl hl.isInfix
      · exact absurd (List.mem_append_right l List.mem_cons_self) h
  · rintro (hfront | hrest)
    · exact hfront.trans (List.infix_append [] front (c :: rest))
    · exact hrest.trans (List.infix_append (front ++ [c]) rest [] |>.trans (by simp))

/-- A part without certain characters stands between them. -/
lemma infix_flatMap_iff {segments : List (Char × List Char)} (h : ∀ s ∈ segments, s.1 ∉ part)
    (front : List Char) : part <:+: front ++ segments.flatMap (fun s => s.1 :: s.2) ↔
      part <:+: front ∨ ∃ s ∈ segments, part <:+: s.2 := by
  induction segments generalizing front with
  | nil => simp
  | cons s segments ih =>
    obtain ⟨hs, hlater⟩ := List.forall_mem_cons.mp h
    rw [List.flatMap_cons, List.cons_append, infix_append_cons_iff hs, ih hlater,
      List.exists_mem_cons_iff]

/-- What a text begins with does not change with its line breaks. -/
lemma prefix_unifyBreaks_iff (hreturn : '\r' ∉ part) (hfeed : '\n' ∉ part) :
    part <+: unifyBreaks cs ↔ part <+: cs := by
  induction cs using unifyBreaks.induct generalizing part with
  | case1 => rfl
  | case2 rest =>
    rw [unifyBreaks, List.prefix_cons_iff, List.prefix_cons_iff]
    constructor
    · rintro (rfl | ⟨part', rfl, -⟩)
      · exact Or.inl rfl
      · exact absurd List.mem_cons_self hfeed
    · rintro (rfl | ⟨part', rfl, -⟩)
      · exact Or.inl rfl
      · exact absurd List.mem_cons_self hreturn
  | case3 c rest hcrlf ih =>
    rw [unifyBreaks, List.prefix_cons_iff, List.prefix_cons_iff]
    · refine or_congr_right (exists_congr fun part' => and_congr_right ?_)
      rintro rfl
      exact ih (fun hin => hreturn (List.mem_cons_of_mem c hin))
        fun hin => hfeed (List.mem_cons_of_mem c hin)
    · exact hcrlf

/-- A part that reaches over no line break stands in a text whatever the breaks look like. -/
lemma infix_unifyBreaks_iff (hreturn : '\r' ∉ part) (hfeed : '\n' ∉ part) :
    part <:+: unifyBreaks cs ↔ part <:+: cs := by
  induction cs using unifyBreaks.induct with
  | case1 => rfl
  | case2 rest ih =>
    have hfront := infix_append_cons_iff hfeed [] (unifyBreaks rest)
    have hfront' := infix_append_cons_iff hfeed ['\r'] rest
    have hreturn' := infix_append_cons_iff hreturn [] []
    rw [unifyBreaks]
    exact hfront.trans ((or_congr (hreturn'.trans (or_self_iff)).symm ih).trans hfront'.symm)
  | case3 c rest hcrlf ih =>
    have hbegin : part <+: unifyBreaks (c :: rest) ↔ part <+: c :: rest :=
      prefix_unifyBreaks_iff hreturn hfeed
    rw [unifyBreaks] at hbegin ⊢
    · rw [List.infix_cons_iff, List.infix_cons_iff, hbegin, ih]
    · exact hcrlf
    · exact hcrlf

/-! ## The head of a text -/

/-- What stands in front of the first empty line, or all of a text without one. -/
def headOf (cs : List Char) : List Char :=
  ((cutAt ['\n', '\n'] cs).getD (cs, [])).1

/-- Behind the head of a text stands an empty line or nothing. -/
lemma exists_behind_headOf (cs : List Char) :
    ∃ behind, cs = headOf cs ++ behind ∧ (behind = [] ∨ ∃ body, behind = '\n' :: '\n' :: body) := by
  unfold headOf
  cases hcut : cutAt ['\n', '\n'] cs with
  | none => exact ⟨[], (List.append_nil cs).symm, Or.inl rfl⟩
  | some parts => exact ⟨_, eq_of_cutAt hcut, Or.inr ⟨parts.2, rfl⟩⟩

/-- The first empty line is the one behind a part exactly if there is none in the part. -/
lemma cutAt_blankLine_iff :
    cutAt ['\n', '\n'] (front ++ '\n' :: '\n' :: rest) = some (front, rest) ↔
      ¬ ['\n', '\n'] <:+: front ++ ['\n'] := by
  induction front with
  | nil => exact iff_of_true (cutAt_self ['\n', '\n'] rest) (fun h => by simpa using h.length_le)
  | cons c front ih =>
    have hbegin : ['\n', '\n'] <+: c :: (front ++ '\n' :: '\n' :: rest) ↔
        ['\n', '\n'] <+: c :: (front ++ ['\n']) := by
      cases front <;> simp
    rw [← isSome_after?_iff] at hbegin
    rw [List.cons_append, List.cons_append, List.infix_cons_iff, ← hbegin, cutAt]
    cases after? ['\n', '\n'] (c :: (front ++ '\n' :: '\n' :: rest)) with
    | some rest => simp
    | none => simp [← ih, Option.map_eq_some_iff]

/-- A character that is no line feed belongs to the head. -/
lemma headOf_cons_of_ne (hc : c ≠ '\n') (cs : List Char) : headOf (c :: cs) = c :: headOf cs := by
  have hnone : after? ['\n', '\n'] (c :: cs) = none := by simp [after?, Ne.symm hc]
  unfold headOf
  rw [cutAt, hnone]
  cases cutAt ['\n', '\n'] cs <;> rfl

/-- So does a line feed in front of such a character. -/
lemma headOf_newline_cons (hc : c ≠ '\n') (cs : List Char) :
    headOf ('\n' :: c :: cs) = '\n' :: headOf (c :: cs) := by
  unfold headOf
  rw [cutAt_newline_cons hc]
  cases cutAt ['\n', '\n'] (c :: cs) <;> rfl

/-- Two line feeds end the head. -/
lemma headOf_newline_newline (cs : List Char) : headOf ('\n' :: '\n' :: cs) = [] := by
  have hcut : cutAt ['\n', '\n'] ('\n' :: '\n' :: cs) = some ([], cs) :=
    cutAt_self ['\n', '\n'] cs
  rw [headOf, hcut]
  rfl

/-- The lines of the head are those in front of the first empty one behind the first. -/
lemma gist_pieces_headOf (cs : List Char) : gist (pieces '\n' (headOf cs)) =
    ((pieces '\n' cs).headD [], (pieces '\n' cs).tail.takeWhile (!·.isEmpty)) := by
  induction cs with
  | nil => rfl
  | cons c cs ih =>
    by_cases hc : c = '\n'
    · subst hc
      cases cs with
      | nil => rfl
      | cons d cs =>
        by_cases hd : d = '\n'
        · subst hd
          rw [headOf_newline_newline, pieces_self_cons, pieces_self_cons]
          rfl
        · -- the line behind the line feed is not empty, so it is among those in front
          obtain ⟨p, ps, hpieces⟩ := exists_pieces_eq '\n' cs
          have hline : pieces '\n' (d :: cs) = (d :: p) :: ps := by
            rw [pieces_cons_of_ne hd, hpieces]
            rfl
          have hfilter : (pieces '\n' (headOf (d :: cs))).filter (!·.isEmpty) =
              (pieces '\n' (d :: cs)).takeWhile (!·.isEmpty) := by
            rw [filter_eq_filter_gist, ih, hline]
            exact filter_takeWhile_isEmpty ((d :: p) :: ps)
          rw [headOf_newline_cons hd, pieces_self_cons, pieces_self_cons]
          exact congrArg (Prod.mk []) hfilter
    · obtain ⟨p, ps, hpieces⟩ := exists_pieces_eq '\n' cs
      rw [headOf_cons_of_ne hc, pieces_cons_of_ne hc, pieces_cons_of_ne hc, gist_consLine, ih,
        hpieces]
      rfl

/-- Where no carriage return is left, a carriage return with a line feed behind it is all that was
changed. -/
lemma exists_universalBreaks_eq (h : unifyBreaks cs = front ++ rest) (hreturn : '\r' ∉ front) :
    ∃ later, unifyBreaks later = rest ∧ universalBreaks cs = front ++ universalBreaks later := by
  induction front generalizing cs with
  | nil => exact ⟨cs, h, rfl⟩
  | cons c front ih =>
    rw [List.mem_cons, not_or] at hreturn
    cases cs using unifyBreaks.induct with
    | case1 => cases h
    | case2 cs =>
      rw [unifyBreaks] at h
      obtain ⟨rfl, hrest⟩ := List.cons.inj h
      obtain ⟨later, hlater, huniversal⟩ := ih hrest hreturn.2
      exact ⟨later, hlater, congrArg ('\n' :: ·) huniversal⟩
    | case3 d cs hcrlf =>
      rw [unifyBreaks] at h
      · obtain ⟨rfl, hrest⟩ := List.cons.inj h
        obtain ⟨later, hlater, huniversal⟩ := ih hrest hreturn.2
        refine ⟨later, hlater, ?_⟩
        rw [universalBreaks, if_neg (Ne.symm hreturn.1), huniversal]
        · rfl
        · exact hcrlf
      · exact hcrlf

/-- A head without carriage returns ends at the same line whether carriage returns end lines or
not. -/
lemma headOf_universalBreaks (h : '\r' ∉ headOf (unifyBreaks cs)) :
    headOf (universalBreaks cs) = headOf (unifyBreaks cs) := by
  unfold headOf at h ⊢
  cases hcut : cutAt ['\n', '\n'] (unifyBreaks cs) with
  | none =>
    rw [hcut] at h
    obtain ⟨later, hlater, huniversal⟩ :=
      exists_universalBreaks_eq (List.append_nil (unifyBreaks cs)).symm h
    have hnil : later = [] := by
      cases later using unifyBreaks.induct with
      | case1 => rfl
      | case2 rest => cases hlater
      | case3 c rest hcrlf =>
        rw [unifyBreaks] at hlater
        · cases hlater
        · exact hcrlf
    rw [hnil, universalBreaks, List.append_nil] at huniversal
    rw [huniversal, hcut]
  | some parts =>
    obtain ⟨front, rest⟩ := parts
    rw [hcut] at h
    have hparts : unifyBreaks cs = (front ++ ['\n', '\n']) ++ rest := by
      rw [List.append_assoc]
      exact eq_of_cutAt hcut
    obtain ⟨later, -, huniversal⟩ := exists_universalBreaks_eq hparts (by simpa using h)
    -- no empty line stands earlier, whatever stands behind this one
    rw [List.append_assoc] at hparts huniversal
    rw [hparts] at hcut
    have hblank : cutAt ['\n', '\n'] (front ++ (['\n', '\n'] ++ universalBreaks later)) =
        some (front, universalBreaks later) :=
      cutAt_blankLine_iff.mpr (cutAt_blankLine_iff.mp hcut)
    rw [huniversal, hblank]
    rfl

/-! ## Lines with their breaks -/

/-- A text broken into its first line and the others, each with the break in front of it. -/
structure Broken where
  first : List Char
  rest : List (Char × List Char)
  /-- There is no line break in the first line. -/
  first_line : ∀ c ∈ first, isLineBreak c = false
  /-- A line break stands in front of every other line. -/
  rest_break : ∀ s ∈ rest, isLineBreak s.1 = true
  /-- There is no line break in the other lines. -/
  rest_line : ∀ s ∈ rest, ∀ c ∈ s.2, isLineBreak c = false

namespace Broken

/-- A text, broken at its line breaks. -/
def ofText : List Char → Broken
  | [] =>
    { first := []
      rest := []
      first_line := fun _ hc => absurd hc List.not_mem_nil
      rest_break := fun _ hs => absurd hs List.not_mem_nil
      rest_line := fun _ hs => absurd hs List.not_mem_nil }
  | c :: cs =>
    let b := ofText cs
    if h : isLineBreak c = true then
      { first := []
        rest := (c, b.first) :: b.rest
        first_line := fun _ hc => absurd hc List.not_mem_nil
        rest_break := List.forall_mem_cons.mpr ⟨h, b.rest_break⟩
        rest_line := List.forall_mem_cons.mpr ⟨b.first_line, b.rest_line⟩ }
    else
      { first := c :: b.first
        rest := b.rest
        first_line := List.forall_mem_cons.mpr ⟨Bool.eq_false_iff.mpr h, b.first_line⟩
        rest_break := b.rest_break
        rest_line := b.rest_line }

/-- The text that was broken. -/
def text (b : Broken) : List Char :=
  b.first ++ b.rest.flatMap fun s => s.1 :: s.2

/-- Breaking a text loses nothing. -/
lemma text_ofText (cs : List Char) : (ofText cs).text = cs := by
  induction cs with
  | nil => rfl
  | cons c cs ih =>
    rw [ofText]
    split
    · exact congrArg (c :: ·) ih
    · exact congrArg (c :: ·) ih

/-- Put lines in the place of all lines but the first. -/
def map (b : Broken) (f : List Char → List Char)
    (hf : ∀ l, (∀ c ∈ l, isLineBreak c = false) → ∀ c ∈ f l, isLineBreak c = false) : Broken where
  first := b.first
  rest := b.rest.map fun s : Char × List Char => (s.1, f s.2)
  first_line := b.first_line
  rest_break := List.forall_mem_map.mpr b.rest_break
  rest_line := List.forall_mem_map.mpr fun s hs => hf s.2 (b.rest_line s hs)

variable (b : Broken)

/-- The lines of a text are those that it was broken into. -/
lemma gist_lines_text : gist (lines b.text) = gist (b.first :: b.rest.map (·.2)) := by
  have hrest : toFeeds isLineBreak (b.rest.flatMap fun s => s.1 :: s.2) =
      (b.rest.map (·.2)).flatMap ('\n' :: ·) := by
    rw [toFeeds, List.map_flatMap, List.flatMap_map]
    refine List.flatMap_congr fun s hs => ?_
    rw [List.map_cons, if_pos (b.rest_break s hs)]
    exact congrArg ('\n' :: ·) (toFeeds_eq_self (b.rest_line s hs))
  have hfeeds : toFeeds isLineBreak b.text =
      b.first ++ (b.rest.map (·.2)).flatMap ('\n' :: ·) := by
    rw [← hrest, text, toFeeds, List.map_append]
    exact congrArg (· ++ _) (toFeeds_eq_self b.first_line)
  rw [gist_lines, hfeeds, pieces_joined]
  refine List.forall_mem_cons.mpr ⟨newline_not_mem b.first_line, ?_⟩
  exact List.forall_mem_map.mpr fun s hs => newline_not_mem (b.rest_line s hs)

/-- A part that reaches over no line break stands in one of the lines. -/
lemma infix_text_iff (h : ∀ c ∈ part, isLineBreak c = false) :
    part <:+: b.text ↔ part <:+: b.first ∨ ∃ s ∈ b.rest, part <:+: s.2 := by
  refine infix_flatMap_iff (fun s hs hin => ?_) b.first
  have hbreak := b.rest_break s hs
  rw [h _ hin] at hbreak
  cases hbreak

end Broken

/-! ## Empty lines -/

/-- What has no line feed has no part in an empty line. -/
lemma infix_newlines_append (h : '\n' ∉ front) (cs : List Char) :
    ['\n', '\n'] <:+: front ++ cs ↔ ['\n', '\n'] <:+: cs := by
  induction front with
  | nil => rfl
  | cons c front ih =>
    rw [List.mem_cons, not_or] at h
    rw [List.cons_append, List.infix_cons_iff, ih h.2, List.cons_prefix_cons]
    simp [h.1]

/-- A line feed begins an empty line exactly if another one follows. -/
lemma infix_newlines_cons (cs : List Char) :
    ['\n', '\n'] <:+: '\n' :: cs ↔ cs.head? = some '\n' ∨ ['\n', '\n'] <:+: cs := by
  rw [List.infix_cons_iff, List.cons_prefix_cons]
  cases cs with
  | nil => simp
  | cons c cs => simp [eq_comm]

/-- Behind a line a line feed follows at once exactly if the line is empty. -/
lemma head?_append_eq_newline_iff (h : '\n' ∉ front) (cs : List Char) :
    (front ++ cs).head? = some '\n' ↔ front = [] ∧ cs.head? = some '\n' := by
  cases front with
  | nil => simp
  | cons c front =>
    have hc : c ≠ '\n' := by
      rintro rfl
      exact h List.mem_cons_self
    simp [hc]

/-- If empty lines are put in the place of empty lines, and of no others, no empty line moves. -/
lemma infix_newlines_map {f : List Char → List Char} (hf : ∀ l, f l = [] ↔ l = [])
    {segments : List (Char × List Char)} (h : ∀ s ∈ segments, '\n' ∉ s.2 ∧ '\n' ∉ f s.2)
    (behind : List Char) :
    ['\n', '\n'] <:+:
        (segments.map fun s => (s.1, f s.2)).flatMap (fun s => s.1 :: s.2) ++ behind ↔
      ['\n', '\n'] <:+: segments.flatMap (fun s => s.1 :: s.2) ++ behind := by
  induction segments with
  | nil => rfl
  | cons s segments ih =>
    obtain ⟨⟨hs, hs'⟩, hlater⟩ := List.forall_mem_cons.mp h
    have hhead : ((segments.map fun s => (s.1, f s.2)).flatMap (fun s => s.1 :: s.2) ++
        behind).head? = (segments.flatMap (fun s => s.1 :: s.2) ++ behind).head? := by
      cases segments <;> rfl
    rw [List.map_cons, List.flatMap_cons, List.flatMap_cons, List.append_assoc, List.append_assoc]
    by_cases hfeed : s.1 = '\n'
    · rw [List.cons_append, List.cons_append, hfeed, infix_newlines_cons, infix_newlines_cons,
        head?_append_eq_newline_iff hs', head?_append_eq_newline_iff hs, hf, hhead,
        infix_newlines_append hs', infix_newlines_append hs, ih hlater]
    · have hin : ∀ l, '\n' ∉ l → '\n' ∉ s.1 :: l := by
        intro l hl
        rw [List.mem_cons, not_or]
        exact ⟨Ne.symm hfeed, hl⟩
      rw [infix_newlines_append (hin _ hs'), infix_newlines_append (hin _ hs), ih hlater]

/-- So it is in a text that was broken. -/
lemma Broken.infix_newlines_text_map (b : Broken) {f : List Char → List Char}
    (hf : ∀ l, (∀ c ∈ l, isLineBreak c = false) → ∀ c ∈ f l, isLineBreak c = false)
    (hnil : ∀ l, f l = [] ↔ l = []) (behind : List Char) :
    ['\n', '\n'] <:+: (b.map f hf).text ++ behind ↔ ['\n', '\n'] <:+: b.text ++ behind := by
  have htext : (b.map f hf).text =
      b.first ++ (b.rest.map fun s => (s.1, f s.2)).flatMap fun s => s.1 :: s.2 := rfl
  rw [htext, Broken.text, List.append_assoc, List.append_assoc,
    infix_newlines_append (newline_not_mem b.first_line),
    infix_newlines_append (newline_not_mem b.first_line)]
  refine infix_newlines_map hnil (fun s hs => ?_) behind
  have hline := b.rest_line s hs
  exact ⟨newline_not_mem hline, newline_not_mem (hf _ hline)⟩

end VoipCalls.Text
