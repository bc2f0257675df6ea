import VoipCalls.Filter.Fields
import VoipCalls.Proofs.Filter.Language

/-!
# Identifiers in a filter

A SIP call is found again by the identifier of its dialog, which comes from a packet and is written
into the filter between quotation marks as it is.  A quotation mark in it ends the literal, and a
backslash starts an escape, so that an identifier with one of them is not read back: what stands
behind the mark becomes part of the filter.

`fieldFilter_dialogs` says that the clause of a call compares the identifier exactly if there is
neither in it, and so does the filter of a selection for all of the selected calls.
-/

namespace VoipCalls.DisplayFilter

/-- The identifier by which a SIP call is found. -/
def dialogId? (r : CallRecord) : Option String :=
  match r.protocol, r.payload with
  | .sip, .sip info => info.callIdentifier.filter fun id => !id.isEmpty
  | _, _ => none

/-- The comparison of the identifier. -/
def dialogTest (id : String) : Test :=
  ⟨"sip.Call-ID", .equal, .literal id⟩

/-- The comparison of the identifier in parentheses. -/
def dialogFactor (id : String) : Factor :=
  .group (.single (.single (.test (dialogTest id))))

/-- The filter for one dialog. -/
def dialogClause (id : String) : Disjunction :=
  .single (.single (dialogFactor id))

/-- The filter for some dialogs, the first one apart. -/
def dialogFilter (id : String) (ids : List String) : Disjunction :=
  .single (.single (.group (.ofFactors (dialogFactor id) (ids.map dialogFactor))))

variable {esc : Escapes} {r : CallRecord} {id : String} {ids : List String}

/-! ## Texts and words -/

/-- What stands in front of an identifier in its clause. -/
def dialogOpening : List Char :=
  "(sip.Call-ID == ".toList

/-- What stands between an identifier and the next. -/
def dialogLink : List Char :=
  ") or (sip.Call-ID == ".toList

/-- What stands behind an identifier, if further identifiers follow. -/
def dialogsBehind (ending : List Char) : List String → List Char
  | [] => ending
  | id :: ids => dialogLink ++ '"' :: (id.toList ++ '"' :: dialogsBehind ending ids)

/-- The words that stand in front of an identifier in its clause. -/
def dialogTokens : List Token :=
  [.opening, .word "sip.Call-ID", .word "=="]

/-- The words that stand behind an identifier, if further identifiers follow. -/
def dialogTokensBehind (ending : List Token) : List String → List Token
  | [] => ending
  | id :: ids =>
    .closing :: .word "or" :: (dialogTokens ++ .literal id :: dialogTokensBehind ending ids)

/-- The clause of a call with an identifier. -/
lemma fieldClause_eq_dialogClause (h : dialogId? r = some id) :
    fieldClause r = (dialogClause id).text := by
  unfold dialogId? at h
  split at h
  · rename_i info hprotocol hpayload
    obtain ⟨hid, hne⟩ := Option.filter_eq_some_iff.mp h
    have hempty : ¬ id.isEmpty = true := by simpa using hne
    have hopen : "(sip.Call-ID == \"" = "(" ++ "sip.Call-ID" ++ " " ++ "==" ++ " " ++ "\"" := rfl
    have hclose : "\")" = "\"" ++ ")" := rfl
    rw [fieldClause, hprotocol, hpayload]
    simp only [hid, if_neg hempty, hopen, hclose, toString_text, dialogClause, dialogFactor,
      dialogTest, Factor.text, Conjunction.text, Disjunction.text, Test.text, Operand.text,
      Comparison.text, String.append_assoc]
  · cases h

/-- The clauses of calls with identifiers. -/
lemma map_fieldClause {rs : List CallRecord} {is : List String}
    (h : rs.map dialogId? = is.map some) :
    rs.map fieldClause = is.map fun i => (dialogFactor i).text := by
  induction rs generalizing is with
  | nil =>
    cases is with
    | nil => rfl
    | cons i is => cases h
  | cons r rs ih =>
    cases is with
    | nil => cases h
    | cons i is =>
      obtain ⟨hr, hrs⟩ := List.cons.inj h
      rw [List.map_cons, ih hrs, fieldClause_eq_dialogClause hr, dialogClause, Disjunction.text,
        Conjunction.text, List.map_cons]

/-- The filter of calls with identifiers. -/
lemma fieldFilter_eq_dialogFilter {selected : List Int} {s : Store}
    (h : (s.published.filter fun r => selected.contains r.callId).map dialogId? =
      (id :: ids).map some) :
    fieldFilter selected s = (dialogFilter id ids).text := by
  rw [fieldFilter, map_fieldClause h, dialogFilter, Disjunction.text, Conjunction.text, Factor.text,
    Disjunction.text_ofFactors, ← List.map_cons, List.map_map]
  rfl

lemma toList_text_dialogFactor (id : String) :
    (dialogFactor id).text.toList = dialogOpening ++ '"' :: (id.toList ++ '"' :: [')']) := by
  simp only [dialogFactor, dialogTest, Factor.text, Conjunction.text, Disjunction.text, Test.text,
    Operand.text, Comparison.text, String.toList_append, List.append_assoc]
  rfl

lemma tokens_dialogFactor (id : String) :
    (dialogFactor id).tokens = dialogTokens ++ [.literal id, .closing] := by
  simp only [dialogFactor, dialogTest, Factor.tokens, Conjunction.tokens, Disjunction.tokens,
    Test.tokens, Comparison.text, Operand.token]
  rfl

lemma toList_text_dialogClause : (dialogClause id).text.toList =
    dialogOpening ++ '"' :: (id.toList ++ '"' :: dialogsBehind [')'] []) := by
  rw [dialogClause, Disjunction.text, Conjunction.text, toList_text_dialogFactor, dialogsBehind]

lemma tokens_dialogClause :
    (dialogClause id).tokens = dialogTokens ++ .literal id :: dialogTokensBehind [.closing] [] := by
  rw [dialogClause, Disjunction.tokens, Conjunction.tokens, tokens_dialogFactor, dialogTokensBehind]

/-- The text of the comparisons, from the first one on. -/
lemma toList_text_dialogFactors (id : String) (ids : List String) :
    (" or ".intercalate ((id :: ids).map fun i => (dialogFactor i).text)).toList ++ [')'] =
      dialogOpening ++ '"' :: (id.toList ++ '"' :: dialogsBehind [')', ')'] ids) := by
  induction ids generalizing id with
  | nil =>
    rw [List.map_singleton, String.intercalate_singleton, toList_text_dialogFactor, dialogsBehind]
    simp
  | cons id' ids ih =>
    have hor : dialogLink = ')' :: (" or ".toList ++ dialogOpening) := rfl
    have hrest := ih id'
    rw [List.map_cons] at hrest
    rw [List.map_cons, List.map_cons, String.intercalate_cons_cons, String.toList_append,
      String.toList_append, List.append_assoc, hrest, toList_text_dialogFactor, dialogsBehind, hor]
    simp only [List.append_assoc, List.cons_append, List.nil_append]

lemma toList_text_dialogFilter : (dialogFilter id ids).text.toList =
    '(' :: (dialogOpening ++ '"' :: (id.toList ++ '"' :: dialogsBehind [')', ')'] ids)) := by
  rw [← toList_text_dialogFactors, dialogFilter, Disjunction.text, Conjunction.text, Factor.text,
    Disjunction.text_ofFactors, ← List.map_cons, List.map_map, String.toList_append,
    String.toList_append]
  rfl

/-- The words of the comparisons, from the first one on. -/
lemma tokens_dialogFactors (id : String) (ids : List String) :
    (dialogFactor id).tokens ++
        (((ids.map dialogFactor).flatMap fun y => .word "or" :: y.tokens) ++ [.closing]) =
      dialogTokens ++ .literal id :: dialogTokensBehind [.closing, .closing] ids := by
  induction ids generalizing id with
  | nil =>
    rw [tokens_dialogFactor, List.map_nil, List.flatMap_nil, List.append_assoc, dialogTokensBehind]
    rfl
  | cons id' ids ih =>
    rw [List.map_cons, List.flatMap_cons, List.append_assoc, List.cons_append, ih id',
      tokens_dialogFactor, List.append_assoc, dialogTokensBehind]
    rfl

lemma tokens_dialogFilter : (dialogFilter id ids).tokens =
    .opening :: (dialogTokens ++ .literal id :: dialogTokensBehind [.closing, .closing] ids) := by
  rw [← tokens_dialogFactors, dialogFilter, Disjunction.tokens, Conjunction.tokens, Factor.tokens,
    Disjunction.tokens_ofFactors, List.append_assoc]

/-! ## Reading them -/

/-- What stands behind an identifier does not help its literal on. -/
lemma closes_dialogsBehind {ending : List Char}
    (hhead : ∀ c ∈ ending.head?, c.isAlphanum = false)
    (hending : ∀ c ∈ ending, isPlain c = true) (ids : List String) :
    Closes esc (dialogsBehind ending ids) := by
  cases ids with
  | nil => exact closes_of_plain hhead hending
  | cons id ids =>
    refine closes_of_blank ?_ ?_ rfl
    · rintro c ⟨⟩
      rfl
    · exact List.all_eq_true.mp rfl

/-- The words in front of an identifier are read. -/
lemma tokensFrom_dialogOpening {rest : List Char} :
    tokensFrom esc .between (dialogOpening ++ rest) =
      (tokensFrom esc .between rest).map fun us => dialogTokens ++ us := by
  have hopening : dialogOpening ++ rest =
      '(' :: ("sip.Call-ID".toList ++ ' ' :: ("==".toList ++ ' ' :: rest)) := rfl
  rw [hopening, tokensFrom_opening, tokensFrom_word rfl isBare_of_mem_head?_blank,
    tokensFrom_blank, tokensFrom_word rfl isBare_of_mem_head?_blank, tokensFrom_blank]
  simp only [Option.map_map]
  rfl

/-- The words between two identifiers are read. -/
lemma tokensFrom_dialogLink {rest : List Char} :
    tokensFrom esc .between (dialogLink ++ rest) =
      (tokensFrom esc .between rest).map fun us =>
        .closing :: .word "or" :: (dialogTokens ++ us) := by
  have hlink : dialogLink ++ rest =
      ')' :: ' ' :: ("or".toList ++ ' ' :: (dialogOpening ++ rest)) := rfl
  rw [hlink, tokensFrom_closing, tokensFrom_blank, tokensFrom_word rfl isBare_of_mem_head?_blank,
    tokensFrom_blank, tokensFrom_dialogOpening]
  simp only [Option.map_map]
  rfl

/-- Identifiers that are read as themselves hold nothing that has to be escaped. -/
lemma isPlainText_of_dialogsBehind {ending : List Char} {endingTokens : List Token}
    (hhead : ∀ c ∈ ending.head?, c.isAlphanum = false)
    (hending : ∀ c ∈ ending, isPlain c = true)
    (h : tokensFrom esc .between ('"' :: (id.toList ++ '"' :: dialogsBehind ending ids)) =
      some (.literal id :: dialogTokensBehind endingTokens ids)) :
    ∀ i ∈ id :: ids, isPlainText i = true := by
  induction ids generalizing id with
  | nil =>
    have hid := isPlainText_of_tokensFrom (closes_dialogsBehind hhead hending []) h
    intro i hi
    rw [List.mem_singleton.mp hi]
    exact hid
  | cons id' ids ih =>
    have hid := isPlainText_of_tokensFrom (closes_dialogsBehind hhead hending (id' :: ids)) h
    rw [tokensFrom_literal hid] at h
    obtain ⟨us, hus, hcons⟩ := Option.map_eq_some_iff.mp h
    obtain ⟨-, rfl⟩ := List.cons.inj hcons
    rw [dialogsBehind, tokensFrom_dialogLink, dialogTokensBehind] at hus
    obtain ⟨vs, hvs, hcons⟩ := Option.map_eq_some_iff.mp hus
    have hvs' : vs = .literal id' :: dialogTokensBehind endingTokens ids :=
      List.append_cancel_left (List.cons.inj (List.cons.inj hcons).2).2
    rw [hvs'] at hvs
    intro i hi
    rcases List.mem_cons.mp hi with rfl | hi
    · exact hid
    · exact ih hvs i hi

/-- The comparison of an identifier in which nothing has to be escaped can be read back. -/
lemma isReadable_dialogTest (h : isPlainText id = true) : (dialogTest id).IsReadable := by
  have hfield : isWord "sip.Call-ID" = true := rfl
  exact ⟨hfield, h⟩

lemma isReadable_dialogFactor (h : isPlainText id = true) : (dialogFactor id).IsReadable := by
  simp only [dialogFactor, Factor.IsReadable, Conjunction.IsReadable, Disjunction.IsReadable]
  exact isReadable_dialogTest h

/-- The clause of a call is read as the comparison of its identifier exactly if nothing in the
identifier has to be escaped. -/
lemma ofText?_dialogClause :
    ofText? esc (dialogClause id).text = some (dialogClause id) ↔ isPlainText id = true := by
  constructor
  · intro h
    have htokens := tokens?_of_ofText? h
    rw [tokens?, toList_text_dialogClause, tokens_dialogClause, tokensFrom_dialogOpening] at htokens
    obtain ⟨us, hus, hcons⟩ := Option.map_eq_some_iff.mp htokens
    rw [List.append_cancel_left hcons] at hus
    refine isPlainText_of_dialogsBehind ?_ ?_ hus id List.mem_cons_self
    · rintro c ⟨⟩
      rfl
    · exact List.all_eq_true.mp rfl
  · intro h
    refine Disjunction.ofText?_text ?_
    rw [dialogClause, Disjunction.IsReadable, Conjunction.IsReadable]
    exact isReadable_dialogFactor h

/-- The filter of a selection is read as the comparisons of its identifiers exactly if nothing in
any of them has to be escaped. -/
lemma ofText?_dialogFilter :
    ofText? esc (dialogFilter id ids).text = some (dialogFilter id ids) ↔
      ∀ i ∈ id :: ids, isPlainText i = true := by
  constructor
  · intro h
    have htokens := tokens?_of_ofText? h
    rw [tokens?, toList_text_dialogFilter, tokens_dialogFilter, tokensFrom_opening,
      tokensFrom_dialogOpening, Option.map_map] at htokens
    obtain ⟨us, hus, hcons⟩ := Option.map_eq_some_iff.mp htokens
    rw [List.append_cancel_left (List.cons.inj hcons).2] at hus
    refine isPlainText_of_dialogsBehind ?_ ?_ hus
    · rintro c ⟨⟩
      rfl
    · exact List.all_eq_true.mp rfl
  · intro h
    refine Disjunction.ofText?_text ?_
    rw [dialogFilter, Disjunction.IsReadable, Conjunction.IsReadable, Factor.IsReadable]
    refine Disjunction.isReadable_ofFactors ?_
    rw [← List.map_cons]
    intro x hx
    obtain ⟨i, hi, rfl⟩ := List.mem_map.mp hx
    exact isReadable_dialogFactor (h i hi)

/-! ## The clause of a call and the filter of a selection -/

/-- Whatever the escapes are, the clause of a SIP call with an identifier is read as one comparison
with a literal that denotes the identifier exactly if there is no quotation mark and no backslash in
it, and the filter of selected SIP calls is read as one such comparison for each of them exactly if
there is none in any of their identifiers. -/
theorem fieldFilter_dialogs (esc : Escapes) :
    (∀ (r : CallRecord) (id : String), dialogId? r = some id →
      (ofText? esc (fieldClause r) = some (dialogClause id) ↔ isPlainText id = true)) ∧
    ∀ (s : Store) (selected : List Int) (id : String) (ids : List String),
      (s.published.filter fun r => selected.contains r.callId).map dialogId? =
        (id :: ids).map some →
      (ofText? esc (fieldFilter selected s) = some (dialogFilter id ids) ↔
        ∀ i ∈ id :: ids, isPlainText i = true) := by
  refine ⟨fun r id h => ?_, fun s selected id ids h => ?_⟩
  · rw [fieldClause_eq_dialogClause h]
    exact ofText?_dialogClause
  · rw [fieldFilter_eq_dialogFilter h]
    exact ofText?_dialogFilter

/-- A packet of a dialog. -/
def dialogEvent (frame : Int) (id : String) : Event :=
  { protocol := .sip
    frame := some frame
    time := some (.whole 0)
    payload := some (.sip { callIdentifier := some id }) }

/-- The calls of two dialogs. -/
def twoDialogs : Store :=
  let (_, s) := Store.upsert {} (dialogEvent 1 "a@host") none
  (s.upsert (dialogEvent 2 "b@host") none).2

/-- Both are found by their identifiers. -/
theorem fieldFilter_twoDialogs :
    ofText? .verbatim (fieldFilter [0, 1] twoDialogs) = some (dialogFilter "a@host" ["b@host"]) ∧
    ∃ r ∈ twoDialogs.published, dialogId? r = some "b@host" ∧
      ofText? .verbatim (fieldClause r) = some (dialogClause "b@host") := by
  have hids : (twoDialogs.published.filter fun r => [0, 1].contains r.callId).map dialogId? =
      ["a@host", "b@host"].map some := by decide
  refine ⟨?_, ?_⟩
  · rw [(fieldFilter_dialogs .verbatim).2 twoDialogs [0, 1] "a@host" ["b@host"] hids]
    decide
  · obtain ⟨r, hr, hid⟩ : ∃ r ∈ twoDialogs.published, dialogId? r = some "b@host" := by decide
    refine ⟨r, hr, hid, ?_⟩
    rw [(fieldFilter_dialogs .verbatim).1 r "b@host" hid]
    decide

/-- An identifier with quotation marks in it. -/
def quotedId : String := "a\" or sip.Call-ID == \"b"

/-- The call of a dialog with such an identifier. -/
def quotedDialog : Store :=
  (Store.upsert {} (dialogEvent 1 quotedId) none).2

/-- Two comparisons in a filter and in a clause. -/
def eitherDialog (id id' : String) : Disjunction :=
  .single (.single (.group (.single (.single (.group (.either
    (.single (.single (.test (dialogTest id)))) (.single (.test (dialogTest id')))))))))

/-- The filter of the call finds the calls of two other dialogs instead. -/
theorem fieldFilter_quotedDialog :
    quotedDialog.published.map dialogId? = [some quotedId] ∧
    ofText? .verbatim (fieldFilter [0] quotedDialog) = some (eitherDialog "a" "b") ∧
    ofText? .verbatim (fieldFilter [0] quotedDialog) ≠ some (dialogFilter quotedId []) := by
  have htext : fieldFilter [0] quotedDialog = (eitherDialog "a" "b").text := by decide
  have hreadable : (eitherDialog "a" "b").IsReadable := by
    simp only [eitherDialog, Factor.IsReadable, Conjunction.IsReadable, Disjunction.IsReadable]
    exact ⟨isReadable_dialogTest rfl, isReadable_dialogTest rfl⟩
  have hread : ofText? .verbatim (fieldFilter [0] quotedDialog) = some (eitherDialog "a" "b") := by
    rw [htext]
    exact Disjunction.ofText?_text hreadable
  refine ⟨by decide, hread, ?_⟩
  rw [hread]
  simp [eitherDialog, dialogFilter, Disjunction.ofFactors, dialogFactor]

end VoipCalls.DisplayFilter
