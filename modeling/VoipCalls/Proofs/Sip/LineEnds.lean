import VoipCalls.Proofs.Text.Breaking
import VoipCalls.Sip.Message

/-!
# Where header lines end

The headers of a message are read off the lines behind the start line, up to the first empty line.
The protocol ends a line with a carriage return, a line feed or both.  The reader ends one at every
other line break, too, so that a vertical tab or a line separator in a value cuts the value off, and
what stands behind it is a header of its own.

`Sip.Message.headers_ofText` says it of every text: the headers are those of the plain lines that
are left when all other line breaks are made line feeds.  If there is none in the head, they are
those of its plain lines, and if every line break in the head is a line feed, those of the plain
lines in front of the first empty one.  `Sip.Message.headers_forged` shows what comes of a line
separator.
-/

namespace VoipCalls.Sip

/-- The headers that some lines say, the first of each name. -/
def headersOf (ls : List (List Char)) : List Header :=
  (ls.filterMap Header.ofLine?).foldl addHeader []

/-- The head of a message: what stands in front of the first empty line. -/
def headPart (s : String) : List Char :=
  Text.headOf (Text.unifyBreaks s.toList)

/-- An empty line says no header. -/
lemma Header.ofLine?_nil : Header.ofLine? [] = none :=
  rfl

/-- The headers behind the first line do not change with empty lines. -/
lemma headersOf_tail_of_gist {ks ls : List (List Char)} (h : Text.gist ks = Text.gist ls) :
    headersOf ks.tail = headersOf ls.tail :=
  congrArg (List.foldl addHeader []) (Text.filterMap_tail_of_gist Header.ofLine?_nil h)

namespace Message

/-- The headers of a message are those of the lines of its head, but for the first. -/
lemma headers_eq_headersOf (s : String) :
    (ofText s).headers = headersOf (Text.lines (headPart s)).tail :=
  rfl

/-- If every line break in the head is a line feed, the lines of the head are the plain lines in
front of the first empty one. -/
lemma gist_plainLines_headPart {s : String}
    (h : ∀ c ∈ headPart s, Text.isLineBreak c = true → c = '\n') :
    Text.gist (Text.lines (headPart s)) = Text.gist
      ((Text.plainLines s.toList).headD [] ::
        (Text.plainLines s.toList).tail.takeWhile (!·.isEmpty)) := by
  have hreturn : '\r' ∉ headPart s := by
    intro hin
    have hfeed := h '\r' hin rfl
    cases hfeed
  have hfeeds : Text.toFeeds Text.isLineBreak (headPart s) = headPart s := by
    refine (List.map_congr_left fun c hc => ?_).trans (List.map_id _)
    split
    · rename_i hbreak
      exact (h c hc hbreak).symm
    · rfl
  have hhead : Text.headOf (Text.universalBreaks s.toList) = headPart s :=
    Text.headOf_universalBreaks hreturn
  rw [Text.gist_lines, hfeeds, ← hhead, Text.gist_pieces_headOf]
  exact congrArg (Prod.mk _) (Text.filter_takeWhile_isEmpty _).symm

/-- For every text: its headers are those of the plain lines of its head, once all line breaks other
than carriage returns and line feeds are made line feeds.  If there is none in the head, they are
those of the plain lines of the head.  If every line break in the head is a line feed, they are
those of the plain lines of the text in front of the first empty one. -/
theorem headers_ofText (s : String) :
    (ofText s).headers =
        headersOf (Text.plainLines (Text.toFeeds Text.isForeignBreak (headPart s))).tail ∧
    ((∀ c ∈ headPart s, Text.isForeignBreak c = false) →
      (ofText s).headers = headersOf (Text.plainLines (headPart s)).tail) ∧
    ((∀ c ∈ headPart s, Text.isLineBreak c = true → c = '\n') →
      (ofText s).headers =
        headersOf ((Text.plainLines s.toList).tail.takeWhile (!·.isEmpty))) := by
  have hforeign : (ofText s).headers =
      headersOf (Text.plainLines (Text.toFeeds Text.isForeignBreak (headPart s))).tail := by
    rw [headers_eq_headersOf]
    exact headersOf_tail_of_gist (Text.gist_lines_eq_plainLines (headPart s))
  refine ⟨hforeign, fun hnone => ?_, fun hfeeds => ?_⟩
  · rw [hforeign, Text.toFeeds_eq_self hnone]
  · rw [headers_eq_headersOf]
    exact headersOf_tail_of_gist (gist_plainLines_headPart hfeeds)

/-- A request whose lines end in three ways, with a line separator in its body. -/
def threeEnds : String :=
  "INVITE sip:b SIP/2.0\r\nSubject: a\rCall-ID: first\nCall-ID: second\r\n\r\nv=0\u2028To: b"

/-- The same without a lone carriage return. -/
def twoEnds : String :=
  "INVITE sip:b SIP/2.0\r\nSubject: a\nCall-ID: first\nCall-ID: second\r\n\r\nv=0\u2028To: b"

/-- Their headers are those of their plain lines. -/
theorem headers_threeEnds :
    (ofText threeEnds).headers = [⟨"subject", "a"⟩, ⟨"call-id", "first"⟩] ∧
    (ofText twoEnds).headers = [⟨"subject", "a"⟩, ⟨"call-id", "first"⟩] := by
  obtain ⟨-, hplain, -⟩ := headers_ofText threeEnds
  obtain ⟨-, -, hfeeds⟩ := headers_ofText twoEnds
  have hforeign : (headPart threeEnds).all (!Text.isForeignBreak ·) = true := by decide +kernel
  have hbreaks : (headPart twoEnds).all (fun c => !Text.isLineBreak c || c == '\n') = true := by
    decide +kernel
  rw [hplain (by simpa using hforeign), hfeeds (by simpa [or_iff_not_imp_left] using hbreaks)]
  decide +kernel

/-- A request with a line separator in the value of its subject. -/
def forged : String :=
  "INVITE sip:b SIP/2.0\nSubject: a\u2028Call-ID: forged\nCall-ID: real\n\n"

/-- The plain lines say the subject with the separator in it and the identifier of the call.  The
subject is cut off at the separator, and the identifier is the one behind it. -/
theorem headers_forged :
    headersOf (Text.plainLines (headPart forged)).tail =
      [⟨"subject", "a\u2028Call-ID: forged"⟩, ⟨"call-id", "real"⟩] ∧
    (ofText forged).headers = [⟨"subject", "a"⟩, ⟨"call-id", "forged"⟩] := by
  decide +kernel

end Message

end VoipCalls.Sip
