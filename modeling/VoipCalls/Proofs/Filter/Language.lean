import VoipCalls.Proofs.Filter.Words

/-!
# The language of display filters

A filter compares fields of a packet.  Comparisons, and filters in parentheses, are joined by "and"
and "or", and "and" binds tighter than "or".  The precedence is built into the trees: an alternative
of a filter is a conjunction, and a filter becomes part of a conjunction in parentheses only.

`ofTokens?` reads the words of a filter one by one, with a stack for the parentheses that are open.
It reads exactly the trees that are written with these words (`ofTokens?_eq_some_iff`), and with the
lexer in front a readable filter is read back from its text (`Disjunction.ofText?_text`).

This is the part of the language that compares fields with integers and with texts.
-/

namespace VoipCalls.DisplayFilter

/-! ## Filters -/

/-- How a field is compared. -/
inductive Comparison where
  | equal
  | atLeast
  | atMost
deriving DecidableEq

namespace Comparison

def text : Comparison → String
  | .equal => "=="
  | .atLeast => ">="
  | .atMost => "<="

def ofText? (s : String) : Option Comparison :=
  if s = "==" then some .equal
  else if s = ">=" then some .atLeast
  else if s = "<=" then some .atMost
  else none

def holds : Comparison → Int → Int → Bool
  | .equal, m, n => m == n
  | .atLeast, m, n => n ≤ m
  | .atMost, m, n => m ≤ n

lemma ofText?_text (c : Comparison) : ofText? c.text = some c := by
  cases c <;> rfl

lemma text_of_ofText? {s : String} {c : Comparison} (h : ofText? s = some c) : c.text = s := by
  unfold ofText? at h
  split_ifs at h with hequal hatLeast hatMost <;> cases h
  · exact hequal.symm
  · exact hatLeast.symm
  · exact hatMost.symm

lemma isWord_text (c : Comparison) : isWord c.text = true := by
  cases c <;> rfl

end Comparison

/-- What a field is compared with. -/
inductive Operand where
  | word (s : String)
  | literal (s : String)
deriving DecidableEq

/-- The comparison of a field. -/
structure Test where
  field : String
  comparison : Comparison
  operand : Operand
deriving DecidableEq

mutual

/-- What can be joined by "and". -/
inductive Factor where
  | test (t : Test)
  | group (f : Disjunction)

/-- Factors that are joined by "and". -/
inductive Conjunction where
  | single (x : Factor)
  | both (c : Conjunction) (x : Factor)

/-- Conjunctions that are joined by "or". -/
inductive Disjunction where
  | single (c : Conjunction)
  | either (f : Disjunction) (c : Conjunction)

end

/-! ## The words of a filter -/

def Operand.token : Operand → Token
  | .word s => .word s
  | .literal s => .literal s

def Test.tokens (t : Test) : List Token :=
  [.word t.field, .word t.comparison.text, t.operand.token]

mutual

def Factor.tokens : Factor → List Token
  | .test t => t.tokens
  | .group f => .opening :: (f.tokens ++ [.closing])

def Conjunction.tokens : Conjunction → List Token
  | .single x => x.tokens
  | .both c x => c.tokens ++ .word "and" :: x.tokens

def Disjunction.tokens : Disjunction → List Token
  | .single c => c.tokens
  | .either f c => f.tokens ++ .word "or" :: c.tokens

end

/-! ## Reading the words -/

/-- The conjunction that a factor completes, if `c` stands in front of it. -/
def Conjunction.behind (c : Option Conjunction) (x : Factor) : Conjunction :=
  match c with
  | none => .single x
  | some c => .both c x

/-- The disjunction that a conjunction completes, if `f` stands in front of it. -/
def Disjunction.behind (f : Option Disjunction) (c : Conjunction) : Disjunction :=
  match f with
  | none => .single c
  | some f => .either f c

/-- The beginning of a filter that goes on with a factor: what stands before the last "or", and what
stands between it and the last "and". -/
structure Begun where
  alternatives : Option Disjunction := none
  conjuncts : Option Conjunction := none

/-- What comes next in a filter. -/
inductive Expecting where
  | factor (b : Begun)
  | comparison (b : Begun) (field : String)
  | operand (b : Begun) (field : String) (c : Comparison)
  | link (f : Option Disjunction) (c : Conjunction)

/-- A factor makes a conjunction with what stands in front of it. -/
def Begun.followedBy (b : Begun) (x : Factor) : Expecting :=
  .link b.alternatives (.behind b.conjuncts x)

/-- A reader of words: the filters of which a parenthesis is open, and the filter it is in. -/
structure Reader where
  outer : List Begun
  expecting : Expecting

namespace Reader

/-- What becomes of a reader with a word. -/
def read : Reader → Token → Option Reader
  | ⟨outer, .factor b⟩, .opening => some ⟨b :: outer, .factor {}⟩
  | ⟨outer, .factor b⟩, .word field => some ⟨outer, .comparison b field⟩
  | ⟨outer, .comparison b field⟩, .word s =>
    (Comparison.ofText? s).map fun c => ⟨outer, .operand b field c⟩
  | ⟨outer, .operand b field c⟩, .word s =>
    some ⟨outer, b.followedBy (.test ⟨field, c, .word s⟩)⟩
  | ⟨outer, .operand b field c⟩, .literal s =>
    some ⟨outer, b.followedBy (.test ⟨field, c, .literal s⟩)⟩
  | ⟨outer, .link f c⟩, .word s =>
    if s = "and" then some ⟨outer, .factor ⟨f, some c⟩⟩
    else if s = "or" then some ⟨outer, .factor ⟨some (.behind f c), none⟩⟩
    else none
  | ⟨b :: outer, .link f c⟩, .closing => some ⟨outer, b.followedBy (.group (.behind f c))⟩
  | _, _ => none

/-- What becomes of a reader with words. -/
def run (r : Reader) (ts : List Token) : Option Reader :=
  ts.foldlM read r

/-- The filter that was read, if it is complete. -/
def filter? : Reader → Option Disjunction
  | ⟨[], .link f c⟩ => some (.behind f c)
  | _ => none

end Reader

/-- The filter that is written with these words. -/
def ofTokens? (ts : List Token) : Option Disjunction :=
  (Reader.run ⟨[], .factor {}⟩ ts).bind Reader.filter?

/-- The filter that a text stands for. -/
def ofText? (esc : Escapes) (s : String) : Option Disjunction :=
  (tokens? esc s).bind ofTokens?

/-! ## Nothing else is read -/

def Begun.tokens (b : Begun) : List Token :=
  (b.alternatives.elim [] fun f => f.tokens ++ [.word "or"]) ++
    b.conjuncts.elim [] fun c => c.tokens ++ [.word "and"]

def Expecting.tokens : Expecting → List Token
  | .factor b => b.tokens
  | .comparison b field => b.tokens ++ [.word field]
  | .operand b field c => b.tokens ++ [.word field, .word c.text]
  | .link f c => (Disjunction.behind f c).tokens

/-- A conjunction is written behind what stands in front of it. -/
lemma Disjunction.tokens_behind (f : Option Disjunction) (c : Conjunction) :
    (Disjunction.behind f c).tokens =
      (f.elim [] fun f => f.tokens ++ [.word "or"]) ++ c.tokens := by
  cases f with
  | none => rw [behind, Disjunction.tokens, Option.elim_none, List.nil_append]
  | some f =>
    rw [behind, Disjunction.tokens, Option.elim_some, List.append_assoc, List.singleton_append]

/-- A factor is written behind what stands in front of it. -/
lemma Conjunction.tokens_behind (c : Option Conjunction) (x : Factor) :
    (Conjunction.behind c x).tokens =
      (c.elim [] fun c => c.tokens ++ [.word "and"]) ++ x.tokens := by
  cases c with
  | none => rw [behind, Conjunction.tokens, Option.elim_none, List.nil_append]
  | some c =>
    rw [behind, Conjunction.tokens, Option.elim_some, List.append_assoc, List.singleton_append]

/-- A factor is written behind what was begun. -/
lemma Begun.tokens_followedBy (b : Begun) (x : Factor) :
    (b.followedBy x).tokens = b.tokens ++ x.tokens := by
  rw [followedBy, Expecting.tokens, Disjunction.tokens_behind, Conjunction.tokens_behind,
    ← List.append_assoc]
  rfl

namespace Reader

/-- The words of the filters of which a parenthesis is open. -/
def outerTokens : List Begun → List Token
  | [] => []
  | b :: outer => outerTokens outer ++ (b.tokens ++ [.opening])

def tokens (r : Reader) : List Token :=
  outerTokens r.outer ++ r.expecting.tokens

variable {r r' : Reader} {t : Token} {ts : List Token} {f : Disjunction}

/-- A reader remembers each word that it reads. -/
lemma tokens_read (h : r.read t = some r') : r'.tokens = r.tokens ++ [t] := by
  unfold read at h
  split at h
  case h_1 outer b =>
    cases h
    simp [tokens, outerTokens, Expecting.tokens, Begun.tokens]
  case h_2 outer b field =>
    cases h
    simp [tokens, Expecting.tokens]
  case h_3 outer b field s =>
    obtain ⟨c, hc, rfl⟩ := Option.map_eq_some_iff.mp h
    simp [tokens, Expecting.tokens, Comparison.text_of_ofText? hc]
  case h_4 outer b field c s =>
    cases h
    rw [tokens, Begun.tokens_followedBy]
    simp [tokens, Expecting.tokens, Factor.tokens, Test.tokens, Operand.token]
  case h_5 outer b field c s =>
    cases h
    rw [tokens, Begun.tokens_followedBy]
    simp [tokens, Expecting.tokens, Factor.tokens, Test.tokens, Operand.token]
  case h_6 outer f c s =>
    split at h
    · rename_i hs
      cases h
      rw [hs]
      simp [tokens, Expecting.tokens, Begun.tokens, Disjunction.tokens_behind]
    split at h
    · rename_i hs
      cases h
      rw [hs]
      simp [tokens, Expecting.tokens, Begun.tokens]
    · cases h
  case h_7 b outer f c =>
    cases h
    rw [tokens, Begun.tokens_followedBy]
    simp [tokens, outerTokens, Expecting.tokens, Factor.tokens]
  case h_8 => cases h

/-- So it remembers all the words of a run. -/
lemma tokens_run (h : r.run ts = some r') : r'.tokens = r.tokens ++ ts := by
  unfold run at h
  induction ts generalizing r with
  | nil =>
    cases h
    rw [List.append_nil]
  | cons t ts ih =>
    rw [List.foldlM_cons] at h
    obtain ⟨r₁, hr₁, h⟩ := Option.bind_eq_some_iff.mp h
    rw [ih h, tokens_read hr₁, List.append_assoc, List.singleton_append]

/-- The filter that was read is written with the words that were read. -/
lemma tokens_filter? (h : r.filter? = some f) : f.tokens = r.tokens := by
  unfold filter? at h
  split at h
  case h_1 =>
    cases h
    rfl
  case h_2 => cases h

end Reader

/-! ## Every filter is read -/

namespace Reader

variable {r r' : Reader} {t : Token} {ts us : List Token}

/-- A word in front is read first. -/
lemma run_cons (h : r.read t = some r') : r.run (t :: ts) = r'.run ts := by
  rw [run, List.foldlM_cons, h]
  rfl

/-- A reader passes through the parts of what it reads. -/
lemma run_append (h : r.run ts = some r') : r.run (ts ++ us) = r'.run us := by
  unfold run at h ⊢
  rw [List.foldlM_append, h]
  rfl

end Reader

/-- What comes behind a whole filter. -/
def Disjunction.toExpecting : Disjunction → Expecting
  | .single c => .link none c
  | .either f c => .link (some f) c

/-- A comparison is read as itself. -/
lemma Test.run_tokens (t : Test) (outer : List Begun) (b : Begun) :
    Reader.run ⟨outer, .factor b⟩ t.tokens = some ⟨outer, b.followedBy (.test t)⟩ := by
  obtain ⟨field, c, operand⟩ := t
  have hfield : Reader.read ⟨outer, .factor b⟩ (.word field) =
      some ⟨outer, .comparison b field⟩ := rfl
  have hc : Reader.read ⟨outer, .comparison b field⟩ (.word c.text) =
      some ⟨outer, .operand b field c⟩ := by
    rw [Reader.read, c.ofText?_text, Option.map_some]
  have hoperand : Reader.read ⟨outer, .operand b field c⟩ operand.token =
      some ⟨outer, b.followedBy (.test ⟨field, c, operand⟩)⟩ := by
    cases operand <;> rfl
  rw [Test.tokens, Reader.run_cons hfield, Reader.run_cons hc, Reader.run_cons hoperand]
  rfl

-- What stands in front of a part is arbitrary, so that the induction passes through a chain.
mutual

/-- A factor is read as itself. -/
lemma Factor.run_tokens (x : Factor) (outer : List Begun) (b : Begun) :
    Reader.run ⟨outer, .factor b⟩ x.tokens = some ⟨outer, b.followedBy x⟩ := by
  match x with
  | .test t =>
    rw [Factor.tokens]
    exact t.run_tokens outer b
  | .group f =>
    have hopening : Reader.read ⟨outer, .factor b⟩ .opening =
        some ⟨b :: outer, .factor {}⟩ := rfl
    have hclosing : Reader.read ⟨b :: outer, f.toExpecting⟩ .closing =
        some ⟨outer, b.followedBy (.group f)⟩ := by
      cases f <;> rfl
    rw [Factor.tokens, Reader.run_cons hopening, Reader.run_append (f.run_tokens (b :: outer)),
      Reader.run_cons hclosing]
    rfl

/-- A conjunction is read as itself. -/
lemma Conjunction.run_tokens (c : Conjunction) (outer : List Begun) (f : Option Disjunction) :
    Reader.run ⟨outer, .factor ⟨f, none⟩⟩ c.tokens = some ⟨outer, .link f c⟩ := by
  match c with
  | .single x =>
    rw [Conjunction.tokens]
    exact x.run_tokens outer ⟨f, none⟩
  | .both c x =>
    have hand : Reader.read ⟨outer, .link f c⟩ (.word "and") =
        some ⟨outer, .factor ⟨f, some c⟩⟩ := rfl
    rw [Conjunction.tokens, Reader.run_append (c.run_tokens outer f), Reader.run_cons hand]
    exact x.run_tokens outer ⟨f, some c⟩

/-- A disjunction is read as itself. -/
lemma Disjunction.run_tokens (f : Disjunction) (outer : List Begun) :
    Reader.run ⟨outer, .factor {}⟩ f.tokens = some ⟨outer, f.toExpecting⟩ := by
  match f with
  | .single c =>
    rw [Disjunction.tokens]
    exact c.run_tokens outer none
  | .either f c =>
    have hor : Reader.read ⟨outer, f.toExpecting⟩ (.word "or") =
        some ⟨outer, .factor ⟨some f, none⟩⟩ := by
      cases f <;> rfl
    rw [Disjunction.tokens, Reader.run_append (f.run_tokens outer), Reader.run_cons hor]
    exact c.run_tokens outer (some f)

end

/-- The filter that is read from a list of words is the one that is written with them. -/
theorem ofTokens?_eq_some_iff {ts : List Token} {f : Disjunction} :
    ofTokens? ts = some f ↔ f.tokens = ts := by
  constructor
  · intro h
    obtain ⟨r, hrun, hf⟩ := Option.bind_eq_some_iff.mp h
    rw [Reader.tokens_filter? hf, Reader.tokens_run hrun]
    rfl
  · rintro rfl
    rw [ofTokens?, f.run_tokens [], Option.bind_some]
    cases f <;> rfl

/-- A filter that a text stands for is written with the words of the text. -/
lemma tokens?_of_ofText? {esc : Escapes} {s : String} {f : Disjunction}
    (h : ofText? esc s = some f) : tokens? esc s = some f.tokens := by
  obtain ⟨ts, hts, hf⟩ := Option.bind_eq_some_iff.mp h
  rw [hts, ofTokens?_eq_some_iff.mp hf]

/-! ## The text of a filter -/

def Operand.text : Operand → String
  | .word s => s
  | .literal s => "\"" ++ s ++ "\""

def Test.text (t : Test) : String :=
  t.field ++ " " ++ t.comparison.text ++ " " ++ t.operand.text

mutual

def Factor.text : Factor → String
  | .test t => t.text
  | .group f => "(" ++ f.text ++ ")"

def Conjunction.text : Conjunction → String
  | .single x => x.text
  | .both c x => c.text ++ " " ++ "and" ++ " " ++ x.text

def Disjunction.text : Disjunction → String
  | .single c => c.text
  | .either f c => f.text ++ " " ++ "or" ++ " " ++ c.text

end

/-- A text is inserted into another one as it is. -/
lemma toString_text (s : String) : toString s = s := rfl

/-- An operand that can be read back from its text. -/
def Operand.IsReadable : Operand → Prop
  | .word s => isWord s = true
  | .literal s => isPlainText s = true

def Test.IsReadable (t : Test) : Prop :=
  isWord t.field = true ∧ t.operand.IsReadable

mutual

/-- A filter the words and literals of which can be read back from its text. -/
def Factor.IsReadable : Factor → Prop
  | .test t => t.IsReadable
  | .group f => f.IsReadable

def Conjunction.IsReadable : Conjunction → Prop
  | .single x => x.IsReadable
  | .both c x => c.IsReadable ∧ x.IsReadable

def Disjunction.IsReadable : Disjunction → Prop
  | .single c => c.IsReadable
  | .either f c => f.IsReadable ∧ c.IsReadable

end

/-- A text reads as some words wherever it stands, as long as no word goes on behind it. -/
def Reads (esc : Escapes) (s : String) (ts : List Token) : Prop :=
  ∀ rest : List Char, (∀ c ∈ rest.head?, isBare c = false) →
    tokensFrom esc .between (s.toList ++ rest) =
      (tokensFrom esc .between rest).map fun us => ts ++ us

namespace Reads

variable {esc : Escapes} {s s' : String} {ts ts' : List Token}

lemma word (hs : isWord s = true) : Reads esc s [.word s] :=
  fun _ hrest => tokensFrom_word hs hrest

lemma literal (hs : isPlainText s = true) : Reads esc ("\"" ++ s ++ "\"") [.literal s] := by
  intro rest _
  have hlist : ("\"" ++ s ++ "\"").toList ++ rest = '"' :: (s.toList ++ '"' :: rest) := by
    simp [String.toList_append]
  rw [hlist]
  exact tokensFrom_literal hs

/-- Texts with a blank between them are read one after the other. -/
lemma join (h : Reads esc s ts) (h' : Reads esc s' ts') :
    Reads esc (s ++ " " ++ s') (ts ++ ts') := by
  intro rest hrest
  have hlist : (s ++ " " ++ s').toList ++ rest = s.toList ++ ' ' :: (s'.toList ++ rest) := by
    simp [String.toList_append]
  rw [hlist, h (' ' :: (s'.toList ++ rest)) isBare_of_mem_head?_blank, tokensFrom_blank,
    h' rest hrest, Option.map_map]
  congr 1
  funext us
  exact (List.append_assoc ts ts' us).symm

/-- A text in parentheses is read between them. -/
lemma group (h : Reads esc s ts) :
    Reads esc ("(" ++ s ++ ")") (.opening :: (ts ++ [.closing])) := by
  intro rest _
  have hlist : ("(" ++ s ++ ")").toList ++ rest = '(' :: (s.toList ++ ')' :: rest) := by
    simp [String.toList_append]
  rw [hlist, tokensFrom_opening, h (')' :: rest) (by rintro c ⟨⟩; rfl), tokensFrom_closing,
    Option.map_map, Option.map_map]
  congr 1
  funext us
  simp

/-- The text as a whole has these words. -/
lemma tokens?_eq (h : Reads esc s ts) : tokens? esc s = some ts := by
  have hwhole := h [] (by rintro c ⟨⟩)
  rw [List.append_nil] at hwhole
  rw [tokens?, hwhole]
  exact congrArg some (List.append_nil ts)

end Reads

variable {esc : Escapes}

lemma Operand.reads_text {o : Operand} (h : o.IsReadable) : Reads esc o.text [o.token] := by
  cases o with
  | word s => exact .word h
  | literal s => exact .literal h

lemma Test.reads_text {t : Test} (h : t.IsReadable) : Reads esc t.text t.tokens :=
  ((Reads.word h.1).join (.word t.comparison.isWord_text)).join (Operand.reads_text h.2)

mutual

lemma Factor.reads_text {x : Factor} (h : x.IsReadable) : Reads esc x.text x.tokens := by
  match x with
  | .test t =>
    rw [Factor.text, Factor.tokens]
    rw [Factor.IsReadable] at h
    exact Test.reads_text h
  | .group f =>
    rw [Factor.text, Factor.tokens]
    rw [Factor.IsReadable] at h
    exact (Disjunction.reads_text h).group

lemma Conjunction.reads_text {c : Conjunction} (h : c.IsReadable) :
    Reads esc c.text c.tokens := by
  match c with
  | .single x =>
    rw [Conjunction.text, Conjunction.tokens]
    rw [Conjunction.IsReadable] at h
    exact Factor.reads_text h
  | .both c x =>
    rw [Conjunction.text, Conjunction.tokens, List.append_cons]
    rw [Conjunction.IsReadable] at h
    exact ((Conjunction.reads_text h.1).join (.word rfl)).join (Factor.reads_text h.2)

lemma Disjunction.reads_text {f : Disjunction} (h : f.IsReadable) :
    Reads esc f.text f.tokens := by
  match f with
  | .single c =>
    rw [Disjunction.text, Disjunction.tokens]
    rw [Disjunction.IsReadable] at h
    exact Conjunction.reads_text h
  | .either f c =>
    rw [Disjunction.text, Disjunction.tokens, List.append_cons]
    rw [Disjunction.IsReadable] at h
    exact ((Disjunction.reads_text h.1).join (.word rfl)).join (Conjunction.reads_text h.2)

end

/-- A readable filter is read back from its text. -/
theorem Disjunction.ofText?_text {f : Disjunction} (h : f.IsReadable) :
    ofText? esc f.text = some f := by
  rw [ofText?, (Disjunction.reads_text h).tokens?_eq, Option.bind_some]
  exact ofTokens?_eq_some_iff.mpr rfl

example : ofText? .verbatim "a == 1 and b >= 2 or c == \"x\"" =
    some (.either
      (.single (.both
        (.single (.test ⟨"a", .equal, .word "1"⟩)) (.test ⟨"b", .atLeast, .word "2"⟩)))
      (.single (.test ⟨"c", .equal, .literal "x"⟩))) := by
  rfl

/-! ## Lists of alternatives -/

namespace Disjunction

/-- Factors that are joined by "or", the first one apart. -/
def ofFactors (x : Factor) (xs : List Factor) : Disjunction :=
  xs.foldl (fun f y => .either f (.single y)) (.single (.single x))

lemma text_foldl (f : Disjunction) (xs : List Factor) :
    (xs.foldl (fun f y => either f (.single y)) f).text =
      " or ".intercalate (f.text :: xs.map Factor.text) := by
  induction xs generalizing f with
  | nil => exact String.intercalate_singleton.symm
  | cons x xs ih =>
    have hor : (either f (.single x)).text = f.text ++ (" or " ++ x.text) := by
      rw [Disjunction.text, Conjunction.text]
      simp only [String.append_assoc]
      rfl
    rw [List.foldl_cons, ih, List.map_cons, String.intercalate_cons_cons, hor,
      String.intercalate_cons_append, String.intercalate_cons_append, String.append_assoc]

/-- The texts of the alternatives stand behind one another with "or" in between. -/
lemma text_ofFactors (x : Factor) (xs : List Factor) :
    (ofFactors x xs).text = " or ".intercalate ((x :: xs).map Factor.text) := by
  rw [ofFactors, text_foldl, Disjunction.text, Conjunction.text, List.map_cons]

lemma tokens_foldl (f : Disjunction) (xs : List Factor) :
    (xs.foldl (fun f y => either f (.single y)) f).tokens =
      f.tokens ++ xs.flatMap fun y => .word "or" :: y.tokens := by
  induction xs generalizing f with
  | nil => exact (List.append_nil _).symm
  | cons x xs ih =>
    rw [List.foldl_cons, ih, Disjunction.tokens, Conjunction.tokens, List.flatMap_cons,
      List.append_assoc]

/-- The words of the alternatives stand behind one another with "or" in between. -/
lemma tokens_ofFactors (x : Factor) (xs : List Factor) :
    (ofFactors x xs).tokens = x.tokens ++ xs.flatMap fun y => .word "or" :: y.tokens := by
  rw [ofFactors, tokens_foldl, Disjunction.tokens, Conjunction.tokens]

lemma isReadable_foldl {f : Disjunction} {xs : List Factor} (hf : f.IsReadable)
    (hxs : ∀ x ∈ xs, x.IsReadable) :
    (xs.foldl (fun f y => either f (.single y)) f).IsReadable := by
  induction xs generalizing f with
  | nil => exact hf
  | cons x xs ih =>
    refine ih ?_ fun y hy => hxs y (List.mem_cons_of_mem x hy)
    rw [Disjunction.IsReadable, Conjunction.IsReadable]
    exact ⟨hf, hxs x List.mem_cons_self⟩

/-- Alternatives that can be read back on their own can be read back together. -/
lemma isReadable_ofFactors {x : Factor} {xs : List Factor}
    (h : ∀ y ∈ x :: xs, y.IsReadable) : (ofFactors x xs).IsReadable := by
  refine isReadable_foldl ?_ fun y hy => h y (List.mem_cons_of_mem x hy)
  rw [Disjunction.IsReadable, Conjunction.IsReadable]
  exact h x List.mem_cons_self

end Disjunction

end VoipCalls.DisplayFilter
