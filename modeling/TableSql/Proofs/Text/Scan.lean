import TableSql.Proofs.Text.Ascii
import TableSql.Proofs.Text.Pieces

/-!
# Scanning a statement for its quoted parts

A scan goes through a statement from left to right. Outside the quotes it knows two marks: the quote
around names opens a name, the single quote opens a text. Inside, a doubled quote stands for one and
a lone one closes the part.

* `Quotation` — a quoted part: a name or a text.
* `Scan`, `Scan.step` — where a scan stands, and what one more character does to it.
* `Scan.parts?` — what has been read, unless the scan stands inside a quoted part.
* `scan?` — the quoted parts of a whole statement.
* `Unquoted` — texts that hold neither mark.
* `Yields` — a piece of a statement adds some quoted parts, wherever a scan is outside the quotes.
* `YieldsBehind` — it does so behind any plain text.

Principal results: `Scan.parts?_run_plain` (plain text changes nothing in what has been read),
`Yields.append`, `Yields.intercalate`, `YieldsBehind.intercalate` (pieces add up),
`Unquoted.yields`, `yields_name`, `yields_text`, `yields_names` (the pieces that statements are made
of) and `Yields.scan?_eq`.
-/

set_option autoImplicit false

namespace TableSql

/-- A quoted part of a statement. -/
inductive Quotation where
  | name (s : String)
  | text (s : String)
  deriving DecidableEq, Repr

namespace Quotation

def names (parts : List Quotation) : List String :=
  parts.filterMap fun
    | .name s => some s
    | .text _ => none

def texts (parts : List Quotation) : List String :=
  parts.filterMap fun
    | .name _ => none
    | .text s => some s

@[simp] theorem names_nil : names [] = [] := rfl
@[simp] theorem texts_nil : texts [] = [] := rfl

@[simp] theorem names_name_cons (s : String) (ps : List Quotation) :
    names (.name s :: ps) = s :: names ps := rfl

@[simp] theorem names_text_cons (s : String) (ps : List Quotation) :
    names (.text s :: ps) = names ps := rfl

@[simp] theorem texts_name_cons (s : String) (ps : List Quotation) :
    texts (.name s :: ps) = texts ps := rfl

@[simp] theorem texts_text_cons (s : String) (ps : List Quotation) :
    texts (.text s :: ps) = s :: texts ps := rfl

@[simp] theorem names_append (ps qs : List Quotation) : names (ps ++ qs) = names ps ++ names qs :=
  List.filterMap_append

@[simp] theorem texts_append (ps qs : List Quotation) : texts (ps ++ qs) = texts ps ++ texts qs :=
  List.filterMap_append

theorem names_flatMap {α : Type} (f : α → List Quotation) (as : List α) :
    names (as.flatMap f) = as.flatMap fun a => names (f a) :=
  List.filterMap_flatMap

@[simp] theorem names_map_name (ss : List String) : names (ss.map .name) = ss := by
  induction ss with
  | nil => rfl
  | cons s ss ih => simp [ih]

@[simp] theorem texts_map_name (ss : List String) : texts (ss.map .name) = [] := by
  induction ss with
  | nil => rfl
  | cons s ss ih => simp [ih]

@[simp] theorem names_map_text (ss : List String) : names (ss.map .text) = [] := by
  induction ss with
  | nil => rfl
  | cons s ss ih => simp [ih]

@[simp] theorem texts_map_text (ss : List String) : texts (ss.map .text) = ss := by
  induction ss with
  | nil => rfl
  | cons s ss ih => simp [ih]

end Quotation

/-! ## The scan -/

inductive QuotationKind where
  | name
  | text
  deriving DecidableEq, Repr

namespace QuotationKind

/-- The mark at both ends of a part. -/
def mark (nameQuote : Char) : QuotationKind → Char
  | name => nameQuote
  | text => '\''

def part (kind : QuotationKind) (read : List Char) : Quotation :=
  match kind with
  | name => .name (String.ofList read)
  | text => .text (String.ofList read)

end QuotationKind

/-- Where a scan stands: outside the quotes, inside a quoted part, or behind a mark that closes the
part unless the same mark follows. -/
inductive ScanPlace where
  | outside
  | inside (kind : QuotationKind) (read : List Char)
  | behind (kind : QuotationKind) (read : List Char)
  deriving DecidableEq, Repr

/-- A scan: its place and the parts that it has read. -/
structure Scan where
  place : ScanPlace := .outside
  parts : List Quotation := []
  deriving DecidableEq, Repr

namespace Scan

/-- One character outside the quotes. -/
def stepOutside (nameQuote : Char) (parts : List Quotation) (c : Char) : Scan :=
  if c = nameQuote then ⟨.inside .name [], parts⟩
  else if c = '\'' then ⟨.inside .text [], parts⟩
  else ⟨.outside, parts⟩

def step (nameQuote : Char) (s : Scan) (c : Char) : Scan :=
  match s.place with
  | .outside => stepOutside nameQuote s.parts c
  | .inside kind read =>
    if c = kind.mark nameQuote then ⟨.behind kind read, s.parts⟩
    else ⟨.inside kind (read ++ [c]), s.parts⟩
  | .behind kind read =>
    if c = kind.mark nameQuote then ⟨.inside kind (read ++ [c]), s.parts⟩
    else stepOutside nameQuote (s.parts ++ [kind.part read]) c

def run (nameQuote : Char) (s : Scan) (cs : List Char) : Scan := cs.foldl (step nameQuote) s

/-- What a scan has read; nothing while it stands inside a quoted part. -/
def parts? (s : Scan) : Option (List Quotation) :=
  match s.place with
  | .outside => some s.parts
  | .inside _ _ => none
  | .behind kind read => some (s.parts ++ [kind.part read])

end Scan

/-- The quoted parts of a statement, unless it ends inside one. -/
def scan? (nameQuote : Char) (statement : String) : Option (List Quotation) :=
  (Scan.run nameQuote {} statement.toList).parts?

/-- A text holds neither mark. -/
def Unquoted (nameQuote : Char) (s : String) : Prop := nameQuote ∉ s.toList ∧ '\'' ∉ s.toList

instance (nameQuote : Char) (s : String) : Decidable (Unquoted nameQuote s) :=
  inferInstanceAs (Decidable (_ ∧ _))

/-- Wherever a scan stands outside the quotes, a piece of a statement takes it outside the quotes
again, and the piece adds these parts. -/
def Yields (nameQuote : Char) (piece : String) (parts : List Quotation) : Prop :=
  ∀ (s : Scan) (before : List Quotation), s.parts? = some before →
    (s.run nameQuote piece.toList).parts? = some (before ++ parts)

variable {nameQuote : Char}

/-! ## Characters -/

namespace Scan

theorem run_cons (s : Scan) (c : Char) (cs : List Char) :
    s.run nameQuote (c :: cs) = (s.step nameQuote c).run nameQuote cs := rfl

theorem run_append (s : Scan) (cs ds : List Char) :
    s.run nameQuote (cs ++ ds) = (s.run nameQuote cs).run nameQuote ds :=
  List.foldl_append

/-- Outside the quotes, a character that is no mark settles the part before it. -/
theorem step_of_parts? {s : Scan} {before : List Quotation} {c : Char}
    (h : s.parts? = some before) (hn : c ≠ nameQuote) (ht : c ≠ '\'') :
    s.step nameQuote c = ⟨.outside, before⟩ := by
  obtain ⟨place, parts⟩ := s
  cases place with
  | outside =>
    cases h
    simp [step, stepOutside, hn, ht]
  | inside kind read => cases h
  | behind kind read =>
    cases h
    have hk : c ≠ kind.mark nameQuote := by cases kind <;> assumption
    simp [step, stepOutside, hn, ht, hk]

theorem run_plain {s : Scan} {before : List Quotation} (h : s.parts? = some before) :
    ∀ {cs : List Char}, cs ≠ [] → nameQuote ∉ cs → '\'' ∉ cs →
      s.run nameQuote cs = ⟨.outside, before⟩ := by
  intro cs
  induction cs generalizing s with
  | nil => intro hne; exact absurd rfl hne
  | cons c cs ih =>
    intro _ hn ht
    rw [List.mem_cons, not_or] at hn ht
    have hc := step_of_parts? h (Ne.symm hn.1) (Ne.symm ht.1)
    rw [run_cons, hc]
    cases cs with
    | nil => rfl
    | cons d cs => exact ih rfl (by simp) hn.2 ht.2

theorem parts?_step_plain (s : Scan) {c : Char} (hn : c ≠ nameQuote) (ht : c ≠ '\'') :
    (s.step nameQuote c).parts? = s.parts? := by
  cases hs : s.parts? with
  | some before =>
    rw [step_of_parts? hs hn ht]
    rfl
  | none =>
    obtain ⟨place, parts⟩ := s
    cases place with
    | outside | behind => cases hs
    | inside kind read =>
      -- the character joins the part that is open, and leaves it open
      have hkind : c ≠ kind.mark nameQuote := by cases kind <;> assumption
      simp only [step, if_neg hkind]
      rfl

theorem parts?_run_plain (s : Scan) {cs : List Char} (hn : nameQuote ∉ cs) (ht : '\'' ∉ cs) :
    (s.run nameQuote cs).parts? = s.parts? := by
  induction cs generalizing s with
  | nil => rfl
  | cons c cs ih =>
    rw [List.mem_cons, not_or] at hn ht
    rw [run_cons, ih _ hn.2 ht.2, parts?_step_plain s (Ne.symm hn.1) (Ne.symm ht.1)]

theorem run_doubled (kind : QuotationKind) (parts : List Quotation) (cs : List Char) :
    ∀ read, (Scan.mk (.inside kind read) parts).run nameQuote
      (Text.doubled (kind.mark nameQuote) cs) = ⟨.inside kind (read ++ cs), parts⟩ := by
  induction cs with
  | nil => intro read; simp [run]
  | cons c cs ih =>
    intro read
    by_cases hc : c = kind.mark nameQuote
    · simp only [Text.doubled, if_pos hc, run_cons, step, if_true]
      rw [ih, ← hc]
      simp
    · simp only [Text.doubled, if_neg hc, run_cons, step]
      rw [ih]
      simp

/-- A whole quoted part, wherever the scan stands outside the quotes and not behind one. -/
theorem run_enclosed {kind : QuotationKind} (hq : kind = .text → nameQuote ≠ '\'')
    (parts : List Quotation) (cs : List Char) :
    (Scan.mk .outside parts).run nameQuote (Text.enclosedChars (kind.mark nameQuote) cs) =
      ⟨.behind kind cs, parts⟩ := by
  have hopen : (Scan.mk .outside parts).step nameQuote (kind.mark nameQuote) =
      ⟨.inside kind [], parts⟩ := by
    cases kind with
    | name => simp [step, stepOutside, QuotationKind.mark]
    | text => simp [step, stepOutside, QuotationKind.mark, (hq rfl).symm]
  rw [Text.enclosedChars, run_cons, hopen, run_append, run_doubled]
  simp [run, step]

end Scan

/-! ## Unquoted texts -/

namespace Unquoted

theorem append {a b : String} (ha : Unquoted nameQuote a) (hb : Unquoted nameQuote b) :
    Unquoted nameQuote (a ++ b) := by
  simp only [Unquoted, String.toList_append, List.mem_append, not_or]
  exact ⟨⟨ha.1, hb.1⟩, ⟨ha.2, hb.2⟩⟩

theorem of_subset {a b : String} (ha : Unquoted nameQuote a) (h : b.toList ⊆ a.toList) :
    Unquoted nameQuote b :=
  ⟨fun hm => ha.1 (h hm), fun hm => ha.2 (h hm)⟩

theorem strip {s : String} (hs : Unquoted nameQuote s) : Unquoted nameQuote (Text.strip s) :=
  hs.of_subset (Text.strip_isInfix s).subset

theorem asciiUpper {s : String} (hq : nameQuote.isUpper = false) (hs : Unquoted nameQuote s) :
    Unquoted nameQuote (Text.asciiUpper s) := by
  simp only [Unquoted, Text.asciiUpper, String.toList_ofList, List.mem_map, not_exists, not_and]
  refine ⟨fun c hc h => hs.1 ?_, fun c hc h => hs.2 ?_⟩
  · rwa [← Text.eq_of_toUpper_eq hq h]
  · rwa [← Text.eq_of_toUpper_eq (by decide) h]

theorem upper {s : String} (hascii : nameQuote.toNat < 128) (hq : nameQuote.isUpper = false)
    (hnull : nameQuote ≠ '\x00') (hs : Unquoted nameQuote s) :
    Unquoted nameQuote (Text.upper s) := by
  simp only [Unquoted, Text.upper, Text.upperChars, String.toList_ofList, List.mem_flatMap,
    not_exists, not_and]
  refine ⟨fun c hc h => hs.1 ?_, fun c hc h => hs.2 ?_⟩
  · rwa [← Text.eq_of_mem_upperChar hascii hq hnull h]
  · rwa [← Text.eq_of_mem_upperChar (by decide) (by decide) (by decide) h]

theorem number (hq : nameQuote.isDigit = false) (n : Nat) :
    Unquoted nameQuote (toString n) := by
  refine ⟨fun h => ?_, fun h => ?_⟩
  · rw [Text.isDigit_of_mem_toString h] at hq
    cases hq
  · exact absurd (Text.isDigit_of_mem_toString h) (by decide)

theorem yields {s : String} (hs : Unquoted nameQuote s) : Yields nameQuote s [] := by
  intro sc before h
  rw [Scan.parts?_run_plain sc hs.1 hs.2, h, List.append_nil]

end Unquoted

theorem scan?_append_plain (a : String) {b : String} (hb : Unquoted nameQuote b) :
    scan? nameQuote (a ++ b) = scan? nameQuote a := by
  rw [scan?, String.toList_append, Scan.run_append, Scan.parts?_run_plain _ hb.1 hb.2, scan?]

theorem scan?_plain_append {a : String} (ha : Unquoted nameQuote a) (b : String) :
    scan? nameQuote (a ++ b) = scan? nameQuote b := by
  have hplain : Scan.run nameQuote {} a.toList = {} := by
    by_cases hne : a.toList = []
    · rw [hne]
      rfl
    · exact Scan.run_plain rfl hne ha.1 ha.2
  rw [scan?, String.toList_append, Scan.run_append, hplain, scan?]

/-! ## Pieces of statements -/

namespace Yields

theorem append {a b : String} {ps qs : List Quotation} (ha : Yields nameQuote a ps)
    (hb : Yields nameQuote b qs) : Yields nameQuote (a ++ b) (ps ++ qs) := by
  intro s before h
  rw [String.toList_append, Scan.run_append, ← List.append_assoc]
  exact hb _ _ (ha s before h)

theorem append_plain {a b : String} {ps : List Quotation} (ha : Yields nameQuote a ps)
    (hb : Unquoted nameQuote b) : Yields nameQuote (a ++ b) ps := by
  have := ha.append hb.yields
  rwa [List.append_nil] at this

theorem intercalate {sep : String} (hsep : Unquoted nameQuote sep) {pieces : List String}
    {pss : List (List Quotation)} (h : List.Forall₂ (Yields nameQuote) pieces pss) :
    Yields nameQuote (sep.intercalate pieces) pss.flatten :=
  Text.intercalate_forall₂ (Unquoted.yields (by simp [Unquoted]))
    (fun ha hb => (ha.append_plain hsep).append hb) h

/-- A statement made of such a piece. -/
theorem scan?_eq {s : String} {ps : List Quotation} (h : Yields nameQuote s ps) :
    scan? nameQuote s = some ps :=
  h {} [] rfl

end Yields

theorem yields_enclosed (kind : QuotationKind) (hq : kind = .text → nameQuote ≠ '\'')
    {lead : String} (hlead : Unquoted nameQuote lead) (hne : lead ≠ "") (s : String) :
    Yields nameQuote (lead ++ Text.enclosed (kind.mark nameQuote) s) [kind.part s.toList] := by
  intro sc before h
  have hne' : lead.toList ≠ [] := by simpa using hne
  rw [String.toList_append, Scan.run_append, Scan.run_plain h hne' hlead.1 hlead.2, Text.enclosed,
    String.toList_ofList, Scan.run_enclosed hq]
  rfl

theorem Dialect.nameQuote_ne_apostrophe (d : Dialect) : d.nameQuote ≠ '\'' := by
  cases d <;> decide

variable {d : Dialect} {lead : String}

theorem yields_name (hlead : Unquoted d.nameQuote lead) (hne : lead ≠ "") (s : String) :
    Yields d.nameQuote (lead ++ quoteName d s) [.name s] := by
  have := yields_enclosed .name nofun hlead hne s
  simpa [quoteName, QuotationKind.mark, QuotationKind.part] using this

theorem yields_text (hlead : Unquoted d.nameQuote lead) (hne : lead ≠ "") (s : String) :
    Yields d.nameQuote (lead ++ quoteText s) [.text s] := by
  have := yields_enclosed .text (fun _ => d.nameQuote_ne_apostrophe) hlead hne s
  simpa [quoteText, QuotationKind.mark, QuotationKind.part] using this

theorem yields_optional_text (hlead : Unquoted d.nameQuote lead) (hne : lead ≠ "")
    (o : Option String) :
    Yields d.nameQuote ((o.map fun s => lead ++ quoteText s).getD "") (o.toList.map .text) := by
  cases o with
  | none => exact Unquoted.yields (by simp [Unquoted])
  | some s => exact yields_text hlead hne s

/-! ## Pieces behind plain text -/

/-- Behind any plain text, a piece of a statement adds these parts. -/
def YieldsBehind (nameQuote : Char) (piece : String) (parts : List Quotation) : Prop :=
  ∀ lead, Unquoted nameQuote lead → lead ≠ "" → Yields nameQuote (lead ++ piece) parts

theorem Unquoted.yieldsBehind {s : String} (hs : Unquoted nameQuote s) :
    YieldsBehind nameQuote s [] :=
  fun _ hlead _ => (hlead.append hs).yields

/-- The separator is the plain text in front of every piece but the first. -/
theorem YieldsBehind.intercalate {sep : String} (hsep : Unquoted nameQuote sep) (hne : sep ≠ "")
    {pieces : List String} {pss : List (List Quotation)}
    (h : List.Forall₂ (YieldsBehind nameQuote) pieces pss) :
    YieldsBehind nameQuote (sep.intercalate pieces) pss.flatten := by
  refine Text.intercalate_forall₂ (Unquoted.yieldsBehind (by simp [Unquoted])) ?_ h
  intro a b ps qs ha hb lead hlead hleadne
  have := (ha lead hlead hleadne).append (hb sep hsep hne)
  simpa only [String.append_assoc] using this

theorem yields_names (hlead : Unquoted d.nameQuote lead) (hne : lead ≠ "") (ss : List String) :
    Yields d.nameQuote (lead ++ quoteNames d ss) (ss.map .name) := by
  have hnames : List.Forall₂ (YieldsBehind d.nameQuote) (ss.map (quoteName d))
      (ss.map fun s => [.name s]) :=
    Text.forall₂_map_map.2 fun s _ lead hlead hne => yields_name hlead hne s
  have hsep : Unquoted d.nameQuote ", " := by cases d <;> decide
  have := YieldsBehind.intercalate hsep (by decide) hnames lead hlead hne
  rwa [← List.flatMap_def, ← List.map_eq_flatMap] at this

end TableSql
