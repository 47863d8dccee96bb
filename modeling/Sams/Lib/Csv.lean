import Mathlib.Tactic.Common

/-!
# Comma separated values

The writer and the reader of Python's `csv`, in the dialects that quote a field where they must and
write a quote inside quotes twice. The reader is a machine that goes through the lines of the text;
it accepts more than the writer writes.

**`read_write`** — what was written is read back, whatever characters the fields have.
-/

namespace Csv

/-- A dialect: nothing is both a delimiter and a quote, and neither of them ends a line. -/
structure Dialect where
  delimiter : Char
  quote : Char
  distinct : delimiter ≠ quote
  delimiter_inline : delimiter ≠ '\n' ∧ delimiter ≠ '\r'
  quote_inline : quote ≠ '\n' ∧ quote ≠ '\r'

/-- The dialect `excel`. -/
def excel : Dialect where
  delimiter := ','
  quote := Char.ofNat 0x22
  distinct := by decide
  delimiter_inline := by decide
  quote_inline := by decide

abbrev Field := List Char

abbrev Row := List Field

/-! ## The writer -/

namespace Dialect

variable (D : Dialect)

/-- A field with such a character is quoted. -/
def special (c : Char) : Bool := c = D.delimiter ∨ c = D.quote ∨ c = '\n' ∨ c = '\r'

def escape (c : Char) : List Char := if c = D.quote then [c, c] else [c]

def quoted (field : Field) : List Char := D.quote :: field.flatMap D.escape ++ [D.quote]

def writeField (field : Field) : List Char := if field.any D.special then D.quoted field else field

/-- A row; one empty field is quoted, or it would be no field. -/
def writeRow (row : Row) : List Char :=
  (if row = [[]] then D.quoted [] else [D.delimiter].intercalate (row.map D.writeField)) ++
    ['\r', '\n']

def write (rows : List Row) : List Char := rows.flatMap D.writeRow

end Dialect

/-! ## The reader -/

inductive Mode where
  | startRecord
  | startField
  | inField
  | inQuoted
  | quoteInQuoted
  | eatCrnl
  deriving DecidableEq, Repr

/-- The record that is being read. -/
structure Reading where
  mode : Mode
  field : Field
  fields : Row
  deriving DecidableEq, Repr

inductive Error where
  | fieldLimit
  | newLine
  deriving DecidableEq, Repr

def Reading.start : Reading := ⟨.startRecord, [], []⟩

/-- The field is at its end. -/
def Reading.save (r : Reading) (mode : Mode) : Reading := ⟨mode, [], r.fields ++ [r.field]⟩

/-- One more character of the field, which has a limit. -/
def Reading.add (limit : Nat) (r : Reading) (mode : Mode) (c : Char) : Except Error Reading :=
  if limit ≤ r.field.length then .error .fieldLimit else .ok ⟨mode, r.field ++ [c], r.fields⟩

section Reader

variable (D : Dialect) (limit : Nat)

/-- A character at the start of a field. -/
def startField (r : Reading) (c : Char) : Except Error Reading :=
  if c = '\n' ∨ c = '\r' then .ok (r.save .eatCrnl)
  else if c = D.quote then .ok { r with mode := .inQuoted }
  else if c = D.delimiter then .ok (r.save .startField)
  else r.add limit .inField c

/-- A character of the line, or its end. -/
def process (r : Reading) (c : Option Char) : Except Error Reading :=
  match r.mode, c with
  | .startRecord, none => .ok r
  | .startRecord, some c =>
    if c = '\n' ∨ c = '\r' then .ok { r with mode := .eatCrnl } else startField D limit r c
  | .startField, none => .ok (r.save .startRecord)
  | .startField, some c => startField D limit r c
  | .inField, none => .ok (r.save .startRecord)
  | .inField, some c =>
    if c = '\n' ∨ c = '\r' then .ok (r.save .eatCrnl)
    else if c = D.delimiter then .ok (r.save .startField)
    else r.add limit .inField c
  | .inQuoted, none => .ok r
  | .inQuoted, some c =>
    if c = D.quote then .ok { r with mode := .quoteInQuoted } else r.add limit .inQuoted c
  | .quoteInQuoted, none => .ok (r.save .startRecord)
  | .quoteInQuoted, some c =>
    if c = D.quote then r.add limit .inQuoted c
    else if c = D.delimiter then .ok (r.save .startField)
    else if c = '\n' ∨ c = '\r' then .ok (r.save .eatCrnl)
    else r.add limit .inField c
  | .eatCrnl, none => .ok { r with mode := .startRecord }
  | .eatCrnl, some c => if c = '\n' ∨ c = '\r' then .ok r else .error .newLine

/-- The lines of a text, each with its end. -/
def lines : List Char → List (List Char)
  | [] => []
  | c :: cs =>
    if c = '\n' then [c] :: lines cs
    else match lines cs with
      | [] => [[c]]
      | line :: rest => (c :: line) :: rest

def readLine (r : Reading) (line : List Char) : Except Error Reading := do
  let r ← line.foldlM (fun r c => process D limit r (some c)) r
  process D limit r none

/-- The records of the lines; a record goes on where a line ends inside quotes. -/
def readLines (r : Reading) : List (List Char) → Except Error (List Row)
  | [] => .ok (if r.field ≠ [] ∨ r.mode = .inQuoted then [r.fields ++ [r.field]] else [])
  | line :: rest => do
    let r ← readLine D limit r line
    if r.mode = .startRecord then
      let rows ← readLines .start rest
      return r.fields :: rows
    else readLines r rest

def read (text : List Char) : Except Error (List Row) := readLines D limit .start (lines text)

end Reader

/-! ## One character after the other -/

section Steps

variable {D : Dialect} {limit : Nat}

/-- The reader goes on with the rest of a line as it would with a line. -/
theorem readLines_cons {r r' : Reading} {c : Char} {cs : List Char} (hc : c ≠ '\n') (hcs : cs ≠ [])
    (h : process D limit r (some c) = .ok r') :
    readLines D limit r (lines (c :: cs)) = readLines D limit r' (lines cs) := by
  have hline : ∃ line rest, lines cs = line :: rest := by
    cases cs with
    | nil => exact absurd rfl hcs
    | cons d ds =>
      rw [lines]
      by_cases hd : d = '\n'
      · exact ⟨_, _, if_pos hd⟩
      · rw [if_neg hd]
        cases lines ds with
        | nil => exact ⟨_, _, rfl⟩
        | cons line rest => exact ⟨_, _, rfl⟩
  obtain ⟨line, rest, hline⟩ := hline
  have hstep : readLine D limit r (c :: line) = readLine D limit r' line := by
    unfold readLine
    rw [List.foldlM_cons, h]
    rfl
  rw [lines, if_neg hc, hline]
  show readLines D limit r ((c :: line) :: rest) = _
  rw [readLines, readLines, hstep]

/-- At the end of a line the record is at its end, or goes on. -/
theorem readLines_newline {r r₁ r' : Reading} {cs : List Char}
    (h : process D limit r (some '\n') = .ok r₁) (hend : process D limit r₁ none = .ok r') :
    readLines D limit r (lines ('\n' :: cs)) =
      if r'.mode = .startRecord then (readLines D limit .start (lines cs)).map (r'.fields :: ·)
      else readLines D limit r' (lines cs) := by
  have hline : readLine D limit r ['\n'] = .ok r' := by
    unfold readLine
    rw [List.foldlM_cons, h]
    exact hend
  rw [lines, if_pos rfl, readLines, hline]
  show (if r'.mode = .startRecord then _ else _) = _
  by_cases hmode : r'.mode = .startRecord
  · rw [if_pos hmode, if_pos hmode]
    cases readLines D limit .start (lines cs) <;> rfl
  · rw [if_neg hmode, if_neg hmode]

/-- The characters lead the reader from one state to the other, where more follow. -/
def Leads (D : Dialect) (limit : Nat) (r : Reading) (cs : List Char) (r' : Reading) : Prop :=
  ∀ rest, rest ≠ [] → readLines D limit r (lines (cs ++ rest)) = readLines D limit r' (lines rest)

theorem leads_nil (r : Reading) : Leads D limit r [] r := fun _ _ => rfl

theorem Leads.append {r r' r'' : Reading} {cs ds : List Char} (h : Leads D limit r cs r')
    (h' : Leads D limit r' ds r'') : Leads D limit r (cs ++ ds) r'' := by
  intro rest hrest
  rw [List.append_assoc, h (ds ++ rest) (List.append_ne_nil_of_right_ne_nil ds hrest),
    h' rest hrest]

theorem leads_char {r r' : Reading} {c : Char} (hc : c ≠ '\n')
    (h : process D limit r (some c) = .ok r') :
    Leads D limit r [c] r' := fun _ hrest => readLines_cons hc hrest h

theorem leads_newline {r r₁ r' : Reading} (h : process D limit r (some '\n') = .ok r₁)
    (hend : process D limit r₁ none = .ok r') (hmode : r'.mode ≠ .startRecord) :
    Leads D limit r ['\n'] r' := by
  intro rest _
  show readLines D limit r (lines ('\n' :: rest)) = _
  rw [readLines_newline h hend, if_neg hmode]

end Steps

/-! ## A field -/

section Fields

variable {D : Dialect} {limit : Nat} {fields : Row}

theorem add_of_lt {r : Reading} {mode : Mode} {c : Char} (h : r.field.length < limit) :
    r.add limit mode c = .ok ⟨mode, r.field ++ [c], r.fields⟩ := if_neg (Nat.not_le_of_lt h)

/-- Inside quotes, one character. -/
theorem leads_escape {field : Field} (c : Char) (h : field.length < limit) :
    Leads D limit ⟨.inQuoted, field, fields⟩ (D.escape c) ⟨.inQuoted, field ++ [c], fields⟩ := by
  unfold Dialect.escape
  by_cases hquote : c = D.quote
  · have hc : c ≠ '\n' := hquote ▸ D.quote_inline.1
    rw [if_pos hquote]
    have hfirst : process D limit ⟨.inQuoted, field, fields⟩ (some c) =
        .ok ⟨.quoteInQuoted, field, fields⟩ :=
      if_pos hquote
    have hsecond : process D limit ⟨.quoteInQuoted, field, fields⟩ (some c) =
        .ok ⟨.inQuoted, field ++ [c], fields⟩ := (if_pos hquote).trans (add_of_lt h)
    exact (leads_char hc hfirst).append (leads_char hc hsecond)
  · have hadd : process D limit ⟨.inQuoted, field, fields⟩ (some c) =
        .ok ⟨.inQuoted, field ++ [c], fields⟩ :=
      (if_neg hquote).trans (add_of_lt h)
    rw [if_neg hquote]
    by_cases hc : c = '\n'
    · subst hc
      exact leads_newline hadd rfl (by simp)
    · exact leads_char hc hadd

/-- Inside quotes, the rest of the field. -/
theorem leads_escaped {field : Field} (cs : Field) (h : (field ++ cs).length ≤ limit) :
    Leads D limit ⟨.inQuoted, field, fields⟩ (cs.flatMap D.escape) ⟨.inQuoted, field ++ cs,
      fields⟩ := by
  induction cs generalizing field with
  | nil =>
    rw [List.append_nil]
    exact leads_nil _
  | cons c cs ih =>
    have hlt : field.length < limit := by
      rw [List.length_append, List.length_cons] at h
      omega
    rw [List.append_cons] at h ⊢
    exact (leads_escape c hlt).append (ih h)

/-- No character of the field ends it. -/
theorem process_plain {field : Field} {c : Char} (hc : D.special c = false)
    (h : field.length < limit) :
    process D limit ⟨.inField, field, fields⟩ (some c) = .ok ⟨.inField, field ++ [c], fields⟩ := by
  simp only [Dialect.special, decide_eq_false_iff_not, not_or] at hc
  refine (if_neg ?_).trans ((if_neg hc.1).trans (add_of_lt h))
  rintro (hn | hr)
  · exact hc.2.2.1 hn
  · exact hc.2.2.2 hr

theorem leads_plain {field : Field} (cs : Field) (hcs : cs.any D.special = false)
    (h : (field ++ cs).length ≤ limit) :
    Leads D limit ⟨.inField, field, fields⟩ cs ⟨.inField, field ++ cs, fields⟩ := by
  induction cs generalizing field with
  | nil =>
    rw [List.append_nil]
    exact leads_nil _
  | cons c cs ih =>
    rw [List.any_cons, Bool.or_eq_false_iff] at hcs
    have hlt : field.length < limit := by
      rw [List.length_append, List.length_cons] at h
      omega
    have hc : c ≠ '\n' := by
      rintro rfl
      simp [Dialect.special] at hcs
    rw [List.append_cons] at h ⊢
    exact (leads_char hc (process_plain hcs.1 hlt)).append (ih hcs.2 h)

/-- The field has been read, but not its end: nothing of an empty one, the first
of its record or not. -/
inductive Pending (field : Field) (fields : Row) : Reading → Prop where
  | first (hfield : field = []) : Pending field fields ⟨.startRecord, [], fields⟩
  | empty (hfield : field = []) : Pending field fields ⟨.startField, [], fields⟩
  | plain : Pending field fields ⟨.inField, field, fields⟩
  | quoted : Pending field fields ⟨.quoteInQuoted, field, fields⟩

/-- The start of a field, the first of its record or not. -/
def Mode.Starts (mode : Mode) : Prop := mode = .startRecord ∨ mode = .startField

theorem process_start {mode : Mode} (hmode : mode.Starts) {c : Char} (hc : c ≠ '\n' ∧ c ≠ '\r') :
    process D limit ⟨mode, [], fields⟩ (some c) = startField D limit ⟨mode, [], fields⟩ c := by
  rcases hmode with rfl | rfl
  · exact if_neg (not_or.2 hc)
  · rfl

theorem leads_quoted {mode : Mode} (hmode : mode.Starts) {field : Field}
    (h : field.length ≤ limit) :
    Leads D limit ⟨mode, [], fields⟩ (D.quoted field) ⟨.quoteInQuoted, field, fields⟩ := by
  have hopen : process D limit ⟨mode, [], fields⟩ (some D.quote) = .ok ⟨.inQuoted, [], fields⟩ := by
    rw [process_start hmode D.quote_inline]
    exact (if_neg (not_or.2 D.quote_inline)).trans (if_pos rfl)
  have hclose : process D limit ⟨.inQuoted, field, fields⟩ (some D.quote) =
      .ok ⟨.quoteInQuoted, field, fields⟩ :=
    if_pos rfl
  have hinside : Leads D limit ⟨.inQuoted, [], fields⟩ (field.flatMap D.escape)
      ⟨.inQuoted, field, fields⟩ :=
    leads_escaped field h
  exact ((leads_char D.quote_inline.1 hopen).append hinside).append
    (leads_char D.quote_inline.1 hclose)

/-- **A field** that was written is read, up to its end; where nothing is read it is empty. -/
theorem leads_writeField {mode : Mode} (hmode : mode.Starts) {field : Field}
    (h : field.length ≤ limit) :
    ∃ r, Leads D limit ⟨mode, [], fields⟩ (D.writeField field) r ∧ Pending field fields r ∧
      (r.mode = .startRecord → mode = .startRecord ∧ field = []) := by
  unfold Dialect.writeField
  by_cases hspecial : field.any D.special = true
  · rw [if_pos hspecial]
    exact ⟨_, leads_quoted hmode h, .quoted, by simp⟩
  · rw [if_neg hspecial]
    cases field with
    | nil =>
      rcases hmode with rfl | rfl
      · exact ⟨_, leads_nil _, .first rfl, by simp⟩
      · exact ⟨_, leads_nil _, .empty rfl, by simp⟩
    | cons c cs =>
      rw [Bool.not_eq_true, List.any_cons, Bool.or_eq_false_iff] at hspecial
      obtain ⟨hc, hcs⟩ := hspecial
      have hc' := hc
      simp only [Dialect.special, decide_eq_false_iff_not, not_or] at hc'
      obtain ⟨hdelimiter, hquote, hn, hr⟩ := hc'
      have hlt : ([] : Field).length < limit := Nat.lt_of_lt_of_le (Nat.succ_pos cs.length) h
      have hfirst : process D limit ⟨mode, [], fields⟩ (some c) = .ok ⟨.inField, [c], fields⟩ := by
        rw [process_start hmode ⟨hn, hr⟩]
        exact (if_neg (not_or.2 ⟨hn, hr⟩)).trans
          ((if_neg hquote).trans ((if_neg hdelimiter).trans (add_of_lt hlt)))
      exact ⟨_, (leads_char hn hfirst).append (leads_plain cs hcs h), .plain, by simp⟩

/-- The delimiter ends the field. -/
theorem Pending.delimiter {field : Field} {r : Reading} (h : Pending field fields r) :
    Leads D limit r [D.delimiter] ⟨.startField, [], fields ++ [field]⟩ := by
  have hline : ¬(D.delimiter = '\n' ∨ D.delimiter = '\r') := not_or.2 D.delimiter_inline
  have hstart : ∀ mode : Mode, startField D limit ⟨mode, [], fields⟩ D.delimiter =
      .ok ⟨.startField, [], fields ++ [[]]⟩ := fun mode =>
    (if_neg hline).trans ((if_neg D.distinct).trans (if_pos rfl))
  refine leads_char D.delimiter_inline.1 ?_
  cases h with
  | first hfield =>
    rw [hfield]
    exact (if_neg hline).trans (hstart _)
  | empty hfield =>
    rw [hfield]
    exact hstart _
  | plain => exact (if_neg hline).trans (if_pos rfl)
  | quoted => exact (if_neg D.distinct).trans (if_pos rfl)

/-- The end of the line ends the record. -/
theorem Pending.newline {field : Field} {r : Reading} (h : Pending field fields r)
    (hmode : r.mode ≠ .startRecord) (rest : List Char) :
    readLines D limit r (lines ('\r' :: '\n' :: rest)) =
      (readLines D limit .start (lines rest)).map ((fields ++ [field]) :: ·) := by
  have hr : '\r' = '\n' ∨ '\r' = '\r' := .inr rfl
  have hcr : process D limit r (some '\r') = .ok ⟨.eatCrnl, [], fields ++ [field]⟩ := by
    cases h with
    | first => exact absurd rfl hmode
    | empty hfield =>
      rw [hfield]
      rfl
    | plain => rfl
    | quoted =>
      exact (if_neg D.quote_inline.2.symm).trans
        ((if_neg D.delimiter_inline.2.symm).trans (if_pos hr))
  rw [readLines_cons (by decide) (List.cons_ne_nil _ _) hcr]
  have hlf : process D limit ⟨.eatCrnl, [], fields ++ [field]⟩ (some '\n') =
      .ok ⟨.eatCrnl, [], fields ++ [field]⟩ := rfl
  rw [readLines_newline hlf rfl, if_pos rfl]

end Fields

/-! ## The table -/

section Tables

variable {D : Dialect} {limit : Nat}

/-- The fields of a row, up to the end of the last one. -/
theorem leads_fields {mode : Mode} (hmode : mode.Starts) (fields : Row) (field : Field) (more : Row)
    (h : ∀ f ∈ field :: more, f.length ≤ limit) :
    ∃ r last before, Leads D limit ⟨mode, [], fields⟩
        ([D.delimiter].intercalate ((field :: more).map D.writeField)) r ∧
      Pending last (fields ++ before) r ∧ before ++ [last] = field :: more ∧
      (r.mode = .startRecord → mode = .startRecord ∧ field :: more = [[]]) := by
  induction more generalizing mode field fields with
  | nil =>
    obtain ⟨r, hleads, hpending, hstart⟩ := leads_writeField hmode (h field (by simp))
    refine ⟨r, field, [], ?_, by simpa using hpending, rfl,
      fun hr => ⟨(hstart hr).1, by rw [(hstart hr).2]⟩⟩
    simpa [List.intercalate] using hleads
  | cons next more ih =>
    obtain ⟨r, hleads, hpending, -⟩ := leads_writeField hmode (h field (by simp))
    have hstarts : Mode.startField.Starts := .inr rfl
    obtain ⟨r', last, before, hrest, hpending', hall, hstart⟩ :=
      ih hstarts (fields ++ [field]) next fun f hf => h f (List.mem_cons_of_mem _ hf)
    refine ⟨r', last, field :: before, ?_, by simpa using hpending',
      by rw [List.cons_append, hall], ?_⟩
    · have hjoin : [D.delimiter].intercalate ((field :: next :: more).map D.writeField) =
          D.writeField field ++ [D.delimiter] ++ [D.delimiter].intercalate
            ((next :: more).map D.writeField) := by
        simp [List.intercalate]
      rw [hjoin]
      exact (hleads.append hpending.delimiter).append hrest
    · intro hr
      exact absurd (hstart hr).1 (by decide)

/-- **A row** that was written is read as the first record. -/
theorem readLines_writeRow (row : Row) (h : ∀ f ∈ row, f.length ≤ limit) (rest : List Char) :
    readLines D limit .start (lines (D.writeRow row ++ rest)) =
      (readLines D limit .start (lines rest)).map (row :: ·) := by
  unfold Dialect.writeRow
  rw [List.append_assoc]
  show readLines D limit .start (lines (_ ++ '\r' :: '\n' :: rest)) = _
  cases row with
  | nil =>
    have hcr : process D limit .start (some '\r') = .ok ⟨.eatCrnl, [], []⟩ := rfl
    have hlf : process D limit ⟨.eatCrnl, [], []⟩ (some '\n') = .ok ⟨.eatCrnl, [], []⟩ := rfl
    show readLines D limit .start (lines ('\r' :: '\n' :: rest)) = _
    rw [readLines_cons (by decide) (List.cons_ne_nil _ _) hcr,
      readLines_newline hlf rfl, if_pos rfl]
  | cons field more =>
    by_cases hempty : field :: more = [[]]
    · rw [hempty, if_pos rfl]
      have hquoted : Leads D limit ⟨.startRecord, [], []⟩ (D.quoted []) ⟨.quoteInQuoted, [], []⟩ :=
        leads_quoted (.inl rfl) (Nat.zero_le _)
      show readLines D limit ⟨.startRecord, [], []⟩ _ = _
      rw [hquoted _ (List.cons_ne_nil _ _), Pending.newline .quoted (by simp)]
      rfl
    · have hstarts : Mode.startRecord.Starts := .inl rfl
      obtain ⟨r, last, before, hleads, hpending, hall, hstart⟩ :=
        leads_fields hstarts [] field more h
      rw [if_neg hempty]
      show readLines D limit ⟨.startRecord, [], []⟩ _ = _
      rw [hleads _ (List.cons_ne_nil _ _), hpending.newline fun hr => hempty (hstart hr).2]
      rw [List.nil_append, hall]

/-- **What was written is read back.** -/
theorem read_write (rows : List Row) (h : ∀ row ∈ rows, ∀ f ∈ row, f.length ≤ limit) :
    read D limit (D.write rows) = .ok rows := by
  unfold read Dialect.write
  induction rows with
  | nil => rfl
  | cons row rows ih =>
    rw [List.flatMap_cons, readLines_writeRow row (h row (by simp)),
      ih fun row' hrow' => h row' (List.mem_cons_of_mem _ hrow')]
    rfl

end Tables

/-! ## Texts -/

def writeText (D : Dialect) (table : List (List String)) : String :=
  String.ofList (D.write (table.map fun row => row.map String.toList))

def readText (D : Dialect) (limit : Nat) (text : String) : Except Error (List (List String)) :=
  (read D limit text.toList).map fun rows => rows.map fun row => row.map String.ofList

theorem readText_writeText {D : Dialect} {limit : Nat} (table : List (List String))
    (h : ∀ row ∈ table, ∀ s ∈ row, s.length ≤ limit) :
    readText D limit (writeText D table) = .ok table := by
  have hchars : ∀ row ∈ table.map (fun row => row.map String.toList), ∀ f ∈ row,
      f.length ≤ limit := by
    intro row hrow f hf
    obtain ⟨texts, htexts, rfl⟩ := List.mem_map.1 hrow
    obtain ⟨s, hs, rfl⟩ := List.mem_map.1 hf
    exact h texts htexts s hs
  unfold readText writeText
  rw [String.toList_ofList, read_write _ hchars]
  show Except.ok _ = _
  simp [Function.comp_def]

end Csv
