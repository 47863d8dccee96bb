import Sams.Lib.Dicts
import Sams.School.Applying

/-!
# The files of an import

A CSV file and a spreadsheet are read into rows by two parsers. The one for CSV names its cells
by the spelling of the header and normalises the names afterwards; the one for spreadsheets
normalises first. The first skips records without a cell, the second those without a text; and
the rows are numbered after that.

**`importFiles_iff`**: the two files of one table give the same rows if and only if every record
with a cell has a text, and under each known name both take the same text, which is not empty.
The row numbers of a report are those of the file if and only if no record that is skipped comes
before one that is not.
-/

namespace Sams.School

open Programs Dicts TenantRepository

/-! ## The parsers -/

namespace TenantRepository

/-- The values of a row under the known names. -/
def ImportRow.ofColumns (get : String → Option String) : ImportRow where
  gradeName := get "grade_name"
  gradeOrdinal := get "grade_ordinal"
  gradeIscedLevel := get "grade_isced_level"
  gradeAgeMin := get "grade_age_min"
  gradeAgeMax := get "grade_age_max"
  gradeActive := get "grade_active"
  className := get "class_name"
  classCapacity := get "class_capacity"
  classActive := get "class_active"
  headTeacherEmail := get "head_teacher_email"

end TenantRepository

section Files

variable [Unicode]

namespace ImportParser

def maxImportRows : Nat := 2000

def maxImportBytes : Nat := 5 * 1024 * 1024

def importColumns : List String :=
  ["grade_name", "grade_ordinal", "grade_isced_level", "grade_age_min", "grade_age_max",
   "grade_active", "class_name", "class_capacity", "class_active", "head_teacher_email"]

def normalizeHeader (raw : Option String) : String :=
  let name := Text.lower (Text.strip (raw.getD ""))
  String.ofList ((name.toList.map fun c => if c = ' ' then '_' else c).map fun c => if c =
    '-' then '_' else c)

/-- A value in the dictionary of a record: a cell, none for a cell that is missing, or the
cells beyond the header. -/
inductive CsvValue where
  | text (s : String)
  | missing
  | rest (cells : List String)
  deriving DecidableEq, Repr

/-- The cells beyond the header have no name of their own, and no column is read from them. -/
def CsvValue.cell : CsvValue → Option String
  | .text s => some s
  | .missing => none
  | .rest _ => none

/-- The dictionary that `csv.DictReader` makes of a record. -/
def dictReaderRow (header record : List String) : List (Option String × CsvValue) :=
  let d := ofPairs ((header.zip record).map fun p => (some p.1, CsvValue.text p.2))
  if header.length < record.length then setItem d none (.rest (record.drop header.length))
  else (header.drop record.length).foldl (fun d key => setItem d (some key) .missing) d

def normalizeRow (rawRow : List (Option String × CsvValue)) : ImportRow :=
  let normalized := ofPairs (rawRow.map fun p => (normalizeHeader p.1, p.2))
  .ofColumns fun col => (normalized.lookup col).bind CsvValue.cell

/-- The records of the file; `csv.DictReader` skips those without a cell. -/
def parseCsv : List (List String) → List ImportRow
  | [] => []
  | header :: records =>
    (records.filter (· ≠ [])).map fun record => normalizeRow (dictReaderRow header record)

/-- `all(v is None or str(v).strip() == "" for v in values)`. -/
def blankValues (values : List (Option String)) : Bool :=
  values.all fun v => v.all fun s => Text.strip s = ""

/-- The rows of the first sheet. -/
def parseXlsx : List (List (Option String)) → List ImportRow
  | [] => []
  | headerRow :: rows =>
    let headers := headerRow.map normalizeHeader
    (rows.filter fun values => !blankValues values).map fun values =>
      let rawRow := ofPairs (headers.zip values)
      .ofColumns fun col => (rawRow.lookup col).join

/-- What is outside the program: the size of a file and what the readers of the
formats find in it. -/
structure Readers (Bytes : Type) where
  len : Bytes → Nat
  /-- The records of the text that the bytes encode. -/
  csvReader : Bytes → Except PyError (List (List String))
  /-- The values of the first sheet's rows, if the package is there. -/
  openpyxl : Option (Bytes → Except PyError (List (List (Option String))))

variable {Bytes : Type}

/-- The rows of a file of the kind. -/
def readRows (readers : Readers Bytes) (rawBytes : Bytes) (kind : String) :
    Except PyError (List ImportRow) :=
  if kind = "csv" then parseCsv <$> readers.csvReader rawBytes
  else if kind = "xlsx" then
    match readers.openpyxl with
    | none =>
      .error (.valueError "XLSX support is unavailable on this server (openpyxl not installed)")
    | some load => parseXlsx <$> load rawBytes
  else .error (.valueError ("Unsupported file kind " ++ Text.repr kind))

def parseImportFile (readers : Readers Bytes) (rawBytes : Bytes) (kind : String) :
    Except PyError (List ImportRow) :=
  let size := readers.len rawBytes
  if maxImportBytes < size then
    .error (.valueError s!"File is too large ({size} bytes) -- the limit is {maxImportBytes} bytes")
  else do
    let rows ← readRows readers rawBytes kind
    let count := rows.length
    if maxImportRows < count then
      .error (.valueError s!"File has {count} rows -- the limit is {maxImportRows}")
    else
      return rows

end ImportParser

end Files

open ImportParser

/-! ## The value of a name -/

/-- Rows are equal when they are under the known names. -/
theorem ofColumns_eq_iff {get get' : String → Option String} :
    ImportRow.ofColumns get = ImportRow.ofColumns get' ↔
      ∀ name ∈ importColumns, get name = get' name := by
  simp [ImportRow.ofColumns, importColumns]

/-- The value at a place of a record. -/
def csvValue (record : List String) (i : Nat) : CsvValue :=
  match record[i]? with
  | some s => .text s
  | none => .missing

theorem cell_csvValue (record : List String) (i : Nat) : (csvValue record i).cell = record[i]? := by
  unfold csvValue
  cases record[i]? <;> rfl

theorem csvValue_of_le {i : Nat} (h : record.length ≤ i) : csvValue record i = .missing := by
  unfold csvValue
  rw [List.getElem?_eq_none h]

theorem csvValue_of_lt {i : Nat} (h : i < record.length) : csvValue record i = .text record[i] := by
  unfold csvValue
  rw [List.getElem?_eq_getElem h]

section Columns

variable [Unicode]

variable {header record : List String} {headerRow values : List (Option String)} {name : String}

/-- The column from which the row of a CSV file takes a name: of the spellings of the name, in the
order in which they first stand in the header, the last one, at its last place. -/
def csvColumn (header : List String) (name : String) : Option Nat :=
  (header.eraseDups.reverse.find? fun spelling => normalizeHeader (some spelling) = name).bind
    fun spelling =>
    lastIdx (fun h => h = spelling) header

/-- The column from which the row of a spreadsheet with that many values takes a
name: the last one. -/
def sheetColumn (header : List String) (width : Nat) (name : String) : Option Nat :=
  lastIdx (fun h => normalizeHeader (some h) = name) (header.take width)

/-- A column without a header has none of the known names. -/
theorem normalizeHeader_empty {raw : Option String} (hraw : raw.getD "" = "")
    (hname : name ∈ importColumns) :
    normalizeHeader raw ≠ name := by
  have hempty : normalizeHeader raw = "" := by
    unfold normalizeHeader
    rw [hraw]
    rfl
  rw [hempty]
  rintro rfl
  exact absurd hname (by decide)

-- What a name is made of plays no part in where it is found.
attribute [local irreducible] normalizeHeader

omit [Unicode] in
/-- The items of a record: one for each column of the header, and the cells beyond. -/
theorem dictReaderRow_eq (header record : List String) :
    dictReaderRow header record =
      ofPairs ((header.zipIdx.map fun x => (some x.1, csvValue record x.2)) ++
      if header.length < record.length then [(none, .rest (record.drop header.length))]
        else []) := by
  have hzip : (header.zip record).map (fun p => (some p.1, CsvValue.text p.2)) =
      (header.take record.length).zipIdx.map fun x => (some x.1, csvValue record x.2) := by
    rw [zip_eq_map_zipIdx header record (fun i => record[i]?.getD "") (fun i hi => by simp [hi]),
      List.map_map]
    refine List.map_congr_left fun x hx => ?_
    have hlt : x.2 < record.length := by
      have hlen := List.snd_lt_of_mem_zipIdx hx
      rw [List.length_take] at hlen
      omega
    simp [csvValue_of_lt hlt, hlt]
  unfold dictReaderRow
  rw [hzip]
  by_cases hlong : header.length < record.length
  · have htake : header.take record.length = header := List.take_of_length_le (Nat.le_of_lt hlong)
    rw [if_pos hlong, if_pos hlong, ofPairs_concat, htake]
  · have hsplit : header.zipIdx = (header.take record.length).zipIdx ++
        (header.drop record.length).zipIdx record.length := by
      conv_lhs => rw [← List.take_append_drop record.length header, List.zipIdx_append]
      rw [List.length_take, Nat.min_eq_left (Nat.le_of_not_lt hlong), Nat.zero_add]
    have hmissing : ((header.drop record.length).zipIdx record.length).map
        (fun x => (some x.1, csvValue record x.2)) =
          (header.drop record.length).map fun key => (some key, CsvValue.missing) := by
      conv_rhs => rw [← List.zipIdx_map_fst record.length (header.drop record.length), List.map_map]
      refine List.map_congr_left fun x hx => ?_
      rw [csvValue_of_le (List.le_snd_of_mem_zipIdx hx)]
      rfl
    rw [if_neg hlong, if_neg hlong, List.append_nil, hsplit, List.map_append, hmissing,
      ofPairs_append, List.foldl_map]

omit [Unicode] in
/-- The item of a spelling has the value at its last place. -/
theorem lookup_dictReaderRow (header record : List String) (spelling : String) :
    (dictReaderRow header record).lookup (some spelling) =
      (lastIdx (fun h => h = spelling) header).map (csvValue record) := by
  have hpairs : (ofPairs (header.zipIdx.map fun x => (some x.1, csvValue record x.2))).lookup
      (some spelling) =
      (lastIdx (fun h => h = spelling) header).map (csvValue record) := by
    rw [lookup_ofPairs_zipIdx]
    simp only [Option.some.injEq]
  rw [dictReaderRow_eq]
  split_ifs
  · rw [ofPairs_concat, lookup_setItem, if_neg (by simp), hpairs]
  · rw [List.append_nil, hpairs]

omit [Unicode] in
/-- The keys are the spellings of the header, and the one of the cells beyond it. -/
theorem keys_dictReaderRow (header record : List String) :
    ∃ beyond, (∀ k ∈ beyond, k = none) ∧
      (dictReaderRow header record).map Prod.fst = header.eraseDups.map some ++ beyond := by
  have hkeys : (header.zipIdx.map fun x => (some x.1, csvValue record x.2)).map Prod.fst =
      header.map some := by
    conv_rhs => rw [← List.zipIdx_map_fst 0 header]
    rw [List.map_map, List.map_map]
    rfl
  rw [dictReaderRow_eq, keys_ofPairs, List.map_append, hkeys, List.eraseDups_append,
    eraseDups_map_some]
  refine ⟨_, fun k hk => ?_, rfl⟩
  have hin := List.mem_of_mem_filter (List.mem_eraseDups.1 hk)
  split_ifs at hin
  · simpa using hin
  · simp at hin

/-- **A row of a CSV file** takes each name from its column. -/
theorem normalizeRow_eq (header record : List String) : normalizeRow (dictReaderRow header record) =
    .ofColumns fun name => (csvColumn header name).bind (record[·]?) := by
  unfold normalizeRow
  refine ofColumns_eq_iff.2 fun name hname => ?_
  obtain ⟨beyond, hbeyond, hkeys⟩ := keys_dictReaderRow header record
  have hfound : ((dictReaderRow header record).reverse.find? fun p => normalizeHeader p.1 =
      name).map Prod.fst =
      (header.eraseDups.reverse.find? fun spelling => normalizeHeader (some spelling) = name).map
        some := by
    have hnone : beyond.reverse.find? (fun k => normalizeHeader k = name) = none := by
      refine List.find?_eq_none.2 fun k hk => ?_
      rw [hbeyond k (List.mem_reverse.1 hk)]
      simpa using normalizeHeader_empty rfl hname
    have hmapped := List.find?_map (p := fun k => decide (normalizeHeader k = name)) (f := Prod.fst)
      (l := (dictReaderRow header record).reverse)
    rw [List.map_reverse, hkeys, List.reverse_append, List.find?_append, hnone, Option.none_or,
      ← List.map_reverse, List.find?_map] at hmapped
    exact hmapped.symm
  rw [lookup_ofPairs, ← List.map_reverse, List.find?_map, Option.map_map]
  unfold csvColumn
  cases hitem : (dictReaderRow header record).reverse.find? fun p => normalizeHeader p.1 = name with
  | none =>
    rw [hitem] at hfound
    rw [Option.map_eq_none_iff.1 hfound.symm]
    simp only [Function.comp_def, hitem]
    rfl
  | some p =>
    rw [hitem] at hfound
    obtain ⟨spelling, hspelling, hp⟩ := Option.map_eq_some_iff.1 hfound.symm
    have hin : p ∈ dictReaderRow header record :=
      List.mem_reverse.1 (List.mem_of_find?_eq_some hitem)
    have hvalue : (lastIdx (fun h => h = spelling) header).map (csvValue record) = some p.2 := by
      rw [← lookup_dictReaderRow, hp]
      rw [dictReaderRow_eq] at hin ⊢
      exact lookup_of_mem_ofPairs hin
    obtain ⟨i, hi, hcell⟩ := Option.map_eq_some_iff.1 hvalue
    simp only [Function.comp_def, hitem, hspelling]
    show p.2.cell = (lastIdx (fun h => h = spelling) header).bind (record[·]?)
    rw [hi, ← hcell, cell_csvValue]
    rfl

/-- The values are the cells of the record: a text where there is one, and none where it is empty
or the record ends. -/
def Renders (record : List String) (values : List (Option String)) : Prop :=
  ∀ i : Nat, (values[i]?).join = Text.nonEmpty record[i]?

/-- The header row of a spreadsheet has a known name where the header has it. -/
theorem any_header (hheader : Renders header headerRow) (hname : name ∈ importColumns) (i : Nat) :
    (headerRow[i]?.map normalizeHeader).any (fun h => h = name) =
      header[i]?.any fun h => normalizeHeader (some h) = name := by
  have hi := hheader i
  have hempty : ∀ raw : Option String, raw.getD "" = "" →
      decide (normalizeHeader raw = name) = false :=
    fun raw hraw => decide_eq_false (normalizeHeader_empty hraw hname)
  have hblank : Text.nonEmpty header[i]? = none →
      header[i]?.any (fun h => normalizeHeader (some h) = name) = false := by
    intro hnone
    cases hh : header[i]? with
    | none => rfl
    | some h =>
      rw [hh] at hnone
      have hzero : h = "" := by simpa [Text.nonEmpty] using hnone
      exact hempty (some h) hzero
  cases hh : headerRow[i]? with
  | none =>
    rw [hh] at hi
    exact (hblank hi.symm).symm
  | some raw =>
    rw [hh] at hi
    cases raw with
    | none =>
      rw [hblank hi.symm]
      exact hempty none rfl
    | some h =>
      have hsame : header[i]? = some h := (Option.filter_eq_some_iff.1 hi.symm).1
      rw [hsame]
      rfl

/-- **A row of a spreadsheet** takes each name from its column. -/
theorem ofColumns_sheet (hheader : Renders header headerRow) (hrecord : Renders record values) :
    (ImportRow.ofColumns fun name =>
      ((ofPairs ((headerRow.map normalizeHeader).zip values)).lookup name).join) =
      .ofColumns fun name => (sheetColumn header values.length name).bind fun i =>
        Text.nonEmpty record[i]? := by
  refine ofColumns_eq_iff.2 fun name hname => ?_
  have hcolumn : lastIdx (fun h => h = name) ((headerRow.map normalizeHeader).take values.length) =
      sheetColumn header values.length name := by
    refine lastIdx_congr fun i => ?_
    rw [List.getElem?_take, List.getElem?_take, List.getElem?_map]
    split_ifs
    · exact any_header hheader hname i
    · rfl
  have hlookup := lookup_ofPairs_zipIdx (fun h : String => h) (fun i => (values[i]?).join)
    ((headerRow.map normalizeHeader).take values.length) name
  rw [hcolumn] at hlookup
  rw [zip_eq_map_zipIdx _ values (fun i => (values[i]?).join) (fun i hi => by simp [hi])]
  refine (congrArg Option.join hlookup).trans ?_
  cases sheetColumn header values.length name with
  | none => rfl
  | some i => exact hrecord i

end Columns

/-! ## The rows of a table -/

/-- Two selections of which the first takes all that the second takes. -/
theorem map_filter_eq_iff {α β : Type} {p q : α → Bool} {f g : α → β} {xs : List α}
    (h : ∀ x ∈ xs, q x → p x) :
    (xs.filter p).map f = (xs.filter q).map g ↔ ∀ x ∈ xs, p x → q x ∧ f x = g x := by
  induction xs with
  | nil => simp
  | cons x xs ih =>
    have htail : ∀ y ∈ xs, q y → p y := fun y hy => h y (List.mem_cons_of_mem x hy)
    rw [List.forall_mem_cons, ← ih htail, List.filter_cons, List.filter_cons]
    by_cases hp : p x
    · rw [if_pos hp]
      by_cases hq : q x
      · rw [if_pos hq, List.map_cons, List.map_cons, List.cons_eq_cons]
        simp [hp, hq]
      · rw [if_neg hq]
        refine iff_of_false (fun heq => ?_) fun hboth => hq (hboth.1 hp).1
        have hlength := congrArg List.length heq
        have hfewer := List.countP_mono_left htail
        rw [List.countP_eq_length_filter, List.countP_eq_length_filter] at hfewer
        simp only [List.length_map, List.length_cons] at hlength
        omega
    · have hq : ¬q x := fun hq => hp (h x List.mem_cons_self hq)
      rw [if_neg hp, if_neg hq]
      simp [hp]

/-- No text in the record. -/
def Blank (record : List String) : Prop := ∀ c ∈ record, Text.strip c = ""

instance (record : List String) : Decidable (Blank record) :=
  inferInstanceAs (Decidable (∀ c ∈ record, Text.strip c = ""))

theorem Renders.blank {record : List String} {values : List (Option String)}
    (h : Renders record values) :
    blankValues values = true ↔ Blank record := by
  unfold blankValues Blank
  rw [List.all_eq_true]
  constructor
  · intro hall c hc
    obtain ⟨i, hi, rfl⟩ := List.getElem_of_mem hc
    by_cases hempty : record[i] = ""
    · rw [hempty]
      rfl
    · have hvalue : (values[i]?).join = some record[i] := by
        rw [h i, List.getElem?_eq_getElem hi]
        exact Text.nonEmpty_some hempty
      have hin : some record[i] ∈ values := List.mem_of_getElem? (Option.join_eq_some_iff.1 hvalue)
      simpa using hall _ hin
  · intro hblank v hv
    obtain ⟨i, hi, rfl⟩ := List.getElem_of_mem hv
    cases hvalue : values[i] with
    | none => rfl
    | some c =>
      have hc : Text.nonEmpty record[i]? = some c := by
        rw [← h i, List.getElem?_eq_getElem hi, hvalue]
        rfl
      have hin : c ∈ record := List.mem_of_getElem? (Option.filter_eq_some_iff.1 hc).1
      simpa using hblank c hin

section Tables

variable [Unicode]

/-- The record has a text, and under each known name the two parsers take the same text, which is
not empty, or none. -/
structure SameCells (header record : List String) (width : Nat) : Prop where
  text : ¬Blank record
  cells : ∀ name ∈ importColumns, (csvColumn header name).bind (record[·]?) =
    (sheetColumn header width name).bind fun i => Text.nonEmpty record[i]?

variable {header : List String} {records : List (List String)} {headerRow : List (Option String)}
  {rows : List (List (Option String))}

/-- **The rows of the two files** are equal if and only if the cells of each record are. -/
theorem parse_eq_iff (hheader : Renders header headerRow)
    (hrows : List.Forall₂ Renders records rows) :
    parseCsv (header :: records) = parseXlsx (headerRow :: rows) ↔
      ∀ p ∈ records.zip rows, p.1 ≠ [] → SameCells header p.1 p.2.length := by
  obtain ⟨hlength, hrenders⟩ := List.forall₂_iff_zip.1 hrows
  have hrecords : records = (records.zip rows).map Prod.fst := (List.map_fst_zip hlength.le).symm
  have hsheet : rows = (records.zip rows).map Prod.snd := (List.map_snd_zip hlength.ge).symm
  have hcsv : parseCsv (header :: records) =
      ((records.zip rows).filter fun p => p.1 ≠ []).map fun p =>
      normalizeRow (dictReaderRow header p.1) := by
    show (records.filter (· ≠ [])).map (fun record => normalizeRow (dictReaderRow header record)) =
        _
    conv_lhs => rw [hrecords, List.filter_map, List.map_map]
    rfl
  have hxlsx : parseXlsx (headerRow :: rows) =
      ((records.zip rows).filter fun p => !blankValues p.2).map
      fun p => .ofColumns fun name =>
        ((ofPairs ((headerRow.map normalizeHeader).zip p.2)).lookup name).join := by
    show (rows.filter fun values => !blankValues values).map (fun values =>
        ImportRow.ofColumns fun name =>
      ((ofPairs ((headerRow.map normalizeHeader).zip values)).lookup name).join) = _
    conv_lhs => rw [hsheet, List.filter_map, List.map_map]
    rfl
  rw [hcsv, hxlsx, map_filter_eq_iff]
  · refine forall₂_congr fun p hp => imp_congr (by simp) ?_
    have hp' : Renders p.1 p.2 := hrenders hp
    rw [normalizeRow_eq, ofColumns_sheet hheader hp', ofColumns_eq_iff, Bool.not_eq_true',
      Bool.eq_false_iff, ne_eq, hp'.blank]
    exact ⟨fun h => ⟨h.1, h.2⟩, fun h => ⟨h.text, h.cells⟩⟩
  · intro p hp hblank
    have hp' : Renders p.1 p.2 := hrenders hp
    rw [Bool.not_eq_true', Bool.eq_false_iff, ne_eq, hp'.blank] at hblank
    refine decide_eq_true fun hnil => hblank ?_
    rw [hnil]
    exact fun c hc => absurd hc List.not_mem_nil

theorem length_parseCsv :
    (parseCsv (header :: records)).length = (records.filter (· ≠ [])).length :=
  List.length_map _

theorem length_parseXlsx (hrows : List.Forall₂ Renders records rows) :
    (parseXlsx (headerRow :: rows)).length =
      (records.filter fun record => ¬Blank record).length := by
  refine (List.length_map _).trans ?_
  induction hrows with
  | nil => rfl
  | @cons record values records rows hrecord _ ih =>
    have hkeep : (!blankValues values) = decide (¬Blank record) := by
      rw [Bool.eq_iff_iff, Bool.not_eq_true', Bool.eq_false_iff, ne_eq, hrecord.blank,
        decide_eq_true_iff]
    rw [List.filter_cons, List.filter_cons, hkeep]
    split_ifs
    · rw [List.length_cons, List.length_cons, ih]
    · exact ih

/-! ## The size of a file -/

/-- The limits of a file. -/
def Accepted (size count : Nat) : Prop := size ≤ maxImportBytes ∧ count ≤ maxImportRows

instance (size count : Nat) : Decidable (Accepted size count) :=
  inferInstanceAs (Decidable (size ≤ maxImportBytes ∧ count ≤ maxImportRows))

variable {Bytes : Type} {readers : Readers Bytes} {file csv xlsx : Bytes} {kind : String}

/-- A file within the limits is read. -/
theorem parseImportFile_toOption {imported : List ImportRow}
    (h : readRows readers file kind = .ok imported) :
    (parseImportFile readers file kind).toOption =
      if Accepted (readers.len file) imported.length then some imported else none := by
  unfold parseImportFile
  dsimp only
  by_cases hsize : maxImportBytes < readers.len file
  · rw [if_pos hsize, if_neg fun h : Accepted _ _ => Nat.not_le_of_lt hsize h.1]
    rfl
  · rw [if_neg hsize, h]
    show (if maxImportRows < imported.length then _
        else _ : Except PyError (List ImportRow)).toOption = _
    by_cases hcount : maxImportRows < imported.length
    · rw [if_pos hcount, if_neg fun h : Accepted _ _ => Nat.not_le_of_lt hcount h.2]
      rfl
    · have haccepted : Accepted (readers.len file) imported.length :=
        ⟨Nat.le_of_not_lt hsize, Nat.le_of_not_lt hcount⟩
      rw [if_neg hcount, if_pos haccepted]
      rfl

omit [Unicode] in
theorem ite_some_eq_iff {α : Type} {p q : Prop} [Decidable p] [Decidable q] {a b : α} :
    (if p then some a else none) = (if q then some b else none) ↔ ¬p ∧ ¬q ∨ p ∧ q ∧ a = b := by
  by_cases hp : p
  · by_cases hq : q
    · simp [hp, hq]
    · simp [hp, hq]
  · by_cases hq : q
    · simp [hp, hq]
    · simp [hp, hq]

omit [Unicode] in
theorem toOption_eq_some {α ε : Type} {r : Except ε α} {a : α} :
    r.toOption = some a ↔ r = .ok a := by
  cases r <;> simp [Except.toOption]

/-- What is read of a file is what its parser gives. -/
theorem of_parseImportFile {imported imported' : List ImportRow}
    (h : readRows readers file kind = .ok imported)
    (hfile : parseImportFile readers file kind = .ok imported') : imported' = imported := by
  have hsome := toOption_eq_some.2 hfile
  rw [parseImportFile_toOption h] at hsome
  split_ifs at hsome
  exact (Option.some.inj hsome).symm

/-! ## Row numbers -/

/-- A report on the rows. -/
def Reports (imported : List ImportRow) (d : Db) (results : List RowResult) (d' : Db) : Prop :=
  previewImportRows imported d = .ok results d' ∨ importAcademicRows imported d = .ok results d'

theorem numbers_of_mapM {ordinals : List (String × Int)} {apply : Bool}
    {imported : List (ImportRow × Nat)} {d d' : Db} {results : List RowResult}
    (h : imported.mapM (fun p => resolveImportRow ordinals apply (p.2 + 2) p.1) d =
      .ok results d') :
    results.map RowResult.rowNumber = imported.map fun p => p.2 + 2 := by
  induction imported generalizing d d' results with
  | nil =>
    obtain ⟨rfl, -⟩ := pure_eq_ok.1 h
    rfl
  | cons p imported ih =>
    rw [List.mapM_cons] at h
    obtain ⟨r, d₁, hr, h⟩ := bind_eq_ok.1 h
    obtain ⟨rs, d₂, hrs, h⟩ := bind_eq_ok.1 h
    obtain ⟨rfl, -⟩ := pure_eq_ok.1 h
    have hnumber : r.rowNumber = p.2 + 2 := congrArg Prod.fst (resolve_place hr)
    rw [List.map_cons, List.map_cons, hnumber, ih hrs]

/-- A report numbers the rows it is given from 2 on. -/
theorem Reports.numbers {imported : List ImportRow} {d d' : Db} {results : List RowResult}
    (h : Reports imported d results d') :
    results.map RowResult.rowNumber = List.range' 2 imported.length := by
  have hnumbers : results.map RowResult.rowNumber = imported.zipIdx.map fun p => p.2 + 2 := by
    rcases h with h | h
    · exact numbers_of_mapM h
    · exact numbers_of_mapM h
  have hcount : imported.zipIdx.map (fun p => p.2 + 2) =
      (imported.zipIdx.map Prod.snd).map (2 + ·) := by
    rw [List.map_map]
    exact List.map_congr_left fun p _ => Nat.add_comm p.2 2
  rw [hnumbers, hcount, List.zipIdx_map_snd, List.map_add_range']

/-- Where the records that are kept stand in the file; the header is row 1. -/
def rowPositions (keep : List String → Bool) (records : List (List String)) : List Nat :=
  ((records.zipIdx 2).filter fun p => keep p.1).map Prod.snd

omit [Unicode] in
/-- What is kept stands without a gap if and only if nothing that is skipped comes before it. -/
theorem positions_iff (keep : List String → Bool) (records : List (List String)) (n : Nat) :
    List.range' n (records.filter keep).length =
      ((records.zipIdx n).filter fun p => keep p.1).map Prod.snd ↔
      records.Pairwise fun a b => keep b → keep a := by
  induction records generalizing n with
  | nil => simp
  | cons record records ih =>
    rw [List.pairwise_cons, List.zipIdx_cons, List.filter_cons, List.filter_cons]
    by_cases hkeep : keep record
    · rw [if_pos hkeep, if_pos hkeep, List.length_cons, List.range'_succ, List.map_cons,
        List.cons_eq_cons]
      simp [ih (n + 1), hkeep]
    · rw [if_neg hkeep, if_neg hkeep]
      constructor
      · intro heq
        have hnone : records.filter keep = [] := by
          rw [← List.length_eq_zero_iff]
          by_contra hsome
          have hfirst : n ∈ List.range' n (records.filter keep).length := by
            rw [List.mem_range'_1]
            omega
          rw [heq] at hfirst
          obtain ⟨p, hp, hpn⟩ := List.mem_map.1 hfirst
          have hbeyond := List.le_snd_of_mem_zipIdx (List.mem_of_mem_filter hp)
          omega
        have hskipped := List.filter_eq_nil_iff.1 hnone
        refine ⟨fun b hb hkept => absurd hkept (hskipped b hb), ?_⟩
        exact List.pairwise_of_forall_mem_list fun a _ b hb hkept => absurd hkept (hskipped b hb)
      · rintro ⟨hlater, -⟩
        have hskipped : ∀ b ∈ records, ¬keep b := fun b hb hkept => hkeep (hlater b hb hkept)
        have hnone : (records.zipIdx (n + 1)).filter (fun p => keep p.1) = [] :=
          List.filter_eq_nil_iff.2 fun p hp => hskipped p.1 (List.fst_mem_of_mem_zipIdx hp)
        rw [hnone, List.filter_eq_nil_iff.2 hskipped]
        rfl

/-! ## The law -/

/-- The two files are the renderings of one table, and the readers return its cells. -/
structure ReadsTable (readers : Readers Bytes) (csv xlsx : Bytes) (header : List String)
    (records : List (List String)) (headerRow : List (Option String))
    (rows : List (List (Option String))) :
    Prop where
  csv : readers.csvReader csv = .ok (header :: records)
  xlsx : ∃ load, readers.openpyxl = some load ∧ load xlsx = .ok (headerRow :: rows)
  header : Renders header headerRow
  rows : List.Forall₂ Renders records rows

/-- The two files give the same rows or none, and the numbers of every report on a file are the
positions of its rows. -/
structure FormatBlind (readers : Readers Bytes) (csv xlsx : Bytes)
    (records : List (List String)) : Prop where
  rows : (parseImportFile readers csv "csv").toOption =
    (parseImportFile readers xlsx "xlsx").toOption
  csvNumbers : ∀ imported d results d', parseImportFile readers csv "csv" = .ok imported →
    Reports imported d results d' → results.map RowResult.rowNumber = rowPositions (· ≠ []) records
  xlsxNumbers : ∀ imported d results d', parseImportFile readers xlsx "xlsx" = .ok imported →
    Reports imported d results d' → results.map RowResult.rowNumber =
      rowPositions (¬Blank ·) records

theorem ReadsTable.readCsv (h : ReadsTable readers csv xlsx header records headerRow rows) :
    readRows readers csv "csv" = .ok (parseCsv (header :: records)) := by
  unfold readRows
  rw [if_pos rfl, h.csv]
  rfl

theorem ReadsTable.readXlsx (h : ReadsTable readers csv xlsx header records headerRow rows) :
    readRows readers xlsx "xlsx" = .ok (parseXlsx (headerRow :: rows)) := by
  obtain ⟨load, hopen, hload⟩ := h.xlsx
  unfold readRows
  rw [if_neg (by decide), if_pos rfl, hopen]
  dsimp only
  rw [hload]
  rfl

/-- **The format of a file** does not matter if and only if both files are beyond the
limits, or neither is and the cells of every record are the same to the two parsers. **The
numbers of a report** are the positions of the rows if and only if no record that is
skipped comes before one that is kept. -/
theorem importFiles_iff (h : ReadsTable readers csv xlsx header records headerRow rows) :
    ((parseImportFile readers csv "csv").toOption = (parseImportFile readers xlsx "xlsx").toOption ↔
      ¬Accepted (readers.len csv) (records.filter (· ≠ [])).length ∧
          ¬Accepted (readers.len xlsx) (records.filter (¬Blank ·)).length ∨
        Accepted (readers.len csv) (records.filter (· ≠ [])).length ∧
          Accepted (readers.len xlsx) (records.filter (¬Blank ·)).length ∧
          ∀ p ∈ records.zip rows, p.1 ≠ [] → SameCells header p.1 p.2.length) ∧
      (∀ imported d results d', parseImportFile readers csv "csv" = .ok imported →
        Reports imported d results d' →
          (results.map RowResult.rowNumber = rowPositions (· ≠ []) records ↔
            records.Pairwise fun a b => b ≠ [] → a ≠ [])) ∧
      ∀ imported d results d', parseImportFile readers xlsx "xlsx" = .ok imported →
        Reports imported d results d' →
          (results.map RowResult.rowNumber = rowPositions (¬Blank ·) records ↔
            records.Pairwise fun a b => ¬Blank b → ¬Blank a) := by
  refine ⟨?_, fun imported d results d' hfile hreport => ?_,
    fun imported d results d' hfile hreport => ?_⟩
  · rw [← parse_eq_iff h.header h.rows, parseImportFile_toOption h.readCsv,
      parseImportFile_toOption h.readXlsx, length_parseCsv, length_parseXlsx h.rows,
        ite_some_eq_iff]
  · obtain rfl := of_parseImportFile h.readCsv hfile
    rw [hreport.numbers, length_parseCsv]
    unfold rowPositions
    rw [positions_iff]
    simp only [decide_eq_true_iff]
  · obtain rfl := of_parseImportFile h.readXlsx hfile
    rw [hreport.numbers, length_parseXlsx h.rows]
    unfold rowPositions
    rw [positions_iff]
    simp only [decide_eq_true_iff]

end Tables

/-! ## A table, and a table with an empty line -/

section Example

attribute [local instance] ascii

/-- Files that are given by their cells, which a reader of spreadsheets leaves
out where they are empty. -/
def cellReaders : Readers (List (List String)) where
  len cells := (cells.map fun record => (record.map fun c => c.length + 1).sum + 1).sum
  csvReader cells := .ok cells
  openpyxl :=
    some fun cells => .ok (cells.map fun record => record.map fun c => Text.nonEmpty (some c))

theorem renders_cells (record : List String) :
    Renders record (record.map fun c => Text.nonEmpty (some c)) := by
  intro i
  rw [List.getElem?_map]
  cases record[i]? <;> rfl

theorem cellReaders_reads (header : List String) (records : List (List String)) :
    ReadsTable cellReaders (header :: records) (header :: records) header records
      (header.map fun c => Text.nonEmpty (some c))
      (records.map fun record => record.map fun c => Text.nonEmpty (some c)) where
  csv := rfl
  xlsx := ⟨_, rfl, rfl⟩
  header := renders_cells header
  rows := List.forall₂_map_right_iff.2 (List.forall₂_same.2 fun record _ => renders_cells record)

/-- The header and two classes. -/
def gradesHeader : List String := ["Grade Name", "Class-Name"]

def gradesRecords : List (List String) := [["G9", "A"], ["G10"]]

theorem gradesFile_cells : ∀ p ∈ gradesRecords.zip (gradesRecords.map fun record =>
    record.map fun c => Text.nonEmpty (some c)), ¬Blank p.1 ∧ ∀ name ∈ importColumns,
      (csvColumn gradesHeader name).bind (p.1[·]?) =
        (sheetColumn gradesHeader p.2.length name).bind fun i => Text.nonEmpty p.1[i]? := by
  decide +kernel

theorem gradesFile_previewed :
    (parseImportFile cellReaders (gradesHeader :: gradesRecords) "csv").toOption.any
    (fun imported => returns (previewImportRows imported) smallSchool) := by
  decide +kernel

theorem gradesFile_read : ∃ imported results d',
    parseImportFile cellReaders (gradesHeader :: gradesRecords) "csv" = .ok imported ∧
      parseImportFile cellReaders (gradesHeader :: gradesRecords) "xlsx" = .ok imported ∧
      previewImportRows imported smallSchool = .ok results d' ∧
        results.map RowResult.rowNumber = [2, 3] := by
  obtain ⟨hrows, hcsv, -⟩ := importFiles_iff (cellReaders_reads gradesHeader gradesRecords)
  obtain ⟨imported, himported, hreturns⟩ := (Option.any_eq_true ..).1 gradesFile_previewed
  obtain ⟨results, d', hpreview⟩ := returns_iff.1 hreturns
  have hsame := hrows.2 (.inr ⟨by decide +kernel, by decide +kernel, fun p hp _ =>
    ⟨(gradesFile_cells p hp).1, (gradesFile_cells p hp).2⟩⟩)
  have hnumbers :=
    (hcsv imported smallSchool results d' (toOption_eq_some.1 himported) (.inl hpreview)).2
    (by decide +kernel)
  exact ⟨imported, results, d', toOption_eq_some.1 himported,
    toOption_eq_some.1 (hsame.symm.trans himported), hpreview, hnumbers.trans (by decide +kernel)⟩

/-- Two grades with an empty line between them. -/
def spacedRecords : List (List String) := [["G9"], [], ["G10"]]

theorem spaced_previewed :
    (parseImportFile cellReaders (["grade_name"] :: spacedRecords) "csv").toOption.any
    (fun imported => (returned (previewImportRows imported) smallSchool).map
      (·.map RowResult.rowNumber) = some [2, 3]) := by
  decide +kernel

/-- The second grade stands in row 4 and is reported as row 3. -/
theorem spaced_misnumbered :
    ¬∀ (readers : Readers (List (List String))) csv xlsx header records headerRow rows,
    ReadsTable readers csv xlsx header records headerRow rows →
      FormatBlind readers csv xlsx records := by
  intro h
  have hblind := h cellReaders _ _ _ _ _ _ (cellReaders_reads ["grade_name"] spacedRecords)
  obtain ⟨imported, himported, hnumbers⟩ := (Option.any_eq_true ..).1 spaced_previewed
  obtain ⟨results, hresults, hreported⟩ := Option.map_eq_some_iff.1 (of_decide_eq_true hnumbers)
  obtain ⟨d', hpreview⟩ := returned_eq_some.1 hresults
  have hreal :=
    hblind.csvNumbers imported smallSchool results d' (toOption_eq_some.1 himported) (.inl hpreview)
  rw [hreported] at hreal
  exact absurd hreal (by decide +kernel)

end Example

end Sams.School
