import Valqeron.Identifiers.MicSeed

/-!
# Records written and read back

A writer that puts every field in quotes, and the parser of the seed that
undoes it.
-/

namespace Valqeron
namespace Identifiers
namespace MicSeed

/-!
## The writer
-/

def writeChar (c : Char) : List Char :=
  if c = '"' then ['"', '"'] else [c]

def writeField (field : String) : List Char :=
  '"' :: (field.toList.flatMap writeChar ++ ['"'])

def writeRecord (record : List String) : List Char :=
  [','].intercalate (record.map writeField)

inductive LineEnd where
  | lf
  | crlf
deriving DecidableEq

def LineEnd.chars : LineEnd -> List Char
  | lf => ['\n']
  | crlf => ['\r', '\n']

structure Record where
  fields : List String
  hasText : fields.any (fun field => !field.isEmpty) = true

/-- Records with the line ends after them; `lastEnd` tells whether the last has its own. -/
def writeRecords (lastEnd : Bool) : List (Record × LineEnd) -> List Char
  | [] => []
  | [(record, lineEnd)] =>
      writeRecord record.fields ++ (if lastEnd then lineEnd.chars else [])
  | (record, lineEnd) :: next :: rest =>
      writeRecord record.fields ++ lineEnd.chars ++
        writeRecords lastEnd (next :: rest)

def writeCsv (byteOrderMark lastEnd : Bool)
    (records : List (Record × LineEnd)) : String :=
  String.ofList
    ((if byteOrderMark then ['\uFEFF'] else []) ++ writeRecords lastEnd records)

example :
    writeCsv true false
        [({ fields := ["a,\"b\"", ""], hasText := rfl }, .crlf),
          ({ fields := ["\n"], hasText := rfl }, .lf)] =
      "\uFEFF\"a,\"\"b\"\"\",\"\"\r\n\"\n\"" := by
  decide +kernel

theorem Record.ne_nil (record : Record) : record.fields ≠ [] := by
  intro hnil
  have htext := record.hasText
  rw [hnil] at htext
  cases htext

theorem Record.exists_quote (record : Record) :
    exists text, writeRecord record.fields = '"' :: text := by
  unfold writeRecord
  cases hfields : record.fields with
  | nil =>
      exact absurd hfields record.ne_nil
  | cons field others =>
      cases others with
      | nil =>
          rw [List.map_cons, List.map_nil, List.intercalate_singleton]
          exact ⟨_, rfl⟩
      | cons next others =>
          rw [List.map_cons, List.map_cons, List.intercalate_cons_cons]
          exact ⟨_, rfl⟩

/-!
## One field
-/

namespace CsvState

variable {state : CsvState} {rest : List Char}

theorem read_doubled (hopen : state.inQuotes = true) :
    state.read ('"' :: '"' :: rest) = (state.push '"').read rest := by
  rw [read, if_pos hopen, if_pos rfl]

theorem read_char {ch : Char} (hopen : state.inQuotes = true) (hch : ch ≠ '"') :
    state.read (ch :: rest) = (state.push ch).read rest := by
  rw [read.eq_def]
  simp only [if_pos hopen, if_neg hch]

theorem read_closing (hopen : state.inQuotes = true)
    (hrest : rest.head? ≠ some '"') :
    state.read ('"' :: rest) = { state with inQuotes := false }.read rest := by
  rw [read.eq_def]
  simp only [if_pos hopen, if_true]
  split
  · simp at hrest
  · rfl

theorem read_unquoted {ch : Char} (hclosed : state.inQuotes = false) :
    state.read (ch :: rest) = (state.unquoted ch).read rest := by
  rw [read.eq_def]
  simp only [hclosed, Bool.false_eq_true, if_false]

theorem read_text (text : List Char) (hopen : state.inQuotes = true) :
    state.read (text.flatMap writeChar ++ rest) =
      { state with field := state.field ++ text }.read rest := by
  induction text generalizing state with
  | nil =>
      simp
  | cons c text ih =>
      rw [List.flatMap_cons, List.append_assoc]
      have hpushed : (state.push c).read (text.flatMap writeChar ++ rest) =
          { state with field := state.field ++ (c :: text) }.read rest := by
        have hopened : (state.push c).inQuotes = true := hopen
        rw [ih hopened]
        unfold push
        simp
      unfold writeChar
      by_cases hc : c = '"'
      · subst hc
        rw [if_pos rfl]
        exact (read_doubled hopen).trans hpushed
      · rw [if_neg hc]
        exact (read_char hopen hc).trans hpushed

theorem read_writeField (field : String) (hclosed : state.inQuotes = false)
    (hempty : state.field = []) (hrest : rest.head? ≠ some '"') :
    state.read (writeField field ++ rest) =
      { state with field := field.toList }.read rest := by
  have hopened : state.unquoted '"' = { state with inQuotes := true } := by
    unfold unquoted
    rw [if_pos ⟨rfl, hempty⟩]
  unfold writeField
  rw [List.cons_append, List.append_assoc, read_unquoted hclosed, hopened,
    read_text _ rfl, List.singleton_append, read_closing rfl hrest, hempty,
    List.nil_append, hclosed]

/-!
## One record
-/

def within (records : List (List String)) (record : List String) : CsvState :=
  { records := records, record := record, field := [], inQuotes := false }

/-- The text of a record has been read, its last field is not ended yet. -/
structure Filled (state : CsvState) (records : List (List String))
    (record : List String) : Prop where
  closed : state.inQuotes = false
  records : state.records = records
  record : state.endField.record = record

theorem read_writeRecord (records : List (List String)) (before : List String)
    {fields : List String} (hfields : fields ≠ [])
    (hrest : rest.head? ≠ some '"') :
    exists filled, Filled filled records (before ++ fields) ∧
      (within records before).read (writeRecord fields ++ rest) =
        filled.read rest := by
  unfold writeRecord
  induction fields generalizing before with
  | nil =>
      exact absurd rfl hfields
  | cons field fields ih =>
      cases fields with
      | nil =>
          rw [List.map_cons, List.map_nil, List.intercalate_singleton,
            read_writeField field rfl rfl hrest]
          refine ⟨_, ?_, rfl⟩
          exact
            { closed := rfl
              records := rfl
              record := by simp [endField, within] }
      | cons next fields =>
          rcases ih (before ++ [field]) (List.cons_ne_nil _ _) with
            ⟨filled, hfilled, hread⟩
          refine ⟨filled, ?_, ?_⟩
          · rw [List.append_cons]
            exact hfilled
          · rw [← hread, List.map_cons, List.map_cons,
              List.intercalate_cons_cons, ← List.map_cons, List.append_assoc,
              List.append_assoc, List.singleton_append,
              read_writeField field rfl rfl (by simp), read_unquoted rfl]
            unfold unquoted
            simp [endField, within]

variable {records : List (List String)} {fields : List String}

theorem Filled.any (hfilled : Filled state records fields)
    (htext : fields.any (fun field => !field.isEmpty) = true) :
    state.endField.record.any (fun field => !field.isEmpty) = true := by
  rw [hfilled.record]
  exact htext

theorem read_lineEnd (lineEnd : LineEnd) (hfilled : Filled state records fields)
    (htext : fields.any (fun field => !field.isEmpty) = true) :
    state.read (lineEnd.chars ++ rest) =
      (within (records ++ [fields]) []).read rest := by
  have hended : state.endRecord = within (records ++ [fields]) [] := by
    unfold endRecord
    simp only [if_pos (hfilled.any htext)]
    rw [hfilled.record]
    unfold endField within
    rw [← hfilled.records, hfilled.closed]
  have hlf : state.unquoted '\n' = state.endRecord := by
    unfold unquoted
    simp
  have hcr : state.unquoted '\r' = state := by
    unfold unquoted
    simp
  cases lineEnd with
  | lf =>
      show state.read ('\n' :: rest) = _
      rw [read_unquoted hfilled.closed, hlf, hended]
  | crlf =>
      show state.read ('\r' :: '\n' :: rest) = _
      rw [read_unquoted hfilled.closed, hcr, read_unquoted hfilled.closed, hlf,
        hended]

theorem head_chars (lineEnd : LineEnd) :
    (lineEnd.chars ++ rest).head? ≠ some '"' := by
  cases lineEnd with
  | lf => simp [LineEnd.chars]
  | crlf => simp [LineEnd.chars]

theorem read_ended (before : List (List String)) (record : Record)
    (lineEnd : LineEnd) :
    (within before []).read
        (writeRecord record.fields ++ (lineEnd.chars ++ rest)) =
      (within (before ++ [record.fields]) []).read rest := by
  rcases read_writeRecord before [] record.ne_nil (head_chars lineEnd) with
    ⟨filled, hfilled, hread⟩
  rw [hread]
  exact read_lineEnd lineEnd hfilled record.hasText

/-!
## All records
-/

structure Finished (state : CsvState) (records : List (List String)) : Prop where
  closed : state.inQuotes = false
  records :
    (if state.field ≠ [] ∨ state.record ≠ [] then
      state.records ++ [state.endField.record]
    else
      state.records) = records

theorem Filled.finished (hfilled : Filled state records fields)
    (htext : fields.any (fun field => !field.isEmpty) = true) :
    Finished state (records ++ [fields]) := by
  have hopen : state.field ≠ [] ∨ state.record ≠ [] := by
    by_contra hnone
    have hboth := not_or.mp hnone
    have hfield := not_not.mp hboth.left
    have hrecord := not_not.mp hboth.right
    have hany := hfilled.any htext
    unfold endField at hany
    rw [hfield, hrecord] at hany
    simp at hany
  refine { closed := hfilled.closed, records := ?_ }
  rw [if_pos hopen, hfilled.records, hfilled.record]

theorem finished_within (records : List (List String)) :
    Finished (within records []) records :=
  { closed := rfl
    records := by simp [within] }

/-- The records that are written come behind those already read. -/
theorem read_writeRecords (lastEnd : Bool) (written : List (Record × LineEnd))
    (before : List (List String)) :
    Finished ((within before []).read (writeRecords lastEnd written))
      (before ++ written.map (fun row => row.1.fields)) := by
  induction written generalizing before with
  | nil =>
      unfold writeRecords read
      rw [List.map_nil, List.append_nil]
      exact finished_within before
  | cons row others ih =>
      rcases row with ⟨record, lineEnd⟩
      rw [List.map_cons, List.append_cons]
      cases others with
      | nil =>
          rw [List.map_nil, List.append_nil]
          cases lastEnd with
          | false =>
              have hrest : ([] : List Char).head? ≠ some '"' := by simp
              rcases read_writeRecord before [] record.ne_nil hrest with
                ⟨filled, hfilled, hread⟩
              show Finished
                ((within before []).read (writeRecord record.fields ++ [])) _
              rw [hread, read]
              exact hfilled.finished record.hasText
          | true =>
              show Finished
                ((within before []).read
                  (writeRecord record.fields ++ lineEnd.chars)) _
              rw [← List.append_nil lineEnd.chars,
                read_ended before record lineEnd, read]
              exact finished_within _
      | cons next others =>
          show Finished
            ((within before []).read
              (writeRecord record.fields ++ lineEnd.chars ++
                writeRecords lastEnd (next :: others))) _
          rw [List.append_assoc, read_ended before record lineEnd]
          exact ih _

end CsvState

theorem parseCsv_of_finished {input : String} {records : List (List String)}
    (h : CsvState.Finished
      (CsvState.start.read (stripByteOrderMark input.toList)) records) :
    parseCsv input = .ok records := by
  unfold parseCsv
  simp only [h.closed, Bool.false_eq_true, if_false]
  rw [← h.records]
  split
  · rfl
  · rfl

/-- What the writer writes starts with a quote, so that no mark is taken off. -/
theorem stripByteOrderMark_writeRecords (lastEnd : Bool)
    (written : List (Record × LineEnd)) :
    stripByteOrderMark (writeRecords lastEnd written) =
      writeRecords lastEnd written := by
  cases written with
  | nil => rfl
  | cons row others =>
      rcases row.1.exists_quote with ⟨text, htext⟩
      cases others with
      | nil =>
          unfold writeRecords
          rw [htext]
          rfl
      | cons next others =>
          unfold writeRecords
          rw [htext]
          rfl

/--
The parser undoes the writer: it returns the records that were written, with
either line end after each, with or without a line end after the last of them
and with or without a mark before the first.
-/
theorem parseCsv_writeCsv (byteOrderMark lastEnd : Bool)
    (written : List (Record × LineEnd)) :
    parseCsv (writeCsv byteOrderMark lastEnd written) =
      .ok (written.map (fun row => row.1.fields)) := by
  have hstripped :
      stripByteOrderMark (writeCsv byteOrderMark lastEnd written).toList =
        writeRecords lastEnd written := by
    unfold writeCsv
    rw [String.toList_ofList]
    cases byteOrderMark with
    | false => exact stripByteOrderMark_writeRecords lastEnd written
    | true => rfl
  apply parseCsv_of_finished
  rw [hstripped]
  exact CsvState.read_writeRecords lastEnd written []

end MicSeed
end Identifiers
end Valqeron
