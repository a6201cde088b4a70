import EventPipeline.Chunks

/-!
# The data file of the bulk load

`bcp` reads the data file by `order_history_fact.fmt`: eight fields that end with a comma and one
that ends with the line, none of them longer than declared. The file of generated rows is read to its
end, and as the rows it was written from (`dataFile_decodes`).
-/

namespace EventPipeline

open Transaction Delimited

/-- A row of the file; the date is its text, and the amount is in cents. -/
structure LoadedRow where
  externalOrderId : String
  clientExternalId : String
  orderDate : String
  status : String
  totalAmount : ℕ
  region : String
  channel : String
  itemCount : ℕ
  loadBatchId : String
  deriving DecidableEq

def FactRow.loaded (row : FactRow) : LoadedRow where
  externalOrderId := row.externalOrderId
  clientExternalId := row.clientExternalId
  orderDate := row.orderDate.isoformat
  status := row.status
  totalAmount := row.totalAmount
  region := row.region
  channel := row.channel
  itemCount := row.itemCount
  loadBatchId := row.loadBatchId

/-! ### Reading -/

def readDigits (text : List Char) : Option ℕ :=
  if text ≠ [] ∧ text.all Char.isDigit = true then some (Nat.ofDigitChars 10 text 0) else none

/-- A decimal with two places, in hundredths. -/
def readAmount (text : List Char) : Option ℕ := do
  let (whole, places) ← readField '.' text
  if places.length = 2 then
    let whole ← readDigits whole
    let places ← readDigits places
    return 100 * whole + places
  else none

def loadRow : List (List Char) → Option LoadedRow
  | [externalOrderId, clientExternalId, orderDate, status, totalAmount, region, channel, itemCount,
      loadBatchId] => do
    let totalAmount ← readAmount totalAmount
    let itemCount ← readDigits itemCount
    return ⟨.ofList externalOrderId, .ofList clientExternalId, .ofList orderDate, .ofList status,
      totalAmount, .ofList region, .ofList channel, itemCount, .ofList loadBatchId⟩
  | _ => none

/-- The rows of a file that holds nothing else. -/
def readDataFile (file : List Char) : Option (List LoadedRow) := do
  let records ← parse formatFile file
  records.mapM loadRow

/-! ### Numbers -/

lemma readDigits_toDigits (n : ℕ) : readDigits (Nat.toDigits 10 n) = some n := by
  have hdigits : (Nat.toDigits 10 n).all Char.isDigit = true :=
    List.all_eq_true.mpr fun c hc => Nat.isDigit_of_mem_toDigits (by decide) (by decide) hc
  rw [readDigits, if_pos ⟨Nat.toDigits_ne_nil, hdigits⟩, Nat.ofDigitChars_ten_toDigits]

lemma readDigits_zeroPad (width n : ℕ) : readDigits (zeroPad width n).toList = some n := by
  have hdigits : (zeroPad width n).toList.all Char.isDigit = true :=
    List.all_eq_true.mpr fun c hc => isDigit_zeroPad hc
  have hne : (zeroPad width n).toList ≠ [] := by
    rw [toList_zeroPad, List.leftpad]
    exact List.append_ne_nil_of_right_ne_nil _ Nat.toDigits_ne_nil
  rw [readDigits, if_pos ⟨hne, hdigits⟩, ofDigitChars_zeroPad]

lemma readAmount_amountText (cents : ℕ) : readAmount (amountText cents).toList = some cents := by
  have hdot : '.' ∉ (toString (cents / 100)).toList := fun hmem => by
    rw [Nat.toString_eq_repr, Nat.toList_repr] at hmem
    exact absurd (Nat.isDigit_of_mem_toDigits (by decide) (by decide) hmem) (by decide)
  have htext : (amountText cents).toList =
      (toString (cents / 100)).toList ++ '.' :: (zeroPad 2 (cents % 100)).toList := by
    simp [amountText]
  have hplaces : (zeroPad 2 (cents % 100)).toList.length = 2 := by
    have hle := (Nat.length_toDigits_le_iff (b := 10) (n := cents % 100) (k := 2) (by decide)
      (by decide)).mpr (Nat.mod_lt _ (by decide))
    rw [toList_zeroPad, List.length_leftpad]
    omega
  have hwhole : readDigits (toString (cents / 100)).toList = some (cents / 100) := by
    rw [Nat.toString_eq_repr, Nat.toList_repr]
    exact readDigits_toDigits _
  simp only [readAmount, htext, readField_append hdot, Option.bind_eq_bind, Option.bind_some,
    hplaces, if_true, hwhole, readDigits_zeroPad]
  exact congrArg some (Nat.div_add_mod cents 100)

lemma loadRow_fields (row : FactRow) : loadRow (row.fields.map String.toList) = some row.loaded := by
  have hcount : readDigits (toString row.itemCount).toList = some row.itemCount := by
    rw [Nat.toString_eq_repr, Nat.toList_repr]
    exact readDigits_toDigits _
  simp only [FactRow.fields, List.map_cons, List.map_nil, loadRow, readAmount_amountText, hcount,
    Option.bind_eq_bind, Option.bind_some, String.ofList_toList]
  rfl

/-! ### Lengths -/

/-- Days that follow a date of the calendar are dates of the calendar. -/
lemma addDays_le {d : Date} (hmonth : d.month ≤ 12) (hday : d.day ≤ 31) (n : ℕ) :
    (d.addDays n).year ≤ d.year + n ∧ (d.addDays n).month ≤ 12 ∧ (d.addDays n).day ≤ 31 := by
  induction n with
  | zero => exact ⟨Nat.le_refl _, hmonth, hday⟩
  | succ n ih =>
    obtain ⟨hyear, hmonth, hday⟩ := ih
    have hdays : ∀ year month, Date.daysInMonth year month ≤ 31 := by
      intro year month
      unfold Date.daysInMonth
      split_ifs <;> decide
    have hbound := hdays (d.addDays n).year (d.addDays n).month
    simp only [Date.addDays, Date.next]
    split_ifs with hlater hmonths
    · exact ⟨by simp only; omega, hmonth, by simp only; omega⟩
    · exact ⟨by simp only; omega, by simp only; omega, by simp⟩
    · exact ⟨by simp only; omega, by simp, by simp⟩

lemma length_isoformat {days : ℕ} (h : days ≤ dateRangeDays) :
    (startDate.addDays days).isoformat.length ≤ 10 := by
  obtain ⟨hyear, hmonth, hday⟩ := addDays_le (d := startDate) (by decide) (by decide) days
  have hrange : startDate.year + days < 10 ^ 4 := by
    simp only [startDate, dateRangeDays] at h ⊢
    omega
  have hy : (zeroPad 4 (startDate.addDays days).year).length ≤ 4 :=
    length_zeroPad (by decide) (by decide) (by omega)
  have hm : (zeroPad 2 (startDate.addDays days).month).length ≤ 2 :=
    length_zeroPad (by decide) (by decide) (by omega)
  have hd : (zeroPad 2 (startDate.addDays days).day).length ≤ 2 :=
    length_zeroPad (by decide) (by decide) (by omega)
  have hdash : "-".length = 1 := by decide
  simp only [Date.isoformat, String.length_append, hdash]
  omega

lemma length_amountText {cents : ℕ} (h : cents ≤ 450000) : (amountText cents).length ≤ 7 := by
  have hwhole : (toString (cents / 100)).length ≤ 4 := length_toString (by decide) (by omega)
  have hplaces : (zeroPad 2 (cents % 100)).length ≤ 2 :=
    length_zeroPad (by decide) (by decide) (Nat.mod_lt _ (by decide))
  have hdot : ".".length = 1 := by decide
  simp only [amountText, String.length_append, hdot]
  omega

lemma fits_fields (draw : Draw) {seq : ℕ} {loadBatchId : String}
    (hseq : ("HIST-" ++ zeroPad 10 seq).length ≤ 64) (hbatchId : loadBatchId.length ≤ 50) :
    Fits formatFile ((generateRow draw seq loadBatchId).fields.map String.toList) = true := by
  have hclient : ("CLIENT-" ++ zeroPad 9 draw.client).length ≤ 64 := by
    have hpad : (zeroPad 9 draw.client).length ≤ 9 :=
      length_zeroPad (by decide) (by decide) (by have := draw.client_range; omega)
    have hprefix : "CLIENT-".length = 7 := by decide
    rw [String.length_append, hprefix]
    omega
  have hdate := length_isoformat draw.days_range
  have hamount := length_amountText draw.cents_range.2
  have hcount : (toString draw.itemCount).length ≤ 2 :=
    length_toString (by decide) (by have := draw.itemCount_range; omega)
  have hstatus : ∀ text ∈ statuses, text.length ≤ 20 := by decide
  have hregion : ∀ text ∈ regions, text.length ≤ 50 := by decide
  have hchannel : ∀ text ∈ channels, text.length ≤ 30 := by decide
  simp only [Fits, formatFile, FactRow.fields, generateRow, List.map_cons, List.map_nil,
    List.zip_cons_cons, List.zip_nil_left, List.all_cons, List.all_nil, String.length_toList,
    Bool.and_true, Bool.and_eq_true, decide_eq_true_eq]
  exact ⟨hseq, hclient, hdate.trans (by decide), hstatus _ (List.get_mem _ _),
    hamount.trans (by decide), hregion _ (List.get_mem _ _), hchannel _ (List.get_mem _ _),
    hcount.trans (by decide), hbatchId⟩

/-! ### The file -/

lemma mapM_loadRow (rows : List FactRow) :
    (rows.map fun row => row.fields.map String.toList).mapM loadRow =
      some (rows.map FactRow.loaded) := by
  induction rows with
  | nil => rfl
  | cons row rows ih => simp [loadRow_fields, ih]

/-- The file of the generated rows is read to its end, as these rows in their order. -/
theorem dataFile_decodes (draws : ℕ → Draw) (totalRows batchSize : ℕ) (hbatch : 0 < batchSize)
    {loadBatchId : String} (hline : '\n' ∉ loadBatchId.toList)
    (hlength : loadBatchId.length ≤ 50)
    (hseq : ∀ seq < totalRows, ("HIST-" ++ zeroPad 10 seq).length ≤ 64) :
    let batches := generateRows draws totalRows batchSize hbatch loadBatchId 0
    readDataFile (dataFile batches) = some (batches.flatten.map FactRow.loaded) := by
  intro batches
  have hrows : batches.flatten = (List.range totalRows).map fun seq =>
      generateRow (draws seq) seq loadBatchId := by
    rw [flatten_generateRows, Nat.sub_zero, ← List.range_eq_range']
  have hfile : dataFile batches =
      writeAll terminators (batches.flatten.map fun row => row.fields.map String.toList) := by
    rw [dataFile, writeAll, List.flatMap_map]
    simp only [toList_rowToLine]
  have hparse : parse formatFile (dataFile batches) =
      some (batches.flatten.map fun row => row.fields.map String.toList) := by
    rw [hfile]
    refine parse_writeAll fun fields hfields => ?_
    obtain ⟨row, hrow, rfl⟩ := List.mem_map.mp hfields
    rw [hrows] at hrow
    obtain ⟨seq, hmem, rfl⟩ := List.mem_map.mp hrow
    exact ⟨plain_fields _ _ hline, fits_fields _ (hseq seq (List.mem_range.mp hmem)) hlength⟩
  simp only [readDataFile, hparse, Option.bind_eq_bind, Option.bind_some]
  exact mapM_loadRow _

/-- Three rows of a run of the DAG, in batches of two. -/
theorem dataFile_decodes_three :
    let batches := generateRows (fun seq => (countingSource seq).1) 3 2 (by decide)
      "2026-01-01-0a1b2c3d" 0
    readDataFile (dataFile batches) = some (batches.flatten.map FactRow.loaded) := by
  refine dataFile_decodes _ 3 2 (by decide) (by decide) (by decide) fun seq hseq => ?_
  have hpad : (zeroPad 10 seq).length ≤ 10 := length_zeroPad (by decide) (by decide) (by omega)
  have hprefix : "HIST-".length = 5 := by decide
  rw [String.length_append, hprefix]
  omega

end EventPipeline
