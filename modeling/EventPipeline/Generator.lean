import Mathlib.Algebra.Order.Ring.Nat
import Mathlib.Data.List.Range
import EventPipeline.Library.Delimited
import EventPipeline.Json

/-!
# The generated order history

`generate_rows` yields the rows of the bulk load in batches, and `_row_to_line` writes a row as a
line of the data file. The batches hold one row for every sequence number (`flatten_generateRows`),
and the fields of a line are read back by the terminators of the format file (`readAll_dataFile`).
-/

namespace EventPipeline

open Transaction Delimited

/-! ### Texts -/

/-- `f"{n:0{width}d}"` -/
def zeroPad (width n : ℕ) : String :=
  .ofList ((Nat.toDigits 10 n).leftpad width '0')

lemma toList_zeroPad (width n : ℕ) :
    (zeroPad width n).toList = (Nat.toDigits 10 n).leftpad width '0' :=
  String.toList_ofList

lemma isDigit_zeroPad {width n : ℕ} {c : Char} (h : c ∈ (zeroPad width n).toList) :
    c.isDigit = true := by
  rw [toList_zeroPad, List.leftpad] at h
  rcases List.mem_append.mp h with hzero | hdigit
  · rw [List.eq_of_mem_replicate hzero]
    rfl
  · exact Nat.isDigit_of_mem_toDigits (by decide) (by decide) hdigit

/-- A padded number is read back. -/
lemma ofDigitChars_zeroPad (width n : ℕ) : Nat.ofDigitChars 10 (zeroPad width n).toList 0 = n := by
  rw [toList_zeroPad, List.leftpad, Nat.ofDigitChars_append, Nat.ofDigitChars_replicate_zero,
    Nat.mul_zero, Nat.ofDigitChars_ten_toDigits]

lemma zeroPad_inj {width m n : ℕ} (h : zeroPad width m = zeroPad width n) : m = n := by
  rw [← ofDigitChars_zeroPad width m, h, ofDigitChars_zeroPad]

lemma length_zeroPad {width n k : ℕ} (hwidth : width ≤ k) (hk : 0 < k) (h : n < 10 ^ k) :
    (zeroPad width n).length ≤ k := by
  have hdigits := (Nat.length_toDigits_le_iff (by decide) hk).mpr h
  rw [← String.length_toList, toList_zeroPad, List.length_leftpad]
  omega

lemma length_toString {n k : ℕ} (hk : 0 < k) (h : n < 10 ^ k) : (toString n).length ≤ k := by
  rw [Nat.toString_eq_repr, ← String.length_toList, Nat.toList_repr]
  exact (Nat.length_toDigits_le_iff (by decide) hk).mpr h

/-- `dt.date` -/
structure Date where
  year : ℕ
  month : ℕ
  day : ℕ
  deriving DecidableEq, Repr

namespace Date

def isoformat (d : Date) : String :=
  zeroPad 4 d.year ++ "-" ++ zeroPad 2 d.month ++ "-" ++ zeroPad 2 d.day

def daysInMonth (year month : ℕ) : ℕ :=
  if month = 2 then
    if year % 4 = 0 ∧ (year % 100 ≠ 0 ∨ year % 400 = 0) then 29 else 28
  else if month = 4 ∨ month = 6 ∨ month = 9 ∨ month = 11 then 30
  else 31

def next (d : Date) : Date :=
  if d.day < daysInMonth d.year d.month then { d with day := d.day + 1 }
  else if d.month < 12 then ⟨d.year, d.month + 1, 1⟩
  else ⟨d.year + 1, 1, 1⟩

/-- `d + dt.timedelta(days=n)` -/
def addDays (d : Date) : ℕ → Date
  | 0 => d
  | n + 1 => (d.addDays n).next

example : (Date.mk 2020 2 28).addDays 2 = ⟨2020, 3, 1⟩ := by decide

lemma isoformat_chars {d : Date} {c : Char} (h : c ∈ d.isoformat.toList) :
    c.isDigit = true ∨ c = '-' := by
  simp only [isoformat, String.toList_append, List.mem_append] at h
  rcases h with (((h | h) | h) | h) | h
  · exact .inl (isDigit_zeroPad h)
  · exact .inr (List.mem_singleton.mp h)
  · exact .inl (isDigit_zeroPad h)
  · exact .inr (List.mem_singleton.mp h)
  · exact .inl (isDigit_zeroPad h)

end Date

/-- `f"{cents / 100:.2f}"` -/
def amountText (cents : ℕ) : String :=
  toString (cents / 100) ++ "." ++ zeroPad 2 (cents % 100)

/-! ### Rows -/

def regions : List String :=
  ["N", "NE", "CO", "SE", "S"]

def channels : List String :=
  ["WEB", "MOBILE_APP", "MARKETPLACE", "PHONE"]

def statuses : List String :=
  ["DELIVERED", "CANCELLED", "CLOSED"]

def startDate : Date :=
  ⟨2019, 1, 1⟩

/-- `_DATE_RANGE_DAYS` -/
def dateRangeDays : ℕ :=
  2556

/-- What `rng` draws for one row. The amount is rounded to two places. -/
structure Draw where
  client : ℕ
  days : ℕ
  status : Fin statuses.length
  cents : ℕ
  region : Fin regions.length
  channel : Fin channels.length
  itemCount : ℕ
  client_range : 1 ≤ client ∧ client ≤ 2000000
  days_range : days ≤ dateRangeDays
  cents_range : 1500 ≤ cents ∧ cents ≤ 450000
  itemCount_range : 1 ≤ itemCount ∧ itemCount ≤ 12

/-- A row of `order_history_fact`; `totalAmount` is in cents. -/
structure FactRow where
  externalOrderId : String
  clientExternalId : String
  orderDate : Date
  status : String
  totalAmount : ℕ
  region : String
  channel : String
  itemCount : ℕ
  loadBatchId : String
  deriving DecidableEq

/-- The row of one sequence number. -/
def generateRow (draw : Draw) (seq : ℕ) (loadBatchId : String) : FactRow where
  externalOrderId := "HIST-" ++ zeroPad 10 seq
  clientExternalId := "CLIENT-" ++ zeroPad 9 draw.client
  orderDate := startDate.addDays draw.days
  status := statuses.get draw.status
  totalAmount := draw.cents
  region := regions.get draw.region
  channel := channels.get draw.channel
  itemCount := draw.itemCount
  loadBatchId := loadBatchId

/-- The loop of `generate_rows`, from `produced` rows on. -/
def generateRows (draws : ℕ → Draw) (totalRows batchSize : ℕ) (hbatch : 0 < batchSize)
    (loadBatchId : String) (produced : ℕ) : List (List FactRow) :=
  if produced < totalRows then
    let n := min batchSize (totalRows - produced)
    ((List.range n).map fun i => generateRow (draws (produced + i)) (produced + i) loadBatchId) ::
      generateRows draws totalRows batchSize hbatch loadBatchId (produced + n)
  else []
termination_by totalRows - produced

variable {draws : ℕ → Draw} {totalRows batchSize produced : ℕ} {hbatch : 0 < batchSize}
  {loadBatchId : String}

/-- Every sequence number, once and in order. -/
lemma flatten_generateRows (draws : ℕ → Draw) (totalRows batchSize : ℕ) (hbatch : 0 < batchSize)
    (loadBatchId : String) (produced : ℕ) :
    (generateRows draws totalRows batchSize hbatch loadBatchId produced).flatten =
      (List.range' produced (totalRows - produced)).map fun seq =>
        generateRow (draws seq) seq loadBatchId := by
  induction produced using generateRows.induct totalRows batchSize hbatch with
  | case1 produced hlt n ih =>
    rw [generateRows, if_pos hlt, List.flatten_cons, ih]
    have hsplit : totalRows - produced = n + (totalRows - (produced + n)) := by
      have : n ≤ totalRows - produced := Nat.min_le_right _ _
      omega
    conv_rhs =>
      rw [hsplit, ← List.range'_append_1, List.map_append, List.range'_eq_map_range, List.map_map]
    rfl
  | case2 produced hge =>
    rw [generateRows, if_neg hge, Nat.sub_eq_zero_of_le (Nat.le_of_not_lt hge)]
    rfl

/-! ### Lines -/

/-- The lengths and terminators of `order_history_fact.fmt`. -/
def formatFile : List (ℕ × Char) :=
  [(64, ','), (64, ','), (16, ','), (20, ','), (24, ','), (50, ','), (30, ','), (12, ','), (50, '\n')]

def terminators : List Char :=
  formatFile.map (·.2)

def FactRow.fields (row : FactRow) : List String :=
  [row.externalOrderId, row.clientExternalId, row.orderDate.isoformat, row.status,
    amountText row.totalAmount, row.region, row.channel, toString row.itemCount, row.loadBatchId]

/-- `_row_to_line` -/
def rowToLine (row : FactRow) : String :=
  ",".intercalate row.fields ++ "\n"

/-- What `generate_and_load` writes. -/
def dataFile (batches : List (List FactRow)) : List Char :=
  batches.flatten.flatMap fun row => (rowToLine row).toList

lemma toList_rowToLine (row : FactRow) :
    (rowToLine row).toList = write terminators (row.fields.map String.toList) := by
  simp [rowToLine, FactRow.fields, terminators, formatFile, write]

/-- The load batch id of a row ends with its line. -/
lemma plain_fields (draw : Draw) (seq : ℕ) (h : '\n' ∉ loadBatchId.toList) :
    Plain terminators ((generateRow draw seq loadBatchId).fields.map String.toList) := by
  have hdigits : ∀ width n, ',' ∉ (zeroPad width n).toList := fun width n hmem =>
    absurd (isDigit_zeroPad hmem) (by decide)
  have hnumber : ∀ n : ℕ, ',' ∉ (toString n).toList := fun n hmem => by
    rw [Nat.toString_eq_repr, Nat.toList_repr] at hmem
    exact absurd (Nat.isDigit_of_mem_toDigits (by decide) (by decide) hmem) (by decide)
  have hdate : ',' ∉ (startDate.addDays draw.days).isoformat.toList := fun hmem => by
    rcases Date.isoformat_chars hmem with hdigit | hdash
    · exact absurd hdigit (by decide)
    · exact absurd hdash (by decide)
  have hstatus : ∀ text ∈ statuses, ',' ∉ text.toList := by decide
  have hregion : ∀ text ∈ regions, ',' ∉ text.toList := by decide
  have hchannel : ∀ text ∈ channels, ',' ∉ text.toList := by decide
  have happend : ∀ s t : String, ',' ∉ s.toList → ',' ∉ t.toList → ',' ∉ (s ++ t).toList := by
    intro s t hs ht
    rw [String.toList_append, List.mem_append]
    exact fun hmem => hmem.elim hs ht
  refine .cons ?_ (.cons ?_ (.cons hdate (.cons ?_ (.cons ?_ (.cons ?_ (.cons ?_ (.cons
    (hnumber _) (.cons h .nil))))))))
  · exact happend _ _ (by decide) (hdigits _ _)
  · exact happend _ _ (by decide) (hdigits _ _)
  · exact hstatus _ (List.get_mem _ _)
  · exact happend _ _ (happend _ _ (hnumber _) (by decide)) (hdigits _ _)
  · exact hregion _ (List.get_mem _ _)
  · exact hchannel _ (List.get_mem _ _)

/-- The lines of the data file are read by the format file as they were written. -/
lemma readAll_dataFile (draws : ℕ → Draw) (totalRows batchSize : ℕ) (hbatch : 0 < batchSize)
    (h : '\n' ∉ loadBatchId.toList) :
    readAll terminators (dataFile (generateRows draws totalRows batchSize hbatch loadBatchId 0)) =
      (List.range totalRows).map fun seq =>
        (generateRow (draws seq) seq loadBatchId).fields.map String.toList := by
  have hfile : dataFile (generateRows draws totalRows batchSize hbatch loadBatchId 0) =
      writeAll terminators ((List.range totalRows).map fun seq =>
        (generateRow (draws seq) seq loadBatchId).fields.map String.toList) := by
    rw [dataFile, flatten_generateRows, Nat.sub_zero, ← List.range_eq_range', writeAll,
      List.flatMap_map, List.flatMap_map]
    simp only [toList_rowToLine]
  rw [hfile]
  refine readAll_writeAll fun fields hfields => ?_
  obtain ⟨seq, -, rfl⟩ := List.mem_map.mp hfields
  exact plain_fields _ _ h

end EventPipeline
