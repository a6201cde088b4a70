import Mathlib.Algebra.Order.Field.Rat
import Mathlib.Tactic.NormNum
import EventPipeline.Library.Collect
import EventPipeline.Library.Generator
import EventPipeline.Chunks

/-!
# The loops of a bulk load

`generate_and_load` takes its sizes from the `conf` of the run with `int()` alone, so that the loop
of `generate_rows` and the one that writes its batches meet any two integers. They end without an
arithmetic error exactly where there is nothing to generate, or the batches have rows and their
number is not too large for a float (`generation_ends_iff`).
-/

namespace EventPipeline

open Transaction

/-- The exceptions of Python's arithmetic. -/
inductive ArithmeticError
  | zeroDivision
  | overflow
  deriving DecidableEq, Repr

/-- `a % b` -/
def floorMod (a b : Int) : Except ArithmeticError Int :=
  if b = 0 then .error .zeroDivision else .ok (a.fmod b)

lemma floatLimit_pos : 0 < floatLimit :=
  Nat.lt_of_le_of_lt (Nat.zero_le _) lt_floatLimit

/-- `a / b` of an `int` and a `float`, whose value is not rounded here. -/
def trueDiv (a : ℕ) (b : ℚ) : Except ArithmeticError ℚ :=
  if floatLimit ≤ a then .error .overflow
  else if b = 0 then .error .zeroDivision
  else .ok (a / b)

variable {σ : Type}

/-- One step of the loop of `generate_rows`: the next batch, where `produced < total_rows`. A batch
of no rows or fewer is empty, and rows are only made of numbers from 0 on. -/
def nextBatch (rng : σ → Draw × σ) (totalRows batchSize : Int) (loadBatchId : String) :
    Int × σ → Option (List FactRow × Int × σ)
  | (produced, state) =>
    if produced < totalRows then
      let n := min batchSize (totalRows - produced)
      let (batch, state) := generateBatch rng loadBatchId n.toNat produced.toNat state
      some (batch, produced + n, state)
    else none

/-- What is logged of the progress: `written`, `total_rows`, and the rows per second. -/
structure ProgressLine where
  written : ℕ
  totalRows : Int
  rate : ℚ

/-- The data file, the number of its rows, and what was logged. -/
structure Writing where
  file : List Char
  written : ℕ
  log : List ProgressLine

def Writing.start : Writing :=
  ⟨[], 0, []⟩

/-- The body of the loop that writes the data file; `elapsed` are the seconds since its start, as
they are read for one line of the log after the other. -/
def writeBatch (totalRows batchSize : Int) (elapsed : ℕ → ℚ) (w : Writing) (batch : List FactRow) :
    Except ArithmeticError Writing := do
  let file := w.file ++ batch.flatMap fun row => (rowToLine row).toList
  let written := w.written + batch.length
  let rest ← floorMod written (batchSize * 10)
  if rest = 0 ∨ (written : Int) = totalRows then
    let rate ← trueDiv written (max (elapsed w.log.length) (1 / 1000000))
    .ok ⟨file, written, w.log ++ [⟨written, totalRows, rate⟩]⟩
  else .ok ⟨file, written, w.log⟩

/-- The loop that writes the data file, if it ends within `fuel` batches. -/
def writeRows (rng : σ → Draw × σ) (seed : σ) (loadBatchId : String) (elapsed : ℕ → ℚ)
    (totalRows batchSize : Int) (fuel : ℕ) : Option (Except ArithmeticError Writing) :=
  consume (nextBatch rng totalRows batchSize loadBatchId) (writeBatch totalRows batchSize elapsed)
    fuel (0, seed) .start

/-- `generate_rows` yields finitely many batches, and the loop that writes them ends without an
arithmetic error. -/
def GenerationEnds (rng : σ → Draw × σ) (seed : σ) (loadBatchId : String) (elapsed : ℕ → ℚ)
    (totalRows batchSize : Int) : Prop :=
  (∃ fuel batches,
    drain (nextBatch rng totalRows batchSize loadBatchId) fuel (0, seed) = some batches) ∧
  ∃ fuel w, writeRows rng seed loadBatchId elapsed totalRows batchSize fuel = some (.ok w)

variable {rng : σ → Draw × σ} {seed state : σ} {loadBatchId : String} {elapsed : ℕ → ℚ}
  {totalRows batchSize : Int} {w w' : Writing}

/-! ### The batches -/

/-- Where the batches have rows, the loop yields those of `generate_rows`. -/
lemma drain_nextBatch (rng : σ → Draw × σ) (total size : ℕ) (hsize : 0 < size)
    (loadBatchId : String) (produced : ℕ) (state : σ) :
    ∃ fuel, drain (nextBatch rng total size loadBatchId) fuel (produced, state) =
      some (generateSeeded rng total size hsize loadBatchId produced state) := by
  induction produced, state using generateSeeded.induct rng total size hsize loadBatchId with
  | case1 produced state hlt n batch state' hbatch ih =>
    obtain ⟨fuel, hfuel⟩ := ih
    have hn : min (size : Int) (total - produced) = (n : ℕ) := by omega
    have hbatch' : generateBatch rng loadBatchId n produced state = (batch, state') := hbatch
    have hnext : nextBatch rng total size loadBatchId (produced, state) =
        some (batch, ((produced + n : ℕ) : Int), state') := by
      simp only [nextBatch, hn, Int.toNat_natCast, hbatch', if_pos (Int.ofNat_lt.mpr hlt)]
      rfl
    have hbatches : generateSeeded rng total size hsize loadBatchId produced state =
        batch :: generateSeeded rng total size hsize loadBatchId (produced + n) state' := by
      rw [generateSeeded, if_pos hlt]
      simp only [show min size (total - produced) = n from rfl, hbatch']
    refine ⟨fuel + 1, ?_⟩
    simp only [drain, hnext, hfuel, hbatches, Option.map_some]
  | case2 produced state hge =>
    refine ⟨1, ?_⟩
    rw [generateSeeded, if_neg hge]
    simp only [drain, nextBatch, Int.ofNat_lt, if_neg hge]

/-- Batches of no rows make no progress. -/
lemma nextBatch_of_nonpos (htotal : 0 < totalRows) (hsize : batchSize ≤ 0) {produced : Int}
    (hproduced : produced ≤ 0) :
    nextBatch rng totalRows batchSize loadBatchId (produced, state) =
      some ([], produced + batchSize, state) := by
  have hn : min batchSize (totalRows - produced) = batchSize := by omega
  have hempty : batchSize.toNat = 0 := Int.toNat_of_nonpos hsize
  simp only [nextBatch, hn, hempty, if_pos (hproduced.trans_lt htotal)]
  rfl

lemma drain_of_nonpos (htotal : 0 < totalRows) (hsize : batchSize ≤ 0) (fuel : ℕ) :
    drain (nextBatch rng totalRows batchSize loadBatchId) fuel (0, seed) = none := by
  refine drain_eq_none (fun s => s.1 ≤ 0) ?_ fuel (Int.le_refl 0)
  rintro ⟨produced, state⟩ hproduced
  exact ⟨_, _, nextBatch_of_nonpos htotal hsize hproduced, Int.add_nonpos hproduced hsize⟩

/-! ### The data file -/

lemma floorMod_ok {a b : Int} (h : b ≠ 0) : floorMod a b = .ok (a.fmod b) :=
  if_neg h

/-- The divisor is never zero. -/
lemma trueDiv_ok {a : ℕ} (h : a < floatLimit) (seconds : ℚ) :
    ∃ rate, trueDiv a (max seconds (1 / 1000000)) = .ok rate := by
  have hpos : (0 : ℚ) < max seconds (1 / 1000000) := lt_max_of_lt_right (by norm_num)
  exact ⟨_, by rw [trueDiv, if_neg (Nat.not_le_of_lt h), if_neg hpos.ne']⟩

lemma writeBatch_ok (hsize : batchSize ≠ 0) (totalRows : Int) (elapsed : ℕ → ℚ)
    {batch : List FactRow} (h : w.written + batch.length < floatLimit) :
    ∃ log, writeBatch totalRows batchSize elapsed w batch =
      .ok ⟨w.file ++ batch.flatMap fun row => (rowToLine row).toList, w.written + batch.length,
        log⟩ := by
  obtain ⟨rate, hrate⟩ := trueDiv_ok h (elapsed w.log.length)
  have hrest := @floorMod_ok (w.written + batch.length : ℕ) (batchSize * 10)
    (Int.mul_ne_zero hsize (by decide))
  simp only [writeBatch, hrest, hrate, bind, Except.bind]
  split_ifs
  · exact ⟨_, rfl⟩
  · exact ⟨_, rfl⟩

lemma foldlM_writeBatch (hsize : batchSize ≠ 0) (totalRows : Int) (elapsed : ℕ → ℚ)
    {batches : List (List FactRow)} (h : w.written + batches.flatten.length < floatLimit) :
    ∃ log, batches.foldlM (writeBatch totalRows batchSize elapsed) w =
      .ok ⟨w.file ++ dataFile batches, w.written + batches.flatten.length, log⟩ := by
  induction batches generalizing w with
  | nil => exact ⟨w.log, by simp [dataFile, pure, Except.pure]⟩
  | cons batch batches ih =>
    rw [List.flatten_cons, List.length_append, ← Nat.add_assoc] at h
    obtain ⟨log, hbatch⟩ := writeBatch_ok hsize totalRows elapsed
      (Nat.lt_of_le_of_lt (Nat.le_add_right _ _) h)
    obtain ⟨log', hrest⟩ := @ih ⟨_, _, log⟩ h
    refine ⟨log', ?_⟩
    rw [List.foldlM_cons, hbatch]
    exact hrest.trans (by simp [dataFile, Nat.add_assoc])

lemma written_of_writeBatch {batch : List FactRow}
    (h : writeBatch totalRows batchSize elapsed w batch = .ok w') :
    w'.written = w.written + batch.length := by
  simp only [writeBatch, bind_eq_ok] at h
  obtain ⟨rest, -, h⟩ := h
  split_ifs at h
  · obtain ⟨rate, -, h⟩ := bind_eq_ok.mp h
    cases h
    rfl
  · cases h
    rfl

/-- The progress of the last batch is logged, so that its number is converted. -/
lemma foldlM_overflow {batches : List (List FactRow)} (hne : batches ≠ [])
    (hsum : ((w.written + batches.flatten.length : ℕ) : Int) = totalRows)
    (hlimit : floatLimit ≤ w.written + batches.flatten.length) :
    batches.foldlM (writeBatch totalRows batchSize elapsed) w ≠ .ok w' := by
  induction batches generalizing w with
  | nil => exact absurd rfl hne
  | cons batch batches ih =>
    intro h
    obtain ⟨w₁, hbatch, hrest⟩ := bind_eq_ok.mp (List.foldlM_cons.symm.trans h)
    rw [List.flatten_cons, List.length_append, ← Nat.add_assoc, ← written_of_writeBatch hbatch]
      at hsum hlimit
    cases batches with
    | nil =>
      rw [List.flatten_nil, List.length_nil, Nat.add_zero, written_of_writeBatch hbatch]
        at hsum hlimit
      simp only [writeBatch, bind_eq_ok, hsum, or_true, if_true] at hbatch
      obtain ⟨-, -, rate, hrate, -⟩ := hbatch
      rw [trueDiv, if_pos hlimit] at hrate
      cases hrate
    | cons next batches => exact ih (List.cons_ne_nil _ _) hsum hlimit hrest

/-- The first batch of size zero is divided by. -/
theorem writeRows_zero (rng : σ → Draw × σ) (seed : σ) (loadBatchId : String) (elapsed : ℕ → ℚ)
    (htotal : 0 < totalRows) :
    writeRows rng seed loadBatchId elapsed totalRows 0 1 = some (.error .zeroDivision) := by
  have hnext := @nextBatch_of_nonpos σ rng seed loadBatchId totalRows 0 htotal (Int.le_refl 0) 0
    (Int.le_refl 0)
  have hbody : writeBatch totalRows 0 elapsed .start [] = .error .zeroDivision := rfl
  simp only [writeRows, consume, hnext, hbody]

/-- With a negative size, empty batches are written for ever. -/
theorem writeRows_of_neg (rng : σ → Draw × σ) (seed : σ) (loadBatchId : String)
    (elapsed : ℕ → ℚ) (htotal : 0 < totalRows) (hsize : batchSize < 0) (fuel : ℕ) :
    writeRows rng seed loadBatchId elapsed totalRows batchSize fuel = none := by
  refine consume_eq_none (fun s w => s.1 ≤ 0 ∧ w.written = 0) ?_ fuel ⟨Int.le_refl 0, rfl⟩
  rintro ⟨produced, state⟩ w ⟨hproduced, hwritten⟩
  have hlimit : w.written + ([] : List FactRow).length < floatLimit := by
    rw [hwritten]
    exact floatLimit_pos
  obtain ⟨log, hlog⟩ := writeBatch_ok hsize.ne totalRows elapsed hlimit
  exact ⟨_, _, _, nextBatch_of_nonpos htotal hsize.le hproduced, hlog,
    Int.add_nonpos hproduced hsize.le, hwritten⟩

/-! ### Both loops -/

/-- Batches of rows whose number is converted are all written. -/
theorem writeRows_eq (rng : σ → Draw × σ) (seed : σ) (loadBatchId : String) (elapsed : ℕ → ℚ)
    {total size : ℕ} (hsize : 0 < size) (htotal : total < floatLimit) :
    ∃ fuel log, writeRows rng seed loadBatchId elapsed total size fuel = some (.ok
      ⟨dataFile (generateSeeded rng total size hsize loadBatchId 0 seed), total, log⟩) := by
  obtain ⟨fuel, hfuel⟩ := drain_nextBatch rng total size hsize loadBatchId 0 seed
  have hlength := length_flatten_generateSeeded rng seed total hsize loadBatchId
  have hlimit : Writing.start.written + (generateSeeded rng total size hsize loadBatchId 0
      seed).flatten.length < floatLimit := by
    rwa [hlength, Writing.start, Nat.zero_add]
  have hsize' : (size : Int) ≠ 0 := Int.natCast_ne_zero.mpr hsize.ne'
  obtain ⟨log, hlog⟩ := foldlM_writeBatch hsize' total elapsed hlimit
  refine ⟨fuel, log, consume_eq_ok_iff.mpr ⟨_, hfuel, hlog.trans ?_⟩⟩
  rw [hlength, Writing.start, Nat.zero_add, List.nil_append]

lemma drain_of_no_rows (h : totalRows ≤ 0) (rng : σ → Draw × σ) (seed : σ) (batchSize : Int)
    (loadBatchId : String) :
    drain (nextBatch rng totalRows batchSize loadBatchId) 1 (0, seed) = some [] := by
  simp only [drain, nextBatch, if_neg (Int.not_lt.mpr h)]

/-- For every two sizes, the loops end without an arithmetic error if and only if there is nothing
to generate, or the batches have rows and the number of all rows is converted to a float. -/
theorem generation_ends_iff (rng : σ → Draw × σ) (seed : σ) (loadBatchId : String)
    (elapsed : ℕ → ℚ) (totalRows batchSize : Int) :
    GenerationEnds rng seed loadBatchId elapsed totalRows batchSize ↔
      totalRows ≤ 0 ∨ 1 ≤ batchSize ∧ totalRows < floatLimit := by
  rcases le_or_gt totalRows 0 with hnone | hsome
  · have hdrain := drain_of_no_rows hnone rng seed batchSize loadBatchId
    exact iff_of_true ⟨⟨1, [], hdrain⟩, 1, .start, consume_eq_ok_iff.mpr ⟨[], hdrain, rfl⟩⟩
      (.inl hnone)
  · rw [or_iff_right (Int.not_le.mpr hsome)]
    by_cases hsize : 1 ≤ batchSize
    · rw [and_iff_right hsize]
      obtain ⟨total, rfl⟩ := Int.eq_ofNat_of_zero_le hsome.le
      obtain ⟨size, rfl⟩ := Int.eq_ofNat_of_zero_le (Int.le_of_lt hsize)
      have hpos : 0 < size := by omega
      obtain ⟨fuel, hfuel⟩ := drain_nextBatch rng total size hpos loadBatchId 0 seed
      constructor
      · rintro ⟨-, fuel', w, hw⟩
        obtain ⟨batches, hbatches, hfold⟩ := consume_eq_ok_iff.mp hw
        by_contra hlimit
        have hlength : batches.flatten.length = total :=
          drain_unique hfuel hbatches ▸ length_flatten_generateSeeded rng seed total hpos _
        have hne : batches ≠ [] := by
          rintro rfl
          rw [List.flatten_nil, List.length_nil] at hlength
          omega
        refine foldlM_overflow hne ?_ ?_ hfold
        · rw [hlength, Writing.start, Nat.zero_add]
        · rw [hlength, Writing.start, Nat.zero_add]
          exact Int.ofNat_le.mp (Int.not_lt.mp hlimit)
      · intro hlimit
        obtain ⟨fuel', log, hw⟩ := writeRows_eq rng seed loadBatchId elapsed hpos
          (Int.ofNat_lt.mp hlimit)
        exact ⟨⟨fuel, _, hfuel⟩, fuel', _, hw⟩
    · refine iff_of_false ?_ fun h => hsize h.1
      rintro ⟨⟨fuel, batches, hbatches⟩, -⟩
      rw [drain_of_nonpos hsome (by omega)] at hbatches
      cases hbatches

/-- One row is never generated in batches of no rows, nor in batches of fewer. -/
theorem no_rows_in_batch :
    (¬ GenerationEnds countingSource 0 "b" (fun _ => 0) 1 0 ∧
      writeRows countingSource 0 "b" (fun _ => 0) 1 0 1 = some (.error .zeroDivision)) ∧
    ¬ GenerationEnds countingSource 0 "b" (fun _ => 0) 1 (-1) ∧
      ∀ fuel, writeRows countingSource 0 "b" (fun _ => 0) 1 (-1) fuel = none := by
  have hends : ∀ size : Int, size ≤ 0 →
      ¬ GenerationEnds countingSource 0 "b" (fun _ => 0) 1 size := by
    rintro size hsize ⟨⟨fuel, batches, hbatches⟩, -⟩
    rw [drain_of_nonpos (by decide) hsize] at hbatches
    cases hbatches
  exact ⟨⟨hends 0 (by decide), writeRows_zero countingSource 0 "b" _ (by decide)⟩,
    hends (-1) (by decide), writeRows_of_neg countingSource 0 "b" _ (by decide) (by decide)⟩

end EventPipeline
