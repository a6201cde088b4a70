import Mathlib.Data.Nat.Notation
import Mathlib.Tactic.Common

/-!
# Records of terminated fields

A record is a list of fields, each followed by the terminator of its place. Where no field holds
its own terminator, a sequence of records is read back as it was written (`readAll_writeAll`).
-/

namespace Transaction

namespace Delimited

variable {α : Type}

/-- Every field, followed by its terminator. -/
def write : List α → List (List α) → List α
  | t :: ts, field :: fields => field ++ t :: write ts fields
  | _, _ => []

/-- The fields do not hold their terminators, and there is one for each terminator. -/
inductive Plain : List α → List (List α) → Prop
  | nil : Plain [] []
  | cons {t : α} {ts field : List α} {fields : List (List α)} (ht : t ∉ field)
      (h : Plain ts fields) : Plain (t :: ts) (field :: fields)

def writeAll (ts : List α) (records : List (List (List α))) : List α :=
  records.flatMap (write ts)

variable {t : α} {ts field rest : List α} {fields : List (List α)}
  {records : List (List (List α))}

lemma length_write (h : Plain (t :: ts) fields) : 0 < (write (t :: ts) fields).length := by
  cases h with
  | cons ht h =>
    simp only [write, List.length_append, List.length_cons]
    omega

lemma length_le_writeAll (h : ∀ fields ∈ records, Plain (t :: ts) fields) :
    records.length ≤ (writeAll (t :: ts) records).length := by
  induction records with
  | nil => exact Nat.zero_le _
  | cons fields records ih =>
    have hfields := length_write (h fields List.mem_cons_self)
    have hrecords := ih fun fields hmem => h fields (List.mem_cons_of_mem _ hmem)
    simp only [writeAll, List.flatMap_cons, List.length_append, List.length_cons] at hrecords ⊢
    omega

variable [DecidableEq α]

/-- Up to the terminator, and what follows it. -/
def readField (t : α) : List α → Option (List α × List α)
  | [] => none
  | a :: text => if a = t then some ([], text) else
      (readField t text).map fun r => (a :: r.1, r.2)

def read : List α → List α → Option (List (List α) × List α)
  | [], text => some ([], text)
  | t :: ts, text =>
    (readField t text).bind fun r => (read ts r.2).map fun r' => (r.1 :: r'.1, r'.2)

/-- At most `fuel` records, as long as they are complete. -/
def readUpTo (ts : List α) : (fuel : ℕ) → List α → List (List (List α))
  | 0, _ => []
  | fuel + 1, text =>
    match read ts text with
    | some (fields, rest) => fields :: readUpTo ts fuel rest
    | none => []

/-- All records of a text. -/
def readAll (ts text : List α) : List (List (List α)) :=
  readUpTo ts text.length text

lemma readField_append (h : t ∉ field) : readField t (field ++ t :: rest) = some (field, rest) := by
  induction field with
  | nil => exact if_pos rfl
  | cons a field ih =>
    have hne : a ≠ t := fun heq => h (heq ▸ List.mem_cons_self)
    simp only [List.cons_append, readField, if_neg hne, ih fun hmem => h (List.mem_cons_of_mem _ hmem),
      Option.map_some]

lemma read_write (h : Plain ts fields) (rest : List α) :
    read ts (write ts fields ++ rest) = some (fields, rest) := by
  induction h with
  | nil => rfl
  | cons ht _ ih =>
    simp only [write, read, List.append_assoc, List.cons_append, readField_append ht,
      Option.bind_some, ih, Option.map_some]

/-- Without a field there is nothing to read. -/
lemma readUpTo_nil (t : α) (ts : List α) (fuel : ℕ) : readUpTo (t :: ts) fuel [] = [] := by
  cases fuel <;> rfl

lemma readUpTo_writeAll (h : ∀ fields ∈ records, Plain (t :: ts) fields) {fuel : ℕ}
    (hfuel : records.length ≤ fuel) :
    readUpTo (t :: ts) fuel (writeAll (t :: ts) records) = records := by
  induction records generalizing fuel with
  | nil => exact readUpTo_nil t ts fuel
  | cons fields records ih =>
    obtain ⟨fuel, rfl⟩ : ∃ n, fuel = n + 1 := ⟨fuel - 1, by simp at hfuel; omega⟩
    have hread := read_write (h fields List.mem_cons_self) (writeAll (t :: ts) records)
    have hrecords := ih (fun fields hmem => h fields (List.mem_cons_of_mem _ hmem))
      (Nat.le_of_succ_le_succ hfuel)
    simp only [writeAll, List.flatMap_cons, readUpTo] at hread hrecords ⊢
    rw [hread]
    simp only [hrecords]

/-- What was written is read back. -/
theorem readAll_writeAll (h : ∀ fields ∈ records, Plain (t :: ts) fields) :
    readAll (t :: ts) (writeAll (t :: ts) records) = records :=
  readUpTo_writeAll h (length_le_writeAll h)

/-! ### Fields of a bounded length -/

variable {format : List (ℕ × α)}

/-- Every field is as long as its place allows at most. -/
def Fits (format : List (ℕ × α)) (fields : List (List α)) : Bool :=
  (fields.zip format).all fun f => f.1.length ≤ f.2.1

/-- A record whose places have a length and a terminator each. -/
def parseRecord (format : List (ℕ × α)) (text : List α) : Option (List (List α) × List α) :=
  (read (format.map (·.2)) text).bind fun r => if Fits format r.1 then some r else none

/-- At most `fuel` records, and nothing but them. -/
def parseUpTo (format : List (ℕ × α)) : (fuel : ℕ) → List α → Option (List (List (List α)))
  | _, [] => some []
  | 0, _ :: _ => none
  | fuel + 1, a :: text =>
    (parseRecord format (a :: text)).bind fun r =>
      (parseUpTo format fuel r.2).map fun records => r.1 :: records

/-- The records of a text, if it holds nothing else. -/
def parse (format : List (ℕ × α)) (text : List α) : Option (List (List (List α))) :=
  parseUpTo format text.length text

lemma parseRecord_write (h : Plain (format.map (·.2)) fields) (hfits : Fits format fields = true)
    (rest : List α) :
    parseRecord format (write (format.map (·.2)) fields ++ rest) = some (fields, rest) := by
  simp only [parseRecord, read_write h, Option.bind_some, hfits, if_true]

lemma parseUpTo_writeAll {place : ℕ × α}
    (h : ∀ fields ∈ records, Plain ((place :: format).map (·.2)) fields ∧
      Fits (place :: format) fields = true) {fuel : ℕ} (hfuel : records.length ≤ fuel) :
    parseUpTo (place :: format) fuel (writeAll ((place :: format).map (·.2)) records) =
      some records := by
  induction records generalizing fuel with
  | nil => cases fuel <;> rfl
  | cons fields records ih =>
    obtain ⟨hplain, hfits⟩ := h fields List.mem_cons_self
    obtain ⟨fuel, rfl⟩ : ∃ n, fuel = n + 1 := ⟨fuel - 1, by simp at hfuel; omega⟩
    have hrecord := parseRecord_write hplain hfits (writeAll ((place :: format).map (·.2)) records)
    have hrecords := ih (fun fields hmem => h fields (List.mem_cons_of_mem _ hmem))
      (Nat.le_of_succ_le_succ hfuel)
    have hpos : 0 < (write ((place :: format).map (·.2)) fields).length := length_write hplain
    have htext : writeAll ((place :: format).map (·.2)) (fields :: records) =
        write ((place :: format).map (·.2)) fields ++
          writeAll ((place :: format).map (·.2)) records := List.flatMap_cons
    rw [htext]
    cases hwrite : write ((place :: format).map (·.2)) fields with
    | nil =>
      rw [hwrite] at hpos
      cases hpos
    | cons a text =>
      rw [hwrite] at hrecord
      rw [List.cons_append] at hrecord ⊢
      simp only [parseUpTo, hrecord, Option.bind_some, hrecords, Option.map_some]

/-- What was written is parsed to its end. -/
theorem parse_writeAll {place : ℕ × α}
    (h : ∀ fields ∈ records, Plain ((place :: format).map (·.2)) fields ∧
      Fits (place :: format) fields = true) :
    parse (place :: format) (writeAll ((place :: format).map (·.2)) records) = some records :=
  parseUpTo_writeAll h (length_le_writeAll fun fields hmem => (h fields hmem).1)

end Delimited

end Transaction
