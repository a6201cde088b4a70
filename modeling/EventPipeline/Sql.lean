import EventPipeline.Json
import EventPipeline.Library.Collect

/-!
# Values and parameters of SQL Server

What the server does with a bound parameter: which JSON values the driver can bind, how a
parameter is compared with a VARCHAR column and how it is converted to the type of the
column it is stored in. The conversions and the collation are those of the server and not
of the repository, so they are the fields of `SqlServer`, a parameter of the model. The driver
binds a text as NVARCHAR: it is compared as it is, and converted to the code page of the column
where it is stored, so that a column need not hold what it was given (`SqlServer.stored`). The
collation is one that compares the texts of both types alike, as a Windows collation does.
-/

namespace EventPipeline

open Transaction

/-- The subclasses of `SQLAlchemyError` the consumer tells apart. -/
inductive SqlErrorClass
  | operational
  | integrity
  | data
  | programming
  | other
  deriving DecidableEq, Repr

structure SqlError where
  cls : SqlErrorClass
  text : String
  deriving DecidableEq, Repr

/-- Why a statement is refused, whatever the state of the connection. -/
inductive Fault
  | unbindable
  | missing (parameter : String)
  | conversion (column : String)
  | tooLong (column : String)
  | notNull (column : String)
  | duplicateKey (constraint : String)
  | check (constraint : String)
  | foreignKey (column : String)
  | trigger (message : String)
  deriving DecidableEq, Repr

def Fault.cls : Fault → SqlErrorClass
  | .unbindable => .programming
  | .missing _ => .other
  | .conversion _ => .data
  | .tooLong _ => .data
  | .notNull _ => .integrity
  | .duplicateKey _ => .integrity
  | .check _ => .integrity
  | .foreignKey _ => .integrity
  | .trigger _ => .programming

/-- A value of a VARCHAR(n) column, as it is read back: each of its characters is one byte. -/
structure Varchar (n : ℕ) where
  text : String
  fits : text.length ≤ n
  deriving DecidableEq

/-- A parameter that is not NULL. -/
inductive Scalar
  | text (s : String)
  | num (n : Number)
  | bit (b : Bool)
  deriving DecidableEq, Repr

/-- A date column holds a reading of the clock (`SYSUTCDATETIME()`, `utcnow()`) or a date
given by the payload. The tag is the model's own, to tell the two apart. -/
inductive Stamp
  | clock (t : ℕ)
  | given (t : Int)
  deriving DecidableEq, Repr

def isAscii (s : String) : Bool :=
  s.toList.all (·.toNat < 0x80)

lemma isAscii_append {s t : String} (hs : isAscii s = true) (ht : isAscii t = true) :
    isAscii (s ++ t) = true := by
  rw [isAscii, String.toList_append, List.all_append, Bool.and_eq_true]
  exact ⟨hs, ht⟩

/-- The length of a text in UTF-16. -/
def units (s : String) : ℕ :=
  (s.toList.map fun c => if c.toNat < 0x10000 then 1 else 2).sum

/-- The server's collation and conversions. -/
structure SqlServer where
  /-- Sort key: two texts are equal when their keys are, whether VARCHAR or NVARCHAR. -/
  key : String → String
  /-- What the code page of the VARCHAR columns has of a text: a character it lacks becomes a
  similar one or a question mark. -/
  codePage : String → String
  /-- The code page has a byte for each unit. -/
  length_codePage : ∀ s, (codePage s).length = units s
  codePage_ascii : ∀ s, isAscii s = true → codePage s = s
  /-- Text of a number stored in a VARCHAR column. -/
  render : Number → String
  /-- `column = :parameter` for a parameter that is a number or a bit. Both types take
  precedence over VARCHAR, so the column is converted; `none` when it does not convert. -/
  converts : Scalar → String → Option Bool
  /-- NUMERIC(18, 2), in hundredths. -/
  toNumeric : Scalar → Option Int
  toBigint : Scalar → Option Int
  toDatetime : Scalar → Option Int
  /-- Text of the error raised for a fault. -/
  describe : Fault → String

/-- The driver binds JSON scalars; a list or a dict is not a parameter. -/
def Json.bindable : Json → Bool
  | .arr _ => false
  | .obj _ => false
  | _ => true

/-- The value a bindable parameter has on the server, NULL being `none`. -/
def Json.scalar : Json → Option Scalar
  | .bool b => some (.bit b)
  | .num n => some (.num n)
  | .str s => some (.text s)
  | _ => none

lemma length_ofList_take (l : List Char) (n : ℕ) : (String.ofList (l.take n)).length ≤ n := by
  rw [String.length_ofList]
  exact List.length_take_le n l

/-- Value of a NOT NULL column. -/
def required {α : Type} (column : String) : Option α → Except Fault α
  | none => .error (.notNull column)
  | some a => .ok a

namespace SqlServer

variable (sql : SqlServer)

def raise (f : Fault) : SqlError :=
  ⟨f.cls, sql.describe f⟩

/-- `a = b` on VARCHAR values. -/
def same (a b : String) : Bool :=
  sql.key a = sql.key b

/-- `value IN (literals)` on VARCHAR values. -/
def isOneOf (value : String) (literals : List String) : Bool :=
  literals.any (sql.same value)

/-- `column = :parameter` -/
def compare (column : String) (p : Json) (value : String) : Except Fault Bool :=
  match p.scalar with
  | none => .ok false
  | some (.text s) => .ok (sql.same s value)
  | some v =>
    match sql.converts v value with
    | some b => .ok b
    | none => .error (.conversion column)

/-- `:parameter IN (literals)` -/
def compareAny (column : String) (p : Json) : List String → Except Fault Bool
  | [] => .ok false
  | literal :: literals => do
    let b ← sql.compare column p literal
    let rest ← compareAny column p literals
    .ok (b || rest)

/-- The text a parameter is converted to for a VARCHAR column. -/
def asText : Scalar → String
  | .text s => sql.codePage s
  | .num n => sql.render n
  | .bit b => if b then "1" else "0"

/-- What a VARCHAR(n) column stores of a parameter. Blanks in excess are cut off, another text
that is too long is refused. -/
def stored (n : ℕ) (v : Scalar) : Option (Varchar n) :=
  if h : (sql.asText v).length ≤ n then some ⟨sql.asText v, h⟩
  else if ((sql.asText v).toList.drop n).all (· = ' ') then
    some ⟨.ofList ((sql.asText v).toList.take n), length_ofList_take _ n⟩
  else none

/-- A nullable VARCHAR(n) column. -/
def varchar (n : ℕ) (column : String) (p : Json) : Except Fault (Option (Varchar n)) :=
  match p.scalar with
  | none => .ok none
  | some v =>
    match sql.stored n v with
    | some w => .ok (some w)
    | none => .error (.tooLong column)

/-- A VARCHAR(n) NOT NULL column. -/
def text (n : ℕ) (column : String) (p : Json) : Except Fault (Varchar n) := do
  let v ← sql.varchar n column p
  required column v

/-- A VARCHAR(20) NOT NULL column with a CHECK (column IN (...)) constraint. -/
def checked (constraint : String) (allowed : List String) (p : Json) :
    Except Fault (Varchar 20) := do
  let v ← sql.text 20 "status" p
  if sql.isOneOf v.text allowed then .ok v else .error (.check constraint)

/-- A nullable column of another type, which `read` converts to. -/
def convert {α : Type} (read : Scalar → Option α) (column : String) (p : Json) :
    Except Fault (Option α) :=
  match p.scalar with
  | none => .ok none
  | some v =>
    match read v with
    | some a => .ok (some a)
    | none => .error (.conversion column)

def numeric (column : String) (p : Json) : Except Fault Int := do
  let v ← convert sql.toNumeric column p
  required column v

def bigint (column : String) (p : Json) : Except Fault Int := do
  let v ← convert sql.toBigint column p
  required column v

def datetime (column : String) (p : Json) : Except Fault Int := do
  let v ← convert sql.toDatetime column p
  required column v

@[simp] lemma same_refl (a : String) : sql.same a a = true := by
  simp [same]

lemma same_congr {a b : String} (h : sql.same a b = true) (c : String) :
    sql.same b c = sql.same a c := by
  simp only [same, decide_eq_true_eq] at h ⊢
  rw [h]

lemma same_iff {a b : String} : sql.same a b = true ↔ sql.key a = sql.key b := by
  simp [same]

/-- `v` is what a NOT NULL VARCHAR column stores for the parameter `p`. -/
def TextOf {n : ℕ} (p : Json) (v : Varchar n) : Prop :=
  ∃ s, p.scalar = some s ∧ sql.stored n s = some v

/-- A text that is found under itself where a VARCHAR(n) column stores it. -/
def Finds (n : ℕ) (s : String) : Prop :=
  ∀ v : Varchar n, sql.stored n (.text s) = some v → sql.same s v.text = true

/-- A text that a VARCHAR(n) column does not alter, where it stores it. -/
def Preserves (n : ℕ) (s : String) : Prop :=
  ∀ v : Varchar n, sql.stored n (.text s) = some v → v.text = s

/-- A text that a VARCHAR(n) column stores as it is. -/
def Keeps (n : ℕ) (s : String) : Prop :=
  sql.codePage s = s ∧ s.length ≤ n

lemma varchar_eq_ok {n : ℕ} {column : String} {p : Json} {v : Option (Varchar n)} :
    sql.varchar n column p = .ok v ↔
      (p.scalar = none ∧ v = none) ∨ ∃ w, v = some w ∧ sql.TextOf p w := by
  unfold varchar TextOf
  cases p.scalar with
  | none => simp [eq_comm]
  | some s =>
    simp only [reduceCtorEq, false_and, false_or, Option.some.injEq, exists_eq_left']
    cases sql.stored n s with
    | none => simp
    | some w => simp [eq_comm]

lemma text_eq_ok {n : ℕ} {column : String} {p : Json} {v : Varchar n} :
    sql.text n column p = .ok v ↔ sql.TextOf p v := by
  simp only [text, bind_eq_ok, varchar_eq_ok]
  constructor
  · rintro ⟨w, ⟨-, rfl⟩ | ⟨w, rfl, hw⟩, hv⟩
    · cases hv
    · cases hv
      exact hw
  · intro h
    exact ⟨some v, .inr ⟨v, rfl, h⟩, rfl⟩

lemma checked_eq_ok {constraint : String} {allowed : List String} {p : Json}
    {v : Varchar 20} :
    sql.checked constraint allowed p = .ok v ↔
      sql.TextOf p v ∧ sql.isOneOf v.text allowed = true := by
  simp only [checked, bind_eq_ok, text_eq_ok]
  constructor
  · rintro ⟨w, hw, h⟩
    split_ifs at h with ha
    cases h
    exact ⟨hw, ha⟩
  · rintro ⟨hv, ha⟩
    exact ⟨v, hv, by simp [ha]⟩

/-- A text parameter compares with every value. -/
lemma compare_str (column s value : String) :
    sql.compare column (.str s) value = .ok (sql.same s value) := rfl

/-- A selection that compares a column with a text. -/
lemma selectRows_str {α : Type} (column s : String) (value : α → String) (rows : List α) :
    selectRows (fun r => sql.compare column (.str s) (value r)) rows =
      .ok (rows.filter fun r => sql.same s (value r)) := by
  refine selectRows_eq_ok.mpr ⟨fun r _ => ⟨_, sql.compare_str column s (value r)⟩, ?_⟩
  exact List.filter_congr fun r _ => by rw [compare_str]; rfl

lemma textOf_unique {n : ℕ} {p : Json} {v w : Varchar n} (hv : sql.TextOf p v)
    (hw : sql.TextOf p w) : v = w := by
  obtain ⟨s, hs, hv⟩ := hv
  obtain ⟨s', hs', hw⟩ := hw
  rw [hs] at hs'
  cases hs'
  exact Option.some.inj (hv.symm.trans hw)

@[simp] lemma textOf_str {n : ℕ} {s : String} {v : Varchar n} :
    sql.TextOf (.str s) v ↔ sql.stored n (.text s) = some v := by
  simp [TextOf, Json.scalar]

variable {sql}

/-- A text without blanks is stored as a whole. -/
lemma text_of_stored {n : ℕ} {p : Scalar} {v : Varchar n} (h : sql.stored n p = some v)
    (hblank : ' ' ∉ (sql.asText p).toList) : v.text = sql.asText p := by
  unfold SqlServer.stored at h
  split_ifs at h with hfits hexcess
  · cases h
    rfl
  · have hdrop : ((sql.asText p).toList.drop n) ≠ [] := by
      rw [ne_eq, List.drop_eq_nil_iff, String.length_toList]
      exact hfits
    obtain ⟨c, hc⟩ := List.exists_mem_of_ne_nil _ hdrop
    obtain rfl : c = ' ' := of_decide_eq_true (List.all_eq_true.mp hexcess c hc)
    exact absurd (List.mem_of_mem_drop hc) hblank

lemma Keeps.stored {n : ℕ} {s : String} (h : sql.Keeps n s) :
    sql.stored n (.text s) = some ⟨s, h.2⟩ := by
  unfold SqlServer.stored
  simp only [asText, h.1, h.2, dif_pos]

lemma Keeps.stored_iff {n : ℕ} {s : String} (h : sql.Keeps n s) {v : Varchar n} :
    sql.stored n (.text s) = some v ↔ v.text = s := by
  rw [h.stored, Option.some.injEq]
  constructor
  · rintro rfl
    rfl
  · rintro rfl
    rfl

lemma Keeps.preserves {n : ℕ} {s : String} (h : sql.Keeps n s) : sql.Preserves n s := by
  intro v hv
  obtain rfl := Option.some.inj (h.stored.symm.trans hv)
  rfl

lemma Preserves.finds {n : ℕ} {s : String} (h : sql.Preserves n s) : sql.Finds n s := by
  intro v hv
  rw [h v hv]
  exact sql.same_refl s

lemma Keeps.finds {n : ℕ} {s : String} (h : sql.Keeps n s) : sql.Finds n s :=
  h.preserves.finds

lemma keeps_of_ascii {n : ℕ} {s : String} (h : isAscii s = true)
    (hn : s.length ≤ n) : sql.Keeps n s :=
  ⟨sql.codePage_ascii s h, hn⟩

lemma stored_of_ascii {n : ℕ} {s : String} (h : isAscii s = true) (hn : s.length ≤ n) :
    sql.stored n (.text s) = some ⟨s, hn⟩ :=
  (keeps_of_ascii h hn).stored

lemma preserves_of_ascii {n : ℕ} {s : String} (h : isAscii s = true)
    (hn : s.length ≤ n) : sql.Preserves n s :=
  (keeps_of_ascii h hn).preserves

lemma text_of_ascii_stored {n : ℕ} {s : String} {v : Varchar n}
    (hv : sql.stored n (.text s) = some v) (h : isAscii s = true) (hblank : ' ' ∉ s.toList) :
    v.text = s := by
  have hpage : sql.asText (.text s) = s := sql.codePage_ascii s h
  rw [text_of_stored hv (by rwa [hpage]), hpage]

/-- A text without blanks is found wherever it is stored. -/
lemma finds_of_ascii {s : String} (h : isAscii s = true) (hblank : ' ' ∉ s.toList)
    (n : ℕ) : sql.Finds n s := by
  intro v hv
  rw [text_of_ascii_stored hv h hblank]
  exact sql.same_refl s

lemma text_of_ascii {n : ℕ} {s : String} {v : Varchar n} (hv : sql.TextOf (.str s) v)
    (h : isAscii s = true) (hn : s.length ≤ n) : v.text = s :=
  preserves_of_ascii h hn v (sql.textOf_str.mp hv)

lemma varchar_str {n : ℕ} {column t : String} {v : Varchar n}
    (h : sql.stored n (.text t) = some v) : sql.varchar n column (.str t) = .ok (some v) := by
  simp [varchar, Json.scalar, h]

lemma text_str {n : ℕ} {column t : String} {v : Varchar n} (h : sql.stored n (.text t) = some v) :
    sql.text n column (.str t) = .ok v := by
  simp only [text, varchar_str h]
  rfl

end SqlServer

/-! ### A concrete server -/

/-- The value of a sequence of decimal digits. -/
def decimal (digits : List Char) : Option ℕ :=
  if digits.isEmpty then none
  else digits.foldl (fun acc c => acc.bind fun n =>
    if '0' ≤ c ∧ c ≤ '9' then some (10 * n + (c.toNat - '0'.toNat)) else none) (some 0)

/-- The characters that Windows-1252 has beside those of Latin-1. -/
def windows1252 : List Char :=
  ['€', '‚', 'ƒ', '„', '…', '†', '‡', 'ˆ', '‰', 'Š', '‹', 'Œ', 'Ž', '‘', '’', '“', '”', '•', '–', '—',
    '˜', '™', 'š', '›', 'œ', 'ž', 'Ÿ']

/-- Some of the letters that are replaced by a similar one. -/
def bestFit : List (Char × Char) :=
  [('Ā', 'A'), ('Ē', 'E'), ('Ī', 'I'), ('Ō', 'O'), ('Ū', 'U')]

def toWindows1252 (c : Char) : List Char :=
  if c.toNat < 0x80 ∨ 0xA0 ≤ c.toNat ∧ c.toNat < 0x100 ∨ c ∈ windows1252 then [c]
  else
    match bestFit.lookup c with
    | some d => [d]
    | none => List.replicate (if c.toNat < 0x10000 then 1 else 2) '?'

lemma length_toWindows1252 (c : Char) :
    (toWindows1252 c).length = if c.toNat < 0x10000 then 1 else 2 := by
  have hwindows : windows1252.all (·.toNat < 0x10000) = true := by decide
  have hbest : bestFit.all (·.1.toNat < 0x10000) = true := by decide
  unfold toWindows1252
  split_ifs with h hc hc
  · rfl
  · refine absurd ?_ hc
    rcases h with h | h | h
    · omega
    · omega
    · exact of_decide_eq_true (List.all_eq_true.mp hwindows c h)
  · cases hlookup : bestFit.lookup c with
    | none => rfl
    | some d => rfl
  · cases hlookup : bestFit.lookup c with
    | none => rfl
    | some d =>
      obtain ⟨l, l', heq, -⟩ := List.lookup_eq_some_iff.mp hlookup
      have hmem : (c, d) ∈ bestFit := heq ▸ List.mem_append_right l List.mem_cons_self
      exact absurd (of_decide_eq_true (List.all_eq_true.mp hbest (c, d) hmem)) hc

lemma length_plain (s : String) :
    (if isAscii s then s else String.ofList (s.toList.flatMap toWindows1252)).length = units s := by
  unfold units
  split_ifs with h
  · have hone : s.toList.map (fun c => if c.toNat < 0x10000 then 1 else 2) =
        s.toList.map fun _ => 1 := by
      refine List.map_congr_left fun c hc => if_pos ?_
      have hc := of_decide_eq_true (List.all_eq_true.mp h c hc)
      omega
    rw [hone, ← String.length_toList]
    simp
  · rw [String.length_ofList, List.length_flatMap]
    exact congrArg List.sum (List.map_congr_left fun c _ => length_toWindows1252 c)

/-- The server on texts that differ in more than case and trailing blanks, and on integers.
It knows no date. -/
def SqlServer.plain : SqlServer where
  key := id
  codePage s := if isAscii s then s else .ofList (s.toList.flatMap toWindows1252)
  length_codePage := length_plain
  codePage_ascii _ h := if_pos h
  render n := toString n.mantissa
  converts v value :=
    match v with
    | .num n => (decimal value.toList).map fun m => (m : Int) = n.mantissa
    | _ => none
  toNumeric
    | .num n => some (100 * n.mantissa)
    | .text s => (decimal s.toList).map fun n => 100 * (n : Int)
    | .bit b => some (if b then 100 else 0)
  toBigint
    | .num n => some n.mantissa
    | .text s => (decimal s.toList).map Int.ofNat
    | .bit b => some (if b then 1 else 0)
  toDatetime _ := none
  describe
    | .notNull column => s!"Cannot insert the value NULL into column '{column}'"
    | .duplicateKey constraint => s!"Violation of constraint '{constraint}'"
    | .trigger message => message
    | _ => "The statement has been terminated"

end EventPipeline
