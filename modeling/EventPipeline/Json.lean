import Mathlib.Algebra.Order.Ring.Nat
import Mathlib.Tactic.Common

/-!
# JSON values as Python sees them

A decoded message is any JSON value, and the consumer reads it with Python's own
operators: subscription, `dict.get`, truth testing. Each of them is defined on every value,
with the exception Python raises where the value has the wrong type. `orjson` writes a value so that
it is read again, but for the floats that are infinite (`Json.written`).
-/

namespace EventPipeline

/-- A JSON number, `mantissa * 10 ^ (-scale)`. -/
structure Number where
  mantissa : Int
  scale : ℕ
  deriving DecidableEq, Repr

/-- From here on an `int` is not converted to a `float`, and a decimal is read as an infinite one. -/
def floatLimit : ℕ :=
  2 ^ 1024 - 2 ^ 970

lemma two_pow_lt_sub {a b c : ℕ} (hab : a < b) (hbc : b < c) : 2 ^ a < 2 ^ c - 2 ^ b := by
  have hpow : ∀ {m n : ℕ}, m < n → 2 ^ m < 2 ^ n := Nat.pow_lt_pow_right (by decide)
  refine Nat.lt_sub_of_add_lt ?_
  calc 2 ^ a + 2 ^ b < 2 ^ b + 2 ^ b := Nat.add_lt_add_right (hpow hab) _
    _ = 2 ^ (b + 1) := by rw [← Nat.two_mul, ← Nat.pow_succ']
    _ ≤ 2 ^ c := Nat.pow_le_pow_right (by decide) hbc

lemma lt_floatLimit : 2 ^ 64 < floatLimit := by
  unfold floatLimit
  exact @two_pow_lt_sub 64 970 1024 (by decide) (by decide)

/-- A number with a fraction that no finite float is next to. -/
def Number.infinite (n : Number) : Bool :=
  n.scale ≠ 0 && floatLimit * 10 ^ n.scale ≤ n.mantissa.natAbs

lemma Number.infinite_of_lt {n : Number} (h : n.mantissa.natAbs < 2 ^ 64) : n.infinite = false := by
  have hle : floatLimit ≤ floatLimit * 10 ^ n.scale :=
    Nat.le_mul_of_pos_right _ (Nat.pow_pos (by decide))
  have hlt := lt_floatLimit
  have hnot : ¬ floatLimit * 10 ^ n.scale ≤ n.mantissa.natAbs :=
    Nat.not_le_of_lt (Nat.lt_trans h (Nat.lt_of_lt_of_le hlt hle))
  simp [infinite, hnot]

/-- What `orjson.loads` returns. The keys of an object are distinct. -/
inductive Json
  | null
  | bool (b : Bool)
  | num (n : Number)
  | str (s : String)
  | arr (items : List Json)
  | obj (fields : List (String × Json))

/-- Any exception of Python's own (`KeyError`, `TypeError`, ...), with its text. -/
structure PyError where
  text : String
  deriving DecidableEq, Repr

namespace Json

def int (i : Int) : Json := .num ⟨i, 0⟩

/-- `type(value).__name__` -/
def typeName : Json → String
  | .null => "NoneType"
  | .bool _ => "bool"
  | .num n => if n.scale = 0 then "int" else "float"
  | .str _ => "str"
  | .arr _ => "list"
  | .obj _ => "dict"

/-- `value[key]` -/
def getItem (key : String) : Json → Except PyError Json
  | .obj fields =>
    match fields.lookup key with
    | some v => .ok v
    | none => .error ⟨s!"'{key}'"⟩
  | .arr _ => .error ⟨"list indices must be integers or slices, not str"⟩
  | .str _ => .error ⟨"string indices must be integers, not 'str'"⟩
  | v => .error ⟨s!"'{v.typeName}' object is not subscriptable"⟩

/-- `value.get(key, default)` -/
def get (value : Json) (key : String) (default : Json) : Except PyError Json :=
  match value with
  | .obj fields => .ok ((fields.lookup key).getD default)
  | v => .error ⟨s!"'{v.typeName}' object has no attribute 'get'"⟩

/-- `bool(value)` -/
def truthy : Json → Bool
  | .null => false
  | .bool b => b
  | .num n => n.mantissa ≠ 0
  | .str s => s ≠ ""
  | .arr items => !items.isEmpty
  | .obj fields => !fields.isEmpty

/-- `value == text` -/
def isText (text : String) : Json → Bool
  | .str s => s = text
  | _ => false

/-- `for item in value`, for the values whose elements can be mappings: iterating over a
non-empty string or object yields strings. -/
def iterate : Json → Except PyError (List Json)
  | .arr items => .ok items
  | .str s => .ok (s.toList.map fun c => .str c.toString)
  | .obj fields => .ok (fields.map fun field => .str field.1)
  | v => .error ⟨s!"'{v.typeName}' object is not iterable"⟩

/-- `{**value}` -/
def mapping : Json → Except PyError (List (String × Json))
  | .obj fields => .ok fields
  | v => .error ⟨s!"'{v.typeName}' object is not a mapping"⟩

@[simp] lemma isText_iff {text : String} {v : Json} : v.isText text = true ↔ v = .str text := by
  cases v <;> simp [isText]

lemma getItem_ok {key : String} {v w : Json} (h : v.getItem key = .ok w) :
    ∃ fields, v = .obj fields ∧ fields.lookup key = some w := by
  cases v with
  | obj fields =>
    simp only [getItem] at h
    split at h
    · rename_i x hx
      cases h
      exact ⟨fields, rfl, hx⟩
    · cases h
  | null => cases h
  | bool b => cases h
  | num n => cases h
  | str s => cases h
  | arr items => cases h

/-! ### Text -/

mutual

/-- The value as JSON text; the characters of a string that would have to be escaped are left
as they are. -/
def render : Json → String
  | .null => "null"
  | .bool b => if b then "true" else "false"
  | .num n =>
    if n.scale = 0 then toString n.mantissa
    else toString n.mantissa ++ "e-" ++ toString n.scale
  | .str s => "\"" ++ s ++ "\""
  | .arr items => "[" ++ ",".intercalate (renderItems items) ++ "]"
  | .obj fields => "\x7b" ++ ",".intercalate (renderFields fields) ++ "\x7d"

def renderItems : List Json → List String
  | [] => []
  | item :: items => item.render :: renderItems items

def renderFields : List (String × Json) → List String
  | [] => []
  | (key, value) :: fields => ("\"" ++ key ++ "\":" ++ value.render) :: renderFields fields

end

/-- Texts that differ at a character of their first fields. -/
lemma braced_ne {a b : String} {l l' : List String} (i : ℕ) {c d : Char}
    (hc : a.toList[i]? = some c) (hd : b.toList[i]? = some d) (hne : c ≠ d) :
    "\x7b" ++ ",".intercalate (a :: l) ++ "\x7d" ≠ "\x7b" ++ ",".intercalate (b :: l') ++ "\x7d" := by
  have hfirst : ∀ {a : String} {l : List String} {c : Char}, a.toList[i]? = some c →
      ("\x7b" ++ ",".intercalate (a :: l) ++ "\x7d").toList[i + 1]? = some c := by
    intro a l c hc
    have hsplit : ",".intercalate (a :: l) = a ++ ",".intercalate ("" :: l) := by
      rw [← String.intercalate_cons_append, String.append_empty]
    have hlt := (List.getElem?_eq_some_iff.mp hc).1
    rw [hsplit, String.toList_append, String.toList_append, String.toList_append, List.append_assoc,
      List.append_assoc]
    show ('\x7b' :: (a.toList ++ _))[i + 1]? = some c
    rw [List.getElem?_cons_succ, List.getElem?_append_left hlt, hc]
  intro heq
  have hsame := congrArg (fun text => text.toList[i + 1]?) heq
  simp only [hfirst hc, hfirst hd] at hsame
  exact hne (Option.some.inj hsame)

/-- Objects that begin with different texts of one length. -/
lemma render_ne {key t t' : String} {fields fields' : List (String × Json)}
    (hlength : t.length = t'.length) (hne : t ≠ t') :
    (obj ((key, .str t) :: fields)).render ≠ (obj ((key, .str t') :: fields')).render := by
  have hchar : ∃ (i : ℕ) (c d : Char), t.toList[i]? = some c ∧ t'.toList[i]? = some d ∧ c ≠ d := by
    by_contra hsame
    push Not at hsame
    refine hne (String.toList_inj.mp (List.ext_getElem (by simpa only [String.length_toList]) ?_))
    intro i hi hi'
    exact hsame i _ _ (List.getElem?_eq_getElem hi) (List.getElem?_eq_getElem hi')
  obtain ⟨i, c, d, hc, hd, hcd⟩ := hchar
  have hfield : ∀ {t : String} {c : Char}, t.toList[i]? = some c →
      ("\"" ++ key ++ "\":" ++ (str t).render).toList[("\"" ++ key ++ "\":\"").length + i]? =
        some c := by
    intro t c hc
    have hlt := (List.getElem?_eq_some_iff.mp hc).1
    have hsplit : "\"" ++ key ++ "\":" ++ (str t).render =
        ("\"" ++ key ++ "\":\"") ++ (t ++ "\"") := by
      rw [← String.toList_inj]
      simp [render]
    rw [hsplit, String.toList_append, ← String.length_toList,
      List.getElem?_append_right (Nat.le_add_right _ _), Nat.add_sub_cancel_left,
      String.toList_append, List.getElem?_append_left hlt, hc]
  simp only [render, renderFields]
  exact braced_ne _ (hfield hc) (hfield hd) hcd

/-! ### Size -/

mutual

/-- How many lists and objects are nested in one another. -/
def depth : Json → ℕ
  | .arr items => depthItems items + 1
  | .obj fields => depthFields fields + 1
  | _ => 0

def depthItems : List Json → ℕ
  | [] => 0
  | item :: items => max item.depth (depthItems items)

def depthFields : List (String × Json) → ℕ
  | [] => 0
  | (_, value) :: fields => max value.depth (depthFields fields)

end

mutual

/-- Every integer fits into 64 bits, with or without a sign. -/
def within64 : Json → Bool
  | .num n => n.scale ≠ 0 || (-2 ^ 63 ≤ n.mantissa && n.mantissa < 2 ^ 64)
  | .arr items => within64Items items
  | .obj fields => within64Fields fields
  | _ => true

def within64Items : List Json → Bool
  | [] => true
  | item :: items => item.within64 && within64Items items

def within64Fields : List (String × Json) → Bool
  | [] => true
  | (_, value) :: fields => value.within64 && within64Fields fields

end

/-! ### Infinite floats -/

mutual

/-- What `orjson` writes: an infinite float becomes `null`. -/
def written : Json → Json
  | .num n => if n.infinite then .null else .num n
  | .arr items => .arr (writtenItems items)
  | .obj fields => .obj (writtenFields fields)
  | v => v

def writtenItems : List Json → List Json
  | [] => []
  | item :: items => item.written :: writtenItems items

def writtenFields : List (String × Json) → List (String × Json)
  | [] => []
  | (key, value) :: fields => (key, value.written) :: writtenFields fields

end

mutual

/-- No float is infinite. -/
def finite : Json → Bool
  | .num n => !n.infinite
  | .arr items => finiteItems items
  | .obj fields => finiteFields fields
  | _ => true

def finiteItems : List Json → Bool
  | [] => true
  | item :: items => item.finite && finiteItems items

def finiteFields : List (String × Json) → Bool
  | [] => true
  | (_, value) :: fields => value.finite && finiteFields fields

end

mutual

/-- A value is written as it is exactly if its floats are finite. -/
lemma written_eq_iff : ∀ v : Json, v.written = v ↔ v.finite = true
  | .null => by simp [written, finite]
  | .bool b => by simp [written, finite]
  | .num n => by cases h : n.infinite <;> simp [written, finite, h]
  | .str s => by simp [written, finite]
  | .arr items => by simp [written, finite, writtenItems_eq_iff items]
  | .obj fields => by simp [written, finite, writtenFields_eq_iff fields]

lemma writtenItems_eq_iff : ∀ items : List Json, writtenItems items = items ↔ finiteItems items = true
  | [] => by simp [writtenItems, finiteItems]
  | item :: items => by
    simp [writtenItems, finiteItems, written_eq_iff item, writtenItems_eq_iff items]

lemma writtenFields_eq_iff : ∀ fields : List (String × Json),
    writtenFields fields = fields ↔ finiteFields fields = true
  | [] => by simp [writtenFields, finiteFields]
  | (key, value) :: fields => by
    simp [writtenFields, finiteFields, written_eq_iff value, writtenFields_eq_iff fields]

end

end Json

end EventPipeline
