import Mathlib.Data.List.Basic
import Mathlib.Data.Rat.Defs
import Mathlib.Algebra.Order.Ring.Unbundled.Rat

/-! JSON values, and schemas that write values of a type and read them back.

    A schema writes values of a type and reads them, and says which of them it accepts. What is
    written is read back as it was, and loaded when it is accepted; so what survives a file is told
    by the conditions alone. Schemas of objects are built field by field.

        value ──dump──▶ JSON ──read──▶ value ──accepts──▶ value -/

/-- A JSON value. Whole numbers and fractions are written differently, and compare by value. -/
inductive Json where
  | null
  | bool (b : Bool)
  | int (n : Int)
  | float (q : ℚ)
  | str (s : String)
  | array (elements : List Json)
  | object (fields : List (String × Json))

namespace Json

/-! ### Equality of values -/

mutual

def beq : Json → Json → Bool
  | .null, .null => true
  | .bool a, .bool b => a = b
  | .int m, .int n => m = n
  | .float p, .float q => p = q
  | .str s, .str t => s = t
  | .array xs, .array ys => beqAll xs ys
  | .object fs, .object gs => beqFields fs gs
  | _, _ => false

def beqAll : List Json → List Json → Bool
  | [], [] => true
  | x :: xs, y :: ys => beq x y && beqAll xs ys
  | _, _ => false

def beqFields : List (String × Json) → List (String × Json) → Bool
  | [], [] => true
  | (k, v) :: fs, (l, w) :: gs => k = l && beq v w && beqFields fs gs
  | _, _ => false

end

mutual

theorem beq_iff : ∀ {a b : Json}, beq a b = true ↔ a = b
  | .null, b => by cases b <;> simp [beq]
  | .bool _, b => by cases b <;> simp [beq]
  | .int _, b => by cases b <;> simp [beq]
  | .float _, b => by cases b <;> simp [beq]
  | .str _, b => by cases b <;> simp [beq]
  | .array _, b => by cases b <;> simp [beq, beqAll_iff]
  | .object _, b => by cases b <;> simp [beq, beqFields_iff]

theorem beqAll_iff : ∀ {xs ys : List Json}, beqAll xs ys = true ↔ xs = ys
  | [], ys => by cases ys <;> simp [beqAll]
  | _ :: _, ys => by cases ys <;> simp [beqAll, beq_iff, beqAll_iff]

theorem beqFields_iff : ∀ {fs gs : List (String × Json)}, beqFields fs gs = true ↔ fs = gs
  | [], gs => by cases gs <;> simp [beqFields]
  | (_, _) :: _, gs => by cases gs <;> simp [beqFields, beq_iff, beqFields_iff, Prod.ext_iff]

end

instance : DecidableEq Json := fun _ _ => decidable_of_iff _ beq_iff

/-! ### Comparison by value -/

/-- The number that a value counts as; truth values are numbers. -/
def number : Json → Option ℚ
  | .bool b => some (if b then 1 else 0)
  | .int n => some n
  | .float q => some q
  | _ => none

mutual

/-- `==`: numbers by value, objects in any order of their fields. -/
def same : Json → Json → Bool
  | .null, .null => true
  | .str s, .str t => s = t
  | .array xs, .array ys => sameAll xs ys
  | .object fs, .object gs => fs.length = gs.length && sameFields fs gs
  | a, b =>
    match a.number, b.number with
    | some p, some q => p = q
    | _, _ => false

def sameAll : List Json → List Json → Bool
  | [], [] => true
  | x :: xs, y :: ys => same x y && sameAll xs ys
  | _, _ => false

def sameFields : List (String × Json) → List (String × Json) → Bool
  | [], _ => true
  | (k, v) :: fs, gs =>
    (match gs.lookup k with
      | some w => same v w
      | none => false) && sameFields fs gs

end

mutual

/-- `<`; there is none between values of different kinds. -/
def less : Json → Json → Option Bool
  | .str s, .str t => some (s < t)
  | .array xs, .array ys => lessAll xs ys
  | a, b =>
    match a.number, b.number with
    | some p, some q => some (p < q)
    | _, _ => none

def lessAll : List Json → List Json → Option Bool
  | [], ys => some !ys.isEmpty
  | _ :: _, [] => some false
  | x :: xs, y :: ys => if same x y then lessAll xs ys else less x y

end

/-! ### Reading -/

/-- The value of a field of an object. -/
def get (key : String) : Json → Option Json
  | .object fields => fields.lookup key
  | _ => none

/-- The value that a path leads to; null when it leads nowhere. -/
def follow : List String → Json → Json
  | [], value => value
  | key :: path, value =>
    match value.get key with
    | none | some .null => .null
    | some inner => inner.follow path

/-- An object with a field set. -/
def set (j : Json) (key : String) (value : Json) : Json :=
  match j with
  | .object fields => .object (fields.filter (·.1 ≠ key) ++ [(key, value)])
  | other => other

/-! ### Objects that agree but for one field -/

/-- The two values have the same fields, one apart. -/
def AgreesBut (skipped : String) (a b : Json) : Prop :=
  ∀ key, key ≠ skipped → a.get key = b.get key

theorem lookup_filter_ne {key skipped : String} (h : key ≠ skipped) :
    ∀ fields : List (String × Json),
      (fields.filter (·.1 ≠ skipped)).lookup key = fields.lookup key
  | [] => rfl
  | (name, value) :: fields => by
    rcases eq_or_ne name skipped with rfl | hname
    · rw [List.filter_cons_of_neg (by simp), List.lookup_cons, beq_eq_false_iff_ne.mpr h]
      exact lookup_filter_ne h fields
    · rw [List.filter_cons_of_pos (by simpa using hname), List.lookup_cons, List.lookup_cons,
        lookup_filter_ne h fields]

theorem AgreesBut.follow {skipped key : String} {a b : Json} (h : AgreesBut skipped a b)
    (hkey : key ≠ skipped) (path : List String) :
    a.follow (key :: path) = b.follow (key :: path) := by
  rw [Json.follow, Json.follow, h key hkey]

theorem get_set {key name : String} {value : Json} (fields : List (String × Json)) :
    ((Json.object fields).set name value).get key =
      if key = name then some value else (Json.object fields).get key := by
  show (fields.filter (·.1 ≠ name) ++ [(name, value)]).lookup key = _
  rw [List.lookup_append]
  split_ifs with h
  · subst h
    have hnone : (fields.filter (·.1 ≠ key)).lookup key = none := by
      rw [List.lookup_eq_none_iff]
      intro x hx
      exact bne_iff_ne.mpr (of_decide_eq_true (List.mem_filter.mp hx).2).symm
    rw [hnone, Option.none_or, List.lookup_cons_self]
  · rw [lookup_filter_ne h, List.lookup_cons, beq_eq_false_iff_ne.mpr h]
    exact Option.or_none
theorem AgreesBut.set {skipped name : String} {value : Json} {fs gs : List (String × Json)}
    (h : AgreesBut skipped (.object fs) (.object gs)) :
    AgreesBut skipped ((Json.object fs).set name value) ((Json.object gs).set name value) := by
  intro key hkey
  rw [get_set, get_set, h key hkey]

end Json

/-! ### Schemas -/

/-- How values of a type are written and read, and which of them are accepted. -/
structure Schema (α : Type) where
  dump : α → Json
  read : Json → Option α
  accepts : α → Bool
  read_dump : ∀ a, read (dump a) = some a

namespace Schema

variable {α : Type}

/-- A value that is read and accepted. -/
def load (s : Schema α) (j : Json) : Option α := (s.read j).filter s.accepts

theorem load_dump (s : Schema α) (a : α) :
    s.load (s.dump a) = if s.accepts a then some a else none := by
  rw [load, s.read_dump]
  by_cases h : s.accepts a = true <;> simp [h, Option.filter]

def json : Schema Json where
  dump := id
  read := some
  accepts _ := true
  read_dump _ := rfl

def bool : Schema Bool where
  dump := .bool
  read
    | .bool b => some b
    | _ => none
  accepts _ := true
  read_dump _ := rfl

def string : Schema String where
  dump := .str
  read
    | .str s => some s
    | _ => none
  accepts _ := true
  read_dump _ := rfl

theorem string_ne_null (s : String) : string.dump s ≠ .null := nofun

def nat : Schema Nat where
  dump n := .int n
  read
    | .int (.ofNat n) => some n
    | _ => none
  accepts _ := true
  read_dump _ := rfl

def rational : Schema ℚ where
  dump q := .float q
  read
    | .float q => some q
    | .int n => some n
    | _ => none
  accepts _ := true
  read_dump _ := rfl

/-- Values written as text. -/
def text (write : α → String) (parse : String → Option α) (h : ∀ a, parse (write a) = some a) :
    Schema α where
  dump a := .str (write a)
  read
    | .str s => parse s
    | _ => none
  accepts _ := true
  read_dump := h

/-- The values of an enumeration, by name. -/
def enum (name : α → String) (values : List α)
    (found : ∀ a, (values.find? fun b => name b = name a) = some a) : Schema α :=
  text name (fun s => values.find? fun b => name b = s) found

/-- One more condition. -/
def check (s : Schema α) (p : α → Bool) : Schema α := { s with accepts a := s.accepts a && p a }

/-- A value, or null. -/
def optional (s : Schema α) (h : ∀ a, s.dump a ≠ .null := by exact fun _ => nofun) :
    Schema (Option α) where
  dump a := a.elim .null s.dump
  read j := if j = .null then some none else (s.read j).map some
  accepts a := a.all s.accepts
  read_dump a := by
    cases a with
    | none => rfl
    | some a =>
      show (if s.dump a = .null then some none else (s.read (s.dump a)).map some) = _
      rw [if_neg (h a), s.read_dump]
      rfl

/-- Reads a value of each element. -/
def readAll (s : Schema α) : List Json → Option (List α)
  | [] => some []
  | j :: js => (s.read j).bind fun a => (s.readAll js).map (a :: ·)

theorem readAll_map_dump (s : Schema α) (as : List α) :
    s.readAll (as.map s.dump) = some as := by
  induction as with
  | nil => rfl
  | cons a as ih => rw [List.map_cons, readAll, s.read_dump, ih]; rfl

def list (s : Schema α) : Schema (List α) where
  dump as := .array (as.map s.dump)
  read
    | .array js => s.readAll js
    | _ => none
  accepts as := as.all s.accepts
  read_dump := s.readAll_map_dump

/-- Reads a value of each field, under its key. -/
def readFields (s : Schema α) : List (String × Json) → Option (List (String × α))
  | [] => some []
  | (key, j) :: fields =>
    (s.read j).bind fun a => (s.readFields fields).map ((key, a) :: ·)

theorem readFields_map_dump (s : Schema α) (entries : List (String × α)) :
    s.readFields (entries.map fun x => (x.1, s.dump x.2)) = some entries := by
  induction entries with
  | nil => rfl
  | cons x entries ih => rw [List.map_cons, readFields, s.read_dump, ih]; rfl

/-- An object with any keys, and values of one kind. -/
def dict (s : Schema α) : Schema (List (String × α)) where
  dump entries := .object (entries.map fun x => (x.1, s.dump x.2))
  read
    | .object fields => s.readFields fields
    | _ => none
  accepts entries := entries.all fun x => s.accepts x.2
  read_dump := s.readFields_map_dump

/-- An object as it is, with any fields. -/
def mapping : Schema (List (String × Json)) where
  dump := .object
  read
    | .object fields => some fields
    | _ => none
  accepts _ := true
  read_dump _ := rfl

@[simp] theorem accepts_check (s : Schema α) (p : α → Bool) (a : α) :
    (s.check p).accepts a = (s.accepts a && p a) := rfl

@[simp] theorem accepts_optional (s : Schema α) (h : ∀ a, s.dump a ≠ .null) (a : Option α) :
    (s.optional h).accepts a = a.all s.accepts := rfl

@[simp] theorem accepts_list (s : Schema α) (as : List α) :
    s.list.accepts as = as.all s.accepts := rfl

end Schema

/-! ### Objects -/

/-- Some fields of the objects that values of `α` are written as: how each is written, and how
    a `β` is read from the values that names have. A `β` read back is the one of the value
    written. -/
structure Fields (α β : Type) where
  names : List String
  dump : α → List (String × Json)
  read : (String → Option Json) → Option β
  value : α → β
  accepts : α → Bool
  names_dump : ∀ a, (dump a).map Prod.fst = names
  read_dump : ∀ a get, (∀ field ∈ dump a, get field.1 = some field.2) → read get = some (value a)

namespace Fields

variable {α β γ : Type}

/-- No fields yet, before the first argument of a constructor. -/
def make (constructor : β) : Fields α β where
  names := []
  dump _ := []
  read _ := some constructor
  value _ := constructor
  accepts _ := true
  names_dump _ := rfl
  read_dump _ _ _ := rfl

/-- One more field, whose value is the next argument; what a missing one stands for is given. -/
def fieldFrom (f : Fields α (β → γ)) (name : String) (s : Schema β) (missing : Option β)
    (part : α → β) : Fields α γ where
  names := f.names ++ [name]
  dump a := f.dump a ++ [(name, s.dump (part a))]
  read get := (f.read get).bind fun make => ((get name).elim missing s.read).map make
  value a := f.value a (part a)
  accepts a := f.accepts a && s.accepts (part a)
  names_dump a := by rw [List.map_append, f.names_dump]; rfl
  read_dump a get h := by
    have hname := h (name, s.dump (part a)) (List.mem_append_right _ (List.mem_singleton.mpr rfl))
    rw [f.read_dump a get fun x hx => h x (List.mem_append_left _ hx), hname, Option.bind_some,
      Option.elim_some, s.read_dump]
    rfl

/-- One more field, which may not be missing. -/
def field (f : Fields α (β → γ)) (name : String) (s : Schema β) (part : α → β) : Fields α γ :=
  f.fieldFrom name s none part

/-- One more field, with a default. -/
def fieldOr (f : Fields α (β → γ)) (name : String) (s : Schema β) (default : β) (part : α → β) :
    Fields α γ :=
  f.fieldFrom name s (some default) part

/-- A field with the same text in every object. -/
def literal (f : Fields α β) (name text : String) : Fields α β where
  names := f.names ++ [name]
  dump a := f.dump a ++ [(name, .str text)]
  read get := if (get name).getD (.str text) = .str text then f.read get else none
  value := f.value
  accepts := f.accepts
  names_dump a := by rw [List.map_append, f.names_dump]; rfl
  read_dump a get h := by
    have hname := h (name, .str text) (List.mem_append_right _ (List.mem_singleton.mpr rfl))
    rw [hname, Option.getD_some, if_pos rfl,
      f.read_dump a get fun x hx => h x (List.mem_append_left _ hx)]

@[simp] theorem names_make (constructor : β) :
    (make constructor : Fields α β).names = [] := rfl

@[simp] theorem names_literal (f : Fields α β) (name text : String) :
    (f.literal name text).names = f.names ++ [name] := rfl

@[simp] theorem names_field (f : Fields α (β → γ)) (name : String) (s : Schema β) (part : α → β) :
    (f.field name s part).names = f.names ++ [name] := rfl

@[simp] theorem names_fieldOr (f : Fields α (β → γ)) (name : String) (s : Schema β) (default : β)
    (part : α → β) : (f.fieldOr name s default part).names = f.names ++ [name] := rfl

@[simp] theorem accepts_make (constructor : β) (a : α) : (make constructor).accepts a = true := rfl

@[simp] theorem accepts_literal (f : Fields α β) (name text : String) (a : α) :
    (f.literal name text).accepts a = f.accepts a := rfl

@[simp] theorem accepts_field (f : Fields α (β → γ)) (name : String) (s : Schema β) (part : α → β)
    (a : α) : (f.field name s part).accepts a = (f.accepts a && s.accepts (part a)) := rfl

@[simp] theorem accepts_fieldOr (f : Fields α (β → γ)) (name : String) (s : Schema β) (default : β)
    (part : α → β) (a : α) :
    (f.fieldOr name s default part).accepts a = (f.accepts a && s.accepts (part a)) := rfl

/-- The value of a name in a list of fields with different names. -/
theorem lookup_of_mem {fields : List (String × Json)} (h : (fields.map Prod.fst).Nodup)
    {x : String × Json} (hx : x ∈ fields) : fields.lookup x.1 = some x.2 := by
  induction fields with
  | nil => cases hx
  | cons y fields ih =>
    rw [List.map_cons, List.nodup_cons] at h
    rw [List.lookup_cons]
    rcases List.mem_cons.mp hx with rfl | hx
    · rw [beq_self_eq_true]
    · have hne : x.1 ≠ y.1 := fun e => h.1 (e ▸ List.mem_map_of_mem hx)
      rw [beq_eq_false_iff_ne.mpr hne]
      exact ih h.2 hx

/-- An object with exactly these fields. -/
def object (f : Fields α α) (hnames : f.names.Nodup := by exact of_decide_eq_true rfl)
    (hvalue : ∀ a, f.value a = a := by exact fun _ => rfl) : Schema α where
  dump a := .object (f.dump a)
  read
    | .object fields =>
      if fields.all fun x => x.1 ∈ f.names then f.read fun name => fields.lookup name else none
    | _ => none
  accepts := f.accepts
  read_dump a := by
    have hall : ((f.dump a).all fun x => x.1 ∈ f.names) = true := by
      rw [List.all_eq_true]
      intro x hx
      exact decide_eq_true (f.names_dump a ▸ List.mem_map_of_mem hx)
    have hread := f.read_dump a (fun name => (f.dump a).lookup name) fun x hx =>
      lookup_of_mem (by rw [f.names_dump]; exact hnames) hx
    show (if _ then _ else _) = _
    rw [if_pos hall, hread, hvalue]

@[simp] theorem accepts_object (f : Fields α α) (hnames : f.names.Nodup)
    (hvalue : ∀ a, f.value a = a) (a : α) : (f.object hnames hvalue).accepts a = f.accepts a := rfl

end Fields
