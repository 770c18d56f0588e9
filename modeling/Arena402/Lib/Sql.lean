/-
SQL expressions, as PostgreSQL evaluates them.

A value is `none` when it is `NULL`, and a truth value is one of three.  `AND` and `OR` are
evaluated from the left and stop when the left side decides, which matters because a cast on
the right side may raise.  `NUMERIC` is exact: a product has as many decimal places as its
factors have together.
-/
import Arena402.Lib.Decimal

namespace Sql

/-- What a statement raises. -/
inductive Error
  | invalidTextRepresentation
  | numericValueOutOfRange
  | invalidParameterValue
  | noDataFound
  | uniqueViolation
deriving DecidableEq, Repr

@[simp] theorem pure_ok {α : Type} (a : α) : (pure a : Except Error α) = .ok a := rfl

@[simp] theorem ok_bind {α β : Type} (a : α) (f : α → Except Error β) :
    ((Except.ok a : Except Error α) >>= f) = f a := rfl

@[simp] theorem error_bind {α β : Type} (e : Error) (f : α → Except Error β) :
    ((Except.error e : Except Error α) >>= f) = .error e := rfl

@[simp] theorem map_ok {α β : Type} (f : α → β) (a : α) :
    (f <$> (Except.ok a : Except Error α)) = .ok (f a) := rfl

@[simp] theorem map_error {α β : Type} (f : α → β) (e : Error) :
    (f <$> (Except.error e : Except Error α)) = .error e := rfl

/-- A scan whose condition never raises. -/
theorem anyM_map {α β : Type} {g : β → α} {f : α → Except Error Bool} {p : β → Bool} :
    ∀ l : List β, (∀ b ∈ l, f (g b) = .ok (p b)) → (l.map g).anyM f = .ok (l.any p) := by
  intro l
  induction l with
  | nil =>
      intro _
      rfl
  | cons b rest ih =>
      intro h
      have hrest := ih fun b' hb => h b' (List.mem_cons_of_mem b hb)
      rw [List.map_cons, List.anyM_cons, h b List.mem_cons_self, ok_bind, hrest, List.any_cons]
      cases p b <;> rfl

/-! ### Truth values -/

/-- True, false or unknown. -/
abbrev Truth := Option Bool

namespace Truth

/-- `NOT` -/
def not : Truth → Truth
  | some b => some !b
  | none => none

/-- `AND` -/
def and : Truth → Truth → Truth
  | some false, _ => some false
  | some true, b => b
  | none, some false => some false
  | none, _ => none

/-- `OR` -/
def or : Truth → Truth → Truth
  | some true, _ => some true
  | some false, b => b
  | none, some true => some true
  | none, _ => none

/-- `a AND b`, where `b` may raise. -/
def andThen (a : Truth) (b : Except Error Truth) : Except Error Truth :=
  if a = some false then .ok (some false) else b.map a.and

/-- `a OR b`, where `b` may raise. -/
def orElse (a : Truth) (b : Except Error Truth) : Except Error Truth :=
  if a = some true then .ok (some true) else b.map a.or

@[simp] theorem not_some (b : Bool) : not (some b) = some !b := rfl

@[simp] theorem and_some (a b : Bool) : and (some a) (some b) = some (a && b) := by
  cases a <;> rfl

@[simp] theorem or_some (a b : Bool) : or (some a) (some b) = some (a || b) := by
  cases a <;> rfl

@[simp] theorem true_and (b : Truth) : and (some true) b = b := rfl

@[simp] theorem false_and (b : Truth) : and (some false) b = some false := rfl

@[simp] theorem false_or (b : Truth) : or (some false) b = b := rfl

@[simp] theorem or_false (a : Truth) : or a (some false) = a := by
  cases a with
  | none => rfl
  | some b => cases b <;> rfl

@[simp] theorem false_andThen (b : Except Error Truth) : andThen (some false) b = .ok (some false) :=
  rfl

@[simp] theorem true_andThen (b : Except Error Truth) : andThen (some true) b = b := by
  cases b <;> rfl

@[simp] theorem true_orElse (b : Except Error Truth) : orElse (some true) b = .ok (some true) := rfl

@[simp] theorem false_orElse (b : Except Error Truth) : orElse (some false) b = b := by
  cases b <;> rfl

end Truth

section Comparison

variable {α : Type} [DecidableEq α]

/-- `a = b`. -/
def equals (a b : Option α) : Truth :=
  Option.map₂ (fun x y => decide (x = y)) a b

/-- `a <> b`. -/
def differs (a b : Option α) : Truth :=
  (equals a b).not

/-- `a NOT IN (…)`. -/
def notIn (a : Option α) (l : List α) : Truth :=
  a.map fun x => !l.contains x

/-- `a IS NULL`. -/
def isNull {α : Type} (a : Option α) : Truth :=
  some a.isNone

@[simp] theorem equals_some (x y : α) : equals (some x) (some y) = some (decide (x = y)) := rfl

@[simp] theorem differs_some (x y : α) : differs (some x) (some y) = some !(decide (x = y)) := rfl

@[simp] theorem notIn_some (x : α) (l : List α) : notIn (some x) l = some !(l.contains x) := rfl

@[simp] theorem isNull_some {α : Type} (x : α) : isNull (some x) = some false := rfl

@[simp] theorem isNull_none {α : Type} : isNull (none : Option α) = some true := rfl

end Comparison

/-- `a < b` of two integers. -/
def less (a b : Option Int) : Truth :=
  Option.map₂ (fun x y => decide (x < y)) a b

@[simp] theorem less_some (x y : Int) : less (some x) (some y) = some (decide (x < y)) := rfl

/-- The value of the first branch of `IF … ELSIF …` whose condition is true.  The conditions
    after it are not evaluated. -/
def firstBranch {α : Type} : List (Except Error Truth × α) → Except Error (Option α)
  | [] => .ok none
  | (condition, value) :: rest =>
    condition >>= fun c => if c = some true then .ok (some value) else firstBranch rest

section Branches

variable {α : Type} (value : α) (rest : List (Except Error Truth × α))

@[simp] theorem firstBranch_nil : firstBranch ([] : List (Except Error Truth × α)) = .ok none := rfl

@[simp] theorem firstBranch_ok (b : Bool) :
    firstBranch ((.ok (some b), value) :: rest) =
      if b = true then .ok (some value) else firstBranch rest := by
  cases b <;> rfl

@[simp] theorem firstBranch_error (e : Error) :
    firstBranch ((.error e, value) :: rest) = .error e := rfl

@[simp] theorem firstBranch_ite (c : Prop) [Decidable c] (x y : Except Error Truth) :
    firstBranch ((if c then x else y, value) :: rest) =
      if c then firstBranch ((x, value) :: rest) else firstBranch ((y, value) :: rest) := by
  by_cases h : c
  · simp [h]
  · simp [h]

end Branches

/-! ### NUMERIC -/

/-- `coeff / 10 ^ scale`. -/
structure Numeric where
  coeff : Int
  scale : Nat
deriving DecidableEq, Repr

namespace Numeric

/-- The number a `NUMERIC` denotes. -/
def val (a : Numeric) : ℚ :=
  a.coeff / (10 : ℚ) ^ a.scale

/-- An integer as a `NUMERIC`. -/
def ofInt (n : Int) : Numeric :=
  ⟨n, 0⟩

/-- `*` -/
def mul (a b : Numeric) : Numeric :=
  ⟨a.coeff * b.coeff, a.scale + b.scale⟩

/-- The coefficients of two numbers over one scale are compared. -/
def lt (a b : Numeric) : Bool :=
  a.coeff * 10 ^ b.scale < b.coeff * 10 ^ a.scale

/-- `=` -/
def eq (a b : Numeric) : Bool :=
  a.coeff * 10 ^ b.scale = b.coeff * 10 ^ a.scale

/-- `trunc(a)`, towards zero. -/
def trunc (a : Numeric) : Numeric :=
  ⟨a.coeff.tdiv (10 ^ a.scale), 0⟩

/-- A decimal numeral. -/
def ofDecimal (negative : Bool) (d : Py.Decimal) : Numeric :=
  let coeff : Int := if negative then -d.coeff else d.coeff
  if d.exp ≤ 0 then ⟨coeff, (-d.exp).toNat⟩ else ⟨coeff * 10 ^ d.exp.toNat, 0⟩

end Numeric

/-- `a > b` of two `NUMERIC`s. -/
def exceeds (a b : Option Numeric) : Truth :=
  Option.map₂ (fun x y => y.lt x) a b

@[simp] theorem exceeds_some (x y : Numeric) : exceeds (some x) (some y) = some (y.lt x) := rfl

/-! ### Casts from text -/

/-- `text::NUMERIC`.  The special values, `NaN` and the infinities, are left out. -/
def toNumeric : Option String → Except Error (Option Numeric)
  | none => .ok none
  | some text =>
    match Py.Decimal.ofChars text.toList with
    | some (.finite negative d) => .ok (some (.ofDecimal negative d))
    | _ => .error .invalidTextRepresentation

@[simp] theorem toNumeric_none : toNumeric none = .ok none := rfl

/-- An integer of `bits` bits, from text. -/
def toSigned (bits : Nat) : Option String → Except Error (Option Int)
  | none => .ok none
  | some text =>
    match Py.Decimal.parseSigned text.toList with
    | none => .error .invalidTextRepresentation
    | some n =>
      if -2 ^ (bits - 1) ≤ n ∧ n < 2 ^ (bits - 1) then .ok (some n)
      else .error .numericValueOutOfRange

/-- `text::BIGINT`. -/
def toBigint : Option String → Except Error (Option Int) :=
  toSigned 64

/-- `text::INTEGER`. -/
def toInteger : Option String → Except Error (Option Int) :=
  toSigned 32

end Sql
