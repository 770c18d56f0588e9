/-
Machine words and accounts of the EVM.

A word has 256 bits and an account 160; sums over the accounts are sums over all of them.
The lemmas say how a total over the accounts moves when one balance is written, and that the
words of an `abi.encode` can be read back.
-/
import Mathlib.Tactic

namespace Evm

/-- A word of the machine. -/
abbrev Word := BitVec 256

/-- An account. -/
abbrev Address := BitVec 160

abbrev Bytes := List UInt8

/-- Every account. -/
instance : Fintype Address :=
  Fintype.ofEquiv (Fin (2 ^ 160)) ⟨BitVec.ofFin, BitVec.toFin, fun _ => rfl, fun _ => rfl⟩

/-! ### Arithmetic -/

/-- How additions and subtractions are computed: `none` is a panic. -/
structure Arithmetic where
  add : Word → Word → Option Word
  sub : Word → Word → Option Word

/-- Arithmetic that panics where it would wrap. -/
def Arithmetic.checked : Arithmetic where
  add a b := if a.toNat + b.toNat < 2 ^ 256 then some (a + b) else none
  sub a b := if b ≤ a then some (a - b) else none

/-- The arithmetic of an `unchecked` block. -/
def Arithmetic.wrapping : Arithmetic where
  add a b := some (a + b)
  sub a b := some (a - b)

theorem checked_add_of_lt {a b : Word} (h : a.toNat + b.toNat < 2 ^ 256) :
    Arithmetic.checked.add a b = some (a + b) :=
  if_pos h

theorem checked_sub_of_le {a b : Word} (h : b ≤ a) : Arithmetic.checked.sub a b = some (a - b) :=
  if_pos h

theorem checked_add_eq_some {a b c : Word} (h : Arithmetic.checked.add a b = some c) :
    c.toNat = a.toNat + b.toNat := by
  simp only [Arithmetic.checked] at h
  by_cases hlt : a.toNat + b.toNat < 2 ^ 256
  · rw [if_pos hlt] at h
    obtain rfl := Option.some.inj h
    exact BitVec.toNat_add_of_lt hlt
  · rw [if_neg hlt] at h
    cases h

/-! ### Totals over the accounts -/

section Totals

variable {A : Type} [Fintype A]

/-- The total of a mapping of balances. -/
def total (b : A → Word) : Nat :=
  ∑ a, (b a).toNat

theorem le_total (b : A → Word) (a : A) : (b a).toNat ≤ total b :=
  Finset.single_le_sum (f := fun x => (b x).toNat) (fun _ _ => Nat.zero_le _) (Finset.mem_univ a)

variable [DecidableEq A]

/-- Writing one balance changes the total by what that balance changed. -/
theorem total_update (b : A → Word) (a : A) (w : Word) :
    total (Function.update b a w) + (b a).toNat = total b + w.toNat := by
  unfold total
  rw [← Finset.add_sum_erase Finset.univ _ (Finset.mem_univ a),
    ← Finset.add_sum_erase Finset.univ (fun x => (b x).toNat) (Finset.mem_univ a)]
  have hrest : ∑ x ∈ Finset.univ.erase a, (Function.update b a w x).toNat
      = ∑ x ∈ Finset.univ.erase a, (b x).toNat := by
    refine Finset.sum_congr rfl fun x hx => ?_
    rw [Function.update_of_ne (Finset.ne_of_mem_erase hx)]
  rw [hrest, Function.update_self]
  omega

end Totals

/-! ### `abi.encode` -/

/-- The 32 bytes of a word, the highest first. -/
def wordBytes (w : Word) : Bytes :=
  (List.range 32).map fun i => UInt8.ofBitVec (w.extractLsb' (8 * (31 - i)) 8)

@[simp] theorem length_wordBytes (w : Word) : (wordBytes w).length = 32 := by
  simp [wordBytes]

theorem wordBytes_injective {w w' : Word} (h : wordBytes w = wordBytes w') : w = w' := by
  have hbyte : ∀ i, i < 32 →
      w.extractLsb' (8 * (31 - i)) 8 = w'.extractLsb' (8 * (31 - i)) 8 := by
    intro i hi
    have hget := List.map_inj_left.mp h i (List.mem_range.mpr hi)
    exact congrArg UInt8.toBitVec hget
  refine BitVec.eq_of_getLsbD_eq fun j hj => ?_
  have hbit := congrArg (fun b => b.getLsbD (j % 8)) (hbyte (31 - j / 8) (by omega))
  have hplace : 8 * (31 - (31 - j / 8)) + j % 8 = j := by omega
  have hsmall : j % 8 < 8 := Nat.mod_lt _ (by omega)
  simpa [BitVec.getLsbD_extractLsb', hplace, hsmall] using hbit

/-- `abi.encode` of static values: one word each. -/
def abiEncode (ws : List Word) : Bytes :=
  ws.flatMap wordBytes

theorem abiEncode_injective : ∀ {ws ws' : List Word}, abiEncode ws = abiEncode ws' → ws = ws' := by
  intro ws
  induction ws with
  | nil =>
      intro ws' h
      have hlength := congrArg List.length h
      simp only [abiEncode, List.flatMap_nil, List.length_nil, List.length_flatMap,
        length_wordBytes, List.map_const', List.sum_replicate] at hlength
      have : ws'.length = 0 := by simpa using hlength.symm
      exact (List.eq_nil_of_length_eq_zero this).symm
  | cons w rest ih =>
      intro ws' h
      obtain _ | ⟨w', rest'⟩ := ws'
      · have hlength := congrArg List.length h
        simp [abiEncode] at hlength
      · have hsplit : wordBytes w ++ abiEncode rest = wordBytes w' ++ abiEncode rest' := h
        obtain ⟨hhead, htail⟩ := List.append_inj hsplit (by simp)
        rw [wordBytes_injective hhead, ih htail]

/-- An account as a word. -/
def addressWord (a : Address) : Word :=
  a.setWidth 256

theorem addressWord_injective {a a' : Address} (h : addressWord a = addressWord a') : a = a' := by
  have hback := congrArg (fun w => BitVec.setWidth 160 w) h
  simpa [addressWord] using hback

end Evm
