/-
Which configuration snapshots are accepted, without the order of the scan.

The scan walks a value depth first and threads one counter of nodes through it.  What it counts is
the size of the value, and what it refuses is a node of the value: one that is nested too deep, a
text, a key or a type.  So a scan that returned counted every node and found every node safe, and
since sizes are sums and nodes do not know their order, mappings and sequences can be reordered at
any depth.
-/
import Mathlib.Logic.Relation
import Arena402.Core.ConfigSnapshot
import Arena402.Lib.Raise

namespace Arena402

open Py

/-! ### The nodes of a value -/

/-- A value nested in another one, and how deep. -/
inductive NestedAt : Nat → Value → Value → Prop
  | self (v : Value) : NestedAt 0 v v
  | item {d : Nat} {items : List Value} {item w : Value} (hmem : item ∈ items)
      (h : NestedAt d item w) : NestedAt (d + 1) (.list items) w
  | entry {d : Nat} {entries : List (Key × Value)} {key : Key} {nested w : Value}
      (hmem : (key, nested) ∈ entries) (h : NestedAt d nested w) :
      NestedAt (d + 1) (.dict entries) w

mutual

/-- How many values a value contains, itself included. -/
def Value.nodes : Value → Nat
  | .list items => 1 + nodesOfItems items
  | .dict entries => 1 + nodesOfEntries entries
  | _ => 1

def nodesOfItems : List Value → Nat
  | [] => 0
  | item :: rest => item.nodes + nodesOfItems rest

def nodesOfEntries : List (Key × Value) → Nat
  | [] => 0
  | (_, nested) :: rest => nested.nodes + nodesOfEntries rest

end

theorem nodesOfItems_eq_sum (items : List Value) :
    nodesOfItems items = (items.map Value.nodes).sum := by
  induction items with
  | nil => rfl
  | cons item rest ih => rw [nodesOfItems, ih, List.map_cons, List.sum_cons]

theorem nodesOfEntries_eq_sum (entries : List (Key × Value)) :
    nodesOfEntries entries = (entries.map fun e => e.2.nodes).sum := by
  induction entries with
  | nil => rfl
  | cons e rest ih => rw [nodesOfEntries, ih, List.map_cons, List.sum_cons]

section

variable (T : TextTables)

/-- A key that is a text, visible, not sensitive and not the name of a secret. -/
def SafeKey (key : Key) : Prop :=
  ∃ text, key = .text text ∧ unsafeUnicodeReason T text = none ∧
    sensitiveTextReason T text = none ∧ isSecretBearingKey (normalizeKey T text) = false

/-- A type that a configuration may hold. -/
def SupportedType : Value → Prop
  | .bytes | .float _ | .other => False
  | _ => True

/-- What the scan asks of one node. -/
def SafeNode (value : Value) : Prop :=
  match value with
  | .str text => validateRuntimeControlledText T text = none
  | .dict entries => ∀ e ∈ entries, SafeKey T e.1
  | value => SupportedType value

/-- Every node below is safe and within the depth limit. -/
def AllSafe (depth : Nat) (value : Value) : Prop :=
  ∀ d w, NestedAt d value w → depth + d ≤ maxConfigDepth ∧ SafeNode T w

variable {T} {depth nodes : Nat}

theorem keyReason_eq_none_iff {key : Key} : keyReason T key = none ↔ SafeKey T key := by
  unfold SafeKey
  cases key with
  | other => simp [keyReason]
  | text text =>
      unfold keyReason
      cases hunicode : unsafeUnicodeReason T text with
      | some reason => simp [hunicode]
      | none =>
          cases hsensitive : sensitiveTextReason T text with
          | some _ | none => simp [hunicode, hsensitive]

theorem allSafe_list {items : List Value} :
    AllSafe T depth (.list items) ↔
      depth ≤ maxConfigDepth ∧ ∀ item ∈ items, AllSafe T (depth + 1) item := by
  constructor
  · intro h
    refine ⟨(h 0 _ (.self _)).1, ?_⟩
    intro item hitem d w hw
    obtain ⟨hdepth, hsafe⟩ := h (d + 1) w (.item hitem hw)
    exact ⟨by omega, hsafe⟩
  · rintro ⟨hdepth, hitems⟩ d w hw
    cases hw with
    | self => exact ⟨hdepth, trivial⟩
    | item hmem hw =>
        obtain ⟨hbelow, hsafe⟩ := hitems _ hmem _ w hw
        exact ⟨by omega, hsafe⟩

theorem allSafe_dict {entries : List (Key × Value)} :
    AllSafe T depth (.dict entries) ↔
      depth ≤ maxConfigDepth ∧ ∀ e ∈ entries, SafeKey T e.1 ∧ AllSafe T (depth + 1) e.2 := by
  constructor
  · intro h
    obtain ⟨hdepth, hkeys⟩ := h 0 _ (.self _)
    refine ⟨hdepth, ?_⟩
    intro e he
    refine ⟨hkeys e he, ?_⟩
    intro d w hw
    obtain ⟨hbelow, hsafe⟩ := h (d + 1) w (.entry he hw)
    exact ⟨by omega, hsafe⟩
  · rintro ⟨hdepth, hentries⟩ d w hw
    cases hw with
    | self => exact ⟨hdepth, fun e he => (hentries e he).1⟩
    | entry hmem hw =>
        obtain ⟨hbelow, hsafe⟩ := (hentries _ hmem).2 _ w hw
        exact ⟨by omega, hsafe⟩

/-- A value without children. -/
theorem allSafe_leaf {value : Value} (hleaf : ∀ d w, NestedAt d value w → d = 0 ∧ w = value) :
    AllSafe T depth value ↔ depth ≤ maxConfigDepth ∧ SafeNode T value := by
  constructor
  · intro h
    exact h 0 value (.self value)
  · rintro ⟨hdepth, hsafe⟩ d w hw
    obtain ⟨rfl, rfl⟩ := hleaf d w hw
    exact ⟨hdepth, hsafe⟩

/-! ### The scan -/

/-- What a value with children is scanned to, from what its children are. -/
theorem scan_node {value : Value} {children n : Nat} {body : Except IngressRejectionCode Nat}
    {Below : Prop} (hsafe : AllSafe T depth value ↔ depth ≤ maxConfigDepth ∧ Below)
    (hnodes : value.nodes = 1 + children)
    (hscan : scanConfigValue T depth nodes value =
      if maxConfigNodes < nodes + 1 || maxConfigDepth < depth then .error .unsafeConfigKey else body)
    (hbody : nodes + 1 ≤ maxConfigNodes → (body = .ok n ↔
      Below ∧ nodes + 1 + children ≤ maxConfigNodes ∧ n = nodes + 1 + children)) :
    scanConfigValue T depth nodes value = .ok n ↔
      AllSafe T depth value ∧ nodes + value.nodes ≤ maxConfigNodes ∧ n = nodes + value.nodes := by
  rw [hscan, hnodes, hsafe, ← add_assoc]
  by_cases hlimit : maxConfigNodes < nodes + 1 || maxConfigDepth < depth
  · rw [if_pos hlimit]
    constructor
    · intro h
      cases h
    · rintro ⟨⟨hdepth, -⟩, hbudget, -⟩
      simp only [Bool.or_eq_true, decide_eq_true_eq] at hlimit
      omega
  · rw [if_neg hlimit]
    simp only [Bool.or_eq_true, decide_eq_true_eq, not_or, not_lt] at hlimit
    rw [hbody hlimit.1]
    constructor
    · rintro ⟨hbelow, hrest⟩
      exact ⟨⟨hlimit.2, hbelow⟩, hrest⟩
    · rintro ⟨⟨-, hbelow⟩, hrest⟩
      exact ⟨hbelow, hrest⟩

/-- What a value without children is scanned to. -/
theorem scan_leaf {value : Value} {body : Except IngressRejectionCode Nat} {n : Nat}
    (hleaf : ∀ d w, NestedAt d value w → d = 0 ∧ w = value) (hnodes : value.nodes = 1)
    (hscan : scanConfigValue T depth nodes value =
      if maxConfigNodes < nodes + 1 || maxConfigDepth < depth then .error .unsafeConfigKey else body)
    (hbody : body = .ok n ↔ SafeNode T value ∧ n = nodes + 1) :
    scanConfigValue T depth nodes value = .ok n ↔
      AllSafe T depth value ∧ nodes + value.nodes ≤ maxConfigNodes ∧ n = nodes + value.nodes := by
  have hnone : value.nodes = 1 + 0 := hnodes
  refine scan_node (allSafe_leaf hleaf) hnone hscan ?_
  intro hroom
  rw [hbody]
  exact ⟨fun h => ⟨h.1, hroom, h.2⟩, fun h => ⟨h.1, h.2.2⟩⟩

/-- A value of a type that is counted and let through. -/
theorem scan_counted {value : Value} {n : Nat}
    (hleaf : ∀ d w, NestedAt d value w → d = 0 ∧ w = value) (hnodes : value.nodes = 1)
    (hscan : scanConfigValue T depth nodes value =
      if maxConfigNodes < nodes + 1 || maxConfigDepth < depth then .error .unsafeConfigKey
      else .ok (nodes + 1))
    (hsafe : SafeNode T value) :
    scanConfigValue T depth nodes value = .ok n ↔
      AllSafe T depth value ∧ nodes + value.nodes ≤ maxConfigNodes ∧ n = nodes + value.nodes := by
  refine scan_leaf hleaf hnodes hscan ?_
  constructor
  · intro h
    exact ⟨hsafe, (Except.ok.inj h).symm⟩
  · rintro ⟨-, hn⟩
    rw [hn]

/-- A value of a type that is refused. -/
theorem scan_refused {value : Value} {n : Nat} {code : IngressRejectionCode}
    (hleaf : ∀ d w, NestedAt d value w → d = 0 ∧ w = value) (hnodes : value.nodes = 1)
    (hscan : scanConfigValue T depth nodes value =
      if maxConfigNodes < nodes + 1 || maxConfigDepth < depth then .error .unsafeConfigKey
      else .error code)
    (hnot : ¬ SafeNode T value) :
    scanConfigValue T depth nodes value = .ok n ↔
      AllSafe T depth value ∧ nodes + value.nodes ≤ maxConfigNodes ∧ n = nodes + value.nodes := by
  refine scan_leaf hleaf hnodes hscan ?_
  constructor
  · intro h
    cases h
  · rintro ⟨hsafe, -⟩
    exact absurd hsafe hnot

mutual

/-- **A scan returns the count of a clean value that fits in the budget.** -/
theorem scanConfigValue_ok_iff : ∀ (value : Value) (depth nodes n : Nat),
    scanConfigValue T depth nodes value = .ok n ↔
      AllSafe T depth value ∧ nodes + value.nodes ≤ maxConfigNodes ∧ n = nodes + value.nodes
  | .list items, depth, nodes, n => by
      refine scan_node allSafe_list (by rw [Value.nodes]) (by rw [scanConfigValue]) ?_
      exact fun hroom => scanConfigItems_ok_iff items (depth + 1) (nodes + 1) n hroom
  | .dict entries, depth, nodes, n => by
      refine scan_node allSafe_dict (by rw [Value.nodes]) (by rw [scanConfigValue]) ?_
      exact fun hroom => scanConfigEntries_ok_iff entries (depth + 1) (nodes + 1) n hroom
  | .str text, depth, nodes, n => by
      refine scan_leaf (by rintro d w ⟨⟩; exact ⟨rfl, rfl⟩) rfl (by rw [scanConfigValue]) ?_
      show _ ↔ validateRuntimeControlledText T text = none ∧ n = nodes + 1
      cases hvalidate : validateRuntimeControlledText T text with
      | some code => simp
      | none => simp [eq_comm]
  | .none, depth, nodes, n | .bool _, depth, nodes, n | .int _, depth, nodes, n
  | .decimal _, depth, nodes, n | .datetime _, depth, nodes, n =>
      scan_counted (by rintro d w ⟨⟩; exact ⟨rfl, rfl⟩) rfl (by rw [scanConfigValue]) trivial
  | .float _, depth, nodes, n | .bytes, depth, nodes, n | .other, depth, nodes, n =>
      scan_refused (by rintro d w ⟨⟩; exact ⟨rfl, rfl⟩) rfl (by rw [scanConfigValue]) id

theorem scanConfigItems_ok_iff : ∀ (items : List Value) (depth nodes n : Nat),
    nodes ≤ maxConfigNodes →
      (scanConfigItems T depth nodes items = .ok n ↔
        (∀ item ∈ items, AllSafe T depth item) ∧ nodes + nodesOfItems items ≤ maxConfigNodes ∧
          n = nodes + nodesOfItems items)
  | [], depth, nodes, n, h => by
      rw [scanConfigItems, nodesOfItems]
      simp [h, eq_comm]
  | item :: rest, depth, nodes, n, h => by
      have hitem := scanConfigValue_ok_iff item depth nodes
      rw [scanConfigItems, nodesOfItems, List.forall_mem_cons]
      cases hscan : scanConfigValue T depth nodes item with
      | error code =>
          constructor
          · intro hc
            cases hc
          · rintro ⟨⟨hsafe, -⟩, hbudget, -⟩
            have hok := (hitem _).mpr ⟨hsafe, by omega, rfl⟩
            rw [hscan] at hok
            cases hok
      | ok m =>
          obtain ⟨hsafe, hbudget, rfl⟩ := (hitem m).mp hscan
          dsimp only
          rw [scanConfigItems_ok_iff rest depth _ n hbudget, add_assoc]
          constructor
          · rintro ⟨hrest, hmore⟩
            exact ⟨⟨hsafe, hrest⟩, hmore⟩
          · rintro ⟨⟨-, hrest⟩, hmore⟩
            exact ⟨hrest, hmore⟩

theorem scanConfigEntries_ok_iff : ∀ (entries : List (Key × Value)) (depth nodes n : Nat),
    nodes ≤ maxConfigNodes →
      (scanConfigEntries T depth nodes entries = .ok n ↔
        (∀ e ∈ entries, SafeKey T e.1 ∧ AllSafe T depth e.2) ∧
          nodes + nodesOfEntries entries ≤ maxConfigNodes ∧ n = nodes + nodesOfEntries entries)
  | [], depth, nodes, n, h => by
      rw [scanConfigEntries, nodesOfEntries]
      simp [h, eq_comm]
  | (key, nested) :: rest, depth, nodes, n, h => by
      have hnested := scanConfigValue_ok_iff nested depth nodes
      rw [scanConfigEntries, nodesOfEntries, List.forall_mem_cons]
      cases hkey : keyReason T key with
      | some code =>
          constructor
          · intro hc
            cases hc
          · rintro ⟨⟨⟨hsafe, -⟩, -⟩, -⟩
            have hnone := keyReason_eq_none_iff.mpr hsafe
            rw [hkey] at hnone
            cases hnone
      | none =>
          have hsafe := keyReason_eq_none_iff.mp hkey
          dsimp only
          cases hscan : scanConfigValue T depth nodes nested with
          | error code =>
              constructor
              · intro hc
                cases hc
              · rintro ⟨⟨⟨-, hbelow⟩, -⟩, hbudget, -⟩
                have hok := (hnested _).mpr ⟨hbelow, by omega, rfl⟩
                rw [hscan] at hok
                cases hok
          | ok m =>
              obtain ⟨hbelow, hbudget, rfl⟩ := (hnested m).mp hscan
              dsimp only
              rw [scanConfigEntries_ok_iff rest depth _ n hbudget, add_assoc]
              constructor
              · rintro ⟨hrest, hmore⟩
                exact ⟨⟨⟨hsafe, hbelow⟩, hrest⟩, hmore⟩
              · rintro ⟨⟨-, hrest⟩, hmore⟩
                exact ⟨hrest, hmore⟩

end

/-! ### Reordering -/

/-- A value with the entries of one mapping, or the elements of one sequence, in another order. -/
inductive Reordered : Value → Value → Prop
  | items {items items' : List Value} (h : items.Perm items') : Reordered (.list items) (.list items')
  | entries {entries entries' : List (Key × Value)} (h : entries.Perm entries') :
      Reordered (.dict entries) (.dict entries')
  | inItem {before after : List Value} {v w : Value} (h : Reordered v w) :
      Reordered (.list (before ++ v :: after)) (.list (before ++ w :: after))
  | inEntry {before after : List (Key × Value)} {key : Key} {v w : Value} (h : Reordered v w) :
      Reordered (.dict (before ++ (key, v) :: after)) (.dict (before ++ (key, w) :: after))

theorem Reordered.nodes_eq {v w : Value} (h : Reordered v w) : v.nodes = w.nodes := by
  induction h with
  | items h =>
      rw [Value.nodes, Value.nodes, nodesOfItems_eq_sum, nodesOfItems_eq_sum]
      rw [(h.map Value.nodes).sum_eq]
  | entries h =>
      rw [Value.nodes, Value.nodes, nodesOfEntries_eq_sum, nodesOfEntries_eq_sum]
      rw [(h.map fun e => e.2.nodes).sum_eq]
  | inItem h ih =>
      rw [Value.nodes, Value.nodes, nodesOfItems_eq_sum, nodesOfItems_eq_sum]
      simp [ih]
  | inEntry h ih =>
      rw [Value.nodes, Value.nodes, nodesOfEntries_eq_sum, nodesOfEntries_eq_sum]
      simp [ih]

theorem Reordered.allSafe_iff {v w : Value} (h : Reordered v w) :
    ∀ depth, AllSafe T depth v ↔ AllSafe T depth w := by
  induction h with
  | items h =>
      intro depth
      rw [allSafe_list, allSafe_list]
      refine and_congr Iff.rfl (forall_congr' fun item => ?_)
      rw [h.mem_iff]
  | entries h =>
      intro depth
      rw [allSafe_dict, allSafe_dict]
      refine and_congr Iff.rfl (forall_congr' fun e => ?_)
      rw [h.mem_iff]
  | inItem h ih =>
      intro depth
      rw [allSafe_list, allSafe_list]
      simp only [List.forall_mem_append, List.forall_mem_cons, ih]
  | inEntry h ih =>
      intro depth
      rw [allSafe_dict, allSafe_dict]
      simp only [List.forall_mem_append, List.forall_mem_cons, ih]

theorem Reordered.dict_iff {v w : Value} (h : Reordered v w) :
    (∃ entries, v = .dict entries) ↔ ∃ entries, w = .dict entries := by
  cases h with
  | items h => simp
  | entries h => simp
  | inItem h => simp
  | inEntry h => simp

/-! ### The snapshot -/

mutual

theorem deepcopy_eq : ∀ value : Value, deepcopy value = value
  | .list items => by rw [deepcopy, deepcopyItems_eq items]
  | .dict entries => by rw [deepcopy, deepcopyEntries_eq entries]
  | .none | .bool _ | .int _ | .float _ | .decimal _ | .datetime _ | .str _ | .bytes | .other => rfl

theorem deepcopyItems_eq : ∀ items : List Value, deepcopyItems items = items
  | [] => rfl
  | item :: rest => by rw [deepcopyItems, deepcopy_eq item, deepcopyItems_eq rest]

theorem deepcopyEntries_eq : ∀ entries : List (Key × Value), deepcopyEntries entries = entries
  | [] => rfl
  | (key, nested) :: rest => by rw [deepcopyEntries, deepcopy_eq nested, deepcopyEntries_eq rest]

end

variable (T) in
/-- A configuration that may be persisted, whatever the order of its entries. -/
structure Persistable (snapshot : Value) : Prop where
  mapping : ∃ entries, snapshot = .dict entries
  nodes : snapshot.nodes ≤ maxConfigNodes
  depth : ∀ d w, NestedAt d snapshot w → d ≤ maxConfigDepth
  keys : ∀ d entries, NestedAt d snapshot (.dict entries) → ∀ e ∈ entries, SafeKey T e.1
  texts : ∀ d text, NestedAt d snapshot (.str text) → validateRuntimeControlledText T text = none
  types : ∀ d w, NestedAt d snapshot w → SupportedType w

theorem persistable_iff {snapshot : Value} :
    Persistable T snapshot ↔ (∃ entries, snapshot = .dict entries) ∧ AllSafe T 0 snapshot ∧
      snapshot.nodes ≤ maxConfigNodes := by
  constructor
  · intro h
    refine ⟨h.mapping, ?_, h.nodes⟩
    intro d w hw
    refine ⟨by rw [zero_add]; exact h.depth d w hw, ?_⟩
    cases w with
    | str text => exact h.texts d text hw
    | dict entries => exact h.keys d entries hw
    | _ => exact h.types d _ hw
  · rintro ⟨hmapping, hsafe, hnodes⟩
    refine ⟨hmapping, hnodes, ?_, ?_, ?_, ?_⟩
    · intro d w hw
      have hdepth := (hsafe d w hw).1
      rwa [zero_add] at hdepth
    · exact fun d entries hw => (hsafe d _ hw).2
    · exact fun d text hw => (hsafe d _ hw).2
    · intro d w hw
      have hsafe := (hsafe d w hw).2
      cases w with
      | str text => trivial
      | dict entries => trivial
      | _ => exact hsafe

theorem detachedConfigSnapshot_ok_iff {snapshot result : Value} :
    detachedConfigSnapshot T snapshot = .ok result ↔ Persistable T snapshot ∧ result = snapshot := by
  rw [persistable_iff]
  cases snapshot with
  | dict entries =>
      have hscan := fun n => @scanConfigValue_ok_iff T (.dict entries) 0 0 n
      simp only [zero_add] at hscan
      unfold detachedConfigSnapshot
      dsimp only
      rw [deepcopy_eq]
      constructor
      · intro h
        obtain ⟨n, hn, h⟩ := ok_of_bind h
        obtain ⟨hsafe, hnodes, -⟩ := (hscan n).mp hn
        exact ⟨⟨⟨entries, rfl⟩, hsafe, hnodes⟩, (Except.ok.inj h).symm⟩
      · rintro ⟨⟨-, hsafe, hnodes⟩, rfl⟩
        rw [(hscan _).mpr ⟨hsafe, hnodes, rfl⟩]
        rfl
  | _ => simp [detachedConfigSnapshot]

theorem Reordered.persistable_iff {v w : Value} (h : Reordered v w) :
    Persistable T v ↔ Persistable T w := by
  rw [Arena402.persistable_iff, Arena402.persistable_iff, h.dict_iff, h.allSafe_iff 0, h.nodes_eq]

end

/-- **Exactly the persistable mappings are accepted.**  A snapshot is returned if and only if it is a
    mapping with few enough nodes, none too deep, with safe keys, texts and types; in any order of the
    entries and elements, at any depth; and what is returned equals what was given. -/
theorem secure_config_snapshot_accepts (T : TextTables) :
    (∀ snapshot, (∃ result, detachedConfigSnapshot T snapshot = .ok result) ↔ Persistable T snapshot) ∧
    (∀ snapshot snapshot', Relation.EqvGen Reordered snapshot snapshot' →
      ((∃ result, detachedConfigSnapshot T snapshot = .ok result) ↔
        ∃ result, detachedConfigSnapshot T snapshot' = .ok result)) ∧
    ∀ snapshot result, detachedConfigSnapshot T snapshot = .ok result → result = snapshot := by
  have haccepts : ∀ snapshot,
      (∃ result, detachedConfigSnapshot T snapshot = .ok result) ↔ Persistable T snapshot := by
    intro snapshot
    constructor
    · rintro ⟨result, h⟩
      exact (detachedConfigSnapshot_ok_iff.mp h).1
    · exact fun h => ⟨snapshot, detachedConfigSnapshot_ok_iff.mpr ⟨h, rfl⟩⟩
  refine ⟨haccepts, ?_, fun snapshot result h => (detachedConfigSnapshot_ok_iff.mp h).2⟩
  intro snapshot snapshot' h
  rw [haccepts, haccepts]
  induction h with
  | rel v w h => exact h.persistable_iff
  | refl v => exact Iff.rfl
  | symm v w _ ih => exact ih.symm
  | trans u v w _ _ ih ih' => exact ih.trans ih'

end Arena402
