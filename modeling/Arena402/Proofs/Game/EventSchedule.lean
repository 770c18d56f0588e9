/-
What the database gives back of an event schedule.

JSONB keeps the value and may reorder the members of an object, so a written effect is known by what
is looked up in it.  Each kind of member is read as it was written: a name is one of the names, a
number is a number, and a price in decimal digits reads as itself.
-/
import Arena402.Game.EventDeck
import Arena402.Game.EventSchedule
import Arena402.Proofs.Game.EventCommitment

namespace Arena402.Game

open Py

/-! ### Integers written in digits -/

theorem digit_facts {c : Char} (h : c.isDigit = true) :
    c.toNat < 128 ∧ isAsciiSpace c = false ∧ c ≠ '_' ∧ c ≠ '-' ∧ c ≠ '+' := by
  have hrange : 48 ≤ c.toNat ∧ c.toNat ≤ 57 := Char.isDigit_iff_toNat.mp h
  refine ⟨by omega, ?_, ?_, ?_, ?_⟩
  · unfold isAsciiSpace
    simp only [Bool.or_eq_false_iff, Bool.and_eq_false_iff, decide_eq_false_iff_not]
    omega
  all_goals
    intro hc
    subst hc
    revert hrange
    decide

theorem intBody_toDigits (n : Nat) : intBody (Nat.toDigits 10 n) = some n := by
  have hdigit : ∀ c ∈ Nat.toDigits 10 n, c.isDigit = true := Decimal.isDigit_toDigits
  have hno : '_' ∉ Nat.toDigits 10 n := fun hmem => (digit_facts (hdigit _ hmem)).2.2.1 rfl
  have hempty : (Nat.toDigits 10 n).isEmpty = false := by
    rw [List.isEmpty_eq_false_iff]
    exact Nat.toDigits_ne_nil
  have hall : (Nat.toDigits 10 n).all (fun c => c.isDigit || c = '_') = true := by
    rw [List.all_eq_true]
    intro c hc
    rw [hdigit c hc, Bool.true_or]
  have hhead : (Nat.toDigits 10 n).head? ≠ some '_' := fun h => hno (List.mem_of_head? h)
  have hlast : (Nat.toDigits 10 n).getLast? ≠ some '_' := fun h => hno (List.mem_of_getLast? h)
  have hfilter : (Nat.toDigits 10 n).filter Char.isDigit = Nat.toDigits 10 n :=
    List.filter_eq_self.mpr hdigit
  unfold intBody
  rw [hempty, hall, contains_of_not_mem _ hno, hfilter]
  simp [hhead, hlast]

/-- A written integer is converted as it is. -/
theorem intSource_intText (n : Int) : intSource (Json.intText n) = Json.intText n := by
  apply intSource_eq_self
  intro c hc
  have hdigits : ∀ d ∈ Nat.toDigits 10 n.natAbs, d.toNat < 128 ∧ isAsciiSpace d = false :=
    fun d hd => ⟨(digit_facts (Decimal.isDigit_toDigits d hd)).1,
      (digit_facts (Decimal.isDigit_toDigits d hd)).2.1⟩
  unfold Json.intText at hc
  split at hc
  · rcases List.mem_cons.mp hc with rfl | hc
    · decide
    · exact hdigits c hc
  · exact hdigits c hc

theorem parseInt_intText {n : Int} (h : writableInt n = true) :
    parseInt (Json.intText n) = some n := by
  have hshort : ¬ 4300 < ((Json.intText n).filter Char.isDigit).length := by
    have hlen : (Nat.toDigits 10 n.natAbs).length ≤ 4300 := of_decide_eq_true h
    have hfilter := List.length_filter_le Char.isDigit (Nat.toDigits 10 n.natAbs)
    unfold Json.intText
    split
    · rw [List.filter_cons_of_neg (by decide)]
      omega
    · omega
  unfold parseInt
  rw [intSource_intText]
  dsimp only
  rw [if_neg hshort]
  unfold Json.intText
  by_cases hneg : n < 0
  · rw [if_pos hneg]
    simp only [intBody_toDigits]
    show some (-(n.natAbs : Int)) = some n
    rw [Int.ofNat_natAbs_of_nonpos (by omega), neg_neg]
  · rw [if_neg hneg]
    cases hcs : Nat.toDigits 10 n.natAbs with
    | nil => exact absurd hcs Nat.toDigits_ne_nil
    | cons c rest =>
        have hdigit : c.isDigit = true :=
          Decimal.isDigit_toDigits (n := n.natAbs) c (by rw [hcs]; exact List.mem_cons_self)
        have hc := digit_facts hdigit
        split
        · rename_i heq
          exact absurd (List.cons.inj heq).1 hc.2.2.2.1
        · rename_i heq
          exact absurd (List.cons.inj heq).1 hc.2.2.2.2
        · rw [← hcs, intBody_toDigits]
          show some ((n.natAbs : Int)) = some n
          rw [Int.natAbs_of_nonneg (by omega)]

theorem wireInt_intStr {n : Int} (h : writableInt n = true) : wireInt (Json.intStr n) = .ok n := by
  unfold Json.intStr wireInt
  simp only [String.toList_ofList, parseInt_intText h]

/-! ### Values that JSONB keeps -/

theorem eq_str_of_canonical {v : Json} {s : String} (h : v.canonical = .str s) : v = .str s := by
  cases v with
  | str t => rwa [Json.canonical_str] at h
  | null => rw [Json.canonical_null] at h; cases h
  | bool b => rw [Json.canonical_bool] at h; cases h
  | int n => rw [Json.canonical_int] at h; cases h
  | list items => rw [Json.canonical_list] at h; cases h
  | object fields => rw [Json.canonical] at h; cases h

theorem eq_int_of_canonical {v : Json} {n : Int} (h : v.canonical = .int n) : v = .int n := by
  cases v with
  | int m => rwa [Json.canonical_int] at h
  | null => rw [Json.canonical_null] at h; cases h
  | bool b => rw [Json.canonical_bool] at h; cases h
  | str s => rw [Json.canonical_str] at h; cases h
  | list items => rw [Json.canonical_list] at h; cases h
  | object fields => rw [Json.canonical] at h; cases h

theorem list_of_canonical {v : Json} {items : List Json}
    (h : v.canonical = Json.canonical (.list items)) :
    ∃ kept, v = .list kept ∧ kept.map Json.canonical = items.map Json.canonical := by
  rw [Json.canonical_list] at h
  cases v with
  | list kept =>
      rw [Json.canonical_list, Json.list.injEq] at h
      exact ⟨kept, rfl, h⟩
  | null => rw [Json.canonical_null] at h; cases h
  | bool b => rw [Json.canonical_bool] at h; cases h
  | int n => rw [Json.canonical_int] at h; cases h
  | str s => rw [Json.canonical_str] at h; cases h
  | object fields => rw [Json.canonical] at h; cases h

theorem object_of_canonical {v : Json} {fields : List (String × Json)}
    (hnodup : (fields.map Prod.fst).Nodup) (h : v.canonical = Json.canonical (.object fields)) :
    ∃ kept, v = .object kept ∧
      ∀ key, (kept.lookup key).map Json.canonical = (fields.lookup key).map Json.canonical := by
  cases v with
  | object kept =>
      refine ⟨kept, rfl, Json.lookup_of_canonical ?_ hnodup h⟩
      -- The keys of both are the keys of the one sorted list.
      rw [Json.canonical, Json.canonical, Json.object.injEq] at h
      have hkept : ((Json.sortFields (Json.canonicalFields kept)).map Prod.fst).Perm
          (kept.map Prod.fst) := by
        rw [← Json.keys_canonicalFields kept]
        exact (List.perm_insertionSort _ _).map Prod.fst
      have hfields : ((Json.sortFields (Json.canonicalFields fields)).map Prod.fst).Perm
          (fields.map Prod.fst) := by
        rw [← Json.keys_canonicalFields fields]
        exact (List.perm_insertionSort _ _).map Prod.fst
      rw [h] at hkept
      exact (hkept.symm.trans hfields).nodup_iff.mpr hnodup
  | null => rw [Json.canonical_null, Json.canonical] at h; cases h
  | bool b => rw [Json.canonical_bool, Json.canonical] at h; cases h
  | int n => rw [Json.canonical_int, Json.canonical] at h; cases h
  | str s => rw [Json.canonical_str, Json.canonical] at h; cases h
  | list items => rw [Json.canonical_list, Json.canonical] at h; cases h

/-! ### Members -/

variable {kept : List (String × Json)} {key : String}

theorem lookup_str {s : String} (h : (kept.lookup key).map Json.canonical = some (.str s)) :
    kept.lookup key = some (.str s) := by
  obtain ⟨v, hv, hcanonical⟩ := Option.map_eq_some_iff.mp h
  rw [hv, eq_str_of_canonical hcanonical]

theorem intMember_none (h : (kept.lookup key).map Json.canonical = none) :
    intMember kept key = .ok none := by
  unfold intMember
  rw [Option.map_eq_none_iff.mp h]

theorem intMember_int {x : Option Int}
    (h : (kept.lookup key).map Json.canonical = (x.map Json.int).map Json.canonical) :
    intMember kept key = .ok x := by
  cases x with
  | none => exact intMember_none h
  | some n =>
      rw [Option.map_some, Option.map_some, Json.canonical_int] at h
      obtain ⟨v, hv, hcanonical⟩ := Option.map_eq_some_iff.mp h
      unfold intMember
      rw [hv, eq_int_of_canonical hcanonical]
      rfl

theorem intMember_intStr {x : Option Int} (hwritable : x.all writableInt = true)
    (h : (kept.lookup key).map Json.canonical = (x.map Json.intStr).map Json.canonical) :
    intMember kept key = .ok x := by
  cases x with
  | none => exact intMember_none h
  | some n =>
      rw [Option.map_some, Option.map_some, Json.canonical_intStr] at h
      have hn : writableInt n = true := hwritable
      have hv : kept.lookup key = some (Json.intStr n) := lookup_str h
      have hread := wireInt_intStr hn
      unfold intMember
      rw [hv]
      unfold Json.intStr at hread ⊢
      show some <$> wireInt _ = _
      rw [hread]
      rfl

theorem EffectKind.ofValue_value (kind : EffectKind) : EffectKind.ofValue kind.value = some kind := by
  cases kind <;> rfl

theorem Good.ofId_id (good : Good) : Good.ofId good.id = some good := by
  cases good <;> rfl

theorem PriceTarget.ofValue_value (target : PriceTarget) :
    PriceTarget.ofValue target.value = some target := by
  cases target <;> rfl

/-! ### Effects and events -/

theorem effectOf_kept {e : EventEffect} {raw : Json} (hpost : e.postInit = .ok e)
    (hwritable : e.writable = true) (hraw : raw.canonical = e.toWire.canonical) :
    effectOf raw = .ok e := by
  obtain ⟨kept, rfl, hfield⟩ := object_of_canonical (EventEffect.keys_nodup e) hraw
  unfold EventEffect.writable at hwritable
  simp only [Bool.and_eq_true] at hwritable
  have hkind := hfield "kind"
  have hgood := hfield "good"
  have htarget := hfield "target"
  have hbps := hfield "basisPoints"
  have hprice := hfield "orderPriceAtomic"
  have hlimit := hfield "orderLimit"
  simp only [EventEffect.wireFields, List.lookup_append, List.lookup_cons, List.cons_append,
    List.nil_append, Json.lookup_optField, String.reduceBEq, String.reduceEq, if_true, if_false,
    Option.none_or, Option.or_none, Json.canonical_str, Option.map_some]
    at hkind hgood htarget hbps hprice hlimit
  unfold effectOf nameMember targetMember
  simp only [lookup_str hkind, lookup_str hgood, lookup_str htarget, nameOf,
    EffectKind.ofValue_value, Good.ofId_id, PriceTarget.ofValue_value, intMember_int hbps,
    intMember_intStr hwritable.1.2 hprice, intMember_int hlimit]
  exact hpost

theorem mapM_effectOf : ∀ {effects : List EventEffect} {kept : List Json},
    (∀ e ∈ effects, e.postInit = .ok e ∧ e.writable = true) →
    kept.map Json.canonical = (effects.map EventEffect.toWire).map Json.canonical →
    kept.mapM effectOf = .ok effects := by
  intro effects
  induction effects with
  | nil =>
      intro kept _ hkept
      rw [List.map_nil, List.map_nil, List.map_eq_nil_iff] at hkept
      rw [hkept]
      rfl
  | cons e rest ih =>
      intro kept heffects hkept
      cases kept with
      | nil => cases hkept
      | cons raw more =>
          simp only [List.map_cons, List.cons.injEq] at hkept
          have he := heffects e List.mem_cons_self
          rw [List.mapM_cons, effectOf_kept he.1 he.2 hkept.1,
            ih (fun x hx => heffects x (List.mem_cons_of_mem e hx)) hkept.2]
          rfl

variable {jsonb : Json → Json} {events : List WorldEvent} {rows : List EventRow}

/-- **An event that the database took is read as it was written.** -/
theorem eventOf_row (hjsonb : ∀ v, (jsonb v).canonical = v.canonical) {e : WorldEvent}
    (hconstructible : e.Constructible) (hwritable : e.effects.all EventEffect.writable = true) :
    eventOf (e.row jsonb) = .ok e := by
  obtain ⟨kept, hkept, hitems⟩ := list_of_canonical
    (hjsonb (.list (e.effects.map EventEffect.toWire)))
  rw [List.all_eq_true] at hwritable
  unfold eventOf WorldEvent.row
  dsimp only
  rw [hkept]
  dsimp only
  rw [mapM_effectOf (fun x hx => ⟨hconstructible.2 x hx, hwritable x hx⟩) hitems]
  exact hconstructible.1

/-! ### What the database takes -/

/-- Python writes the integers of the effects, and the columns take the event. -/
def WorldEvent.Storable (e : WorldEvent) : Prop :=
  e.effects.all EventEffect.writable = true ∧ e.fitsColumns = true

theorem WorldEvent.Constructible.passesChecks {e : WorldEvent} (h : e.Constructible) :
    e.passesChecks = true := by
  have hpost := h.1
  unfold WorldEvent.postInit at hpost
  obtain ⟨hid, hpost⟩ := ok_of_guard hpost
  obtain ⟨hname, hpost⟩ := ok_of_guard hpost
  obtain ⟨hnarrative, hpost⟩ := ok_of_guard hpost
  obtain ⟨hround, hpost⟩ := ok_of_guard hpost
  obtain ⟨hduration, -⟩ := ok_of_guard hpost
  have hgiven : e.displayName ≠ "" := by
    intro hempty
    rw [hempty] at hname
    exact hname (by decide)
  have hdurations : e.durationRounds.all (1 ≤ ·) = true := by
    cases hd : e.durationRounds with
    | none => rfl
    | some d =>
        rw [hd] at hduration
        simpa using hduration
  simp only [Bool.or_eq_true, decide_eq_true_eq, not_or, Bool.not_eq_true, Bool.not_eq_eq_eq_not,
    Bool.not_true, Bool.not_eq_false] at hid hname
  unfold WorldEvent.passesChecks
  simp only [Bool.and_eq_true, decide_eq_true_eq]
  exact ⟨⟨⟨⟨⟨by omega, hid⟩, hgiven⟩, by omega⟩, by omega⟩, hdurations⟩

/-- No row of the game has the round or the id of the event. -/
def Vacant (rows : List EventRow) (e : WorldEvent) : Prop :=
  ∀ r ∈ rows, r.roundIndex ≠ e.revealRound ∧ r.eventId ≠ e.eventId

theorem insertEvent_ok_iff {e : WorldEvent} {rows' : List EventRow} (h : e.Constructible) :
    insertEvent jsonb rows e = .ok rows' ↔
      e.Storable ∧ Vacant rows e ∧ rows' = rows ++ [e.row jsonb] := by
  have htaken : (rows.any fun r => r.roundIndex = e.revealRound || r.eventId = e.eventId) = true ↔
      ¬ Vacant rows e := by
    simp only [Vacant, List.any_eq_true, Bool.or_eq_true, decide_eq_true_eq, not_forall, not_and_or,
      not_not, exists_prop]
  unfold insertEvent WorldEvent.Storable
  by_cases hwritable : e.effects.all EventEffect.writable = true
  · by_cases hfits : e.fitsColumns = true
    · by_cases hvacant : Vacant rows e
      · rw [if_neg (by simp [hwritable]), if_neg (by simp [hfits]),
          if_neg (by simp [h.passesChecks]), if_neg (mt htaken.mp (not_not.mpr hvacant))]
        simp only [hwritable, hfits, hvacant, true_and, Except.ok.injEq, eq_comm]
      · rw [if_neg (by simp [hwritable]), if_neg (by simp [hfits]),
          if_neg (by simp [h.passesChecks]), if_pos (htaken.mpr hvacant)]
        simp [hvacant]
    · rw [if_neg (by simp [hwritable]), if_pos (by simp [hfits])]
      simp [hfits]
  · rw [if_pos (by simp [hwritable])]
    simp [hwritable]

/-- The rows that the loop adds. -/
theorem foldlM_insertEvent : ∀ {events : List WorldEvent} {rows rows' : List EventRow},
    (∀ e ∈ events, e.Constructible) →
    (events.foldlM (insertEvent jsonb) rows = .ok rows' ↔
      (∀ e ∈ events, e.Storable ∧ Vacant rows e) ∧ (events.map (·.revealRound)).Nodup ∧
        (events.map (·.eventId)).Nodup ∧ rows' = rows ++ events.map (·.row jsonb)) := by
  intro events
  induction events with
  | nil =>
      intro rows rows' _
      show Except.ok rows = Except.ok rows' ↔ _
      simp [eq_comm]
  | cons e rest ih =>
      intro rows rows' hconstructible
      have he := hconstructible e List.mem_cons_self
      have hrest : ∀ x ∈ rest, x.Constructible := fun x hx =>
        hconstructible x (List.mem_cons_of_mem e hx)
      -- The rest stays clear of the rows before and of the new one.
      have hvacant : ∀ x, Vacant (rows ++ [e.row jsonb]) x ↔
          Vacant rows x ∧ e.revealRound ≠ x.revealRound ∧ e.eventId ≠ x.eventId := by
        intro x
        simp only [Vacant, List.forall_mem_append, List.forall_mem_singleton]
        rfl
      have hstep : (e :: rest).foldlM (insertEvent jsonb) rows = .ok rows' ↔
          (e.Storable ∧ Vacant rows e) ∧
            rest.foldlM (insertEvent jsonb) (rows ++ [e.row jsonb]) = .ok rows' := by
        rw [List.foldlM_cons]
        constructor
        · intro h
          obtain ⟨between, hfirst, hlater⟩ := ok_of_bind h
          obtain ⟨hstorable, hfree, rfl⟩ := (insertEvent_ok_iff he).mp hfirst
          exact ⟨⟨hstorable, hfree⟩, hlater⟩
        · intro h
          rw [(insertEvent_ok_iff he).mpr ⟨h.1.1, h.1.2, rfl⟩]
          exact h.2
      rw [hstep, ih hrest]
      simp only [hvacant, List.map_cons, List.nodup_cons, List.forall_mem_cons, List.mem_map,
        List.append_assoc, List.singleton_append, not_exists, not_and, ne_eq]
      constructor
      · intro hleft
        obtain ⟨hhead, htail, hrounds, hids, hrows⟩ := hleft
        exact ⟨⟨hhead, fun x hx => ⟨(htail x hx).1, (htail x hx).2.1⟩⟩,
          ⟨fun x hx heq => (htail x hx).2.2.1 heq.symm, hrounds⟩,
          ⟨fun x hx heq => (htail x hx).2.2.2 heq.symm, hids⟩, hrows⟩
      · intro hright
        obtain ⟨⟨hhead, htail⟩, ⟨hround, hrounds⟩, ⟨hid, hids⟩, hrows⟩ := hright
        exact ⟨hhead, fun x hx => ⟨(htail x hx).1, (htail x hx).2,
          fun heq => hround x hx heq.symm, fun heq => hid x hx heq.symm⟩, hrounds, hids, hrows⟩

/-! ### The order of the rounds -/

/-- The events in the order of their rounds. -/
def inRoundOrder (events : List WorldEvent) : List WorldEvent :=
  events.mergeSort fun a b => a.revealRound ≤ b.revealRound

theorem mapM_eventOf (hjsonb : ∀ v, (jsonb v).canonical = v.canonical) :
    ∀ {events : List WorldEvent}, (∀ e ∈ events, e.Constructible ∧ e.Storable) →
      (events.map (·.row jsonb)).mapM eventOf = .ok events := by
  intro events
  induction events with
  | nil =>
      intro _
      rfl
  | cons e rest ih =>
      intro h
      have he := h e List.mem_cons_self
      rw [List.map_cons, List.mapM_cons, eventOf_row hjsonb he.1 he.2.1,
        ih fun x hx => h x (List.mem_cons_of_mem e hx)]
      rfl

theorem scheduledEvents_map (hjsonb : ∀ v, (jsonb v).canonical = v.canonical)
    (h : ∀ e ∈ events, e.Constructible ∧ e.Storable) :
    scheduledEvents (events.map (·.row jsonb)) = .ok (inRoundOrder events) := by
  have hsort : (events.map (·.row jsonb)).mergeSort (fun a b => a.roundIndex ≤ b.roundIndex) =
      (inRoundOrder events).map (·.row jsonb) := by
    unfold inRoundOrder
    rw [List.map_mergeSort]
    intro a _ b _
    rfl
  unfold scheduledEvents
  rw [hsort]
  apply mapM_eventOf hjsonb
  intro e he
  exact h e (List.mem_mergeSort.mp he)

theorem inRoundOrder_eq (h : events.Pairwise fun a b => a.revealRound ≤ b.revealRound) :
    inRoundOrder events = events := by
  unfold inRoundOrder
  apply List.mergeSort_of_pairwise
  exact h.imp fun hab => decide_eq_true hab

/-! ### Reveals -/

/-- The events cover the rounds from the first one on, each once and in order. -/
def CoversRounds (events : List WorldEvent) : Prop :=
  events.map (·.revealRound) = (List.range events.length).map fun k : Nat => (k : Int) + 1

theorem CoversRounds.revealRound (h : CoversRounds events) {k : Nat} {e : WorldEvent}
    (he : events[k]? = some e) : e.revealRound = k + 1 := by
  have hk : k < events.length := (List.getElem?_eq_some_iff.mp he).1
  have hround := congrArg (fun l => l[k]?) h
  simp only [List.getElem?_map, he, Option.map_some, List.getElem?_range hk,
    Option.some.injEq] at hround
  exact hround

theorem CoversRounds.ordered (h : CoversRounds events) :
    events.Pairwise fun a b => a.revealRound ≤ b.revealRound := by
  have hsorted : ((List.range events.length).map fun k : Nat => (k : Int) + 1).Pairwise (· ≤ ·) := by
    rw [List.pairwise_map]
    exact List.pairwise_lt_range.imp fun hlt => by omega
  rw [← h, List.pairwise_map] at hsorted
  exact hsorted

/-- The loop over the rest of the events goes on with the rounds that are left. -/
theorem revealRounds_append (h : CoversRounds events) (r : Nat) : ∀ left k : Nat, k + left = r →
    r ≤ events.length →
    revealRounds events r = revealRounds events k >>= revealThrough r (events.drop k) := by
  intro left
  induction left with
  | zero =>
      intro k hk hr
      have hstop : ∀ s, revealThrough r (events.drop k) s = pure s := by
        intro s
        cases hdrop : events.drop k with
        | nil => rfl
        | cons e rest =>
            have he : events[k]? = some e := by
              rw [← List.head?_drop, hdrop, List.head?_cons]
            have hround := h.revealRound he
            rw [revealThrough, if_pos (by omega)]
      have hrk : r = k := by omega
      rw [funext hstop, bind_pure, hrk]
  | succ left ih =>
      intro k hk hr
      have hlt : k < events.length := by omega
      have he : events[k]? = some events[k] := List.getElem?_eq_getElem hlt
      have hround := h.revealRound he
      have hstep : ∀ s, revealThrough r (events.drop k) s =
          (Method.check (index events k) >>= fun event =>
            WorldState.reveal event.eventId (k + 1) >>= fun snapshot => pure (some snapshot)) >>=
            revealThrough r (events.drop (k + 1)) := by
        intro s
        have hcheck : (Method.check (index events k) : Method WorldState WorldEvent) =
            pure events[k] := by
          rw [index_natCast he]
          rfl
        rw [List.drop_eq_getElem_cons hlt, revealThrough, if_neg (by omega), hcheck, pure_bind,
          bind_assoc, hround]
        rfl
      rw [ih (k + 1) (by omega) hr, funext hstep]
      show revealRounds events (k + 1) >>= _ = _
      rw [revealRounds, bind_assoc]

theorem revealThrough_eq (h : CoversRounds events) {r : Nat} (hr : r ≤ events.length) :
    revealThrough r events none = revealRounds events r := by
  rw [revealRounds_append h r r 0 (by omega) hr, List.drop_zero, revealRounds, pure_bind]

/-- The snapshot of a round from the database is the one from memory. -/
theorem openingSnapshot_iff (h : CoversRounds events) (hrows : scheduledEvents rows = .ok events)
    (basePrices : PerGood) {r : Nat} (hfirst : 1 ≤ r) (hlast : r ≤ events.length)
    (snapshot : WorldSnapshot) :
    openingSnapshot rows basePrices r = .ok snapshot ↔
      inMemorySnapshot events basePrices r = .ok (some snapshot) := by
  have hlt : r - 1 < events.length := by omega
  have hround := h.revealRound (List.getElem?_eq_getElem hlt)
  have hfound : ¬ (events.all fun event => event.revealRound ≠ (r : Int)) = true := by
    intro hall
    have := of_decide_eq_true (List.all_eq_true.mp hall _ (List.getElem_mem hlt))
    omega
  unfold openingSnapshot inMemorySnapshot
  rw [hrows]
  show (if _ then _ else _) = _ ↔ _
  rw [if_neg hfound, revealThrough_eq h hlast]
  cases WorldState.postInit
      { eventCatalog := Aggregate.PawnhouseGame.catalog events, basePrices := basePrices } with
  | error e =>
      constructor
      · intro heq
        cases heq
      · intro heq
        cases heq
  | ok world =>
      dsimp only [Bind.bind, Except.bind]
      cases (revealRounds events r).result world with
      | error e => simp
      | ok s =>
          cases s with
          | none => simp
          | some s => simp

/-! ### The schedule -/

/-- **The schedule that the database gives back is the one that was published.**  The database takes
    every constructible event whose integers and texts fit, one for each round and id. -/
theorem schedule_kept (hjsonb : ∀ v, (jsonb v).canonical = v.canonical)
    (hconstructible : ∀ e ∈ events, e.Constructible) :
    ((∃ rows, insertEvents jsonb events = .ok rows) ↔
      (∀ e ∈ events, e.Storable) ∧ (events.map (·.revealRound)).Nodup ∧
        (events.map (·.eventId)).Nodup) ∧
    ∀ rows, insertEvents jsonb events = .ok rows →
      scheduledEvents rows = .ok (inRoundOrder events) ∧
      ((events.Pairwise fun a b => a.revealRound ≤ b.revealRound) →
        scheduledEvents rows = .ok events ∧
        ∀ hexdigest seed, (scheduledEvents rows).bind (scheduleCommitment hexdigest · seed) =
          scheduleCommitment hexdigest events seed) ∧
      (CoversRounds events → ∀ (basePrices : PerGood) (r : Nat), 1 ≤ r → r ≤ events.length →
        ∀ snapshot, openingSnapshot rows basePrices r = .ok snapshot ↔
          inMemorySnapshot events basePrices r = .ok (some snapshot)) := by
  have hvacant : ∀ e, Vacant [] e := by
    intro e r hr
    cases hr
  refine ⟨?_, ?_⟩
  · constructor
    · intro hstored
      obtain ⟨rows, hrows⟩ := hstored
      obtain ⟨hstorable, hrounds, hids, -⟩ := (foldlM_insertEvent hconstructible).mp hrows
      exact ⟨fun e he => (hstorable e he).1, hrounds, hids⟩
    · intro hfree
      obtain ⟨hstorable, hrounds, hids⟩ := hfree
      exact ⟨_, (foldlM_insertEvent hconstructible).mpr
        ⟨fun e he => ⟨hstorable e he, hvacant e⟩, hrounds, hids, rfl⟩⟩
  · intro rows hrows
    obtain ⟨hstorable, -, -, rfl⟩ := (foldlM_insertEvent hconstructible).mp hrows
    have hread : scheduledEvents (events.map (·.row jsonb)) = .ok (inRoundOrder events) :=
      scheduledEvents_map hjsonb fun e he => ⟨hconstructible e he, (hstorable e he).1⟩
    rw [List.nil_append]
    refine ⟨hread, ?_, ?_⟩
    · intro hordered
      rw [inRoundOrder_eq hordered] at hread
      refine ⟨hread, ?_⟩
      intro hexdigest seed
      rw [hread]
      rfl
    · intro hcovers basePrices r hfirst hlast snapshot
      rw [inRoundOrder_eq hcovers.ordered] at hread
      exact openingSnapshot_iff hcovers hread basePrices hfirst hlast snapshot

/-- An order of the crown for two warhorses, with every field of its effect. -/
def royalMuster : WorldEvent where
  eventId := "royal-muster"
  displayName := "王室征马"
  narrative := ""
  revealRound := 1
  durationRounds := some 2
  effects :=
    [{ kind := .createRoyalOrder, good := .warhorse, orderPriceAtomic := some 9000000,
        orderLimit := some 2 }]

/-- Three events of the deck, out of their order. -/
def musterDeck : List WorldEvent :=
  [Presets.granaryFire, royalMuster, Presets.newIronMine]

theorem schedule_kept_muster : ∃ rows, insertEvents Json.canonical musterDeck = .ok rows ∧
    scheduledEvents rows = .ok [royalMuster, Presets.newIronMine, Presets.granaryFire] := by
  have hconstructible : ∀ e ∈ musterDeck, e.Constructible := by
    simp only [musterDeck, List.forall_mem_cons, WorldEvent.Constructible]
    decide
  have hkept := @schedule_kept Json.canonical musterDeck Json.canonical_canonical hconstructible
  obtain ⟨rows, hrows⟩ := hkept.1.mpr (by
    refine ⟨?_, by decide, by decide⟩
    simp only [musterDeck, List.forall_mem_cons, WorldEvent.Storable]
    decide)
  have hordered : inRoundOrder musterDeck =
      [royalMuster, Presets.newIronMine, Presets.granaryFire] := by
    simp [inRoundOrder, musterDeck, List.mergeSort, List.MergeSort.Internal.splitInTwo,
      royalMuster, Presets.newIronMine, Presets.granaryFire]
  rw [← hordered]
  exact ⟨rows, hrows, (hkept.2 rows hrows).1⟩

end Arena402.Game
