/-
The public directory and the requests of a buyer.

Eligibility is written twice: as the filters of `public_directory`, and as the checks that
`submit_requests` makes on the way to a new request.  The two agree on every pair of intents
(`submits_iff`).  But the directory is one wire model, so an eligible seller is listed only
when every eligible seller fits it (`lists_iff`), while a request asks for no such thing.
-/
import Arena402.Game.MarketDirectory
import Arena402.Proofs.Game.Gold
import Arena402.Proofs.Game.MarketBudget
import Arena402.Proofs.Game.MarketResults

namespace Arena402.Game

open Py Py.Decimal Wire

/-! ### Prices on the wire -/

/-- The text of an amount of gold is a price on the wire. -/
theorem parse_formatGold {n : Nat} (hpos : 0 < n) (h : n ≤ maxGoldAtomic) :
    ∃ text d, formatGold (.int n) = .ok text ∧ parseFixedDecimal (String.ofList text) = .ok d ∧
      0 < d.coeff := by
  have hsum : 10 ^ 6 * (n / goldScale) + n % goldScale = n := Nat.div_add_mod n goldScale
  have hwhole : (Nat.toDigits 10 (n / goldScale)).length ≤ 32 := by
    refine (numDigits_le_iff (by decide)).mpr ?_
    have hmax : maxGoldAtomic < goldScale * 10 ^ 32 := by decide
    exact Nat.div_lt_of_lt_mul (by omega)
  by_cases hfraction : n % goldScale = 0
  · have hpositive : 0 < n / goldScale := by omega
    have hspan : (Nat.toDigits 10 (n / goldScale)).span Char.isDigit =
        (Nat.toDigits 10 (n / goldScale), []) := by
      have hrest : (Nat.toDigits 10 (n / goldScale) ++ []).span Char.isDigit =
          (Nat.toDigits 10 (n / goldScale), []) := span_digits isDigit_toDigits (by simp)
      rwa [List.append_nil] at hrest
    have hpattern : fixedDecimalPattern (Nat.toDigits 10 (n / goldScale)) = true := by
      unfold fixedDecimalPattern
      rw [hspan]
      simp [head_toDigits hpositive, Nat.toDigits_ne_nil]
    have hpoint : (Nat.toDigits 10 (n / goldScale)).contains '.' = false := by
      rw [List.contains_eq_any_beq, List.any_eq_false]
      intro c hc
      have hdigit := isDigit_toDigits c hc
      rintro heq
      obtain rfl : '.' = c := by simpa using heq
      cases hdigit
    have hof : ofChars (Nat.toDigits 10 (n / goldScale)) = some (.finite false ⟨n / goldScale, 0⟩) := by
      rw [ofChars_of_unsigned (fun c hc => Or.inl (isDigit_toDigits c hc))
        (parseUnsigned_int isDigit_toDigits Nat.toDigits_ne_nil), Nat.ofDigitChars_ten_toDigits]
    refine ⟨_, ⟨n / goldScale, 0⟩, formatGold_whole h hfraction, ?_, hpositive⟩
    unfold parseFixedDecimal parseFixedDecimalChars
    rw [String.toList_ofList, hpattern, partitionPoint_int isDigit_toDigits, hpoint, hof]
    dsimp only
    rw [if_neg (by simp), if_neg (by unfold maxDecimalDigits; simp; omega), if_neg (by simp)]
  · obtain ⟨-, hlen, hvalue⟩ := padded_chars (fraction_lt n)
    obtain ⟨k, hk⟩ := exists_rstripZeros (padded 6 (n % goldScale)).toList
    have hshort : (fractionDigits n).length ≤ 6 := by
      have := congrArg List.length hk
      rw [hlen, List.length_append] at this
      unfold fractionDigits
      omega
    have hdigits := isDigit_fractionDigits (n := n)
    have hsome : ∃ c ∈ fractionDigits n, c ≠ '0' := by
      have hnonzero : Nat.ofDigitChars 10 (padded 6 (n % goldScale)).toList 0 ≠ 0 := by rwa [hvalue]
      obtain ⟨c, hc, hne⟩ := exists_ne_zero_of_value hnonzero
      rw [hk] at hc
      rcases List.mem_append.mp hc with hc | hc
      · exact ⟨c, hc, hne⟩
      · exact absurd (List.mem_replicate.mp hc).2 hne
    have hne : fractionDigits n ≠ [] := by
      obtain ⟨c, hc, -⟩ := hsome
      exact List.ne_nil_of_mem hc
    have hof := ofChars_point (isDigit_toDigits (n := n / goldScale)) hdigits Nat.toDigits_ne_nil
    refine ⟨_, ⟨Nat.ofDigitChars 10 (Nat.toDigits 10 (n / goldScale) ++ fractionDigits n) 0,
      -((fractionDigits n).length : Int)⟩, formatGold_fraction h hfraction, ?_, ?_⟩
    · unfold parseFixedDecimal parseFixedDecimalChars
      rw [String.toList_ofList, fixedDecimalPattern_point isDigit_toDigits hdigits hne whole_digits,
        partitionPoint_point isDigit_toDigits, hof]
      dsimp only
      rw [if_neg (by simp), if_neg (by unfold maxDecimalDigits; omega),
        if_neg (by unfold maxDecimalPlaces; simp; omega)]
    · have hval : Decimal.val ⟨Nat.ofDigitChars 10
          (Nat.toDigits 10 (n / goldScale) ++ fractionDigits n) 0,
          -((fractionDigits n).length : Int)⟩ = (n : ℚ) / 10 ^ 6 := by
        unfold fractionDigits
        rw [val_rstripZeros hlen, ofDigitChars_six hlen, hvalue, hsum]
      refine Nat.pos_of_ne_zero fun hzero => ?_
      have hn : (0 : ℚ) < n := by exact_mod_cast hpos
      unfold Decimal.val at hval
      rw [hzero] at hval
      simp only [Nat.cast_zero, zero_mul] at hval
      linarith

/-! ### What fits the directory -/

/-- A text that the identifier pattern takes, up to a length. -/
def IsWireText (maxLength : Nat) (text : String) : Prop :=
  patternText maxLength (.str text) = some text

instance (maxLength : Nat) (text : String) : Decidable (IsWireText maxLength text) :=
  inferInstanceAs (Decidable (_ = _))

theorem patternText_eq_some {maxLength : Nat} {text read : String}
    (h : patternText maxLength (.str text) = some read) : IsWireText maxLength text ∧ read = text := by
  have hread : read = text := by
    simp only [patternText] at h
    by_cases hc : 1 ≤ text.length ∧ text.length ≤ maxLength ∧ identifierPattern text = true
    · rw [if_pos hc] at h
      exact (Option.some.inj h).symm
    · rw [if_neg hc] at h
      cases h
  rw [hread] at h
  exact ⟨h, hread⟩

/-- A candidate whose ids, good and price the entry takes. -/
structure EntryFits (candidate : AgentMarketIntent) : Prop where
  intentId : IsWireText 256 candidate.intentId
  agentId : IsWireText 256 candidate.agentId
  good : IsWireText 128 candidate.good
  price : candidate.publicPriceAtomic ≤ maxGoldAtomic
  expiresAt : HasUtcDate candidate.expiresAt

theorem entryFields_of_fits {candidate : AgentMarketIntent} (h : EntryFits candidate) {text : String}
    {d : Decimal} (hparse : parseFixedDecimal text = .ok d) (hpos : 0 < d.coeff) :
    ∃ entry, entryFields candidate text = some entry := by
  have hname : directoryName candidate.displayName = some candidate.displayName := by
    have hvisible := candidate.nameVisible
    have hlength : 1 ≤ candidate.displayName.length := by
      by_contra hzero
      have hempty : candidate.displayName = "" := by
        apply String.toList_inj.mp
        have hlen : candidate.displayName.toList.length = 0 := by
          rw [String.length_toList]
          omega
        simpa using List.eq_nil_of_length_eq_zero hlen
      rw [hempty] at hvisible
      revert hvisible
      decide
    unfold directoryName
    rw [if_pos ⟨hlength, hvisible⟩]
  have hprice : ∃ p, positiveFixedDecimal (.str text) = some p := by
    show ∃ p, positiveOfText text = some p
    unfold positiveOfText
    split
    · rename_i value hvalue
      obtain rfl : value = d := Except.ok.inj (hvalue.symm.trans hparse)
      rw [dif_pos hpos]
      exact ⟨_, rfl⟩
    · rename_i e he
      rw [hparse] at he
      cases he
  obtain ⟨p, hp⟩ := hprice
  have hfailed : nonNegativeInt candidate.failedNegotiations = some candidate.failedNegotiations := by
    unfold nonNegativeInt
    rw [if_pos candidate.failedNonneg]
  have hid : identifier (.str candidate.intentId) = some candidate.intentId := h.intentId
  have hagent : identifier (.str candidate.agentId) = some candidate.agentId := h.agentId
  have hgood : goodId (.str candidate.good) = some candidate.good := h.good
  unfold entryFields
  rw [hid, hagent, hgood, hname, hp, hfailed]
  exact ⟨_, rfl⟩

/-- The entry of a candidate is written exactly when the candidate fits, and repeats its id and its
    time. -/
theorem directoryEntry_returns (candidate : AgentMarketIntent) :
    ReturnsIff (directoryEntry candidate) (EntryFits candidate) fun entry =>
      (entry.intentId, entry.expiresAt) = (candidate.intentId, candidate.expiresAt) := by
  have hpos := candidate.publicPositive
  obtain ⟨n, hn⟩ : ∃ n : Nat, candidate.publicPriceAtomic = n := Int.eq_ofNat_of_zero_le hpos.le
  unfold directoryEntry
  by_cases hmax : candidate.publicPriceAtomic ≤ maxGoldAtomic
  · obtain ⟨text, d, hformat, hparse, hd⟩ := parse_formatGold (n := n) (by omega) (by omega)
    rw [hn, hformat]
    dsimp only
    by_cases hdate : HasUtcDate candidate.expiresAt
    swap
    · rw [if_neg hdate]
      exact fun hfits => hdate hfits.expiresAt
    rw [if_pos hdate]
    cases hfields : entryFields candidate (String.ofList text) with
    | none =>
        intro hfits
        obtain ⟨entry, hentry⟩ := entryFields_of_fits hfits hparse hd
        rw [hfields] at hentry
        cases hentry
    | some entry =>
        simp only [entryFields, Option.bind_eq_bind, Option.bind_eq_some_iff] at hfields
        obtain ⟨id, hid, agent, hagent, name, hname, good, hgood, price, hprice, failed, hfailed,
          hentry⟩ := hfields
        obtain rfl := Option.some.inj hentry
        obtain ⟨hid, rfl⟩ := patternText_eq_some hid
        obtain ⟨hagent, rfl⟩ := patternText_eq_some hagent
        obtain ⟨hgood, rfl⟩ := patternText_eq_some hgood
        exact ⟨⟨hid, hagent, hgood, hmax, hdate⟩, rfl⟩
  · have herror : formatGold (.int candidate.publicPriceAtomic) = .error .atomicOutsideBound := by
      have hlt : (maxGoldAtomic : Int) < candidate.publicPriceAtomic := not_le.mp hmax
      simp [formatGold, hlt]
    rw [herror]
    exact fun hfits => hmax hfits.price

/-- A map of calls returns when each of them does. -/
theorem mapM_returns {ε α β γ : Type} {f : β → Except ε α} {fits : β → Prop} {key : α → γ}
    {keyOf : β → γ} (h : ∀ x, ReturnsIff (f x) (fits x) fun y => key y = keyOf x) : ∀ l : List β,
    ReturnsIff (l.mapM f) (∀ x ∈ l, fits x) fun ys => ys.map key = l.map keyOf := by
  intro l
  induction l with
  | nil => exact ⟨by simp, rfl⟩
  | cons x rest ih =>
      rw [List.mapM_cons]
      have hboth : ReturnsIff (f x >>= fun y => rest.mapM f >>= fun ys => pure (y :: ys))
          (fits x ∧ ∀ z ∈ rest, fits z) fun ys => ys.map key = (x :: rest).map keyOf := by
        refine (h x).bind ?_
        intro y _ hy
        refine ih.map ?_
        intro ys hys
        rw [List.map_cons, List.map_cons, hy, hys]
      exact hboth.congr (by simp) fun _ => id

/-- A requester whose game and round the directory takes. -/
structure RequesterFits (requester : AgentMarketIntent) : Prop where
  session : IsWireText 256 s!"market:{requester.gameId}:{requester.roundId}"
  gameId : IsWireText 256 requester.gameId
  roundId : IsWireText 256 requester.roundId

/-- The directory of distinct entries is written exactly when its requester fits. -/
theorem directoryFields_eq_some (requester : AgentMarketIntent)
    {entries : List MarketDirectoryEntryV1} (hdistinct : (entries.map (·.intentId)).Nodup) :
    (RequesterFits requester → ∃ directory, directoryFields requester entries = some directory) ∧
      ∀ directory, directoryFields requester entries = some directory →
        RequesterFits requester ∧ directory.entries = entries := by
  constructor
  · intro hfits
    have hsession : identifier (.str s!"market:{requester.gameId}:{requester.roundId}") = _ :=
      hfits.session
    have hgame : identifier (.str requester.gameId) = _ := hfits.gameId
    have hround : identifier (.str requester.roundId) = _ := hfits.roundId
    unfold directoryFields
    rw [hsession, hgame, hround]
    simp only [Option.bind_eq_bind, Option.bind_some]
    rw [if_pos hdistinct]
    exact ⟨_, rfl⟩
  · intro directory h
    simp only [directoryFields, Option.bind_eq_bind, Option.bind_eq_some_iff] at h
    obtain ⟨session, hsession, game, hgame, round, hround, h⟩ := h
    rw [if_pos hdistinct] at h
    obtain rfl := Option.some.inj h
    exact ⟨⟨(patternText_eq_some hsession).1, (patternText_eq_some hgame).1,
      (patternText_eq_some hround).1⟩, rfl⟩

/-- The earliest of some times. -/
abbrev earliest (first : UtcDateTime) (times : List UtcDateTime) : UtcDateTime :=
  times.foldl min first

theorem directoryExpiry_eq (requester : AgentMarketIntent) (entries : List MarketDirectoryEntryV1) :
    directoryExpiry requester entries = earliest requester.expiresAt (entries.map (·.expiresAt)) :=
  (List.foldl_map ..).symm

/-- Below the others' latest time, the earliest one is late enough exactly when the first is. -/
theorem le_earliest {bound : UtcDateTime} : ∀ {times : List UtcDateTime} {first : UtcDateTime},
    bound ≤ earliest first times ↔ bound ≤ first ∧ ∀ t ∈ times, bound ≤ t := by
  intro times
  induction times with
  | nil =>
      intro first
      simp
  | cons t rest ih =>
      intro first
      rw [earliest, List.foldl_cons]
      refine ih.trans ?_
      rw [le_min_iff, List.forall_mem_cons, and_assoc]

theorem earliest_le {times : List UtcDateTime} {first t : UtcDateTime} (h : t ∈ times) :
    earliest first times ≤ t :=
  (le_earliest.mp le_rfl).2 t h

/-- Among times with a date, the earliest of them and a further one has a date when the further one
    is not before all dates. -/
theorem hasUtcDate_earliest {times : List UtcDateTime} {first : UtcDateTime}
    (hdates : ∀ t ∈ times, HasUtcDate t) (hne : times ≠ []) :
    HasUtcDate (earliest first times) ↔ firstUtcDatetime ≤ first := by
  obtain ⟨t, ht⟩ := List.exists_mem_of_ne_nil times hne
  unfold HasUtcDate
  rw [le_earliest]
  constructor
  · exact fun h => h.1.1
  · exact fun h => ⟨⟨h, fun u hu => (hdates u hu).1⟩, (earliest_le ht).trans (hdates t ht).2⟩

/-- The directory of candidates with distinct ids is written exactly when all of it fits, and it
    has their ids. -/
theorem writeDirectory_returns (requester : AgentMarketIntent) {candidates : List AgentMarketIntent}
    (hdistinct : (candidates.map (·.intentId)).Nodup) :
    ReturnsIff (writeDirectory requester candidates)
      (RequesterFits requester ∧ (∀ c ∈ candidates, EntryFits c) ∧
        HasUtcDate (earliest requester.expiresAt (candidates.map (·.expiresAt)))) fun directory =>
        ∀ id, (∃ entry ∈ directory.entries, entry.intentId = id) ↔ ∃ c ∈ candidates, c.intentId = id := by
  have hentries := mapM_returns directoryEntry_returns candidates
  cases hmap : candidates.mapM directoryEntry with
  | error e =>
      rw [hmap] at hentries
      have hwrite : writeDirectory requester candidates = .error e := by
        unfold writeDirectory
        rw [hmap]
        rfl
      rw [hwrite]
      exact fun hfits => hentries hfits.2.1
  | ok entries =>
      rw [hmap] at hentries
      obtain ⟨hall, hkeys⟩ := hentries
      have hids : entries.map (·.intentId) = candidates.map (·.intentId) := by
        simpa [Function.comp_def] using congrArg (List.map Prod.fst) hkeys
      have htimes : entries.map (·.expiresAt) = candidates.map (·.expiresAt) := by
        simpa [Function.comp_def] using congrArg (List.map Prod.snd) hkeys
      let sorted := entries.mergeSort fun a b => decide (a.intentId ≤ b.intentId)
      have hperm : sorted.Perm entries := List.mergeSort_perm _ _
      have hsorted : (sorted.map (·.intentId)).Nodup := by
        refine (hperm.map _).nodup_iff.mpr ?_
        rw [hids]
        exact hdistinct
      have hexpiry : directoryExpiry requester sorted =
          earliest requester.expiresAt (candidates.map (·.expiresAt)) := by
        rw [directoryExpiry_eq, ← htimes]
        exact (hperm.map _).foldl_eq _
      obtain ⟨hwritten, hread⟩ := directoryFields_eq_some requester hsorted
      unfold writeDirectory
      simp only [hmap, bind, Except.bind]
      rw [← hexpiry]
      by_cases hdate : HasUtcDate (directoryExpiry requester sorted)
      swap
      · rw [if_neg hdate]
        exact fun hfits => hdate hfits.2.2
      rw [if_pos hdate]
      cases hfields : directoryFields requester sorted with
      | none =>
          intro hfits
          obtain ⟨directory, hdirectory⟩ := hwritten hfits.1
          rw [hfields] at hdirectory
          cases hdirectory
      | some directory =>
          obtain ⟨hrequester, hsame⟩ := hread directory hfields
          refine ⟨⟨hrequester, hall, hdate⟩, ?_⟩
          intro id
          have hid : id ∈ entries.map (·.intentId) ↔ id ∈ candidates.map (·.intentId) := by rw [hids]
          rw [hsame]
          simp only [List.mem_map] at hid
          simp only [hperm.mem_iff, hid]

namespace AgentDrivenMarket

variable {s t : AgentDrivenMarket}

/-! ### The intents of a market -/

/-- The keys of the intents are distinct. -/
theorem Writes.nodup_intents {call : MarketCall} (h : Writes s call t)
    (hkeys : s.intents.keys.Nodup) : t.intents.keys.Nodup := by
  cases h with
  | publish _ _ hclaims =>
      rw [hclaims.market]
      exact Dict.nodup_keys_set hkeys _ _
  | request _ _ _ _ _ _ hclaims =>
      rw [hclaims.market]
      exact hkeys
  | busy => exact hkeys
  | engage _ _ _ _ _ _ _ _ hclaims | close _ _ _ _ _ hclaims | deal _ _ _ _ _ _ _ _ hclaims =>
      rw [hclaims.market]
      exact hkeys

theorem nodup_intents_calls (n : Nat) (l : List MarketCall) :
    (({ maxOutbound := n } : AgentDrivenMarket).calls l).intents.keys.Nodup := by
  have hcalls : ∀ (l : List MarketCall) {s : AgentDrivenMarket}, s.intents.keys.Nodup →
      (s.calls l).intents.keys.Nodup := by
    intro l
    induction l with
    | nil =>
        intro s h
        exact h
    | cons c rest ih =>
        intro s h
        rcases writes_call s c with hsame | hwrites
        · exact ih (by rw [hsame]; exact h)
        · exact ih (hwrites.nodup_intents h)
  exact hcalls l List.nodup_nil

/-- An intent of the market is recorded under its own id. -/
theorem Sound.mem_values_iff (hs : Sound s) (hkeys : s.intents.keys.Nodup) {c : AgentMarketIntent} :
    c ∈ s.intents.values ↔ s.intents.get c.intentId = some c := by
  constructor
  · intro h
    obtain ⟨⟨id, c'⟩, hmem, rfl⟩ := List.mem_map.mp h
    have hget := Dict.get_of_mem hkeys hmem
    rw [hs.intentIds id c' hget]
    exact hget
  · intro h
    exact List.mem_map_of_mem (Dict.mem_of_get h)

theorem Sound.nodup_ids (hs : Sound s) (hkeys : s.intents.keys.Nodup) :
    (s.intents.values.map (·.intentId)).Nodup := by
  have hids : s.intents.values.map (·.intentId) = s.intents.keys := by
    unfold Dict.values Dict.keys
    rw [List.map_map]
    refine List.map_congr_left ?_
    intro e he
    exact hs.intentIds e.1 e.2 (Dict.get_of_mem hkeys he)
  rw [hids]
  exact hkeys

/-! ### What the directory lists -/

/-- A buyer that can discover and ask: not expired, without a slot and an unresolved request, and
    with budget left. -/
structure Ready (s : AgentDrivenMarket) (b : AgentMarketIntent) (observedAt : UtcDateTime) :
    Prop where
  found : s.intents.get b.intentId = some b
  buys : b.side = .buy
  live : observedAt < b.expiresAt
  free : s.isReserved b = false
  resolved : s.hasUnresolvedRfq b.intentId = false
  budget : (s.targetsOf b.intentId).length < s.maxOutbound

/-- The requester and every seller that it discovers fit the wire models. -/
structure DirectoryFits (s : AgentDrivenMarket) (b : AgentMarketIntent)
    (observedAt : UtcDateTime) : Prop where
  requester : RequesterFits b
  /-- The buyer's time is not before all dates in UTC; one behind them is behind the sellers' times. -/
  begun : firstUtcDatetime ≤ b.expiresAt
  entries : ∀ c ∈ s.intents.values, s.discovers b observedAt c = true → EntryFits c

/-- An intent is listed when it is discovered and the whole directory fits. -/
theorem lists_iff (hs : Sound s) (hkeys : s.intents.keys.Nodup) {b c : AgentMarketIntent}
    {observedAt : UtcDateTime} (hb : Ready s b observedAt) (hc : s.intents.get c.intentId = some c) :
    s.Lists b.intentId observedAt c.intentId ↔
      DirectoryFits s b observedAt ∧ s.discovers b observedAt c = true := by
  have hrequire : s.requireIntent b.intentId = .ok b := by
    unfold requireIntent
    rw [hb.found]
  have hpublic : s.publicDirectory b.intentId observedAt =
      writeDirectory b (s.intents.values.filter (s.discovers b observedAt)) := by
    unfold publicDirectory
    rw [hrequire]
    dsimp only
    rw [if_neg (by simp [hb.buys]), if_neg (not_le.mpr hb.live)]
  have hdistinct : ((s.intents.values.filter (s.discovers b observedAt)).map (·.intentId)).Nodup :=
    (List.filter_sublist.map _).nodup (hs.nodup_ids hkeys)
  have hlisted : (∃ c' ∈ s.intents.values.filter (s.discovers b observedAt),
      c'.intentId = c.intentId) ↔ s.discovers b observedAt c = true := by
    constructor
    · rintro ⟨c', hmem, hid⟩
      obtain ⟨hvalue, hdiscovers⟩ := List.mem_filter.mp hmem
      have hget := (hs.mem_values_iff hkeys).mp hvalue
      rw [hid, hc] at hget
      obtain rfl := Option.some.inj hget
      exact hdiscovers
    · intro h
      exact ⟨c, List.mem_filter.mpr ⟨(hs.mem_values_iff hkeys).mpr hc, h⟩, rfl⟩
  have hfits : s.discovers b observedAt c = true →
      ((RequesterFits b ∧
        (∀ x ∈ s.intents.values.filter (s.discovers b observedAt), EntryFits x) ∧
        HasUtcDate (earliest b.expiresAt
          ((s.intents.values.filter (s.discovers b observedAt)).map (·.expiresAt)))) ↔
        DirectoryFits s b observedAt) := by
    intro hdiscovers
    have hne : (s.intents.values.filter (s.discovers b observedAt)).map (·.expiresAt) ≠ [] := by
      obtain ⟨c', hmem, -⟩ := hlisted.mpr hdiscovers
      exact List.ne_nil_of_mem (List.mem_map_of_mem hmem)
    have hdates : (∀ x ∈ s.intents.values.filter (s.discovers b observedAt), EntryFits x) →
        ∀ t ∈ (s.intents.values.filter (s.discovers b observedAt)).map (·.expiresAt),
          HasUtcDate t := by
      intro hall t ht
      obtain ⟨x, hx, rfl⟩ := List.mem_map.mp ht
      exact (hall x hx).expiresAt
    constructor
    · rintro ⟨hrequester, hentries, hdate⟩
      exact ⟨hrequester, (hasUtcDate_earliest (hdates hentries) hne).mp hdate,
        fun x hx hd => hentries x (List.mem_filter.mpr ⟨hx, hd⟩)⟩
    · intro h
      have hentries : ∀ x ∈ s.intents.values.filter (s.discovers b observedAt), EntryFits x := by
        intro x hx
        obtain ⟨hvalue, hd⟩ := List.mem_filter.mp hx
        exact h.entries x hvalue hd
      exact ⟨h.requester, hentries, (hasUtcDate_earliest (hdates hentries) hne).mpr h.begun⟩
  have hreturns := writeDirectory_returns b hdistinct
  unfold Lists
  rw [hpublic]
  cases hwrite : writeDirectory b (s.intents.values.filter (s.discovers b observedAt)) with
  | error e =>
      rw [hwrite] at hreturns
      constructor
      · rintro ⟨directory, h, _⟩
        cases h
      · rintro ⟨h, hdiscovers⟩
        exact absurd ((hfits hdiscovers).mpr h) hreturns
  | ok directory =>
      rw [hwrite] at hreturns
      obtain ⟨hall, hids⟩ := hreturns
      constructor
      · rintro ⟨directory', h, hentry⟩
        obtain rfl := Except.ok.inj h
        have hdiscovers := hlisted.mp ((hids _).mp hentry)
        exact ⟨(hfits hdiscovers).mp hall, hdiscovers⟩
      · rintro ⟨_, hdiscovers⟩
        exact ⟨directory, rfl, (hids _).mpr (hlisted.mpr hdiscovers)⟩

/-! ### Which requests are taken -/

/-- A request from `b` to `c` at a time, with new ids and a price the buyer can pay. -/
structure Asks (s : AgentDrivenMarket) (b c : AgentMarketIntent) (observedAt : UtcDateTime)
    (request : AgentNegotiationRequest) : Prop where
  buyer : request.buyerIntentId = b.intentId
  seller : request.sellerIntentId = c.intentId
  createdAt : request.createdAt = observedAt
  newRequest : s.requests.get request.requestId = none
  newResult : s.resultClaims.get request.sourceResultId = none
  price : request.openingPriceAtomic ≤ b.limitPriceAtomic

theorem validateCounterparties_iff {b c : AgentMarketIntent} (hbuys : b.side = .buy) :
    validateCounterparties b c = .ok () ↔ c.side = .sell ∧ b.participantId ≠ c.participantId ∧
      b.gameId = c.gameId ∧ b.roundId = c.roundId ∧ b.good = c.good ∧
      c.limitPriceAtomic ≤ b.limitPriceAtomic := by
  have hquantity : b.quantity = c.quantity := b.quantityOne.trans c.quantityOne.symm
  constructor
  · intro h
    unfold validateCounterparties at h
    obtain ⟨hsides, h⟩ := ok_of_guard h
    obtain ⟨hself, h⟩ := ok_of_guard h
    obtain ⟨hround, h⟩ := ok_of_guard h
    obtain ⟨hgood, h⟩ := ok_of_guard h
    obtain ⟨hlimit, _⟩ := ok_of_guard h
    simp only [Bool.or_eq_true, decide_eq_true_eq, not_or, ne_eq, not_not] at hsides hround hgood
    exact ⟨hsides.2, hself, hround.1, hround.2, hgood.1, not_lt.mp hlimit⟩
  · rintro ⟨hsells, hself, hgame, hround, hgood, hlimit⟩
    unfold validateCounterparties
    rw [if_neg (by simp [hbuys, hsells]), if_neg hself, if_neg (by simp [hgame, hround]),
      if_neg (by simp [hgood, hquantity]), if_neg (not_lt.mpr hlimit)]

/-- The checks of the loop pass exactly for the sellers that the directory discovers. -/
theorem checkRequest_iff {b c : AgentMarketIntent} {observedAt : UtcDateTime} {targets : List String}
    {request : AgentNegotiationRequest} (hb : Ready s b observedAt)
    (hc : s.intents.get c.intentId = some c) (hnew : c.intentId ∉ targets)
    (hasks : Asks s b c observedAt request) :
    s.checkRequest b targets request = .ok () ↔ s.discovers b observedAt c = true := by
  have hrequire : s.requireIntent request.sellerIntentId = .ok c := by
    unfold requireIntent
    rw [hasks.seller, hc]
  have hdiscovers : s.discovers b observedAt c = true ↔
      validateCounterparties b c = .ok () ∧ observedAt < c.expiresAt ∧ s.isReserved c = false := by
    rw [validateCounterparties_iff hb.buys]
    simp only [discovers, Bool.and_eq_true, decide_eq_true_eq, Bool.not_eq_true', ne_eq]
    constructor
    · rintro ⟨⟨⟨⟨⟨⟨⟨hsells, hgame⟩, hround⟩, hself⟩, hgood⟩, hlive⟩, hlimit⟩, hfree⟩
      exact ⟨⟨hsells, fun h => hself h.symm, hgame.symm, hround.symm, hgood.symm, hlimit⟩, hlive,
        hfree⟩
    · rintro ⟨⟨hsells, hself, hgame, hround, hgood, hlimit⟩, hlive, hfree⟩
      exact ⟨⟨⟨⟨⟨⟨⟨hsells, hgame.symm⟩, hround.symm⟩, fun h => hself h.symm⟩, hgood.symm⟩, hlive⟩,
        hlimit⟩, hfree⟩
  rw [hdiscovers]
  have hcheck : s.checkRequest b targets request = (do
      validateCounterparties b c
      if b.expiresAt ≤ request.createdAt || c.expiresAt ≤ request.createdAt then
        .error "RFQ targets an expired intent"
      else if b.limitPriceAtomic < request.openingPriceAtomic then
        .error "opening price exceeds the buyer private ceiling"
      else if s.isReserved b || s.isReserved c then .error "counterparty_busy"
      else if targets.contains c.intentId then
        .error "buyer already requested this seller intent"
      else .ok ()) := by
    unfold checkRequest
    rw [hasks.newRequest, hrequire]
    rfl
  rw [hcheck]
  constructor
  · intro h
    obtain ⟨_, hvalid, h⟩ := ok_of_bind h
    obtain ⟨hexpired, h⟩ := ok_of_guard h
    obtain ⟨_, h⟩ := ok_of_guard h
    obtain ⟨hbusy, _⟩ := ok_of_guard h
    rw [hasks.createdAt] at hexpired
    simp only [Bool.or_eq_true, decide_eq_true_eq, not_or, not_le] at hexpired
    simp only [Bool.or_eq_true, not_or, Bool.not_eq_true] at hbusy
    exact ⟨hvalid, hexpired.2, hbusy.2⟩
  · rintro ⟨hvalid, hlive, hfree⟩
    have hbuyer := hb.live
    rw [hvalid]
    show (if _ then _ else _) = _
    rw [if_neg (by rw [hasks.createdAt]; simp [hbuyer, hlive]), if_neg (not_lt.mpr hasks.price),
      if_neg (by simp [hb.free, hfree]), if_neg (by simp [hnew])]

/-- The claim of a result that authored nothing is made. -/
theorem claimResults_of_new {result : String} {v : String × String}
    (h : s.resultClaims.get result = none) : ∃ c, s.claimResults [(result, v)] = .ok c := by
  have hclaim : s.claimResult [] (result, v) = .ok [(result, v)] := by
    unfold claimResult
    rw [if_neg (by simp), if_neg (by simp [h])]
    rfl
  unfold claimResults
  rw [List.foldlM_cons, hclaim]
  exact ⟨_, rfl⟩

/-- A request with new ids from a ready buyer is taken exactly when the directory discovers its
    seller. -/
theorem submits_iff (hbooked : Booked s) {b c : AgentMarketIntent} {observedAt : UtcDateTime}
    {request : AgentNegotiationRequest} (hb : Ready s b observedAt)
    (hc : s.intents.get c.intentId = some c) (hnew : c.intentId ∉ s.targetsOf b.intentId)
    (hasks : Asks s b c observedAt request) :
    (∃ r, s.submitRequests [request] = .ok r) ↔ s.discovers b observedAt c = true := by
  have hrequire : s.requireIntent request.buyerIntentId = .ok b := by
    unfold requireIntent
    rw [hasks.buyer, hb.found]
  have hresult : s.requestIdsByResult.get request.sourceResultId = none := by
    by_contra hfound
    obtain ⟨ids, hids⟩ := Option.ne_none_iff_exists'.mp hfound
    obtain ⟨id, record, _, hrecord, hsource⟩ := (hbooked.indexed.requests _ _).mp hids
    have hclaimed := hbooked.accounted.authored _ _ _ (.rfq hrecord)
    have hsame : record.request.sourceResultId = request.sourceResultId := hsource
    rw [hsame, hasks.newResult] at hclaimed
    cases hclaimed
  have hsubmit : s.submitRequests [request] = (do
      s.checkRequest b (s.targetsOf b.intentId) request
      let t ← s.claimResults [(request.sourceResultId, "rfq",
        s!"rfq-batch:{request.sourceResultId}")]
      return (t.addRequest (s.targetsOf b.intentId) request, [request])) := by
    have hbudget : ¬ s.maxOutbound < (s.targetsOf b.intentId).length + 1 := by
      have := hb.budget
      omega
    unfold submitRequests
    dsimp only
    rw [hresult, hrequire]
    show (if _ then _ else _) = _
    rw [if_neg (by simp [hb.resolved])]
    exact if_neg hbudget
  rw [hsubmit, ← checkRequest_iff hb hc hnew hasks]
  constructor
  · rintro ⟨r, hr⟩
    obtain ⟨_, hcheck, _⟩ := ok_of_bind hr
    exact hcheck
  · intro hcheck
    obtain ⟨t, ht⟩ := claimResults_of_new (v := ("rfq", s!"rfq-batch:{request.sourceResultId}"))
      hasks.newResult
    refine ⟨(t.addRequest (s.targetsOf b.intentId) request, [request]), ?_⟩
    rw [hcheck]
    show (do let t ← s.claimResults _; return _) = _
    rw [ht]
    rfl

/-- **In every reachable market, a seller that a ready buyer has not asked yet is listed in its
    directory if and only if a request to it is taken, exactly when the seller is not discovered
    or everything that the buyer discovers fits the directory's wire models.** -/
theorem directory_matches_requests_iff (n : Nat) (l : List MarketCall) (b c : AgentMarketIntent)
    (observedAt : UtcDateTime) (request : AgentNegotiationRequest)
    (hb : Ready (({ maxOutbound := n } : AgentDrivenMarket).calls l) b observedAt)
    (hc : (({ maxOutbound := n } : AgentDrivenMarket).calls l).intents.get c.intentId = some c)
    (hnew : ∀ record ∈ (({ maxOutbound := n } : AgentDrivenMarket).calls l).requests.values,
      record.request.buyerIntentId = b.intentId → record.request.sellerIntentId ≠ c.intentId)
    (hasks : Asks (({ maxOutbound := n } : AgentDrivenMarket).calls l) b c observedAt request) :
    let s := ({ maxOutbound := n } : AgentDrivenMarket).calls l
    (s.Lists b.intentId observedAt c.intentId ↔ ∃ r, s.submitRequests [request] = .ok r) ↔
      (s.discovers b observedAt c = true → DirectoryFits s b observedAt) := by
  intro s
  have hbooked : Booked s := booked_calls n l
  have htargets : c.intentId ∉ s.targetsOf b.intentId := by
    rw [(bounded_calls n l).budgeted.targets b.intentId, List.mem_reverse]
    intro hmem
    obtain ⟨e, he, hseller⟩ := List.mem_map.mp hmem
    obtain ⟨hrecord, hbuyer⟩ := List.mem_filter.mp he
    exact hnew e.2 (List.mem_map_of_mem hrecord) (by simpa using hbuyer) hseller
  rw [lists_iff hbooked.sound (nodup_intents_calls n l) hb hc, submits_iff hbooked hb hc htargets hasks]
  constructor
  · intro h hdiscovers
    exact (h.mpr hdiscovers).1
  · intro h
    exact ⟨fun hboth => hboth.2, fun hdiscovers => ⟨h hdiscovers, hdiscovers⟩⟩

/-! ### A seller that only the request reaches -/

/-- A buyer and a seller of the herb. -/
def herbCalls (seller : String) (hname : isIdentifier seller = true)
    (hvisible : isVisibleText seller = true) : List MarketCall :=
  [.publishIntent (intentOf "buyer" .buy buyer_isIdentifier buyer_isVisible),
    .publishIntent (intentOf seller .sell hname hvisible)]

theorem directory_matches_requests_herb :
    let s := ({ maxOutbound := 3 } : AgentDrivenMarket).calls
      (herbCalls "seller" (by decide) (by decide))
    (s.Lists "buyer" 10 "seller" ↔ ∃ r, s.submitRequests [openingRequest] = .ok r) ↔
      (s.discovers (intentOf "buyer" .buy (by decide) (by decide)) 10
        (intentOf "seller" .sell (by decide) (by decide)) = true →
        DirectoryFits s (intentOf "buyer" .buy (by decide) (by decide)) 10) :=
  directory_matches_requests_iff 3 (herbCalls "seller" (by decide) (by decide))
    (intentOf "buyer" .buy (by decide) (by decide)) (intentOf "seller" .sell (by decide) (by decide))
    10 openingRequest ⟨rfl, rfl, by decide, rfl, rfl, by decide⟩ rfl (by intro r hr; cases hr)
    ⟨rfl, rfl, rfl, rfl, rfl, by decide⟩

/-- The opening request, to a seller whose id has a space. -/
def spacedRequest : AgentNegotiationRequest :=
  { openingRequest with
    sellerIntentId := "the seller"
    identifiers := by decide }

/-- The request to a seller whose id has a space is taken, and the directory is not even written. -/
theorem spaced_seller_not_listed :
    let s := ({ maxOutbound := 3 } : AgentDrivenMarket).calls
      (herbCalls "the seller" (by decide) (by decide))
    Ready s (intentOf "buyer" .buy (by decide) (by decide)) 10 ∧
      s.intents.get "the seller" = some (intentOf "the seller" .sell (by decide) (by decide)) ∧
      s.requests.values = [] ∧
      Asks s (intentOf "buyer" .buy (by decide) (by decide))
        (intentOf "the seller" .sell (by decide) (by decide)) 10 spacedRequest ∧
      ¬ (s.Lists "buyer" 10 "the seller" ↔ ∃ r, s.submitRequests [spacedRequest] = .ok r) := by
  intro s
  have hready : Ready s (intentOf "buyer" .buy (by decide) (by decide)) 10 :=
    ⟨rfl, rfl, by decide, rfl, rfl, by decide⟩
  let seller := intentOf "the seller" .sell (by decide) (by decide)
  have hseller : s.intents.get seller.intentId = some seller := rfl
  have hasks : Asks s (intentOf "buyer" .buy (by decide) (by decide))
      (intentOf "the seller" .sell (by decide) (by decide)) 10 spacedRequest :=
    ⟨rfl, rfl, rfl, rfl, rfl, by decide⟩
  have hbooked : Booked s := booked_calls 3 _
  have htaken := (submits_iff hbooked hready hseller List.not_mem_nil hasks).mpr (by decide)
  refine ⟨hready, hseller, rfl, hasks, ?_⟩
  intro h
  have hlisted := (lists_iff hbooked.sound (nodup_intents_calls 3 _) hready hseller).mp
    (h.mpr htaken)
  have hspaced := (hlisted.1.entries seller
    ((hbooked.sound.mem_values_iff (nodup_intents_calls 3 _)).mpr hseller) hlisted.2).intentId
  revert hspaced
  decide

end AgentDrivenMarket

end Arena402.Game
