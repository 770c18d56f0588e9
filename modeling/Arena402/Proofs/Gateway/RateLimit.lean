/-
What the limiter accepts.

`Follows` ties the buckets to the calls that were accepted: a bucket holds the times of its key
less some that have left the window, and a key without a bucket has none in it.  So a key is refused
at its limit, but a new key is also refused when the buckets are at their bound and one of them is
stale: a refused call moves its bucket behind those of later calls, and the purge stops before it.
-/
import Mathlib.Data.List.TakeWhile
import Arena402.Gateway.RateLimit

namespace Arena402.Gateway

open Py

namespace SlidingWindowRateLimiter

section Buckets

variable {τ : Type}

/-- The times of the accepted calls of a key. -/
def timesOf (accepted : List (String × τ)) (key : String) : List τ :=
  (accepted.filter fun call => call.1 = key).map (·.2)

theorem timesOf_concat (accepted : List (String × τ)) (call : String × τ) (key : String) :
    timesOf (accepted ++ [call]) key =
      if call.1 = key then timesOf accepted key ++ [call.2] else timesOf accepted key := by
  by_cases h : call.1 = key
  · simp [timesOf, h]
  · simp [timesOf, h]

/-! ### Buckets -/

/-- `get` with an empty bucket for a missing key. -/
def bucketOf (buckets : Dict String (List τ)) (key : String) : List τ :=
  (buckets.get key).getD []

theorem bucketOf_cons (key : String) (bucket : List τ) (rest : Dict String (List τ)) (k : String) :
    bucketOf ((key, bucket) :: rest) k = if key = k then bucket else bucketOf rest k := by
  unfold bucketOf
  rw [Dict.get_cons]
  by_cases h : key = k
  · rw [if_pos h, if_pos h]
    rfl
  · rw [if_neg h, if_neg h]

theorem bucketOf_of_not_mem {buckets : Dict String (List τ)} {key : String} (h : key ∉ buckets.keys) :
    bucketOf buckets key = [] := by
  have hnone : buckets.get key = none := by
    by_contra hsome
    exact h (Dict.mem_keys_iff.mpr (Option.isSome_iff_ne_none.mpr hsome))
  rw [bucketOf, hnone]
  rfl

theorem bucketOf_set (buckets : Dict String (List τ)) (key : String) (bucket : List τ) (k : String) :
    bucketOf (buckets.set key bucket) k = if k = key then bucket else bucketOf buckets k := by
  unfold bucketOf
  rw [Dict.get_set]
  by_cases h : k = key
  · rw [if_pos h, if_pos h]
    rfl
  · rw [if_neg h, if_neg h]

theorem length_keys (buckets : Dict String (List τ)) : buckets.keys.length = buckets.length := by
  simp [Dict.keys]

/-! ### One bucket at the end -/

theorem erase_keys (buckets : Dict String (List τ)) (key : String) :
    (buckets.erase key).keys = buckets.keys.filter fun k => k ≠ key := by
  simp [Dict.erase, Dict.keys, List.filter_map, Function.comp_def]

theorem moveToEnd_keys {buckets : Dict String (List τ)} {key : String} (h : buckets.keys.Nodup) :
    (moveToEnd buckets key).keys.Perm buckets.keys := by
  unfold moveToEnd
  cases hget : buckets.get key with
  | none => exact List.Perm.refl _
  | some bucket =>
      have hmem : key ∈ buckets.keys := Dict.mem_keys_iff.mpr (by rw [hget]; rfl)
      have hkeys : (buckets.erase key ++ [(key, bucket)]).keys = (buckets.erase key).keys ++ [key] := by
        simp [Dict.keys]
      show (buckets.erase key ++ [(key, bucket)]).keys.Perm buckets.keys
      rw [hkeys, erase_keys]
      refine (List.perm_append_singleton _ _).trans ?_
      have herase : (buckets.keys.filter fun k => k ≠ key) = buckets.keys.erase key := by
        rw [h.erase_eq_filter]
        refine List.filter_congr fun k _ => ?_
        by_cases hk : k = key <;> simp [hk]
      rw [herase]
      exact (List.perm_cons_erase hmem).symm

theorem get_append (d : Dict String (List τ)) (key : String) (bucket : List τ) (k : String) :
    Dict.get (d ++ [(key, bucket)]) k = (d.get k).or (if key = k then some bucket else none) := by
  induction d with
  | nil =>
      rw [List.nil_append, Dict.get_cons]
      simp
  | cons e rest ih =>
      rw [List.cons_append, Dict.get_cons, Dict.get_cons, ih]
      by_cases h : e.1 = k
      · rw [if_pos h, if_pos h]
        rfl
      · rw [if_neg h, if_neg h]

theorem moveToEnd_get (buckets : Dict String (List τ)) (key k : String) :
    (moveToEnd buckets key).get k = buckets.get k := by
  unfold moveToEnd
  cases hget : buckets.get key with
  | none => rfl
  | some bucket =>
      show Dict.get (buckets.erase key ++ [(key, bucket)]) k = _
      rw [get_append, Dict.get_erase]
      by_cases h : k = key
      · rw [if_pos h, if_pos h.symm, h, hget]
        rfl
      · rw [if_neg h, if_neg (Ne.symm h), Option.or_none]

end Buckets

section Trims

variable {τ : Type} [LinearOrder τ]

/-! ### Expired times -/

/-- What is left of a list of times after expired ones were dropped from its front. -/
def Trims (cutoff : τ) (old new : List τ) : Prop :=
  ∃ dropped, old = dropped ++ new ∧ ∀ time ∈ dropped, time ≤ cutoff

theorem Trims.refl (cutoff : τ) (times : List τ) : Trims cutoff times times :=
  ⟨[], rfl, by simp⟩

theorem Trims.trans {cutoff : τ} {first second third : List τ} (h : Trims cutoff first second)
    (h' : Trims cutoff second third) : Trims cutoff first third := by
  obtain ⟨dropped, rfl, hdropped⟩ := h
  obtain ⟨dropped', rfl, hdropped'⟩ := h'
  refine ⟨dropped ++ dropped', (List.append_assoc ..).symm, ?_⟩
  intro time htime
  rcases List.mem_append.mp htime with h | h
  · exact hdropped time h
  · exact hdropped' time h

theorem Trims.later {cutoff cutoff' : τ} (hle : cutoff ≤ cutoff') {old new : List τ}
    (h : Trims cutoff old new) : Trims cutoff' old new := by
  obtain ⟨dropped, hold, hdropped⟩ := h
  exact ⟨dropped, hold, fun time htime => le_trans (hdropped time htime) hle⟩

theorem Trims.concat {cutoff : τ} {old new : List τ} (h : Trims cutoff old new) (time : τ) :
    Trims cutoff (old ++ [time]) (new ++ [time]) := by
  obtain ⟨dropped, rfl, hdropped⟩ := h
  exact ⟨dropped, List.append_assoc .., hdropped⟩

theorem trims_popExpired (cutoff : τ) (bucket : List τ) :
    Trims cutoff bucket (popExpired cutoff bucket) := by
  refine ⟨bucket.takeWhile fun time => time ≤ cutoff, List.takeWhile_append_dropWhile.symm, ?_⟩
  intro time htime
  exact of_decide_eq_true (List.all_eq_true.mp
    (List.all_takeWhile (p := fun time : τ => decide (time ≤ cutoff))) time htime)

/-- In order, what is not popped is what is not expired. -/
theorem popExpired_eq_filter (cutoff : τ) : ∀ {bucket : List τ}, bucket.Pairwise (· ≤ ·) →
    popExpired cutoff bucket = bucket.filter fun time => cutoff < time := by
  intro bucket
  induction bucket with
  | nil => intro _; rfl
  | cons time rest ih =>
      intro h
      obtain ⟨hhead, hrest⟩ := List.pairwise_cons.mp h
      by_cases hle : time ≤ cutoff
      · rw [popExpired, List.dropWhile_cons_of_pos (by simpa using hle),
          List.filter_cons_of_neg (by simpa using hle)]
        exact ih hrest
      · have hall : ∀ t ∈ time :: rest, cutoff < t := by
          intro t ht
          rcases List.mem_cons.mp ht with rfl | ht
          · exact not_le.mp hle
          · exact lt_of_lt_of_le (not_le.mp hle) (hhead t ht)
        rw [popExpired, List.dropWhile_cons_of_neg (by simpa using hle), List.filter_eq_self.mpr]
        intro t ht
        exact decide_eq_true (hall t ht)

/-- Dropping expired times changes nothing for what is popped. -/
theorem Trims.popExpired_eq {cutoff : τ} {old new : List τ} (h : Trims cutoff old new) :
    popExpired cutoff old = popExpired cutoff new := by
  obtain ⟨dropped, rfl, hdropped⟩ := h
  unfold popExpired
  rw [List.dropWhile_append_of_pos]
  intro time htime
  exact decide_eq_true (hdropped time htime)

/-! ### The purge -/

theorem keys_purge (cutoff : τ) : ∀ buckets : Dict String (List τ),
    (purgeExpiredBuckets cutoff buckets).keys.Sublist buckets.keys := by
  intro buckets
  induction buckets with
  | nil => exact List.Sublist.refl _
  | cons e rest ih =>
      obtain ⟨key, bucket⟩ := e
      rw [purgeExpiredBuckets]
      cases hkept : popExpired cutoff bucket with
      | nil => exact ih.trans (List.sublist_cons_self _ _)
      | cons time times => exact List.Sublist.refl _

/-- The purge drops only expired times, with the buckets that they leave empty. -/
theorem trims_purge (cutoff : τ) : ∀ {buckets : Dict String (List τ)}, buckets.keys.Nodup → ∀ key,
    Trims cutoff (bucketOf buckets key) (bucketOf (purgeExpiredBuckets cutoff buckets) key) := by
  intro buckets
  induction buckets with
  | nil => intro _ key; exact Trims.refl _ _
  | cons e rest ih =>
      intro hnodup key
      obtain ⟨first, bucket⟩ := e
      obtain ⟨hfresh, hrest⟩ := List.nodup_cons.mp hnodup
      rw [purgeExpiredBuckets]
      have htrims := trims_popExpired cutoff bucket
      cases hkept : popExpired cutoff bucket with
      | nil =>
          rw [hkept] at htrims
          rw [bucketOf_cons]
          by_cases hkey : first = key
          · rw [if_pos hkey]
            have hgone : key ∉ (purgeExpiredBuckets cutoff rest).keys := by
              intro hmem
              exact hfresh (hkey ▸ (keys_purge cutoff rest).subset hmem)
            show Trims cutoff bucket (bucketOf (purgeExpiredBuckets cutoff rest) key)
            rw [bucketOf_of_not_mem hgone]
            exact htrims
          · rw [if_neg hkey]
            exact ih hrest key
      | cons time times =>
          rw [hkept] at htrims
          rw [bucketOf_cons, bucketOf_cons]
          by_cases hkey : first = key
          · rw [if_pos hkey, if_pos hkey]
            exact htrims
          · rw [if_neg hkey, if_neg hkey]
            exact Trims.refl _ _

theorem length_purge_le (cutoff : τ) (buckets : Dict String (List τ)) :
    (purgeExpiredBuckets cutoff buckets).length ≤ buckets.length := by
  have h := (keys_purge cutoff buckets).length_le
  rwa [length_keys, length_keys] at h

end Trims

variable {τ : Type} [Field τ] [LinearOrder τ]

/-- The accepted calls of a key in the half-open window that ends at `now`. -/
def inWindow (windowSeconds : Nat) (accepted : List (String × τ)) (key : String) (now : τ) : List τ :=
  (timesOf accepted key).filter fun time => now - windowSeconds < time ∧ time ≤ now

/-- The calls are made at non-decreasing times. -/
def Nondecreasing (calls : List (String × τ)) : Prop :=
  calls.Pairwise fun first second => first.2 ≤ second.2

/-! ### What every call keeps -/

/-- The buckets at a time that is not before any call. -/
structure Follows (run : Run τ) (now : τ) : Prop where
  nodup : run.limiter.buckets.keys.Nodup
  bound : run.limiter.buckets.length ≤ run.limiter.maxKeys
  times : ∀ key, Trims (run.limiter.cutoff now) (timesOf run.accepted key)
    (bucketOf run.limiter.buckets key)
  past : ∀ call ∈ run.accepted, call.2 ≤ now
  ordered : Nondecreasing run.accepted

variable {run : Run τ} {now : τ}

theorem Follows.ordered_timesOf (h : Follows run now) (key : String) :
    (timesOf run.accepted key).Pairwise (· ≤ ·) :=
  List.pairwise_map.mpr (h.ordered.sublist List.filter_sublist)

/-- The calls in the window are what is left of the bucket without its expired times. -/
theorem Follows.inWindow_eq (h : Follows run now) (key : String) :
    inWindow run.limiter.windowSeconds run.accepted key now =
      popExpired (run.limiter.cutoff now) (bucketOf run.limiter.buckets key) := by
  rw [← (h.times key).popExpired_eq, popExpired_eq_filter _ (h.ordered_timesOf key)]
  refine List.filter_congr fun time htime => ?_
  have hpast : time ≤ now := by
    obtain ⟨call, hcall, rfl⟩ := List.mem_map.mp htime
    exact h.past call (List.mem_of_mem_filter hcall)
  rw [cutoff]
  exact decide_eq_decide.mpr (by simp [hpast])

section Ordered

variable [IsStrictOrderedRing τ]

theorem cutoff_mono (limiter : SlidingWindowRateLimiter τ) {now later : τ} (h : now ≤ later) :
    limiter.cutoff now ≤ limiter.cutoff later :=
  sub_le_sub_right h _

theorem Follows.later (h : Follows run now) {later : τ} (hle : now ≤ later) : Follows run later where
  nodup := h.nodup
  bound := h.bound
  times key := (h.times key).later (cutoff_mono _ hle)
  past call hcall := le_trans (h.past call hcall) hle
  ordered := h.ordered

end Ordered

/-- The run after the purge of a call. -/
def purged (run : Run τ) (now : τ) : Run τ :=
  { run with
    limiter.buckets := purgeExpiredBuckets (run.limiter.cutoff now) run.limiter.buckets }

theorem Follows.purge (h : Follows run now) : Follows (purged run now) now where
  nodup := h.nodup.sublist (keys_purge _ _)
  bound := le_trans (length_purge_le _ _) h.bound
  times key := (h.times key).trans (trims_purge _ h.nodup key)
  past := h.past
  ordered := h.ordered

/-- A key whose window is not empty has a bucket. -/
theorem Follows.mem_keys (h : Follows run now) {key : String}
    (hlive : inWindow run.limiter.windowSeconds run.accepted key now ≠ []) :
    key ∈ (purged run now).limiter.buckets.keys := by
  by_contra hnot
  refine hlive ?_
  rw [show inWindow run.limiter.windowSeconds run.accepted key now = _ from h.purge.inWindow_eq key,
    bucketOf_of_not_mem hnot]
  rfl

/-- The window of a key with a bucket is not empty if its bucket is not stale. -/
theorem Follows.live_iff (h : Follows run now) {e : String × List τ}
    (he : e ∈ (purged run now).limiter.buckets) :
    inWindow run.limiter.windowSeconds run.accepted e.1 now ≠ [] ↔
      ¬ ∀ time ∈ e.2, time ≤ run.limiter.cutoff now := by
  have hbucket : bucketOf (purged run now).limiter.buckets e.1 = e.2 := by
    rw [bucketOf, Dict.get_of_mem h.purge.nodup he]
    rfl
  rw [show inWindow run.limiter.windowSeconds run.accepted e.1 now = _ from h.purge.inWindow_eq e.1,
    hbucket, popExpired, ne_eq, List.dropWhile_eq_nil_iff]
  simp only [decide_eq_true_eq]
  rfl

/-- As many other keys as there may be buckets have an accepted call in the window. -/
def OthersFill (run : Run τ) (key : String) (now : τ) : Prop :=
  ∃ others : Finset String, others.card = run.limiter.maxKeys ∧ key ∉ others ∧
    ∀ other ∈ others, inWindow run.limiter.windowSeconds run.accepted other now ≠ []

/-- At the bound the other keys fill the limiter if no bucket is stale. -/
theorem Follows.othersFill_iff (h : Follows run now) {key : String}
    (hnew : (purged run now).limiter.buckets.get key = none)
    (hfull : (purged run now).limiter.buckets.length ≥ run.limiter.maxKeys) :
    OthersFill run key now ↔
      ¬ ∃ e ∈ (purged run now).limiter.buckets, ∀ time ∈ e.2, time ≤ run.limiter.cutoff now := by
  have hlength : (purged run now).limiter.buckets.length = run.limiter.maxKeys :=
    le_antisymm h.purge.bound hfull
  have hcard : (purged run now).limiter.buckets.keys.toFinset.card = run.limiter.maxKeys := by
    rw [List.toFinset_card_of_nodup h.purge.nodup, length_keys, hlength]
  constructor
  · rintro ⟨others, hothers, -, hlive⟩ ⟨e, he, hstale⟩
    have hsub : others ⊆ (purged run now).limiter.buckets.keys.toFinset := by
      intro other hother
      exact List.mem_toFinset.mpr (h.mem_keys (hlive other hother))
    have hall : others = (purged run now).limiter.buckets.keys.toFinset :=
      Finset.eq_of_subset_of_card_le hsub (by rw [hcard, hothers])
    have hmem : e.1 ∈ others := by
      rw [hall, List.mem_toFinset]
      exact List.mem_map_of_mem he
    exact (h.live_iff he).mp (hlive e.1 hmem) hstale
  · intro hstale
    refine ⟨(purged run now).limiter.buckets.keys.toFinset, hcard, ?_, ?_⟩
    · rw [List.mem_toFinset, Dict.mem_keys_iff, hnew]
      simp
    · intro other hother
      obtain ⟨e, he, rfl⟩ := List.mem_map.mp (List.mem_toFinset.mp hother)
      exact (h.live_iff he).mpr fun hall => hstale ⟨e, he, hall⟩

/-- A bucket that was trimmed further. -/
theorem Follows.set (h : Follows run now) {key : String} (hmem : key ∈ run.limiter.buckets.keys)
    {bucket : List τ}
    (htimes : Trims (run.limiter.cutoff now) (timesOf run.accepted key) bucket) :
    Follows { run with limiter.buckets := run.limiter.buckets.set key bucket } now := by
  refine { h with
    nodup := Dict.nodup_keys_set h.nodup _ _
    bound := ?_
    times := ?_ }
  · show (run.limiter.buckets.set key bucket).length ≤ _
    rw [Dict.length_set, if_pos hmem]
    exact h.bound
  · intro k
    show Trims _ _ (bucketOf (run.limiter.buckets.set key bucket) k)
    rw [bucketOf_set]
    by_cases hk : k = key
    · rw [if_pos hk, hk]
      exact htimes
    · rw [if_neg hk]
      exact h.times k

/-- An accepted call goes behind the others, and its time behind those of its bucket. -/
theorem Follows.accept (h : Follows run now) {key : String} (hmem : key ∈ run.limiter.buckets.keys)
    {bucket : List τ}
    (htimes : Trims (run.limiter.cutoff now) (timesOf run.accepted key) bucket) :
    Follows { limiter := { run.limiter with buckets := run.limiter.buckets.set key (bucket ++ [now]) }
              accepted := run.accepted ++ [(key, now)] } now := by
  constructor
  · exact Dict.nodup_keys_set h.nodup _ _
  · show (run.limiter.buckets.set key (bucket ++ [now])).length ≤ _
    rw [Dict.length_set, if_pos hmem]
    exact h.bound
  · intro k
    show Trims _ (timesOf (run.accepted ++ [(key, now)]) k)
      (bucketOf (run.limiter.buckets.set key (bucket ++ [now])) k)
    rw [bucketOf_set, timesOf_concat]
    by_cases hk : k = key
    · rw [if_pos hk, if_pos hk.symm, hk]
      exact htimes.concat now
    · rw [if_neg hk, if_neg (Ne.symm hk)]
      exact h.times k
  · intro call hcall
    rcases List.mem_append.mp hcall with hcall | hcall
    · exact h.past call hcall
    · rw [List.mem_singleton.mp hcall]
  · refine List.pairwise_append.mpr ⟨h.ordered, List.pairwise_singleton _ _, ?_⟩
    intro call hcall call' hcall'
    rw [List.mem_singleton.mp hcall']
    exact h.past call hcall

/-! ### The bounds -/

/-- No window holds more accepted calls of a key than its limit. -/
def Within (attempts windowSeconds : Nat) (accepted : List (String × τ)) : Prop :=
  ∀ key now, (inWindow windowSeconds accepted key now).length ≤ attempts

/-- A window that holds the last call holds no call that has left the window of the last call. -/
theorem Within.accept [IsStrictOrderedRing τ] {attempts windowSeconds : Nat}
    {accepted : List (String × τ)} (h : Within attempts windowSeconds accepted)
    (hpast : ∀ call ∈ accepted, call.2 ≤ now) {key : String}
    (hroom : (inWindow windowSeconds accepted key now).length < attempts) :
    Within attempts windowSeconds (accepted ++ [(key, now)]) := by
  intro k later
  rw [inWindow, timesOf_concat]
  dsimp only
  by_cases hk : key = k
  · subst hk
    rw [if_pos rfl, List.filter_append]
    by_cases hin : later - windowSeconds < now ∧ now ≤ later
    · have hsub : (timesOf accepted key).filter
            (fun time => later - windowSeconds < time ∧ time ≤ later) =
          (inWindow windowSeconds accepted key now).filter
            fun time => later - windowSeconds < time ∧ time ≤ later := by
        rw [inWindow, List.filter_filter]
        refine List.filter_congr fun time htime => ?_
        obtain ⟨call, hcall, rfl⟩ := List.mem_map.mp htime
        have hnow := hpast call (List.mem_of_mem_filter hcall)
        have hlater : now - windowSeconds ≤ later - (windowSeconds : τ) := sub_le_sub_right hin.2 _
        have himp : later - (windowSeconds : τ) < call.2 → now - windowSeconds < call.2 :=
          fun hlt => lt_of_le_of_lt hlater hlt
        simp only [hnow, and_true]
        by_cases hlt : later - (windowSeconds : τ) < call.2
        · simp [hlt, himp hlt]
        · simp [hlt]
      rw [hsub, List.length_append]
      have hle := List.length_filter_le
        (fun time => decide (later - (windowSeconds : τ) < time ∧ time ≤ later))
        (inWindow windowSeconds accepted key now)
      have hone : ([now].filter fun time =>
          decide (later - (windowSeconds : τ) < time ∧ time ≤ later)).length ≤ 1 :=
        List.length_filter_le _ _
      omega
    · have hnone : [now].filter (fun time =>
          decide (later - (windowSeconds : τ) < time ∧ time ≤ later)) = [] := by
        simpa using hin
      rw [hnone, List.append_nil]
      exact h key later
  · rw [if_neg hk]
    exact h k later

variable [FloorRing τ]

/-! ### Calls that the window decides -/

/-- A call is accepted below the limit of its key and refused at it. -/
structure CallByWindow (run : Run τ) (key : String) (now : τ) : Prop where
  admits : (inWindow run.limiter.windowSeconds run.accepted key now).length < run.limiter.attempts →
    ¬ OthersFill run key now → (run.limiter.check key now).2 = .ok ()
  refuses : (inWindow run.limiter.windowSeconds run.accepted key now).length ≥ run.limiter.attempts →
    (run.limiter.check key now).2 ≠ .ok ()

/-- The window decides every call of the run, and at every moment the accepted calls and the buckets are
    within their bounds. -/
structure RunByWindow (attempts windowSeconds maxKeys : Nat) (calls : List (String × τ)) : Prop where
  call : ∀ before key now later, calls = before ++ (key, now) :: later →
    CallByWindow (runOf attempts windowSeconds maxKeys before) key now
  window : ∀ key now,
    (inWindow windowSeconds (runOf attempts windowSeconds maxKeys calls).accepted key now).length ≤
      attempts
  buckets : ∀ before, before <+: calls →
    (runOf attempts windowSeconds maxKeys before).limiter.buckets.length ≤ maxKeys

/-- A new key comes while the buckets are at their bound, and one of them is stale after the purge. -/
def StaleBlocks (limiter : SlidingWindowRateLimiter τ) (key : String) (now : τ) : Prop :=
  let buckets := purgeExpiredBuckets (limiter.cutoff now) limiter.buckets
  buckets.get key = none ∧ buckets.length ≥ limiter.maxKeys ∧
    ∃ e ∈ buckets, ∀ time ∈ e.2, time ≤ limiter.cutoff now

/-! ### One call -/

/-- A new key at the bound is refused. -/
theorem check_full {limiter : SlidingWindowRateLimiter τ} {key : String}
    (hnew : (purgeExpiredBuckets (limiter.cutoff now) limiter.buckets).get key = none)
    (hfull : (purgeExpiredBuckets (limiter.cutoff now) limiter.buckets).length ≥ limiter.maxKeys) :
    limiter.check key now =
      ({ limiter with buckets := purgeExpiredBuckets (limiter.cutoff now) limiter.buckets },
        .error (.rateLimitExceeded limiter.windowSeconds)) := by
  unfold check
  simp only [hnew]
  rw [if_pos hfull]

/-- Otherwise the bucket of the key is at the end, with the same times, and decides. -/
theorem Follows.check_tryAccept (h : Follows run now) {key : String}
    (hroom : (purged run now).limiter.buckets.get key = none →
      (purged run now).limiter.buckets.length < run.limiter.maxKeys) :
    ∃ buckets : Dict String (List τ),
      run.limiter.check key now =
        run.limiter.tryAccept buckets key (bucketOf (purged run now).limiter.buckets key) now ∧
      key ∈ buckets.keys ∧ Follows { purged run now with limiter.buckets := buckets } now := by
  have hpurged := h.purge
  cases hget : (purged run now).limiter.buckets.get key with
  | none =>
      have hlt := hroom hget
      refine ⟨(purged run now).limiter.buckets.set key [], ?_, ?_, ?_⟩
      · unfold check
        have hget' : (purgeExpiredBuckets (run.limiter.cutoff now) run.limiter.buckets).get key = none :=
          hget
        simp only [hget']
        have hlt' : ¬ (purgeExpiredBuckets (run.limiter.cutoff now) run.limiter.buckets).length ≥
            run.limiter.maxKeys := not_le.mpr hlt
        rw [if_neg hlt', bucketOf, hget]
        rfl
      · exact Dict.mem_keys_iff.mpr (by rw [Dict.get_set_self]; rfl)
      · have hfresh : key ∉ (purged run now).limiter.buckets.keys := by
          rw [Dict.mem_keys_iff, hget]
          simp
        refine { hpurged with
          nodup := Dict.nodup_keys_set hpurged.nodup _ _
          bound := ?_
          times := ?_ }
        · show ((purged run now).limiter.buckets.set key []).length ≤ run.limiter.maxKeys
          rw [Dict.length_set, if_neg hfresh]
          exact hlt
        · intro k
          show Trims _ _ (bucketOf ((purged run now).limiter.buckets.set key []) k)
          rw [bucketOf_set]
          by_cases hk : k = key
          · rw [if_pos hk, ← bucketOf_of_not_mem hfresh, ← hk]
            exact hpurged.times k
          · rw [if_neg hk]
            exact hpurged.times k
  | some bucket =>
      have hmem : key ∈ (purged run now).limiter.buckets.keys :=
        Dict.mem_keys_iff.mpr (by rw [hget]; rfl)
      have hperm : (moveToEnd (purged run now).limiter.buckets key).keys.Perm
          (purged run now).limiter.buckets.keys := moveToEnd_keys hpurged.nodup
      refine ⟨moveToEnd (purged run now).limiter.buckets key, ?_, hperm.mem_iff.mpr hmem, ?_⟩
      · unfold check
        have hget' : (purgeExpiredBuckets (run.limiter.cutoff now) run.limiter.buckets).get key =
            some bucket := hget
        simp only [hget']
        rw [bucketOf, hget]
        rfl
      · refine { hpurged with
          nodup := hperm.nodup_iff.mpr hpurged.nodup
          bound := ?_
          times := ?_ }
        · have hlength := hperm.length_eq
          rw [length_keys, length_keys] at hlength
          show (moveToEnd (purged run now).limiter.buckets key).length ≤ _
          rw [hlength]
          exact hpurged.bound
        · intro k
          show Trims _ _ (bucketOf (moveToEnd (purged run now).limiter.buckets key) k)
          rw [bucketOf, moveToEnd_get]
          exact hpurged.times k

/-- The decision of `tryAccept`: the length of the trimmed bucket. -/
theorem tryAccept_accepted {limiter : SlidingWindowRateLimiter τ} {buckets : Dict String (List τ)}
    {key : String} {bucket : List τ} :
    (limiter.tryAccept buckets key bucket now).2 = .ok () ↔
      (popExpired (limiter.cutoff now) bucket).length < limiter.attempts := by
  unfold tryAccept
  by_cases hfull : (popExpired (limiter.cutoff now) bucket).length ≥ limiter.attempts
  · rw [if_pos hfull]
    refine ⟨fun h => ?_, fun h => absurd hfull (not_le.mpr h)⟩
    dsimp only at h
    split at h <;> cases h
  · rw [if_neg hfull]
    exact ⟨fun _ => not_le.mp hfull, fun _ => rfl⟩

theorem tryAccept_refused {limiter : SlidingWindowRateLimiter τ} (buckets : Dict String (List τ))
    (key : String) {bucket : List τ}
    (h : (popExpired (limiter.cutoff now) bucket).length ≥ limiter.attempts) :
    ∃ e, limiter.tryAccept buckets key bucket now =
      ({ limiter with buckets := buckets.set key (popExpired (limiter.cutoff now) bucket) },
        .error e) := by
  unfold tryAccept
  rw [if_pos h]
  cases popExpired (limiter.cutoff now) bucket with
  | nil | cons _ _ => exact ⟨_, rfl⟩

theorem tryAccept_ok {limiter : SlidingWindowRateLimiter τ} (buckets : Dict String (List τ))
    (key : String) {bucket : List τ}
    (h : (popExpired (limiter.cutoff now) bucket).length < limiter.attempts) :
    limiter.tryAccept buckets key bucket now =
      ({ limiter with
          buckets := buckets.set key (popExpired (limiter.cutoff now) bucket ++ [now]) }, .ok ()) := by
  unfold tryAccept
  rw [if_neg (not_le.mpr h)]

/-- What one call does to the run, and what it answers. -/
theorem Follows.call_cases (h : Follows run now) (key : String) :
    (∃ e, (run.limiter.check key now).2 = .error e ∧
      (run.call (key, now)).accepted = run.accepted ∧ Follows (run.call (key, now)) now) ∨
    ((run.limiter.check key now).2 = .ok () ∧
      (inWindow run.limiter.windowSeconds run.accepted key now).length < run.limiter.attempts ∧
      (run.call (key, now)).accepted = run.accepted ++ [(key, now)] ∧
      Follows (run.call (key, now)) now) := by
  unfold Run.call
  by_cases hfull : (purged run now).limiter.buckets.get key = none ∧
      (purged run now).limiter.buckets.length ≥ run.limiter.maxKeys
  · rw [check_full hfull.1 hfull.2]
    exact Or.inl ⟨_, rfl, rfl, h.purge⟩
  · have hroom : (purged run now).limiter.buckets.get key = none →
        (purged run now).limiter.buckets.length < run.limiter.maxKeys :=
      fun hnew => not_le.mp fun hle => hfull ⟨hnew, hle⟩
    obtain ⟨buckets, hcheck, hmem, hkept⟩ := h.check_tryAccept hroom
    rw [hcheck]
    have htimes := (h.purge.times key).trans (trims_popExpired (run.limiter.cutoff now) _)
    by_cases hlimit : (popExpired (run.limiter.cutoff now)
        (bucketOf (purged run now).limiter.buckets key)).length ≥ run.limiter.attempts
    · obtain ⟨e, hrefused⟩ := tryAccept_refused buckets key hlimit
      rw [hrefused]
      exact Or.inl ⟨e, rfl, rfl, hkept.set hmem htimes⟩
    · rw [tryAccept_ok buckets key (not_le.mp hlimit)]
      refine Or.inr ⟨rfl, ?_, rfl, hkept.accept hmem htimes⟩
      have hwindow := h.purge.inWindow_eq key
      rw [show inWindow run.limiter.windowSeconds run.accepted key now = _ from hwindow]
      exact not_le.mp hlimit

theorem check_settings (limiter : SlidingWindowRateLimiter τ) (key : String) (now : τ) :
    ∃ buckets, (limiter.check key now).1 = { limiter with buckets := buckets } := by
  unfold check
  dsimp only
  cases (purgeExpiredBuckets (limiter.cutoff now) limiter.buckets).get key with
  | none =>
      dsimp only
      split
      · exact ⟨_, rfl⟩
      · unfold tryAccept
        dsimp only
        split <;> exact ⟨_, rfl⟩
  | some bucket =>
      unfold tryAccept
      dsimp only
      split <;> exact ⟨_, rfl⟩

/-- The settings of a limiter. -/
structure Settings (limiter : SlidingWindowRateLimiter τ) (attempts windowSeconds maxKeys : Nat) :
    Prop where
  attempts : limiter.attempts = attempts
  windowSeconds : limiter.windowSeconds = windowSeconds
  maxKeys : limiter.maxKeys = maxKeys

theorem Settings.call {attempts windowSeconds maxKeys : Nat}
    (h : Settings run.limiter attempts windowSeconds maxKeys) (call : String × τ) :
    Settings (run.call call).limiter attempts windowSeconds maxKeys := by
  obtain ⟨buckets, hbuckets⟩ := check_settings run.limiter call.1 call.2
  have hlimiter : (run.call call).limiter = (run.limiter.check call.1 call.2).1 := by
    unfold Run.call
    split <;> rename_i heq <;> rw [heq]
  rw [hlimiter, hbuckets]
  exact ⟨h.attempts, h.windowSeconds, h.maxKeys⟩

/-! ### Runs -/

theorem runOf_concat (attempts windowSeconds maxKeys : Nat) (calls : List (String × τ))
    (call : String × τ) :
    runOf attempts windowSeconds maxKeys (calls ++ [call]) =
      (runOf attempts windowSeconds maxKeys calls).call call := by
  rw [runOf, List.foldl_append]
  rfl

theorem settings_runOf (attempts windowSeconds maxKeys : Nat) (calls : List (String × τ)) :
    Settings (runOf attempts windowSeconds maxKeys calls).limiter attempts windowSeconds maxKeys := by
  induction calls using List.reverseRecOn with
  | nil => exact ⟨rfl, rfl, rfl⟩
  | append_singleton calls call ih =>
      rw [runOf_concat]
      exact ih.call call

section Ordered

variable [IsStrictOrderedRing τ]

/-- The buckets follow the accepted calls at every moment from the last call on. -/
theorem follows_runOf (attempts windowSeconds maxKeys : Nat) (calls : List (String × τ))
    (hordered : Nondecreasing calls) : ∀ now, (∀ call ∈ calls, call.2 ≤ now) →
      Follows (runOf attempts windowSeconds maxKeys calls) now := by
  induction calls using List.reverseRecOn with
  | nil =>
      intro now _
      exact
        { nodup := List.nodup_nil
          bound := Nat.zero_le _
          times := fun key => Trims.refl _ _
          past := by intro call hcall; cases hcall
          ordered := List.Pairwise.nil }
  | append_singleton calls call ih =>
      intro now hnow
      obtain ⟨hbefore, -, hlast⟩ := List.pairwise_append.mp hordered
      have hcalls : Follows (runOf attempts windowSeconds maxKeys calls) call.2 :=
        ih hbefore call.2 fun c hc => hlast c hc call List.mem_cons_self
      have hle : call.2 ≤ now := hnow call (List.mem_append_right _ List.mem_cons_self)
      rw [runOf_concat]
      rcases hcalls.call_cases call.1 with ⟨_, -, -, h⟩ | ⟨-, -, -, h⟩
      · exact h.later hle
      · exact h.later hle

theorem within_runOf (attempts windowSeconds maxKeys : Nat) (calls : List (String × τ))
    (hordered : Nondecreasing calls) :
    Within attempts windowSeconds (runOf attempts windowSeconds maxKeys calls).accepted := by
  induction calls using List.reverseRecOn with
  | nil => intro key now; exact Nat.zero_le _
  | append_singleton calls call ih =>
      obtain ⟨hbefore, -, hlast⟩ := List.pairwise_append.mp hordered
      have hcalls := follows_runOf attempts windowSeconds maxKeys calls hbefore call.2
        fun c hc => hlast c hc call List.mem_cons_self
      have hsettings := settings_runOf attempts windowSeconds maxKeys calls
      rw [runOf_concat]
      rcases hcalls.call_cases call.1 with ⟨_, -, haccepted, -⟩ | ⟨-, hroom, haccepted, -⟩
      · rw [haccepted]
        exact ih hbefore
      · rw [haccepted]
        rw [hsettings.attempts, hsettings.windowSeconds] at hroom
        exact (ih hbefore).accept hcalls.past hroom

end Ordered

/-! ### When the window decides -/

/-- The window decides a call unless it is of a new key, at the bound, with a stale bucket. -/
theorem Follows.callByWindow_iff (h : Follows run now) (hattempts : 0 < run.limiter.attempts)
    (key : String) : CallByWindow run key now ↔ ¬ StaleBlocks run.limiter key now := by
  by_cases hfull : (purged run now).limiter.buckets.get key = none ∧
      (purged run now).limiter.buckets.length ≥ run.limiter.maxKeys
  · have hcheck : (run.limiter.check key now).2 =
        .error (.rateLimitExceeded run.limiter.windowSeconds) := by
      rw [check_full hfull.1 hfull.2]
    have hempty : inWindow run.limiter.windowSeconds run.accepted key now = [] := by
      by_contra hlive
      have hmem := Dict.mem_keys_iff.mp (h.mem_keys hlive)
      rw [hfull.1] at hmem
      cases hmem
    have hfill := h.othersFill_iff hfull.1 hfull.2
    constructor
    · rintro hclaim ⟨-, -, hstale⟩
      have hok := hclaim.admits (by rw [hempty]; exact hattempts) fun hothers =>
        hfill.mp hothers hstale
      rw [hcheck] at hok
      cases hok
    · intro hnot
      have hothers : OthersFill run key now :=
        hfill.mpr fun hstale => hnot ⟨hfull.1, hfull.2, hstale⟩
      refine ⟨fun _ hfree => absurd hothers hfree, ?_⟩
      intro _ hok
      rw [hcheck] at hok
      cases hok
  · have hroom : (purged run now).limiter.buckets.get key = none →
        (purged run now).limiter.buckets.length < run.limiter.maxKeys :=
      fun hnew => not_le.mp fun hle => hfull ⟨hnew, hle⟩
    obtain ⟨buckets, hcheck, -, -⟩ := h.check_tryAccept hroom
    have hdecides : (run.limiter.check key now).2 = .ok () ↔
        (inWindow run.limiter.windowSeconds run.accepted key now).length < run.limiter.attempts := by
      rw [hcheck, tryAccept_accepted]
      rw [show inWindow run.limiter.windowSeconds run.accepted key now = _ from
        h.purge.inWindow_eq key]
      rfl
    constructor
    · rintro - ⟨hnew, hbound, -⟩
      exact hfull ⟨hnew, hbound⟩
    · intro _
      exact
        { admits := fun hlt _ => hdecides.mpr hlt
          refuses := fun hge hok => absurd (hdecides.mp hok) (not_lt.mpr hge) }

/-- **The window decides a run exactly if no new key ever comes while the buckets are at their bound
    and one of them is stale behind a live one.** -/
theorem runByWindow_iff [IsStrictOrderedRing τ] (attempts windowSeconds maxKeys : Nat)
    (hattempts : 0 < attempts) (calls : List (String × τ)) (hordered : Nondecreasing calls) :
    RunByWindow attempts windowSeconds maxKeys calls ↔
      ∀ before key now later, calls = before ++ (key, now) :: later →
        ¬ StaleBlocks (runOf attempts windowSeconds maxKeys before).limiter key now := by
  have hstep : ∀ before key now later, calls = before ++ (key, now) :: later →
      (CallByWindow (runOf attempts windowSeconds maxKeys before) key now ↔
        ¬ StaleBlocks (runOf attempts windowSeconds maxKeys before).limiter key now) := by
    rintro before key now later rfl
    obtain ⟨hbefore, -, hlast⟩ := List.pairwise_append.mp hordered
    have hfollows := follows_runOf attempts windowSeconds maxKeys before hbefore now
      fun c hc => hlast c hc (key, now) List.mem_cons_self
    refine hfollows.callByWindow_iff ?_ key
    rw [(settings_runOf attempts windowSeconds maxKeys before).attempts]
    exact hattempts
  constructor
  · intro hclaim before key now later hcalls
    exact (hstep before key now later hcalls).mp (hclaim.call before key now later hcalls)
  · intro hfresh
    refine
      { call := fun before key now later hcalls =>
          (hstep before key now later hcalls).mpr (hfresh before key now later hcalls)
        window := within_runOf attempts windowSeconds maxKeys calls hordered
        buckets := ?_ }
    rintro before ⟨later, rfl⟩
    have hbefore : Nondecreasing before := (List.pairwise_append.mp hordered).1
    have hbound : ∃ now : τ, Follows (runOf attempts windowSeconds maxKeys before) now := by
      rcases List.eq_nil_or_concat before with rfl | ⟨first, last, hconcat⟩
      · exact ⟨0, follows_runOf _ _ _ _ hbefore _ (by intro c hc; cases hc)⟩
      · rw [List.concat_eq_append] at hconcat
        subst hconcat
        refine ⟨last.2, follows_runOf _ _ _ _ hbefore _ ?_⟩
        intro c hc
        rcases List.mem_append.mp hc with hc | hc
        · exact (List.pairwise_append.mp hbefore).2.2 c hc last List.mem_cons_self
        · rw [List.mem_singleton.mp hc]
    obtain ⟨now, hfollows⟩ := hbound
    have hle := hfollows.bound
    rwa [(settings_runOf attempts windowSeconds maxKeys before).maxKeys] at hle

namespace Example

/-- Two keys fill the limiter, and the refused call of the first one hides its stale bucket. -/
def crowded : List (String × ℚ) :=
  [("b", 0), ("a", 5), ("b", 9)]

theorem crowded_ordered : Nondecreasing (crowded ++ [("c", 12)]) := by
  unfold Nondecreasing crowded
  norm_num

end Example

theorem runByWindow_iff_hidden : RunByWindow 1 10 3 Example.crowded ↔
    ∀ before key now later, Example.crowded = before ++ (key, now) :: later →
      ¬ StaleBlocks (runOf 1 10 3 before).limiter key now :=
  runByWindow_iff 1 10 3 (by decide) Example.crowded
    (List.pairwise_append.mp Example.crowded_ordered).1

/-- A third key is refused at 12 although only one other key has a call in the last ten seconds. -/
theorem stale_bucket_blocks :
    ¬ ∀ calls : List (String × ℚ), Nondecreasing calls → RunByWindow 1 10 2 calls := by
  intro hclaim
  have hcall := (hclaim _ Example.crowded_ordered).call Example.crowded "c" 12 [] rfl
  have hfollows : Follows (runOf 1 10 2 Example.crowded) (12 : ℚ) :=
    follows_runOf 1 10 2 Example.crowded (List.pairwise_append.mp Example.crowded_ordered).1 12
      (by norm_num [Example.crowded])
  refine (hfollows.callByWindow_iff ?_ "c").mp hcall ?_
  · decide +kernel
  · unfold StaleBlocks
    decide +kernel

end SlidingWindowRateLimiter

end Arena402.Gateway
