/-
A commitment binds the organiser to one seed and one sequence of events.

Every field of an event and of its effects is written into the payload.  The optional fields
of an effect are left out when they are absent, and nothing else has their keys; the list of
events and the lists of effects are written in order.  So the payload's text determines the
seed and the events.
-/
import Mathlib
import Arena402.Game.Events
import Arena402.Proofs.Lib.Json

namespace Arena402.Game

open Py

/-! ### Names -/

theorem EffectKind.value_inj {a b : EffectKind} (h : a.value = b.value) : a = b := by
  cases a <;> cases b <;> first | rfl | exact absurd h (by decide)

theorem PriceTarget.value_inj {a b : PriceTarget} (h : a.value = b.value) : a = b := by
  cases a <;> cases b <;> first | rfl | exact absurd h (by decide)

theorem Good.id_inj {a b : Good} (h : a.id = b.id) : a = b := by
  cases a <;> cases b <;> first | rfl | exact absurd h (by decide)

/-! ### Effects -/

namespace EventEffect

variable {e e' : EventEffect}

theorem keys_nodup (e : EventEffect) : (e.wireFields.map Prod.fst).Nodup := by
  unfold wireFields
  cases e.basisPoints <;> cases e.orderPriceAtomic <;> cases e.orderLimit <;>
    simp [Json.optField]

theorem map_canonical_inj {α : Type} {f : α → Json} (hcanonical : ∀ a, (f a).canonical = f a)
    (hf : ∀ a b, f a = f b → a = b) {x y : Option α}
    (h : (x.map f).map Json.canonical = (y.map f).map Json.canonical) : x = y := by
  cases x with
  | none =>
      cases y with
      | none => rfl
      | some b => cases h
  | some a =>
      cases y with
      | none => cases h
      | some b =>
          have heq := Option.some.inj h
          rw [hcanonical, hcanonical] at heq
          rw [hf a b heq]

/-- An effect is determined by what is written of it. -/
theorem eq_of_canonical (h : e.toWire.canonical = e'.toWire.canonical) : e = e' := by
  have hfield := Json.lookup_of_canonical (keys_nodup e) (keys_nodup e') h
  have hkind := hfield "kind"
  have hgood := hfield "good"
  have htarget := hfield "target"
  have hbps := hfield "basisPoints"
  have hprice := hfield "orderPriceAtomic"
  have hlimit := hfield "orderLimit"
  simp only [wireFields, List.lookup_append, List.lookup_cons, List.cons_append, List.nil_append,
    Json.lookup_optField, String.reduceBEq, String.reduceEq, if_true, if_false, Option.none_or,
    Option.or_none, Option.map_some, Json.canonical_str, Option.some.injEq, Json.str.injEq]
    at hkind hgood htarget hbps hprice hlimit
  cases e
  cases e'
  simp only [EventEffect.mk.injEq]
  exact ⟨EffectKind.value_inj hkind, Good.id_inj hgood, PriceTarget.value_inj htarget,
    map_canonical_inj Json.canonical_int (fun _ _ => Json.int.inj) hbps,
    map_canonical_inj Json.canonical_intStr (fun _ _ => Json.intStr_inj.mp) hprice,
    map_canonical_inj Json.canonical_int (fun _ _ => Json.int.inj) hlimit⟩

end EventEffect

/-! ### Events -/

/-- Lists that are written alike, item by item, are equal when the items are. -/
theorem list_eq_of_canonical {α : Type} {f : α → Json}
    (hf : ∀ a b, (f a).canonical = (f b).canonical → a = b) {xs ys : List α}
    (h : Json.canonical (.list (xs.map f)) = Json.canonical (.list (ys.map f))) : xs = ys := by
  simp only [Json.canonical_list, List.map_map, Json.list.injEq] at h
  exact List.map_injective_iff.mpr (fun a b hab => hf a b hab) h

namespace WorldEvent

variable {e e' : WorldEvent}

theorem keys_nodup (e : WorldEvent) : (e.wireFields.map Prod.fst).Nodup := by
  simp only [wireFields, List.map_cons, List.map_nil]
  decide

theorem opt_inj {x y : Option Int}
    (h : (Json.opt Json.int x).canonical = (Json.opt Json.int y).canonical) : x = y := by
  cases x <;> cases y <;> simp_all [Json.opt]

/-- An event is determined by what is written of it. -/
theorem eq_of_canonical (h : e.toWire.canonical = e'.toWire.canonical) : e = e' := by
  have hfields := Json.canonicalFields_eq (f := e.wireFields) (g := e'.wireFields) rfl
    (keys_nodup e) h
  simp only [wireFields, Json.canonicalFields, Json.canonical_str, Json.canonical_int,
    List.cons.injEq, Prod.mk.injEq, Json.str.injEq, Json.int.injEq, true_and, and_true] at hfields
  obtain ⟨hid, hname, hnarrative, hround, hduration, heffects, hschema⟩ := hfields
  cases e
  cases e'
  simp only [WorldEvent.mk.injEq]
  exact ⟨hid, hname, hnarrative, hround, opt_inj hduration,
    list_eq_of_canonical (fun _ _ => EventEffect.eq_of_canonical) heffects, hschema⟩

end WorldEvent

/-! ### Schedules -/

/-- The payload of a commitment determines the seed and the events. -/
theorem schedule_eq_of_canonical {events events' : List WorldEvent} {seed seed' : String}
    (h : (schedulePayload events seed).canonical = (schedulePayload events' seed').canonical) :
    seed = seed' ∧ events = events' := by
  have hnodup : ((scheduleFields events seed).map Prod.fst).Nodup := by
    simp only [scheduleFields, List.map_cons, List.map_nil]
    decide
  have hfields := Json.canonicalFields_eq (f := scheduleFields events seed)
    (g := scheduleFields events' seed') rfl hnodup h
  simp only [scheduleFields, Json.canonicalFields, Json.canonical_str, List.cons.injEq, Prod.mk.injEq,
    Json.str.injEq, true_and, and_true] at hfields
  exact ⟨hfields.1, list_eq_of_canonical (fun _ _ => WorldEvent.eq_of_canonical) hfields.2⟩

/-- **A commitment binds.**  Different pairs of a seed and a sequence of events are hashed
    from different texts, so their commitments differ unless the digest collides. -/
theorem commitments_of_different_schedules {events events' : List WorldEvent} {seed seed' : String}
    (hseed : seed ≠ "") (hseed' : seed' ≠ "") (hne : (seed, events) ≠ (seed', events')) :
    (schedulePayload events seed).encode ≠ (schedulePayload events' seed').encode ∧
      ∀ hexdigest : ByteArray → String,
        NoCollision hexdigest (schedulePayload events seed).encode
          (schedulePayload events' seed').encode →
        ∃ commitment commitment', scheduleCommitment hexdigest events seed = .ok commitment ∧
          scheduleCommitment hexdigest events' seed' = .ok commitment' ∧
          commitment ≠ commitment' := by
  have hbytes : (schedulePayload events seed).encode ≠ (schedulePayload events' seed').encode := by
    intro heq
    obtain ⟨hs, he⟩ := schedule_eq_of_canonical (Json.encode_eq_iff.mp heq)
    exact hne (by rw [hs, he])
  refine ⟨hbytes, ?_⟩
  intro hexdigest hfree
  refine ⟨_, _, if_neg (by simpa using hseed), if_neg (by simpa using hseed'), ?_⟩
  intro heq
  exact hbytes (bytes_of_sha256Identifier hfree heq)

/-! ### Two schedules that differ in a narrative -/

/-- A royal order for two gems, told in one of two ways. -/
def feast (narrative : String) : WorldEvent where
  eventId := "royal-feast"
  displayName := "Royal feast"
  narrative := narrative
  revealRound := 1
  durationRounds := none
  effects :=
    [{ kind := .createRoyalOrder
       good := .gems
       orderPriceAtomic := some 4000000
       orderLimit := some 2 }]

/-- The digests of the two payloads. -/
def feastDigest (bytes : ByteArray) : String :=
  if bytes = (schedulePayload [feast "x"] "seed-1").encode then
    "df08cf08006e5178fb1b6dde761ba77c0d754acf4729dc42318cc22fc87a40f5"
  else "a273fe68c5bb9989f10ab65db793e345a1729010e87ca018180f837cb76b2d25"

theorem feast_commitments_differ :
    (schedulePayload [feast "x"] "seed-1").encode ≠ (schedulePayload [feast "\""] "seed-1").encode ∧
      ∃ commitment commitment',
        scheduleCommitment feastDigest [feast "x"] "seed-1" = .ok commitment ∧
        scheduleCommitment feastDigest [feast "\""] "seed-1" = .ok commitment' ∧
        commitment ≠ commitment' := by
  have hne : ("seed-1", [feast "x"]) ≠ ("seed-1", [feast "\""]) := by decide
  have h := commitments_of_different_schedules (by decide) (by decide) hne
  refine ⟨h.1, h.2 feastDigest ?_⟩
  intro hcollision
  unfold feastDigest at hcollision
  rw [if_pos rfl, if_neg h.1.symm] at hcollision
  exact absurd hcollision (by decide)

end Arena402.Game
