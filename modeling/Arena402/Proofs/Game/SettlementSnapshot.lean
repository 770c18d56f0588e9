/-
A settlement intent is determined by its snapshot.

Every field of an intent is a field of the snapshot, with integers written as numbers or as
their decimal text; the EIP-712 name and version are there together or not at all, and the
constructor refuses one without the other.  So different intents are hashed from different
texts, and their hashes and payment nonces differ unless the digest collides on these texts.
-/
import Mathlib
import Arena402.Game.SettlementSnapshot
import Arena402.Proofs.Lib.Json

namespace Arena402.Game.Settlement

open Py

namespace SettlementIntent

variable {i j : SettlementIntent}

/-- What the constructor has seen to. -/
structure Checked (i : SettlementIntent) : Prop where
  buyer : ∃ given, normalizeEvmAddress given = .ok i.buyerAccount
  seller : ∃ given, normalizeEvmAddress given = .ok i.sellerAccount
  token : ∃ given, normalizeEvmAddress given = .ok i.tokenAddress
  amount : 0 < i.amountAtomic
  chain : 0 < i.chainId
  confirmations : 1 ≤ i.requiredConfirmations
  /-- An EIP-712 name and version are given together or not at all. -/
  domain : i.tokenEip712Name.isNone = i.tokenEip712Version.isNone

theorem Constructible.checked (h : i.Constructible) : i.Checked := by
  obtain ⟨given, h⟩ := h
  unfold postInit at h
  obtain ⟨-, h⟩ := ok_of_guard h
  obtain ⟨buyer, hbuyer, h⟩ := ok_of_bind h
  obtain ⟨seller, hseller, h⟩ := ok_of_bind h
  obtain ⟨token, htoken, h⟩ := ok_of_bind h
  unfold check at h
  obtain ⟨-, h⟩ := ok_of_guard h
  obtain ⟨hquantity, h⟩ := ok_of_guard h
  obtain ⟨hprice, h⟩ := ok_of_guard h
  obtain ⟨hproduct, h⟩ := ok_of_guard h
  obtain ⟨hchain, h⟩ := ok_of_guard h
  obtain ⟨-, h⟩ := ok_of_guard h
  obtain ⟨hrange, h⟩ := ok_of_guard h
  obtain ⟨-, h⟩ := ok_of_guard h
  obtain ⟨hdomain, h⟩ := ok_of_guard h
  obtain ⟨-, h⟩ := ok_of_guard h
  obtain rfl := Except.ok.inj h
  have hamount := not_not.mp hproduct
  dsimp only at hamount hprice hquantity
  exact
    { buyer := ⟨_, hbuyer⟩
      seller := ⟨_, hseller⟩
      token := ⟨_, htoken⟩
      amount := hamount ▸ mul_pos (not_le.mp hprice) (not_le.mp hquantity)
      chain := not_le.mp hchain
      confirmations := (not_not.mp hrange).1
      domain := not_not.mp hdomain }

theorem AuthorizationMode.name_inj {a b : AuthorizationMode} (h : a.name = b.name) : a = b := by
  cases a <;> cases b <;> first | rfl | exact absurd h (by decide)

theorem keys_nodup (i : SettlementIntent) : (i.snapshotFields.map Prod.fst).Nodup := by
  unfold snapshotFields domainFields
  cases i.tokenEip712Name with
  | none =>
      simp only [List.append_nil, List.map_cons, List.map_nil]
      decide
  | some name =>
      simp only [List.cons_append, List.nil_append, List.map_cons, List.map_nil]
      decide

/-- The name is written whenever there is one. -/
theorem lookup_name (i : SettlementIntent) :
    i.snapshotFields.lookup "tokenEip712Name" = i.tokenEip712Name.map .str := by
  unfold snapshotFields domainFields
  cases i.tokenEip712Name with
  | none | some _ => simp [List.lookup_cons]

theorem name_eq (h : i.toSnapshot.canonical = j.toSnapshot.canonical) :
    i.tokenEip712Name = j.tokenEip712Name := by
  have hlookup := Json.lookup_of_canonical (keys_nodup i) (keys_nodup j) h "tokenEip712Name"
  rw [lookup_name, lookup_name] at hlookup
  cases hi : i.tokenEip712Name with
  | none =>
      cases hj : j.tokenEip712Name with
      | none => rfl
      | some name => simp [hi, hj] at hlookup
  | some name =>
      cases hj : j.tokenEip712Name with
      | none => simp [hi, hj] at hlookup
      | some name' => simpa [hi, hj] using hlookup

/-- The values of all fields but the EIP-712 ones. -/
theorem plain_eq (h : i.toSnapshot.canonical = j.toSnapshot.canonical) :
    { i with tokenEip712Version := none } = { j with tokenEip712Version := none } := by
  have hname := name_eq h
  have hkeys : i.snapshotFields.map Prod.fst = j.snapshotFields.map Prod.fst := by
    unfold snapshotFields domainFields
    rw [hname]
    cases j.tokenEip712Name <;> rfl
  have hfields := Json.canonicalFields_eq hkeys (keys_nodup i) h
  simp only [snapshotFields, List.cons_append, Json.canonicalFields, Json.canonical_str,
    Json.canonical_int, Json.canonical_intStr, List.cons.injEq, Prod.mk.injEq, Json.str.injEq,
    Json.int.injEq, Json.intStr_inj, true_and] at hfields
  obtain ⟨hid, hgame, hround, hpairing, hnegotiation, hbuyer, hseller, hbuyerAgent, hsellerAgent,
    hbuyerAccount, hsellerAccount, hgood, hquantity, hprice, hamount, hchain, htoken, hsymbol,
    hdecimals, hconfirmations, hmode, hkey, -⟩ := hfields
  simp only [SettlementIntent.mk.injEq, and_true]
  exact ⟨hid, hgame, hround, hpairing, hnegotiation, hbuyer, hseller, hbuyerAgent, hsellerAgent,
    hbuyerAccount, hsellerAccount, hgood, hquantity, hprice, hamount, hchain, htoken, hsymbol,
    hdecimals, hconfirmations, AuthorizationMode.name_inj hmode, hkey, hname⟩

/-- The version is written whenever there is a name. -/
theorem lookup_version {name : String} (h : i.tokenEip712Name = some name) :
    i.snapshotFields.lookup "tokenEip712Version" = some (.opt .str i.tokenEip712Version) := by
  simp [snapshotFields, domainFields, h, List.lookup_cons]

theorem version_eq (hi : i.Constructible) (hj : j.Constructible)
    (h : i.toSnapshot.canonical = j.toSnapshot.canonical) :
    i.tokenEip712Version = j.tokenEip712Version := by
  have hname := name_eq h
  have hdi := hi.checked.domain
  have hdj := hj.checked.domain
  rw [hname] at hdi
  cases hn : j.tokenEip712Name with
  | none =>
      rw [hn] at hdi hdj
      rw [Option.isNone_iff_eq_none.mp hdi.symm, Option.isNone_iff_eq_none.mp hdj.symm]
  | some name =>
      have hlookup := Json.lookup_of_canonical (keys_nodup i) (keys_nodup j) h "tokenEip712Version"
      rw [lookup_version (hname.trans hn), lookup_version hn] at hlookup
      rw [hn] at hdi hdj
      cases hvi : i.tokenEip712Version with
      | none => simp [hvi] at hdi
      | some v =>
          cases hvj : j.tokenEip712Version with
          | none => simp [hvj] at hdj
          | some v' => simpa [hvi, hvj, Json.opt] using hlookup

/-- An intent is determined by its canonical snapshot. -/
theorem eq_of_canonical (hi : i.Constructible) (hj : j.Constructible)
    (h : i.toSnapshot.canonical = j.toSnapshot.canonical) : i = j := by
  have hplain := plain_eq h
  have hversion := version_eq hi hj h
  calc i = { { i with tokenEip712Version := none } with
        tokenEip712Version := i.tokenEip712Version } := rfl
    _ = j := by rw [hplain, hversion]

/-- **Different intents are hashed from different texts**, so neither their hashes nor the
    nonces of their payment authorizations are the same unless the digest collides. -/
theorem snapshots_of_different_intents (hi : i.Constructible) (hj : j.Constructible) (hne : i ≠ j) :
    canonicalJsonBytes i.toSnapshot ≠ canonicalJsonBytes j.toSnapshot ∧
      ∀ hexdigest : ByteArray → String,
        NoCollision hexdigest (canonicalJsonBytes i.toSnapshot)
          (canonicalJsonBytes j.toSnapshot) →
        i.intentHash hexdigest ≠ j.intentHash hexdigest ∧
          expectedNonce (i.intentHash hexdigest) ≠ expectedNonce (j.intentHash hexdigest) := by
  have hbytes : canonicalJsonBytes i.toSnapshot ≠ canonicalJsonBytes j.toSnapshot := by
    intro heq
    exact hne (eq_of_canonical hi hj (Json.encode_eq_iff.mp heq))
  refine ⟨hbytes, ?_⟩
  intro hexdigest hfree
  constructor
  · intro heq
    exact hbytes (bytes_of_sha256Identifier hfree heq)
  · intro heq
    exact hbytes (bytes_of_expectedNonce hfree heq)

/-! ### Two intents that differ in a quote -/

/-- An intent for one grain whose token symbol is given. -/
def grainIntent (tokenSymbol : String) : SettlementIntent where
  settlementIntentId := "intent-1"
  gameId := "game-1"
  roundId := "round-1"
  pairingId := "pairing-1"
  negotiationId := "negotiation-1"
  buyerParticipantId := "buyer"
  sellerParticipantId := "seller"
  buyerAgentId := "buyer-agent"
  sellerAgentId := "seller-agent"
  buyerAccount := "0x1111111111111111111111111111111111111111"
  sellerAccount := "0x2222222222222222222222222222222222222222"
  good := "grain"
  quantity := 1
  unitPriceAtomic := 2500000
  amountAtomic := 2500000
  chainId := 84532
  tokenAddress := "0x3333333333333333333333333333333333333333"
  tokenSymbol := tokenSymbol
  tokenDecimals := 6
  requiredConfirmations := 1
  authorizationMode := .singleEip3009
  idempotencyKey := "key-1"

/-- The digests of the two texts. -/
def grainDigest (bytes : ByteArray) : String :=
  if bytes = canonicalJsonBytes (grainIntent "USDC").toSnapshot then
    "8d0007e0694c312e65d2b68ace12d31f2f121f3cf2567140b5de5fb61ff402b6"
  else "6848af325ac5c5a308d4b9758b75511322776761d06ed67cdc8045d7a93f86c1"

theorem grainIntents_differ :
    canonicalJsonBytes (grainIntent "USDC").toSnapshot
        ≠ canonicalJsonBytes (grainIntent "USDC\"").toSnapshot ∧
      (grainIntent "USDC").intentHash grainDigest ≠ (grainIntent "USDC\"").intentHash grainDigest ∧
      expectedNonce ((grainIntent "USDC").intentHash grainDigest)
        ≠ expectedNonce ((grainIntent "USDC\"").intentHash grainDigest) := by
  have hplain : (grainIntent "USDC").Constructible := ⟨grainIntent "USDC", by decide⟩
  have hquoted : (grainIntent "USDC\"").Constructible := ⟨grainIntent "USDC\"", by decide⟩
  have h := snapshots_of_different_intents hplain hquoted (by decide)
  refine ⟨h.1, h.2 grainDigest ?_⟩
  intro hcollision
  unfold grainDigest at hcollision
  rw [if_pos rfl, if_neg h.1.symm] at hcollision
  exact absurd hcollision (by decide)

end SettlementIntent

end Arena402.Game.Settlement
