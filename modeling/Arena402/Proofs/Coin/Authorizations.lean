/-
A signed authorization is used once, for what was signed.

One table of nonces serves the two authorized transfers and the cancellation.  A call with an
authorizer and a nonce that returns has found the nonce free and leaves it used, and nothing
frees it again; a call that reverts leaves it as it was.  That the terms of a call are the
signed ones rests on two assumptions about what is hashed and signed in the history: a digest
that recovers to an account was signed by it, and `keccak256` tells the hashed inputs apart.
-/
import Arena402.Proofs.Coin.ArenaGameCoin

namespace Arena402.Coin

open Evm

/-! ### Digests -/

section Digests

variable {keccak256 : Bytes → Word} {d d' : Domain} {m m' : TypedData}

/-- The digest that is signed for a struct under a domain. -/
def digest (keccak256 : Bytes → Word) (d : Domain) (m : TypedData) : Word :=
  keccak256 (digestInput (d.separator keccak256) (m.structHash keccak256))

/-- What is hashed for a digest. -/
def hashInputs (keccak256 : Bytes → Word) (d : Domain) (m : TypedData) : List Bytes :=
  [digestInput (d.separator keccak256) (m.structHash keccak256), m.encode keccak256,
    d.encode keccak256, bytes m.type, bytes d.name, bytes d.version]

theorem bytes_injective {a b : String} (h : bytes a = bytes b) : a = b :=
  String.toByteArray_inj.mp (ByteArray.ext (Array.toList_inj.mp h))

theorem Authorization.words_injective {a a' : Authorization} (h : a.words = a'.words) : a = a' := by
  obtain ⟨f, t, v, x, y, n⟩ := a
  obtain ⟨f', t', v', x', y', n'⟩ := a'
  simp only [Authorization.words, List.cons.injEq] at h
  obtain ⟨hf, ht, rfl, rfl, rfl, rfl, -⟩ := h
  rw [addressWord_injective hf, addressWord_injective ht]

/-- The type and the words of a struct are the whole struct. -/
theorem TypedData.eq_of_words (htype : m.type = m'.type) (hwords : m.words = m'.words) : m = m' := by
  cases m with
  | transferWithAuthorization a =>
      cases m' with
      | transferWithAuthorization a' => rw [Authorization.words_injective hwords]
      | receiveWithAuthorization a' => simp [TypedData.type] at htype
      | cancelAuthorization b n => simp [TypedData.type] at htype
  | receiveWithAuthorization a =>
      cases m' with
      | transferWithAuthorization a' => simp [TypedData.type] at htype
      | receiveWithAuthorization a' => rw [Authorization.words_injective hwords]
      | cancelAuthorization b n => simp [TypedData.type] at htype
  | cancelAuthorization b n =>
      cases m' with
      | transferWithAuthorization a' => simp [TypedData.type] at htype
      | receiveWithAuthorization a' => simp [TypedData.type] at htype
      | cancelAuthorization b' n' =>
          simp only [TypedData.words, List.cons.injEq] at hwords
          obtain ⟨hb, rfl, -⟩ := hwords
          rw [addressWord_injective hb]

/-- `keccak256` tells the inputs of a set apart. -/
def CollisionFree (keccak256 : Bytes → Word) (hashed : Bytes → Prop) : Prop :=
  ∀ x y, hashed x → hashed y → keccak256 x = keccak256 y → x = y

/-- Without collisions a digest belongs to one struct under one domain. -/
theorem digest_injective {hashed : Bytes → Prop} (hfree : CollisionFree keccak256 hashed)
    (hin : ∀ x ∈ hashInputs keccak256 d m, hashed x)
    (hin' : ∀ x ∈ hashInputs keccak256 d' m', hashed x)
    (h : digest keccak256 d m = digest keccak256 d' m') : d = d' ∧ m = m' := by
  simp only [hashInputs, List.forall_mem_cons] at hin hin'
  obtain ⟨hdigest, hstruct, hdomain, htype, hname, hversion, -⟩ := hin
  obtain ⟨hdigest', hstruct', hdomain', htype', hname', hversion', -⟩ := hin'
  have hsplit := hfree _ _ hdigest hdigest' h
  simp only [digestInput, List.append_assoc] at hsplit
  have htails := List.append_inj_right hsplit rfl
  obtain ⟨hseparators, hhashes⟩ := List.append_inj htails (by simp)
  constructor
  · have hencoded := hfree _ _ hdomain hdomain' (wordBytes_injective hseparators)
    have hwords := abiEncode_injective hencoded
    simp only [List.cons.injEq, true_and] at hwords
    obtain ⟨hn, hv, hchain, hcontract, -⟩ := hwords
    obtain ⟨name, version, chainId, contract⟩ := d
    obtain ⟨name', version', chainId', contract'⟩ := d'
    have hname_eq := bytes_injective (hfree _ _ hname hname' hn)
    have hversion_eq := bytes_injective (hfree _ _ hversion hversion' hv)
    simp only at hname_eq hversion_eq hchain hcontract
    rw [hname_eq, hversion_eq, hchain, addressWord_injective hcontract]
  · have hencoded := hfree _ _ hstruct hstruct' (wordBytes_injective hhashes)
    have hwords := abiEncode_injective hencoded
    rw [List.cons.injEq] at hwords
    exact TypedData.eq_of_words (bytes_injective (hfree _ _ htype htype' hwords.1)) hwords.2

end Digests

namespace ArenaGameCoin

variable {keccak256 : Bytes → Word} {ecrecover : Word → UInt8 → Word → Word → Address}
  {contract : Address} {s s' : ArenaGameCoin} {env : Env} {call : Call}

/-! ### The table of nonces -/

theorem markAuthorization_self (s : ArenaGameCoin) (a : Address) (n : Word) :
    (s.markAuthorization a n).authorizationState a n = true := by
  simp [markAuthorization]

theorem markAuthorization_of_used {a a' : Address} {n n' : Word}
    (h : s.authorizationState a n = true) :
    (s.markAuthorization a' n').authorizationState a n = true := by
  by_cases ha : a = a'
  · subst ha
    by_cases hn : n = n'
    · subst hn
      exact markAuthorization_self s a n
    · simpa [markAuthorization, Function.update_of_ne hn] using h
  · simpa [markAuthorization, Function.update_of_ne ha] using h

theorem Step.used {a : Address} {n : Word}
    (h : Step keccak256 ecrecover contract env call s s') (hused : s.authorizationState a n = true) :
    s'.authorizationState a n = true := by
  have hnonces := h.nonces
  cases hdata : call.signedData with
  | none =>
      rw [hdata] at hnonces
      have hsame : s'.authorizationState = s.authorizationState := hnonces
      rw [hsame]
      exact hused
  | some presented =>
      rw [hdata] at hnonces
      obtain ⟨-, hmarked, -⟩ := hnonces
      rw [hmarked]
      exact markAuthorization_of_used hused

/-- A used nonce stays used. -/
theorem used_run {a : Address} {n : Word} : ∀ (txs : List (Env × Call)) {s : ArenaGameCoin},
    s.authorizationState a n = true →
    (s.run .wrapping keccak256 ecrecover contract txs).authorizationState a n = true := by
  intro txs
  induction txs with
  | nil => intro s h; exact h
  | cons tx rest ih =>
      intro s h
      refine ih (s := s.apply .wrapping keccak256 ecrecover contract tx) ?_
      unfold apply
      cases hexec : s.execute .wrapping keccak256 ecrecover contract tx.1 tx.2 with
      | ok s' => exact (execute_step hexec).used h
      | error e => exact h

/-- A call with a used nonce reverts. -/
theorem reverts_of_used {m : TypedData} {sig : Signature} (hdata : call.signedData = some (m, sig))
    (hused : s.authorizationState m.authorizer m.nonce = true) :
    s.execute .wrapping keccak256 ecrecover contract env call ≠ .ok s' := by
  intro h
  have hnonces := (execute_step h).nonces
  rw [hdata] at hnonces
  obtain ⟨hfree, -⟩ := hnonces
  rw [hused] at hfree
  cases hfree

/-- Once a call with a nonce has returned, every later call with it reverts. -/
theorem reverts_later {m m' : TypedData} {sig sig' : Signature} {tx tx' : Env × Call}
    (hdata : tx.2.signedData = some (m, sig)) (hdata' : tx'.2.signedData = some (m', sig'))
    (hauthorizer : m'.authorizer = m.authorizer) (hnonce : m'.nonce = m.nonce)
    {s₁ s₂ : ArenaGameCoin}
    (h : s.execute .wrapping keccak256 ecrecover contract tx.1 tx.2 = .ok s₁)
    (between : List (Env × Call)) :
    (s.run .wrapping keccak256 ecrecover contract (tx :: between)).execute .wrapping keccak256
      ecrecover contract tx'.1 tx'.2 ≠ .ok s₂ := by
  have hnonces := (execute_step h).nonces
  rw [hdata] at hnonces
  obtain ⟨-, hmarked, -⟩ := hnonces
  have hused : s₁.authorizationState m'.authorizer m'.nonce = true := by
    rw [hmarked, hauthorizer, hnonce]
    exact markAuthorization_self s _ _
  have hfirst : s.apply .wrapping keccak256 ecrecover contract tx = s₁ := by
    unfold apply
    rw [h]
  refine reverts_of_used hdata' ?_
  show ((s.apply .wrapping keccak256 ecrecover contract tx).run .wrapping keccak256 ecrecover
    contract between).authorizationState _ _ = true
  rw [hfirst]
  exact used_run between hused

/-- A call that presents the terms of a transfer moves coins by them. -/
theorem coins_of_terms {m : TypedData} {sig : Signature} {a : Authorization}
    (hdata : call.signedData = some (m, sig)) (ha : m.terms = some a) :
    call.coins env = .move a.fromAccount a.toAccount a.value := by
  cases call with
  | transferWithAuthorization _ _ | receiveWithAuthorization _ _ =>
      simp only [Call.signedData, Option.some.injEq, Prod.mk.injEq] at hdata
      obtain ⟨rfl, -⟩ := hdata
      obtain rfl := Option.some.inj ha
      rfl
  | cancelAuthorization b n sig' =>
      simp only [Call.signedData, Option.some.injEq, Prod.mk.injEq] at hdata
      obtain ⟨rfl, -⟩ := hdata
      cases ha
  | _ => cases hdata

/-! ### The domain -/

/-- The domain under which the contract checks signatures. -/
def coinDomain (contract : Address) (name : String) (env : Env) : Domain :=
  ⟨name, "1", env.chainId, contract⟩

/-- The separator is the one of the domain, cached or not. -/
def DomainKept (keccak256 : Bytes → Word) (contract : Address) (name : String)
    (s : ArenaGameCoin) : Prop :=
  ∀ env, s.domainSeparator keccak256 contract env
    = (coinDomain contract name env).separator keccak256

theorem domainSeparator_congr (h : s'.domainData = s.domainData) (env : Env) :
    s'.domainSeparator keccak256 contract env = s.domainSeparator keccak256 contract env := by
  simp only [domainData, Prod.mk.injEq] at h
  obtain ⟨hname, hchain, hseparator⟩ := h
  unfold domainSeparator
  rw [hname, hchain, hseparator]

theorem domainKept_construct (name : String) (deploy : Env) :
    DomainKept keccak256 contract name (construct keccak256 contract name deploy) := by
  intro env
  show (if env.chainId = deploy.chainId then _ else _) = _
  by_cases hchain : env.chainId = deploy.chainId
  · rw [if_pos hchain]
    show Domain.separator keccak256 ⟨name, "1", deploy.chainId, contract⟩ = _
    rw [← hchain]
    rfl
  · rw [if_neg hchain]
    rfl

theorem domainKept_run {name : String} : ∀ (txs : List (Env × Call)) {s : ArenaGameCoin},
    DomainKept keccak256 contract name s →
    DomainKept keccak256 contract name (s.run .wrapping keccak256 ecrecover contract txs) := by
  intro txs
  induction txs with
  | nil => intro s h; exact h
  | cons tx rest ih =>
      intro s h
      refine ih (s := s.apply .wrapping keccak256 ecrecover contract tx) ?_
      unfold apply
      cases hexec : s.execute .wrapping keccak256 ecrecover contract tx.1 tx.2 with
      | ok s' => exact fun env => (domainSeparator_congr (execute_step hexec).domain env).trans (h env)
      | error e => exact h

/-- A checked signature recovers to the account that is expected. -/
theorem recovered_of_verify {a : Address} {m : TypedData} {sig : Signature} {name : String}
    (hdomain : DomainKept keccak256 contract name s)
    (h : s.verifySignature keccak256 ecrecover contract env a (m.structHash keccak256) sig
      = .ok ()) :
    ecrecover (digest keccak256 (coinDomain contract name env) m) sig.v sig.r sig.s = a ∧ a ≠ 0 := by
  unfold verifySignature at h
  rw [hdomain env] at h
  have hvalid := of_require h
  push Not at hvalid
  exact ⟨hvalid.2, hvalid.2 ▸ hvalid.1⟩

/-! ### Histories -/

section Histories

variable (keccak256 ecrecover contract) (name : String) (txs : List (Env × Call))
  (signed : Address → Domain → TypedData → Prop)

/-- A digest that recovers to the authorizer of a presented struct was signed by it. -/
def Unforgeable : Prop :=
  ∀ tx ∈ txs, ∀ m sig, tx.2.signedData = some (m, sig) →
    ecrecover (digest keccak256 (coinDomain contract name tx.1) m) sig.v sig.r sig.s = m.authorizer →
    m.authorizer ≠ 0 →
    ∃ d m', signed m.authorizer d m' ∧
      digest keccak256 d m' = digest keccak256 (coinDomain contract name tx.1) m

/-- What is hashed in the history: by the contract, and for what was signed. -/
def Hashed (x : Bytes) : Prop :=
  (∃ a d m, signed a d m ∧ x ∈ hashInputs keccak256 d m) ∨
    ∃ tx ∈ txs, ∃ m sig, tx.2.signedData = some (m, sig) ∧
      x ∈ hashInputs keccak256 (coinDomain contract name tx.1) m

end Histories

/-- **An authorization is used once, for what was signed.**  In any history: of all calls with
    an authorizer and a nonce at most one returns; a call that returns presents what the
    authorizer signed for this contract, and a transfer moves exactly the signed value from the
    signer to the signed payee, strictly between the signed times; and after a cancellation no
    call with the nonce changes anything. -/
theorem authorizations_used_once (name : String) (deploy : Env) (txs : List (Env × Call))
    (signed : Address → Domain → TypedData → Prop)
    (hunforgeable : Unforgeable keccak256 ecrecover contract name txs signed)
    (hfree : CollisionFree keccak256 (Hashed keccak256 contract name txs signed)) :
    let after := (construct keccak256 contract name deploy).run .wrapping keccak256 ecrecover contract
    let returns := fun (s : ArenaGameCoin) (tx : Env × Call) (s' : ArenaGameCoin) =>
      s.execute .wrapping keccak256 ecrecover contract tx.1 tx.2 = .ok s'
    (∀ early tx between tx' late, txs = early ++ tx :: between ++ tx' :: late →
      ∀ m sig m' sig', tx.2.signedData = some (m, sig) → tx'.2.signedData = some (m', sig') →
        m'.authorizer = m.authorizer → m'.nonce = m.nonce →
        ∀ s₁, returns (after early) tx s₁ → ∀ s₂, ¬ returns (after (early ++ tx :: between)) tx' s₂) ∧
    (∀ early tx late, txs = early ++ tx :: late →
      ∀ m sig, tx.2.signedData = some (m, sig) → ∀ s', returns (after early) tx s' →
        signed m.authorizer (coinDomain contract name tx.1) m ∧
        ∀ a, m.terms = some a →
          a.validAfter < tx.1.timestamp ∧ tx.1.timestamp < a.validBefore ∧
          a.value.toNat ≤ ((after early).balanceOf a.fromAccount).toNat ∧
          ∀ x, (s'.balanceOf x).toNat = ((after early).balanceOf x).toNat
            - (if x = a.fromAccount then a.value.toNat else 0)
            + (if x = a.toAccount then a.value.toNat else 0)) ∧
    (∀ early tx between tx' late, txs = early ++ tx :: between ++ tx' :: late →
      ∀ authorizer nonce sig, tx.2 = .cancelAuthorization authorizer nonce sig →
        ∀ s₁, returns (after early) tx s₁ →
        ∀ m' sig', tx'.2.signedData = some (m', sig') → m'.authorizer = authorizer →
          m'.nonce = nonce →
          (after (early ++ tx :: between)).apply .wrapping keccak256 ecrecover contract tx'
            = after (early ++ tx :: between)) := by
  intro after returns
  have hlater : ∀ early tx between tx' late, txs = early ++ tx :: between ++ tx' :: late →
      ∀ m sig m' sig', tx.2.signedData = some (m, sig) → tx'.2.signedData = some (m', sig') →
        m'.authorizer = m.authorizer → m'.nonce = m.nonce →
        ∀ s₁, returns (after early) tx s₁ →
          ∀ s₂, ¬ returns (after (early ++ tx :: between)) tx' s₂ := by
    intro early tx between tx' late _ m sig m' sig' hdata hdata' hauthorizer hnonce s₁ h s₂
    have happend : after (early ++ tx :: between)
        = (after early).run .wrapping keccak256 ecrecover contract (tx :: between) :=
      List.foldl_append
    show (after (early ++ tx :: between)).execute _ _ _ _ _ _ ≠ _
    rw [happend]
    exact reverts_later hdata hdata' hauthorizer hnonce h between
  refine ⟨hlater, ?_, ?_⟩
  · intro early tx late htxs m sig hdata s' h
    have htx : tx ∈ txs := by
      rw [htxs]
      simp
    have hstep := execute_step h
    have hbacked : (after early).Backed := backed_run early (backed_construct name)
    have hnonces := hstep.nonces
    rw [hdata] at hnonces
    obtain ⟨-, -, hverified, hwindow⟩ := hnonces
    have hdomain : DomainKept keccak256 contract name (after early) :=
      domainKept_run early (domainKept_construct name deploy)
    obtain ⟨hrecovered, hnonzero⟩ := recovered_of_verify hdomain hverified
    obtain ⟨d, m', hsigned, hdigest⟩ := hunforgeable tx htx m sig hdata hrecovered hnonzero
    have hsame : d = coinDomain contract name tx.1 ∧ m' = m :=
      digest_injective hfree (fun x hx => Or.inl ⟨_, d, m', hsigned, hx⟩)
        (fun x hx => Or.inr ⟨tx, htx, m, sig, hdata, hx⟩) hdigest
    obtain ⟨rfl, rfl⟩ := hsame
    refine ⟨hsigned, fun a ha => ⟨(hwindow a ha).1, (hwindow a ha).2, ?_⟩⟩
    have hcoins := hstep.coins
    rw [coins_of_terms hdata ha] at hcoins
    obtain ⟨-, -, hle, hbalance, -⟩ := hcoins
    refine ⟨BitVec.le_def.mp hle, fun x => ?_⟩
    rw [hbalance]
    exact afterMove_toNat hle hbacked.total_lt x
  · intro early tx between tx' late htxs authorizer nonce sig hcancel s₁ h m' sig' hdata' ha hn
    have hdata : tx.2.signedData = some (.cancelAuthorization authorizer nonce, sig) := by
      rw [hcancel]
      rfl
    have hreverts := hlater early tx between tx' late htxs _ sig m' sig' hdata hdata' ha hn s₁ h
    unfold apply
    cases hexec : (after (early ++ tx :: between)).execute .wrapping keccak256 ecrecover contract
        tx'.1 tx'.2 with
    | ok s₂ => exact absurd hexec (hreverts s₂)
    | error e => rfl

/-! ### A payment in gold -/

namespace Gold

/-- The deployed coin and three wallets. -/
def coin : Address := 0xbf7b7268ce82d92bac7a95a741f4003fe84e1884
def alice : Address := 0x7e5f4552091a69125d5dfcb7b8c2659029395bdf
def bob : Address := 0x2b5ad5c4795c026514f8317c7a215e218dccd6cf
def treasurer : Address := 0x6813eb9362372eef6200f3b1dbc3f819671cba69

def payment : Authorization where
  fromAccount := alice
  toAccount := bob
  value := 5
  validAfter := 100
  validBefore := 200
  nonce := 7

def separator : Word := 0xb4818e40a5a587f8c3d13f02ffc41f719f4a27ec243731e7e6ec0b56ea28ddd8
def structHash : Word := 0x162b0d8eb182d564a071ad905db155d87c84f834b3c4ece5c9768e63a0ede73d
def paymentDigest : Word := 0x57f8b3fc07d6a258384eee2426f4da82c4fb0d90e34c7efeea2c661fe78c075e

/-- The hashes that this history needs. -/
def hashes : List (Bytes × Word) :=
  [(bytes domainType, 0x8b73c3c69bb8fe3d512ecc4cf759cc79239f7b179b0ffacaa9a75d522b39400f),
    (bytes (TypedData.transferWithAuthorization payment).type,
      0x7c7c6cdb67a18743f49ec6fa9b35f50d52ed05cbed4cc592e13b44501c1a2267),
    (bytes "Arena 402 Gold", 0x3d56c195653fed06a9027c1397ed66216e905e384e1d2b773a6779a14cad64eb),
    (bytes "1", 0xc89efdaa54c0f20c7adf612882df0950f5a951637e0307cdcb4c672f298b8bc6),
    (abiEncode [0x8b73c3c69bb8fe3d512ecc4cf759cc79239f7b179b0ffacaa9a75d522b39400f,
      0x3d56c195653fed06a9027c1397ed66216e905e384e1d2b773a6779a14cad64eb,
      0xc89efdaa54c0f20c7adf612882df0950f5a951637e0307cdcb4c672f298b8bc6, 1439,
      addressWord coin], separator),
    (abiEncode (0x7c7c6cdb67a18743f49ec6fa9b35f50d52ed05cbed4cc592e13b44501c1a2267 :: payment.words),
      structHash),
    (digestInput separator structHash, paymentDigest)]

def keccak (x : Bytes) : Word :=
  (hashes.lookup x).getD 0

def signature : Signature where
  v := 27
  r := 0x54f24783484fb53758b72f81fc4d4cba346599ebb4bd9e07689ddb9624d4b3ce
  s := 0x5dd06d628b6e11d4092a4855441373b1f07c60127c6b5e421ca62576d9f3988d

/-- The one signature recovers to its signer. -/
def recover (digest : Word) (v : UInt8) (r s : Word) : Address :=
  if digest = paymentDigest ∧ (⟨v, r, s⟩ : Signature) = signature then alice else 0

def block (sender : Address) : Env := ⟨sender, 150, 1439⟩

def history : List (Env × Call) :=
  [(block treasurer, .addToWhitelistBatch [alice, bob]), (block treasurer, .mint alice 20),
    (block bob, .transferWithAuthorization payment signature)]

def signed (a : Address) (d : Domain) (m : TypedData) : Prop :=
  a = alice ∧ d = coinDomain coin "Arena 402 Gold" (block bob) ∧
    m = .transferWithAuthorization payment

def after (txs : List (Env × Call)) : ArenaGameCoin :=
  (construct keccak coin "Arena 402 Gold" (block treasurer)).run .wrapping keccak recover coin txs

theorem hashed_inputs {x : Bytes} (h : Hashed keccak coin "Arena 402 Gold" history signed x) :
    x ∈ hashInputs keccak (coinDomain coin "Arena 402 Gold" (block bob))
      (.transferWithAuthorization payment) := by
  rcases h with ⟨a, d, m, ⟨-, rfl, rfl⟩, hx⟩ | ⟨tx, htx, m, sig, hdata, hx⟩
  · exact hx
  · simp only [history, List.mem_cons, List.not_mem_nil, or_false] at htx
    rcases htx with rfl | rfl | rfl
    · cases hdata
    · cases hdata
    · obtain ⟨rfl, -⟩ := Prod.mk.inj (Option.some.inj hdata)
      exact hx

theorem keccak_collisionFree :
    CollisionFree keccak (Hashed keccak coin "Arena 402 Gold" history signed) := by
  have hall : ∀ x ∈ hashInputs keccak (coinDomain coin "Arena 402 Gold" (block bob))
      (.transferWithAuthorization payment), ∀ y ∈ hashInputs keccak
      (coinDomain coin "Arena 402 Gold" (block bob)) (.transferWithAuthorization payment),
      keccak x = keccak y → x = y := by decide +kernel
  intro x y hx hy h
  exact hall x (hashed_inputs hx) y (hashed_inputs hy) h

theorem recover_unforgeable :
    Unforgeable keccak recover coin "Arena 402 Gold" history signed := by
  intro tx htx m sig hdata _ _
  simp only [history, List.mem_cons, List.not_mem_nil, or_false] at htx
  rcases htx with rfl | rfl | rfl
  · cases hdata
  · cases hdata
  · obtain ⟨rfl, -⟩ := Prod.mk.inj (Option.some.inj hdata)
    exact ⟨_, _, ⟨rfl, rfl, rfl⟩, rfl⟩

/-- Alice's signed payment moves five to Bob. -/
theorem gold_payment_moves :
    (after history).balanceOf bob = 5 ∧
      ∀ s', (after (history.take 2)).execute .wrapping keccak recover coin (block bob)
          (.transferWithAuthorization payment signature) = .ok s' →
        ∀ x, (s'.balanceOf x).toNat = ((after (history.take 2)).balanceOf x).toNat
          - (if x = alice then 5 else 0) + (if x = bob then 5 else 0) := by
  refine ⟨by decide +kernel, fun s' h => ?_⟩
  have honce := authorizations_used_once "Arena 402 Gold" (block treasurer) history signed
    recover_unforgeable keccak_collisionFree
  have hmoves := (honce.2.1 (history.take 2) _ [] rfl _ signature rfl s' h).2 payment rfl
  exact hmoves.2.2.2

end Gold

end ArenaGameCoin

end Arena402.Coin
