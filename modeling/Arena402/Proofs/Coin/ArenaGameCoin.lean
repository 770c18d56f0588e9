/-
The supply of the game coin, and who can move it.

What a call does to the coins is read off the call once: nothing moves, coins move between two
accounts, or coins are minted.  The balances add up to the supply in every state of a history,
and it is this sum that keeps the two `unchecked` blocks from wrapping.
-/
import Arena402.Coin.ArenaGameCoin

namespace Arena402.Coin.ArenaGameCoin

open Evm

variable {keccak256 : Bytes → Word}
  {ecrecover : Word → UInt8 → Word → Word → Address} {contract : Address}
  {s s' : ArenaGameCoin} {env : Env} {call : Call}

/-! ### Statements one at a time -/

theorem of_require {c : Prop} [Decidable c] {e : Revert} (h : require c e = .ok ()) : c := by
  unfold require at h
  by_cases hc : c
  · exact hc
  · rw [if_neg hc] at h
    cases h

theorem ok_of_require {α : Type} {c : Prop} [Decidable c] {e : Revert} {f : Unit → Except Revert α}
    {x : α} (h : (require c e >>= f) = .ok x) : c ∧ f () = .ok x := by
  unfold require at h
  by_cases hc : c
  · rw [if_pos hc] at h
    exact ⟨hc, h⟩
  · rw [if_neg hc] at h
    cases h

theorem require_congr {α : Type} {c : Prop} [Decidable c] {e : Revert}
    {f g : Unit → Except Revert α} (h : c → f () = g ()) :
    (require c e >>= f) = (require c e >>= g) := by
  unfold require
  by_cases hc : c
  · rw [if_pos hc]
    exact h hc
  · rw [if_neg hc]
    rfl

theorem ok_of_bind {α β : Type} {x : Except Revert α} {f : α → Except Revert β} {b : β}
    (h : (x >>= f) = .ok b) : ∃ a, x = .ok a ∧ f a = .ok b := by
  cases x with
  | error e => cases h
  | ok a => exact ⟨a, rfl, h⟩

theorem arith_ok {x : Option Word} {w : Word} (h : arith x = .ok w) : x = some w := by
  cases x with
  | none => cases h
  | some w' => rw [Except.ok.inj h]

/-! ### What a call does to the coins -/

/-- What a call is meant to do to the coins. -/
inductive Coins
  | still
  | move (fromAccount toAccount : Address) (value : Word)
  | mint (recipients : List Address) (amount : Word)

def Call.coins (env : Env) : Call → Coins
  | .transfer toAccount value => .move env.sender toAccount value
  | .transferFrom fromAccount toAccount value => .move fromAccount toAccount value
  | .transferWithAuthorization a _ => .move a.fromAccount a.toAccount a.value
  | .receiveWithAuthorization a _ => .move a.fromAccount a.toAccount a.value
  | .mint toAccount amount => .mint [toAccount] amount
  | .mintBatch recipients amount => .mint recipients amount
  | _ => .still

/-- The balances after a transfer: the receiver is read after the sender was written. -/
def afterMove (b : Address → Word) (fromAccount toAccount : Address) (value : Word) : Address → Word :=
  let b' := Function.update b fromAccount (b fromAccount - value)
  Function.update b' toAccount (b' toAccount + value)

def afterMints (b : Address → Word) (recipients : List Address) (amount : Word) : Address → Word :=
  recipients.foldl (fun b toAccount => Function.update b toAccount (b toAccount + amount)) b

/-- What a call did to the coins. -/
def Effect (env : Env) (s s' : ArenaGameCoin) : Coins → Prop
  | .still => s'.balanceOf = s.balanceOf ∧ s'.totalSupply = s.totalSupply
  | .move fromAccount toAccount value =>
    s.whitelisted fromAccount = true ∧ s.whitelisted toAccount = true ∧
      value ≤ s.balanceOf fromAccount ∧
      s'.balanceOf = afterMove s.balanceOf fromAccount toAccount value ∧
      s'.totalSupply = s.totalSupply
  | .mint recipients amount =>
    env.sender = s.owner ∧ s'.balanceOf = afterMints s.balanceOf recipients amount ∧
      s'.totalSupply.toNat = s.totalSupply.toNat + recipients.length * amount.toNat

/-- The struct that a call presents, with its signature. -/
def Call.signedData : Call → Option (TypedData × Signature)
  | .transferWithAuthorization a sig => some (.transferWithAuthorization a, sig)
  | .receiveWithAuthorization a sig => some (.receiveWithAuthorization a, sig)
  | .cancelAuthorization authorizer nonce sig => some (.cancelAuthorization authorizer nonce, sig)
  | _ => none

/-- What a call did to the nonces: the one it presents was free and is used now. -/
def NonceStep (keccak256 : Bytes → Word) (ecrecover : Word → UInt8 → Word → Word → Address)
    (contract : Address) (env : Env) (s s' : ArenaGameCoin) : Option (TypedData × Signature) → Prop
  | none => s'.authorizationState = s.authorizationState
  | some (m, sig) =>
    s.authorizationState m.authorizer m.nonce = false ∧
      s'.authorizationState = (s.markAuthorization m.authorizer m.nonce).authorizationState ∧
      s.verifySignature keccak256 ecrecover contract env m.authorizer (m.structHash keccak256) sig
        = .ok () ∧
      ∀ a, m.terms = some a → a.validAfter < env.timestamp ∧ env.timestamp < a.validBefore

/-- What the domain separator is computed from. -/
def domainData (s : ArenaGameCoin) : String × Word × Word :=
  (s.name, s.cachedChainId, s.cachedDomainSeparator)

/-- What a call that returns did. -/
structure Step (keccak256 : Bytes → Word) (ecrecover : Word → UInt8 → Word → Word → Address)
    (contract : Address) (env : Env) (call : Call) (s s' : ArenaGameCoin) : Prop where
  coins : Effect env s s' (call.coins env)
  nonces : NonceStep keccak256 ecrecover contract env s s' call.signedData
  domain : s'.domainData = s.domainData

theorem internalTransfer_ok {f t : Address} {v : Word}
    (h : s.internalTransfer .wrapping f t v = .ok s') :
    s.whitelisted f = true ∧ s.whitelisted t = true ∧ v ≤ s.balanceOf f ∧
      s' = { s with balanceOf := afterMove s.balanceOf f t v } := by
  unfold internalTransfer at h
  obtain ⟨-, h⟩ := ok_of_require h
  obtain ⟨hfrom, h⟩ := ok_of_require h
  obtain ⟨hto, h⟩ := ok_of_require h
  obtain ⟨hle, h⟩ := ok_of_require h
  exact ⟨hfrom, hto, hle, (Except.ok.inj h).symm⟩

theorem internalMint_ok {t : Address} {v : Word} (h : s.internalMint .wrapping t v = .ok s') :
    ∃ supply, supply.toNat = s.totalSupply.toNat + v.toNat ∧
      s' = { s with
        balanceOf := Function.update s.balanceOf t (s.balanceOf t + v)
        totalSupply := supply } := by
  unfold internalMint at h
  obtain ⟨-, h⟩ := ok_of_require h
  obtain ⟨supply, hsupply, h⟩ := ok_of_bind h
  exact ⟨supply, checked_add_eq_some (arith_ok hsupply), (Except.ok.inj h).symm⟩

theorem mints_ok {v : Word} : ∀ (recipients : List Address) {s : ArenaGameCoin},
    recipients.foldlM (fun s t => s.internalMint .wrapping t v) s = .ok s' →
    ∃ supply, supply.toNat = s.totalSupply.toNat + recipients.length * v.toNat ∧
      s' = { s with
        balanceOf := afterMints s.balanceOf recipients v
        totalSupply := supply } := by
  intro recipients
  induction recipients with
  | nil =>
      intro s h
      obtain rfl := Except.ok.inj h
      exact ⟨s.totalSupply, by simp, rfl⟩
  | cons t rest ih =>
      intro s h
      rw [List.foldlM_cons] at h
      obtain ⟨s₁, hfirst, h⟩ := ok_of_bind h
      obtain ⟨supply₁, hsupply₁, rfl⟩ := internalMint_ok hfirst
      obtain ⟨supply, hsupply, rfl⟩ := ih h
      refine ⟨supply, ?_, rfl⟩
      rw [hsupply, hsupply₁, List.length_cons, Nat.succ_mul]
      omega

theorem useSigned_ok {a : Authorization} {m : TypedData} {sig : Signature}
    (h : s.useSigned .wrapping keccak256 ecrecover contract env a m sig = .ok s') :
    a.validAfter < env.timestamp ∧ env.timestamp < a.validBefore ∧
      s.authorizationState a.fromAccount a.nonce = false ∧
      s.verifySignature keccak256 ecrecover contract env a.fromAccount (m.structHash keccak256) sig
        = .ok () ∧
      (s.markAuthorization a.fromAccount a.nonce).internalTransfer .wrapping a.fromAccount
        a.toAccount a.value = .ok s' := by
  unfold useSigned at h
  obtain ⟨hafter, h⟩ := ok_of_require h
  obtain ⟨hbefore, h⟩ := ok_of_require h
  obtain ⟨s₁, huse, h⟩ := ok_of_bind h
  obtain ⟨hfree, huse⟩ := ok_of_require huse
  obtain rfl := Except.ok.inj huse
  obtain ⟨_, hsig, h⟩ := ok_of_bind h
  exact ⟨hafter, hbefore, hfree, hsig, h⟩

theorem spendAllowance_ok {f : Address} {allowed v : Word}
    (h : s.spendAllowance env f allowed v = .ok s') :
    ∃ allowance, s' = { s with allowance := allowance } := by
  unfold spendAllowance at h
  by_cases hmax : allowed ≠ BitVec.allOnes 256
  · rw [if_pos hmax] at h
    obtain ⟨rest, -, h⟩ := ok_of_bind h
    exact ⟨_, (Except.ok.inj h).symm⟩
  · rw [if_neg hmax] at h
    exact ⟨s.allowance, (Except.ok.inj h).symm⟩

theorem setWhitelisted_foldl (accounts : List Address) : ∀ s : ArenaGameCoin,
    ∃ whitelisted, accounts.foldl (fun s account => s.setWhitelisted account true) s
      = { s with whitelisted := whitelisted } := by
  induction accounts with
  | nil => intro s; exact ⟨s.whitelisted, rfl⟩
  | cons account rest ih =>
      intro s
      obtain ⟨whitelisted, h⟩ := ih (s.setWhitelisted account true)
      exact ⟨whitelisted, h⟩

theorem step_transfer {f t : Address} {v : Word} (hcoins : call.coins env = .move f t v)
    (hdata : call.signedData = none) (h : s.internalTransfer .wrapping f t v = .ok s') :
    Step keccak256 ecrecover contract env call s s' := by
  obtain ⟨hfrom, hto, hle, rfl⟩ := internalTransfer_ok h
  exact ⟨hcoins ▸ ⟨hfrom, hto, hle, rfl, rfl⟩, hdata ▸ rfl, rfl⟩

theorem step_useSigned {a : Authorization} {m : TypedData} {sig : Signature}
    (hcoins : call.coins env = .move a.fromAccount a.toAccount a.value)
    (hdata : call.signedData = some (m, sig)) (hauthorizer : m.authorizer = a.fromAccount)
    (hnonce : m.nonce = a.nonce) (hterms : m.terms = some a)
    (h : s.useSigned .wrapping keccak256 ecrecover contract env a m sig = .ok s') :
    Step keccak256 ecrecover contract env call s s' := by
  obtain ⟨hafter, hbefore, hfree, hsig, htransfer⟩ := useSigned_ok h
  obtain ⟨hfrom, hto, hle, rfl⟩ := internalTransfer_ok htransfer
  refine ⟨hcoins ▸ ⟨hfrom, hto, hle, rfl, rfl⟩, ?_, rfl⟩
  rw [hdata]
  refine ⟨by rw [hauthorizer, hnonce]; exact hfree, by rw [hauthorizer, hnonce],
    by rw [hauthorizer]; exact hsig, ?_⟩
  intro a' ha'
  obtain rfl := Option.some.inj (hterms.symm.trans ha')
  exact ⟨hafter, hbefore⟩

/-- **What a call does.** -/
theorem execute_step (h : s.execute .wrapping keccak256 ecrecover contract env call = .ok s') :
    Step keccak256 ecrecover contract env call s s' := by
  cases call with
  | addToWhitelist account =>
      obtain ⟨-, h⟩ := ok_of_require h
      obtain rfl := Except.ok.inj h
      exact ⟨⟨rfl, rfl⟩, rfl, rfl⟩
  | addToWhitelistBatch accounts =>
      obtain ⟨-, h⟩ := ok_of_require h
      obtain rfl := Except.ok.inj h
      obtain ⟨whitelisted, hfold⟩ := setWhitelisted_foldl accounts s
      rw [hfold]
      exact ⟨⟨rfl, rfl⟩, rfl, rfl⟩
  | removeFromWhitelist account =>
      obtain ⟨-, h⟩ := ok_of_require h
      obtain rfl := Except.ok.inj h
      exact ⟨⟨rfl, rfl⟩, rfl, rfl⟩
  | transfer t v => exact step_transfer rfl rfl h
  | approve spender v =>
      obtain rfl := Except.ok.inj h
      exact ⟨⟨rfl, rfl⟩, rfl, rfl⟩
  | transferFrom f t v =>
      obtain ⟨-, h⟩ := ok_of_require h
      obtain ⟨s₁, hspend, h⟩ := ok_of_bind h
      obtain ⟨allowance, rfl⟩ := spendAllowance_ok hspend
      obtain ⟨hfrom, hto, hle, rfl⟩ := internalTransfer_ok h
      exact ⟨⟨hfrom, hto, hle, rfl, rfl⟩, rfl, rfl⟩
  | mint t v =>
      obtain ⟨howner, h⟩ := ok_of_require h
      obtain ⟨supply, hsupply, rfl⟩ := internalMint_ok h
      exact ⟨⟨howner, rfl, by simpa using hsupply⟩, rfl, rfl⟩
  | mintBatch recipients v =>
      obtain ⟨howner, h⟩ := ok_of_require h
      obtain ⟨supply, hsupply, rfl⟩ := mints_ok recipients h
      exact ⟨⟨howner, rfl, hsupply⟩, rfl, rfl⟩
  | transferWithAuthorization a sig => exact step_useSigned rfl rfl rfl rfl rfl h
  | receiveWithAuthorization a sig =>
      obtain ⟨-, h⟩ := ok_of_require h
      exact step_useSigned rfl rfl rfl rfl rfl h
  | cancelAuthorization authorizer nonce sig =>
      obtain ⟨hfree, h⟩ := ok_of_require h
      obtain ⟨_, hsig, h⟩ := ok_of_bind h
      obtain rfl := Except.ok.inj h
      refine ⟨⟨rfl, rfl⟩, ⟨hfree, rfl, hsig, ?_⟩, rfl⟩
      intro a ha
      cases ha
  | transferOwnership newOwner =>
      obtain ⟨-, h⟩ := ok_of_require h
      obtain ⟨-, h⟩ := ok_of_require h
      obtain rfl := Except.ok.inj h
      exact ⟨⟨rfl, rfl⟩, rfl, rfl⟩

/-! ### The sum of the balances -/

section Balances

variable {b : Address → Word} {f t : Address} {v : Word}

theorem toNat_left (hle : v ≤ b f) : (b f - v).toNat = (b f).toNat - v.toNat :=
  BitVec.toNat_sub_of_le hle

/-- Taking the value from the sender lowers the total by it. -/
theorem total_taken (hle : v ≤ b f) :
    total (Function.update b f (b f - v)) + v.toNat = total b := by
  have hwrite := total_update b f (b f - v)
  rw [toNat_left hle] at hwrite
  have hnat : v.toNat ≤ (b f).toNat := BitVec.le_def.mp hle
  omega

/-- The receiver has room for the value, as the sender's balance was part of the total. -/
theorem room_for_move (hle : v ≤ b f) (htotal : total b < 2 ^ 256) :
    (Function.update b f (b f - v) t).toNat + v.toNat < 2 ^ 256 := by
  have htaken := total_taken hle
  have hone := le_total (Function.update b f (b f - v)) t
  omega

theorem total_afterMove (hle : v ≤ b f) (htotal : total b < 2 ^ 256) :
    total (afterMove b f t v) = total b := by
  have htaken := total_taken hle
  have hwrite := total_update (Function.update b f (b f - v)) t
    (Function.update b f (b f - v) t + v)
  rw [BitVec.toNat_add_of_lt (room_for_move hle htotal)] at hwrite
  show total (Function.update (Function.update b f (b f - v)) t _) = _
  omega

/-- A transfer takes the value from the sender and gives it to the receiver, also when they are
    the same. -/
theorem afterMove_toNat (hle : v ≤ b f) (htotal : total b < 2 ^ 256) (a : Address) :
    (afterMove b f t v a).toNat
      = (b a).toNat - (if a = f then v.toNat else 0) + (if a = t then v.toNat else 0) := by
  have hnat : v.toNat ≤ (b f).toNat := BitVec.le_def.mp hle
  have htaken : (Function.update b f (b f - v) a).toNat
      = (b a).toNat - (if a = f then v.toNat else 0) := by
    by_cases haf : a = f
    · subst haf
      rw [Function.update_self, if_pos rfl, toNat_left hle]
    · rw [Function.update_of_ne haf, if_neg haf, Nat.sub_zero]
  unfold afterMove
  by_cases hat : a = t
  · subst hat
    rw [Function.update_self, BitVec.toNat_add_of_lt (room_for_move hle htotal), htaken,
      if_pos rfl]
  · rw [Function.update_of_ne hat, htaken, if_neg hat, Nat.add_zero]

/-- The balance after a batch, and the total. -/
theorem afterMints_toNat : ∀ (recipients : List Address) {b : Address → Word},
    total b + recipients.length * v.toNat < 2 ^ 256 →
    total (afterMints b recipients v) = total b + recipients.length * v.toNat ∧
      ∀ a, (afterMints b recipients v a).toNat = (b a).toNat + recipients.count a * v.toNat := by
  intro recipients
  induction recipients with
  | nil =>
      intro b _
      exact ⟨by simp [afterMints], fun a => by simp [afterMints]⟩
  | cons t rest ih =>
      intro b htotal
      rw [List.length_cons, Nat.succ_mul] at htotal
      have hroom : (b t).toNat + v.toNat < 2 ^ 256 := by
        have := le_total b t
        omega
      have hadd : (b t + v).toNat = (b t).toNat + v.toNat := BitVec.toNat_add_of_lt hroom
      have hfirst : total (Function.update b t (b t + v)) = total b + v.toNat := by
        have hwrite := total_update b t (b t + v)
        omega
      obtain ⟨hsum, hone⟩ := ih (b := Function.update b t (b t + v)) (by omega)
      refine ⟨?_, fun a => ?_⟩
      · show total (afterMints (Function.update b t (b t + v)) rest v) = _
        rw [hsum, hfirst, List.length_cons, Nat.succ_mul]
        omega
      · show (afterMints (Function.update b t (b t + v)) rest v a).toNat = _
        rw [hone a]
        by_cases hat : a = t
        · subst hat
          rw [Function.update_self, hadd, List.count_cons_self, Nat.succ_mul]
          omega
        · rw [Function.update_of_ne hat, List.count_cons_of_ne (Ne.symm hat)]

end Balances

/-- The balances add up to the supply. -/
def Backed (s : ArenaGameCoin) : Prop :=
  total s.balanceOf = s.totalSupply.toNat

theorem Backed.total_lt (h : s.Backed) : total s.balanceOf < 2 ^ 256 := by
  rw [h]
  exact s.totalSupply.isLt

theorem Effect.backed {coins : Coins} (h : Effect env s s' coins) (hb : s.Backed) : s'.Backed := by
  cases coins with
  | still =>
      obtain ⟨hbalance, hsupply⟩ := h
      unfold Backed
      rw [hbalance, hsupply]
      exact hb
  | move f t v =>
      obtain ⟨-, -, hle, hbalance, hsupply⟩ := h
      unfold Backed
      rw [hbalance, hsupply, total_afterMove hle hb.total_lt]
      exact hb
  | mint recipients amount =>
      obtain ⟨-, hbalance, hsupply⟩ := h
      have hlt : total s.balanceOf + recipients.length * amount.toNat < 2 ^ 256 := by
        rw [hb, ← hsupply]
        exact s'.totalSupply.isLt
      unfold Backed
      rw [hbalance, (afterMints_toNat recipients hlt).1, hsupply, hb]

theorem backed_construct (name : String) : (construct keccak256 contract name env).Backed := by
  simp [Backed, construct, total]

theorem backed_apply (hb : s.Backed) (tx : Env × Call) :
    (s.apply .wrapping keccak256 ecrecover contract tx).Backed := by
  unfold apply
  cases h : s.execute .wrapping keccak256 ecrecover contract tx.1 tx.2 with
  | ok s' => exact (execute_step h).coins.backed hb
  | error e => exact hb

theorem backed_run : ∀ (txs : List (Env × Call)) {s : ArenaGameCoin}, s.Backed →
    (s.run .wrapping keccak256 ecrecover contract txs).Backed := by
  intro txs
  induction txs with
  | nil => intro s hb; exact hb
  | cons tx rest ih => intro s hb; exact ih (backed_apply hb tx)

/-! ### The unchecked blocks -/

/-- With the sum, the checked and the wrapping transfer are the same. -/
theorem internalTransfer_checked (hb : total s.balanceOf < 2 ^ 256) (f t : Address) (v : Word) :
    s.internalTransfer .checked f t v = s.internalTransfer .wrapping f t v := by
  unfold internalTransfer
  refine require_congr fun _ => require_congr fun _ => require_congr fun _ => ?_
  refine require_congr fun hle => ?_
  have hadd : Arithmetic.checked.add (Function.update s.balanceOf f (s.balanceOf f - v) t) v
      = some _ := checked_add_of_lt (room_for_move hle hb)
  rw [checked_sub_of_le hle]
  show (do
    let sum ← arith (Arithmetic.checked.add (Function.update s.balanceOf f (s.balanceOf f - v) t) v)
    return (s.setBalance f (s.balanceOf f - v)).setBalance t sum) = _
  rw [hadd]
  rfl

theorem internalMint_checked (hb : s.Backed) (t : Address) (v : Word) :
    s.internalMint .checked t v = s.internalMint .wrapping t v := by
  unfold internalMint
  refine require_congr fun _ => ?_
  cases hsupply : arith (Arithmetic.checked.add s.totalSupply v) with
  | error e => rfl
  | ok supply =>
      have hroom : (s.balanceOf t).toNat + v.toNat < 2 ^ 256 := by
        have hsum := checked_add_eq_some (arith_ok hsupply)
        have hone := le_total s.balanceOf t
        have hlt := supply.isLt
        rw [hb] at hone
        omega
      show (do
        let sum ← arith (Arithmetic.checked.add (s.balanceOf t) v)
        return ArenaGameCoin.setBalance { s with totalSupply := supply } t sum) = _
      rw [checked_add_of_lt hroom]
      rfl

theorem mints_checked {v : Word} : ∀ (recipients : List Address) {s : ArenaGameCoin}, s.Backed →
    recipients.foldlM (fun s t => s.internalMint .checked t v) s
      = recipients.foldlM (fun s t => s.internalMint .wrapping t v) s := by
  intro recipients
  induction recipients with
  | nil => intro s _; rfl
  | cons t rest ih =>
      intro s hb
      rw [List.foldlM_cons, List.foldlM_cons, internalMint_checked hb]
      cases h : s.internalMint .wrapping t v with
      | error e => rfl
      | ok s₁ =>
          obtain ⟨supply, hsupply, hs₁⟩ := internalMint_ok h
          have heffect : Effect ⟨s.owner, 0, 0⟩ s s₁ (.mint [t] v) := by
            rw [hs₁]
            exact ⟨rfl, rfl, by simpa using hsupply⟩
          exact ih (heffect.backed hb)

theorem useSigned_checked (hb : s.Backed) (a : Authorization) (m : TypedData) (sig : Signature) :
    s.useSigned .checked keccak256 ecrecover contract env a m sig
      = s.useSigned .wrapping keccak256 ecrecover contract env a m sig := by
  unfold useSigned useAuthorization
  refine require_congr fun _ => require_congr fun _ => ?_
  rw [bind_assoc, bind_assoc]
  refine require_congr fun _ => ?_
  rw [pure_bind, pure_bind]
  refine bind_congr fun _ => ?_
  have hmarked : total (s.markAuthorization a.fromAccount a.nonce).balanceOf < 2 ^ 256 := hb.total_lt
  exact internalTransfer_checked hmarked _ _ _

/-- The checked contract and the contract do the same. -/
theorem execute_checked (hb : s.Backed) (env : Env) (call : Call) :
    s.execute .checked keccak256 ecrecover contract env call
      = s.execute .wrapping keccak256 ecrecover contract env call := by
  cases call with
  | transfer t v => exact internalTransfer_checked hb.total_lt _ _ _
  | transferFrom f t v =>
      refine require_congr fun _ => ?_
      cases hspend : s.spendAllowance env f (s.allowance f env.sender) v with
      | error e => rfl
      | ok s₁ =>
          obtain ⟨allowance, hs₁⟩ := spendAllowance_ok hspend
          have hlt : total s₁.balanceOf < 2 ^ 256 := by
            rw [hs₁]
            exact hb.total_lt
          exact internalTransfer_checked hlt _ _ _
  | mint t v => exact require_congr fun _ => internalMint_checked hb _ _
  | mintBatch recipients v => exact require_congr fun _ => mints_checked recipients hb
  | transferWithAuthorization a sig => exact useSigned_checked hb a _ sig
  | receiveWithAuthorization a sig => exact require_congr fun _ => useSigned_checked hb a _ sig
  | _ => rfl

/-! ### Histories -/

/-- **The supply is exact.**  After any history of calls the balances of all accounts add up to
    the supply, neither unchecked block wraps in any next call, and a transfer that returns
    moves exactly its value. -/
theorem supply_exact (name : String) (deploy : Env) (txs : List (Env × Call)) :
    let s := (construct keccak256 contract name deploy).run .wrapping keccak256 ecrecover contract txs
    ∑ a, (s.balanceOf a).toNat = s.totalSupply.toNat ∧ ∑ a, (s.balanceOf a).toNat < 2 ^ 256 ∧
      (∀ env call, s.execute .checked keccak256 ecrecover contract env call
        = s.execute .wrapping keccak256 ecrecover contract env call) ∧
      ∀ env call s', s.execute .wrapping keccak256 ecrecover contract env call = .ok s' →
        ∀ f t v, call.coins env = .move f t v →
          v.toNat ≤ (s.balanceOf f).toNat ∧
          ∀ a, (s'.balanceOf a).toNat = (s.balanceOf a).toNat
            - (if a = f then v.toNat else 0) + (if a = t then v.toNat else 0) := by
  intro s
  have hb : s.Backed := backed_run txs (backed_construct name)
  refine ⟨hb, hb.total_lt, execute_checked hb, ?_⟩
  intro env call s' h f t v hcoins
  have heffect := (execute_step h).coins
  rw [hcoins] at heffect
  obtain ⟨-, -, hle, hbalance, -⟩ := heffect
  refine ⟨BitVec.le_def.mp hle, fun a => ?_⟩
  rw [hbalance]
  exact afterMove_toNat hle hb.total_lt a

end Arena402.Coin.ArenaGameCoin
