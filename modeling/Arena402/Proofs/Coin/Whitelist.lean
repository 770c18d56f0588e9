/-
Coins stay between the registered wallets.

A balance falls only in a transfer, and both sides of a transfer are on the whitelist when it
is made.  So an account that is off the whitelist keeps its coins, whatever allowances were
granted and whatever was signed before.
-/
import Arena402.Proofs.Coin.ArenaGameCoin

namespace Arena402.Coin.ArenaGameCoin

open Evm

variable {keccak256 : Bytes → Word} {ecrecover : Word → UInt8 → Word → Word → Address}
  {contract : Address} {s s' : ArenaGameCoin} {env : Env} {call : Call}

/-- A value moved from one account to another, and both were on the whitelist before. -/
structure MovedBetween (s s' : ArenaGameCoin) (f t : Address) (v : Nat) : Prop where
  distinct : f ≠ t
  positive : 0 < v
  sender : s.whitelisted f = true
  receiver : s.whitelisted t = true
  taken : (s.balanceOf f).toNat = (s'.balanceOf f).toNat + v
  given : (s'.balanceOf t).toNat = (s.balanceOf t).toNat + v
  others : ∀ a, a ≠ f → a ≠ t → s'.balanceOf a = s.balanceOf a

/-- The owner minted for the account. -/
def MintedBy (s : ArenaGameCoin) (env : Env) (call : Call) (a : Address) : Prop :=
  env.sender = s.owner ∧ ∃ recipients amount, call.coins env = .mint recipients amount ∧ a ∈ recipients

/-- What can happen to the balances in a call. -/
inductive BalanceStep (s s' : ArenaGameCoin) (env : Env) (call : Call) : Prop
  | same (h : s'.balanceOf = s.balanceOf)
  | moved (f t : Address) (v : Nat) (h : MovedBetween s s' f t v)
  | minted (h : ∀ a, (s.balanceOf a).toNat ≤ (s'.balanceOf a).toNat)
      (hrise : ∀ a, (s.balanceOf a).toNat < (s'.balanceOf a).toNat → MintedBy s env call a)

/-- A transfer of nothing, or of an account to itself, leaves the balances as they are. -/
theorem afterMove_idle {b : Address → Word} {f t : Address} {v : Word} (hle : v ≤ b f)
    (htotal : total b < 2 ^ 256) (hidle : f = t ∨ v = 0) : afterMove b f t v = b := by
  funext a
  apply BitVec.eq_of_toNat_eq
  rw [afterMove_toNat hle htotal a]
  have hnat : v.toNat ≤ (b f).toNat := BitVec.le_def.mp hle
  rcases hidle with rfl | rfl
  · by_cases ha : a = f
    · subst ha
      simp only [if_true]
      omega
    · simp [ha]
  · simp

theorem movedBetween_afterMove {f t : Address} {v : Word} (hb : s.Backed) (hdistinct : f ≠ t)
    (hpositive : v ≠ 0) (hf : s.whitelisted f = true) (ht : s.whitelisted t = true)
    (hle : v ≤ s.balanceOf f) (hbalance : s'.balanceOf = afterMove s.balanceOf f t v) :
    MovedBetween s s' f t v.toNat := by
  have hone : ∀ a, (s'.balanceOf a).toNat = (s.balanceOf a).toNat
      - (if a = f then v.toNat else 0) + (if a = t then v.toNat else 0) := by
    intro a
    rw [hbalance]
    exact afterMove_toNat hle hb.total_lt a
  have hnat : v.toNat ≤ (s.balanceOf f).toNat := BitVec.le_def.mp hle
  refine ⟨hdistinct, ?_, hf, ht, ?_, ?_, ?_⟩
  · refine Nat.pos_of_ne_zero fun hzero => hpositive ?_
    exact BitVec.eq_of_toNat_eq hzero
  · have := hone f
    simp only [if_true, if_neg hdistinct] at this
    omega
  · have := hone t
    simp only [if_true, if_neg hdistinct.symm] at this
    omega
  · intro a haf hat
    apply BitVec.eq_of_toNat_eq
    have := hone a
    simp only [if_neg haf, if_neg hat] at this
    omega

theorem Effect.balanceStep (hb : s.Backed) (h : Effect env s s' (call.coins env)) :
    BalanceStep s s' env call := by
  cases hcoins : call.coins env with
  | still =>
      rw [hcoins] at h
      exact .same h.1
  | move f t v =>
      rw [hcoins] at h
      obtain ⟨hf, ht, hle, hbalance, -⟩ := h
      by_cases hidle : f = t ∨ v = 0
      · exact .same (hbalance.trans (afterMove_idle hle hb.total_lt hidle))
      · push Not at hidle
        exact .moved f t _ (movedBetween_afterMove hb hidle.1 hidle.2 hf ht hle hbalance)
  | mint recipients amount =>
      rw [hcoins] at h
      obtain ⟨howner, hbalance, hsupply⟩ := h
      have hlt : total s.balanceOf + recipients.length * amount.toNat < 2 ^ 256 := by
        rw [hb, ← hsupply]
        exact s'.totalSupply.isLt
      have hone := (afterMints_toNat recipients hlt).2
      rw [← hbalance] at hone
      refine .minted (fun a => by rw [hone a]; omega) fun a hrise => ?_
      refine ⟨howner, recipients, amount, hcoins, ?_⟩
      by_contra habsent
      rw [hone a, List.count_eq_zero_of_not_mem habsent] at hrise
      omega

theorem balanceStep_apply (hb : s.Backed) (tx : Env × Call) :
    BalanceStep s (s.apply .wrapping keccak256 ecrecover contract tx) tx.1 tx.2 := by
  unfold apply
  cases h : s.execute .wrapping keccak256 ecrecover contract tx.1 tx.2 with
  | ok s' => exact (execute_step h).coins.balanceStep hb
  | error e => exact .same rfl

/-- A falling balance belongs to a transfer. -/
theorem BalanceStep.falls (h : BalanceStep s s' env call) {a : Address}
    (ha : (s'.balanceOf a).toNat < (s.balanceOf a).toNat) :
    ∃ f t v, MovedBetween s s' f t v := by
  obtain h | ⟨f, t, v, h⟩ | ⟨h, -⟩ := h
  · rw [h] at ha
    omega
  · exact ⟨f, t, v, h⟩
  · have := h a
    omega

theorem BalanceStep.rises (h : BalanceStep s s' env call) {a : Address}
    (ha : (s.balanceOf a).toNat < (s'.balanceOf a).toNat) :
    (∃ f v, MovedBetween s s' f a v) ∨ MintedBy s env call a := by
  obtain h | ⟨f, t, v, h⟩ | ⟨-, hrise⟩ := h
  · rw [h] at ha
    omega
  · left
    by_cases hat : a = t
    · subst hat
      exact ⟨f, v, h⟩
    · by_cases haf : a = f
      · subst haf
        have := h.taken
        omega
      · rw [h.others a haf hat] at ha
        omega
  · exact Or.inr (hrise a ha)

/-- An account that is off the whitelist does not lose in a call. -/
theorem BalanceStep.keeps (h : BalanceStep s s' env call) {a : Address}
    (hoff : s.whitelisted a = false) : (s.balanceOf a).toNat ≤ (s'.balanceOf a).toNat := by
  by_contra hfall
  obtain ⟨f, t, v, hmoved⟩ := h.falls (Nat.lt_of_not_le hfall)
  by_cases haf : a = f
  · subst haf
    rw [hmoved.sender] at hoff
    cases hoff
  · by_cases hat : a = t
    · subst hat
      have := hmoved.given
      omega
    · rw [hmoved.others a haf hat] at hfall
      exact hfall (Nat.le_refl _)

/-- An account that is off the whitelist before every call of a history does not lose in it. -/
theorem run_keeps {a : Address} : ∀ (txs : List (Env × Call)) {s : ArenaGameCoin}, s.Backed →
    (∀ n, n < txs.length →
      (s.run .wrapping keccak256 ecrecover contract (txs.take n)).whitelisted a = false) →
    (s.balanceOf a).toNat ≤ ((s.run .wrapping keccak256 ecrecover contract txs).balanceOf a).toNat := by
  intro txs
  induction txs with
  | nil => intro s _ _; exact Nat.le_refl _
  | cons tx rest ih =>
      intro s hb hoff
      have hstep : BalanceStep s (s.apply .wrapping keccak256 ecrecover contract tx) tx.1 tx.2 :=
        balanceStep_apply hb tx
      have hfirst := hstep.keeps (hoff 0 (by simp))
      have hrest := ih (backed_apply hb tx) fun n hn =>
        hoff (n + 1) (by rw [List.length_cons]; omega)
      exact hfirst.trans hrest

/-- **Coins move between whitelisted accounts only.**  In a call after any history a balance
    falls only when a value moves from one account to another, both on the whitelist, and
    nothing else changes; a balance rises in another way only when the owner mints for the
    account.  Over any further calls an account loses nothing while it is off the whitelist. -/
theorem coins_stay_whitelisted (name : String) (deploy : Env) (txs : List (Env × Call)) :
    let s := (construct keccak256 contract name deploy).run .wrapping keccak256 ecrecover contract txs
    (∀ tx : Env × Call,
      let s' := s.apply .wrapping keccak256 ecrecover contract tx
      ((∃ a, (s'.balanceOf a).toNat < (s.balanceOf a).toNat) →
        ∃ f t v, MovedBetween s s' f t v) ∧
      ∀ a, (s.balanceOf a).toNat < (s'.balanceOf a).toNat →
        (∃ f v, MovedBetween s s' f a v) ∨ MintedBy s tx.1 tx.2 a) ∧
    ∀ (later : List (Env × Call)) (a : Address),
      (∀ n, n < later.length →
        (s.run .wrapping keccak256 ecrecover contract (later.take n)).whitelisted a = false) →
      (s.balanceOf a).toNat
        ≤ ((s.run .wrapping keccak256 ecrecover contract later).balanceOf a).toNat := by
  intro s
  have hb : s.Backed := backed_run txs (backed_construct name)
  refine ⟨?_, fun later a hoff => run_keeps later hb hoff⟩
  intro tx s'
  have hstep : BalanceStep s s' tx.1 tx.2 := balanceStep_apply hb tx
  exact ⟨fun ⟨a, ha⟩ => hstep.falls ha, fun a ha => hstep.rises ha⟩

end Arena402.Coin.ArenaGameCoin
