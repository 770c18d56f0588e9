/-
The game coin: an ERC-20 with a whitelist, and transfers by signed authorization.

Every function is one transaction: it returns the new storage, or it reverts and the storage
stays as it is.  Two blocks of the contract are `unchecked`; the arithmetic they use is a
parameter, so that the contract can be compared with one that checks them.

`keccak256` and `ecrecover` are taken as given.  Events are left out: nothing reads them.
-/
import Arena402.Lib.Evm

namespace Arena402.Coin

open Evm

/-- The errors of the contract, and the panic of checked arithmetic. -/
inductive Revert
  | notOwner
  | notWhitelisted (account : Address)
  | transferToZero
  | insufficientBalance
  | insufficientAllowance
  | mintToZero
  | authNotYetValid
  | authExpired
  | authUsed
  | invalidSignature
  | callerMustBePayee
  | newOwnerIsZero
  | panic
deriving DecidableEq, Repr

/-- What a call sees of its transaction and block. -/
structure Env where
  sender : Address
  timestamp : Word
  chainId : Word

/-- The storage of the contract, with its immutables. -/
structure ArenaGameCoin where
  name : String
  cachedChainId : Word
  cachedDomainSeparator : Word
  totalSupply : Word
  balanceOf : Address → Word
  allowance : Address → Address → Word
  owner : Address
  whitelisted : Address → Bool
  authorizationState : Address → Word → Bool

/-- An ECDSA signature. -/
structure Signature where
  v : UInt8
  r : Word
  s : Word
deriving DecidableEq, Repr

/-! ### Typed data

What a wallet signs: a struct under the domain of a contract.
-/

/-- The EIP-712 domain. -/
structure Domain where
  name : String
  version : String
  chainId : Word
  verifyingContract : Address
deriving DecidableEq, Repr

/-- The terms of an authorized transfer. -/
structure Authorization where
  fromAccount : Address
  toAccount : Address
  value : Word
  validAfter : Word
  validBefore : Word
  nonce : Word
deriving DecidableEq, Repr

/-- The structs that are signed. -/
inductive TypedData
  | transferWithAuthorization (a : Authorization)
  | receiveWithAuthorization (a : Authorization)
  | cancelAuthorization (authorizer : Address) (nonce : Word)
deriving DecidableEq, Repr

/-- Whose signature a struct needs. -/
def TypedData.authorizer : TypedData → Address
  | .transferWithAuthorization a => a.fromAccount
  | .receiveWithAuthorization a => a.fromAccount
  | .cancelAuthorization authorizer _ => authorizer

/-- The nonce that a struct uses up. -/
def TypedData.nonce : TypedData → Word
  | .transferWithAuthorization a => a.nonce
  | .receiveWithAuthorization a => a.nonce
  | .cancelAuthorization _ nonce => nonce

/-- The terms of a transfer. -/
def TypedData.terms : TypedData → Option Authorization
  | .transferWithAuthorization a => some a
  | .receiveWithAuthorization a => some a
  | .cancelAuthorization _ _ => none

/-- `bytes(text)`. -/
def bytes (text : String) : Bytes :=
  text.toUTF8.data.toList

/-- The type text of the domain. -/
def domainType : String :=
  "EIP712Domain(string name,string version,uint256 chainId,address verifyingContract)"

/-- The type text of a struct. -/
def TypedData.type : TypedData → String
  | .transferWithAuthorization _ =>
    "TransferWithAuthorization(address from,address to,uint256 value,uint256 validAfter,uint256 validBefore,bytes32 nonce)"
  | .receiveWithAuthorization _ =>
    "ReceiveWithAuthorization(address from,address to,uint256 value,uint256 validAfter,uint256 validBefore,bytes32 nonce)"
  | .cancelAuthorization _ _ => "CancelAuthorization(address authorizer,bytes32 nonce)"

/-- The terms, one word each. -/
def Authorization.words (a : Authorization) : List Word :=
  [addressWord a.fromAccount, addressWord a.toAccount, a.value, a.validAfter, a.validBefore, a.nonce]

/-- The fields of a struct, one word each. -/
def TypedData.words : TypedData → List Word
  | .transferWithAuthorization a => a.words
  | .receiveWithAuthorization a => a.words
  | .cancelAuthorization authorizer nonce => [addressWord authorizer, nonce]

section Hashing

variable (keccak256 : Bytes → Word)

/-- `abi.encode` of the type hash and the fields. -/
def TypedData.encode (m : TypedData) : Bytes :=
  abiEncode (keccak256 (bytes m.type) :: m.words)

/-- `hashStruct`. -/
def TypedData.structHash (m : TypedData) : Word :=
  keccak256 (m.encode keccak256)

/-- `abi.encode` of the domain. -/
def Domain.encode (d : Domain) : Bytes :=
  abiEncode [keccak256 (bytes domainType), keccak256 (bytes d.name), keccak256 (bytes d.version),
    d.chainId, addressWord d.verifyingContract]

/-- The hash of the domain. -/
def Domain.separator (d : Domain) : Word :=
  keccak256 (d.encode keccak256)

/-- `abi.encodePacked("\x19\x01", DOMAIN_SEPARATOR(), structHash)`. -/
def digestInput (separator structHash : Word) : Bytes :=
  [0x19, 0x01] ++ wordBytes separator ++ wordBytes structHash

end Hashing

/-! ### The contract -/

namespace ArenaGameCoin

section Contract

variable (unchecked : Arithmetic) (keccak256 : Bytes → Word)
  (ecrecover : Word → UInt8 → Word → Word → Address) (contract : Address)

/-- A result of arithmetic, or its panic. -/
def arith (x : Option Word) : Except Revert Word :=
  match x with
  | some w => .ok w
  | none => .error .panic

/-- A revert unless the condition holds. -/
def require (c : Prop) [Decidable c] (e : Revert) : Except Revert Unit :=
  if c then .ok () else .error e

/-- `onlyOwner`. -/
def onlyOwner (s : ArenaGameCoin) (env : Env) : Except Revert Unit :=
  require (env.sender = s.owner) .notOwner

/-- `_computeDomainSeparator`. -/
def computeDomainSeparator (name : String) (env : Env) : Word :=
  Domain.separator keccak256 ⟨name, "1", env.chainId, contract⟩

/-- The constructor. -/
def construct (name : String) (env : Env) : ArenaGameCoin where
  name := name
  cachedChainId := env.chainId
  cachedDomainSeparator := computeDomainSeparator keccak256 contract name env
  totalSupply := 0
  balanceOf _ := 0
  allowance _ _ := 0
  owner := env.sender
  whitelisted _ := false
  authorizationState _ _ := false

/-- `DOMAIN_SEPARATOR`. -/
def domainSeparator (s : ArenaGameCoin) (env : Env) : Word :=
  if env.chainId = s.cachedChainId then s.cachedDomainSeparator
  else computeDomainSeparator keccak256 contract s.name env

/-- A write to `whitelisted`. -/
def setWhitelisted (s : ArenaGameCoin) (account : Address) (allowed : Bool) : ArenaGameCoin :=
  { s with whitelisted := Function.update s.whitelisted account allowed }

/-- A write to `balanceOf`. -/
def setBalance (s : ArenaGameCoin) (account : Address) (value : Word) : ArenaGameCoin :=
  { s with balanceOf := Function.update s.balanceOf account value }

/-- A write to `allowance`. -/
def setAllowance (s : ArenaGameCoin) (account spender : Address) (value : Word) : ArenaGameCoin :=
  { s with
    allowance :=
      Function.update s.allowance account (Function.update (s.allowance account) spender value) }

/-- A write to `authorizationState`. -/
def markAuthorization (s : ArenaGameCoin) (authorizer : Address) (nonce : Word) : ArenaGameCoin :=
  { s with
    authorizationState := Function.update s.authorizationState authorizer
      (Function.update (s.authorizationState authorizer) nonce true) }

/-- `_transfer`: the only place where coins move between accounts. -/
def internalTransfer (s : ArenaGameCoin) (fromAccount toAccount : Address) (value : Word) :
    Except Revert ArenaGameCoin := do
  require (toAccount ≠ 0) .transferToZero
  require (s.whitelisted fromAccount = true) (.notWhitelisted fromAccount)
  require (s.whitelisted toAccount = true) (.notWhitelisted toAccount)
  let bal := s.balanceOf fromAccount
  require (value ≤ bal) .insufficientBalance
  let rest ← arith (unchecked.sub bal value)
  let s := s.setBalance fromAccount rest
  let sum ← arith (unchecked.add (s.balanceOf toAccount) value)
  return s.setBalance toAccount sum

/-- `_mint`. -/
def internalMint (s : ArenaGameCoin) (toAccount : Address) (amount : Word) :
    Except Revert ArenaGameCoin := do
  require (toAccount ≠ 0) .mintToZero
  let supply ← arith (Arithmetic.checked.add s.totalSupply amount)
  let s := { s with totalSupply := supply }
  let sum ← arith (unchecked.add (s.balanceOf toAccount) amount)
  return s.setBalance toAccount sum

/-- `_useAuthorization`. -/
def useAuthorization (s : ArenaGameCoin) (authorizer : Address) (nonce : Word) :
    Except Revert ArenaGameCoin := do
  require (s.authorizationState authorizer nonce = false) .authUsed
  return s.markAuthorization authorizer nonce

/-- `_verifySignature`. -/
def verifySignature (s : ArenaGameCoin) (env : Env) (expected : Address) (structHash : Word)
    (sig : Signature) : Except Revert Unit :=
  let digest := keccak256 (digestInput (s.domainSeparator keccak256 contract env) structHash)
  let recovered := ecrecover digest sig.v sig.r sig.s
  require (¬ (recovered = 0 ∨ recovered ≠ expected)) .invalidSignature

/-- `addToWhitelist`. -/
def addToWhitelist (s : ArenaGameCoin) (env : Env) (account : Address) :
    Except Revert ArenaGameCoin := do
  s.onlyOwner env
  return s.setWhitelisted account true

/-- `addToWhitelistBatch`. -/
def addToWhitelistBatch (s : ArenaGameCoin) (env : Env) (accounts : List Address) :
    Except Revert ArenaGameCoin := do
  s.onlyOwner env
  return accounts.foldl (fun s account => s.setWhitelisted account true) s

/-- `removeFromWhitelist`. -/
def removeFromWhitelist (s : ArenaGameCoin) (env : Env) (account : Address) :
    Except Revert ArenaGameCoin := do
  s.onlyOwner env
  return s.setWhitelisted account false

/-- `transfer`. -/
def transfer (s : ArenaGameCoin) (env : Env) (toAccount : Address) (value : Word) :
    Except Revert ArenaGameCoin :=
  s.internalTransfer unchecked env.sender toAccount value

/-- `approve`. -/
def approve (s : ArenaGameCoin) (env : Env) (spender : Address) (value : Word) : ArenaGameCoin :=
  s.setAllowance env.sender spender value

/-- An allowance of the highest value is not used up. -/
def spendAllowance (s : ArenaGameCoin) (env : Env) (fromAccount : Address) (allowed value : Word) :
    Except Revert ArenaGameCoin :=
  if allowed ≠ BitVec.allOnes 256 then do
    let rest ← arith (Arithmetic.checked.sub allowed value)
    return s.setAllowance fromAccount env.sender rest
  else .ok s

/-- `transferFrom`. -/
def transferFrom (s : ArenaGameCoin) (env : Env) (fromAccount toAccount : Address) (value : Word) :
    Except Revert ArenaGameCoin := do
  let allowed := s.allowance fromAccount env.sender
  require (value ≤ allowed) .insufficientAllowance
  let s ← s.spendAllowance env fromAccount allowed value
  s.internalTransfer unchecked fromAccount toAccount value

/-- `mint`. -/
def mint (s : ArenaGameCoin) (env : Env) (toAccount : Address) (amount : Word) :
    Except Revert ArenaGameCoin := do
  s.onlyOwner env
  s.internalMint unchecked toAccount amount

/-- `mintBatch`. -/
def mintBatch (s : ArenaGameCoin) (env : Env) (recipients : List Address) (amount : Word) :
    Except Revert ArenaGameCoin := do
  s.onlyOwner env
  recipients.foldlM (fun s toAccount => s.internalMint unchecked toAccount amount) s

/-- The part that the two authorized transfers share. -/
def useSigned (s : ArenaGameCoin) (env : Env) (a : Authorization) (m : TypedData)
    (sig : Signature) : Except Revert ArenaGameCoin := do
  require (a.validAfter < env.timestamp) .authNotYetValid
  require (env.timestamp < a.validBefore) .authExpired
  let s ← s.useAuthorization a.fromAccount a.nonce
  s.verifySignature keccak256 ecrecover contract env a.fromAccount (m.structHash keccak256) sig
  s.internalTransfer unchecked a.fromAccount a.toAccount a.value

/-- `transferWithAuthorization`. -/
def transferWithAuthorization (s : ArenaGameCoin) (env : Env) (a : Authorization)
    (sig : Signature) : Except Revert ArenaGameCoin :=
  s.useSigned unchecked keccak256 ecrecover contract env a (.transferWithAuthorization a) sig

/-- `receiveWithAuthorization`: the payee calls. -/
def receiveWithAuthorization (s : ArenaGameCoin) (env : Env) (a : Authorization)
    (sig : Signature) : Except Revert ArenaGameCoin := do
  require (a.toAccount = env.sender) .callerMustBePayee
  s.useSigned unchecked keccak256 ecrecover contract env a (.receiveWithAuthorization a) sig

/-- `cancelAuthorization`. -/
def cancelAuthorization (s : ArenaGameCoin) (env : Env) (authorizer : Address) (nonce : Word)
    (sig : Signature) : Except Revert ArenaGameCoin := do
  require (s.authorizationState authorizer nonce = false) .authUsed
  s.verifySignature keccak256 ecrecover contract env authorizer
    ((TypedData.cancelAuthorization authorizer nonce).structHash keccak256) sig
  return s.markAuthorization authorizer nonce

/-- `transferOwnership`. -/
def transferOwnership (s : ArenaGameCoin) (env : Env) (newOwner : Address) :
    Except Revert ArenaGameCoin := do
  s.onlyOwner env
  require (newOwner ≠ 0) .newOwnerIsZero
  return { s with owner := newOwner }

/-! ### Calls -/

/-- A call of a function that writes. -/
inductive Call
  | addToWhitelist (account : Address)
  | addToWhitelistBatch (accounts : List Address)
  | removeFromWhitelist (account : Address)
  | transfer (toAccount : Address) (value : Word)
  | approve (spender : Address) (value : Word)
  | transferFrom (fromAccount toAccount : Address) (value : Word)
  | mint (toAccount : Address) (amount : Word)
  | mintBatch (recipients : List Address) (amount : Word)
  | transferWithAuthorization (a : Authorization) (sig : Signature)
  | receiveWithAuthorization (a : Authorization) (sig : Signature)
  | cancelAuthorization (authorizer : Address) (nonce : Word) (sig : Signature)
  | transferOwnership (newOwner : Address)

/-- The storage after a call that does not revert. -/
def execute (s : ArenaGameCoin) (env : Env) : Call → Except Revert ArenaGameCoin
  | .addToWhitelist account => s.addToWhitelist env account
  | .addToWhitelistBatch accounts => s.addToWhitelistBatch env accounts
  | .removeFromWhitelist account => s.removeFromWhitelist env account
  | .transfer toAccount value => s.transfer unchecked env toAccount value
  | .approve spender value => .ok (s.approve env spender value)
  | .transferFrom fromAccount toAccount value =>
    s.transferFrom unchecked env fromAccount toAccount value
  | .mint toAccount amount => s.mint unchecked env toAccount amount
  | .mintBatch recipients amount => s.mintBatch unchecked env recipients amount
  | .transferWithAuthorization a sig =>
    s.transferWithAuthorization unchecked keccak256 ecrecover contract env a sig
  | .receiveWithAuthorization a sig =>
    s.receiveWithAuthorization unchecked keccak256 ecrecover contract env a sig
  | .cancelAuthorization authorizer nonce sig =>
    s.cancelAuthorization keccak256 ecrecover contract env authorizer nonce sig
  | .transferOwnership newOwner => s.transferOwnership env newOwner

/-- A transaction: a call that reverts changes nothing. -/
def apply (s : ArenaGameCoin) (tx : Env × Call) : ArenaGameCoin :=
  match s.execute unchecked keccak256 ecrecover contract tx.1 tx.2 with
  | .ok s' => s'
  | .error _ => s

/-- The storage after a history of transactions. -/
def run (s : ArenaGameCoin) (txs : List (Env × Call)) : ArenaGameCoin :=
  txs.foldl (apply unchecked keccak256 ecrecover contract) s

end Contract

end ArenaGameCoin

end Arena402.Coin
