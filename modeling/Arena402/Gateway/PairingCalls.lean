/-
Pairing a Connector with an owner.

A Connector asks for a pairing and keeps its device code, an owner approves the user code,
and the Connector exchanges the device code for a device of that owner.  The calls of all
parties are steps of one system, each at its own reading of the clock.  Three logs keep
what the calls have answered: they are the history of a run, not part of the gateway.
-/
import Arena402.Lib.Run
import Arena402.Gateway.Service

namespace Arena402.Gateway

open Py

/-- A call by anyone, with the random texts that it draws. -/
inductive PairingCall
  | create (deviceName pairingId userCode deviceCode : String)
  | approve (userCode ownerId : String)
  | exchange (deviceCode deviceId deviceToken : String)
deriving DecidableEq, Repr

/-- A pairing as `create_pairing` answered it; the device code goes to the caller only. -/
structure Created where
  pairingId : String
  userCode : String
  deviceCode : String
  expiresAt : Time
deriving DecidableEq, Repr

/-- An approval of a pairing. -/
structure Approval where
  pairingId : String
  ownerId : String
deriving DecidableEq, Repr

/-- A device that was enrolled. -/
structure Enrolment where
  pairingId : String
  deviceCode : String
  deviceId : String
  time : Time
deriving DecidableEq, Repr

/-- A gateway and what it has answered so far. -/
structure PairingWorld where
  gateway : ConnectorGateway
  created : List Created := []
  approvals : List Approval := []
  enrolments : List Enrolment := []
deriving DecidableEq, Repr

namespace PairingWorld

/-- The stored pairing of a device code. -/
def pairingOf (w : PairingWorld) (codeHash : String) : Option Pairing :=
  (w.gateway.pairingsByDeviceCode.get codeHash).bind w.gateway.pairings.get

/-- The approvals of a pairing. -/
def approvalsOf (w : PairingWorld) (pairingId : String) : List Approval :=
  w.approvals.filter fun approval => approval.pairingId = pairingId

variable (digest : String → String)

/-- One call at a reading of the clock; `digest` is `digest_secret`. -/
def step (w : PairingWorld) (event : Time × PairingCall) : Option PairingWorld :=
  let now := event.1
  match event.2 with
  | .create deviceName pairingId userCode deviceCode =>
      match w.gateway.createPairing now deviceName pairingId userCode (digest deviceCode) with
      | (.ok record, gateway) =>
          some { w with
            gateway
            created := w.created ++
              [⟨record.pairingId, record.userCode, deviceCode, record.expiresAt⟩] }
      | (.error _, gateway) => some { w with gateway }
  | .approve userCode ownerId =>
      match w.gateway.approvePairing now userCode ownerId with
      | (.ok record, gateway) =>
          some { w with gateway, approvals := w.approvals ++ [⟨record.pairingId, ownerId⟩] }
      | (.error _, gateway) => some { w with gateway }
  | .exchange deviceCode deviceId deviceToken =>
      match w.gateway.exchangePairing now (digest deviceCode) deviceId (digest deviceToken) with
      | (.ok enrolled, gateway) =>
          some { w with
            gateway
            enrolments := w.enrolments ++
              ((w.pairingOf (digest deviceCode)).map fun record =>
                (⟨record.pairingId, deviceCode, enrolled, now⟩ : Enrolment)).toList }
      | (.error _, gateway) => some { w with gateway }

/-- The random texts of a call are new: no id is drawn twice, the user code is one that
    `_unique_user_code` returns, and no two codes in use have one digest. -/
def Fresh (w : PairingWorld) (event : Time × PairingCall) : Prop :=
  match event.2 with
  | .create _ pairingId userCode deviceCode =>
      (∀ c ∈ w.created, c.pairingId ≠ pairingId ∧ digest c.deviceCode ≠ digest deviceCode) ∧
        (w.gateway.removeExpiredPairings event.1).pairings.get userCode = none
  | .approve _ _ => True
  | .exchange deviceCode deviceId _ =>
      w.gateway.devices.get deviceId = none ∧
        ∀ c ∈ w.created, digest c.deviceCode = digest deviceCode → c.deviceCode = deviceCode

instance decidableFresh (w : PairingWorld) : DecidablePred (Fresh digest w)
  | (now, .create _ pairingId userCode deviceCode) =>
      inferInstanceAs (Decidable (
        (∀ c ∈ w.created, c.pairingId ≠ pairingId ∧ digest c.deviceCode ≠ digest deviceCode) ∧
          (w.gateway.removeExpiredPairings now).pairings.get userCode = none))
  | (_, .approve _ _) => .isTrue trivial
  | (_, .exchange deviceCode deviceId _) =>
      inferInstanceAs (Decidable (w.gateway.devices.get deviceId = none ∧
        ∀ c ∈ w.created, digest c.deviceCode = digest deviceCode → c.deviceCode = deviceCode))

end PairingWorld

end Arena402.Gateway
