/-
This file lists what the contracts show to the outside: their errors, the events
of the two coordinators and of `BeaconBook`, and the places of a run that gas is
accounted for. The contracts declare most of them in the same words, so one list
serves all.
-/

import D20Keeper.RandomnessMapping
import D20Keeper.Transaction

namespace D20

open Evm

/-- The errors of the two coordinators, of `BeaconBook`, of `EpochEntropy` and of the library
contracts they inherit. `nonPayable` is the check that a function which is not payable gets no
value, and `externalCall` the failure of a call that the source does not catch. -/
inductive Error where
  | invalidConfig
  | epochUnavailable
  | invalidPublicKey
  | contractConsumerRequired
  | incorrectFee (expected actual : Nat)
  | invalidCallbackGas
  | unknownRequest
  | notReady
  | blockHashUnavailable
  | alreadyFulfilled
  | notFulfilled
  | alreadyDelivered
  | wrongPublicKey
  | wrongSeed
  | insufficientCallbackGas
  | onlyFeeRecipient
  | transferFailed
  | invalidRefundAddress
  | requestExpired
  | requestRefunded
  | refundNotAvailable
  | noRefundCredit
  | noKeeperCredit
  | notRefunded
  | refundCallbackAlreadyDelivered
  | evidencePacketTooLarge
  | renounceDisabled
  | feeOverflow
  | invalidBatch
  | invalidMapping
  | invalidProof
  | invalidBeacon
  | invalidSchedule
  | beaconGasTooLow
  | beaconVerifierFailed
  | invalidRoundSignature
  | roundUnavailable
  | invalidEpoch
  | preparationClosed
  | anchorUnavailable
  | onlyCommitter
  | alreadyCommitted
  | invalidTime
  | invalidData
  | invalidSigner
  | packetTooLarge
  | invalidFallback
  | fallbackNotOpen
  | invalidRecipe
  | invalidTemplate
  | invalidSignature
  | reentrantCall
  | ownableUnauthorizedAccount
  | ownableInvalidOwner
  | nonPayable
  | externalCall
  | invalidScan
deriving DecidableEq

/-- The events of the two coordinators, of `BeaconBook` and of the ownership contract. -/
inductive Event where
  | randomnessRequested (requestId : Nat) (consumer : Address) (keyHash clientSeed : Bytes32)
      (requestBlock callbackGasLimit feePaid : Nat) (refundAddress : Address) (deadline : Nat)
  | blockHashStored (requestId targetBlock : Nat) (blockHash : Bytes32)
  | roundAssigned (requestId beaconId round : Nat)
  | randomnessFulfilled (requestId : Nat) (randomness : Bytes32) (submitter : Address)
  | callbackAttempted (requestId : Nat) (success : Bool) (gasLimit : Nat)
  | feesWithdrawn (recipient : Address) (amount : Nat)
  | feeRecipientChanged (previousRecipient newRecipient : Address)
  | keeperFeeBpsChanged (previousBps newBps : Nat)
  | pricingChanged (minFee feeMultiplier fulfillGasOverhead : Nat)
  | refundBpsChanged (previousBps newBps : Nat)
  | feeOverpaymentCredited (requestId : Nat) (refundAddress : Address) (amount : Nat)
  | keeperFeePaid (requestId : Nat) (keeper : Address) (amount : Nat) (paid : Bool)
  | keeperCreditWithdrawn (keeper recipient : Address) (amount : Nat)
  | requestRefundedTo (requestId : Nat) (refundAddress : Address) (amount : Nat) (paid : Bool)
  | refundCreditWithdrawn (owner recipient : Address) (amount : Nat)
  | refundCallbackAttempted (requestId : Nat) (consumer : Address) (success : Bool)
      (gasLimit : Nat)
  | mappingRequested (requestId : Nat) (mappingHash : Bytes32) (spec : RandomnessMapping.Spec)
  | proofVerified (requestId : Nat) (keyHash : Bytes32) (seed : Nat) (proofHash : Bytes32)
  | requestServed (requestId serveIndex : Nat)
  | fulfillmentSkipped (requestId reason : Nat)
  | fulfillmentEvidence (requestId : Nat) (transcriptHash : Bytes32) (packet : Bytes)
  | keeperChanged (previousKeeper newKeeper : Address)
  | backupKeeperSet (account : Address) (allowed : Bool)
  | initialized (version : Nat)
  | ownershipTransferStarted (previousOwner newOwner : Address)
  | ownershipTransferred (previousOwner newOwner : Address)
  | beaconRegistered (beaconId : Nat) (identity : Bytes32) (verifier : Address)
      (chainHash : Bytes32) (publicKey : Bytes) (genesis period : Nat)
  | beaconScheduled (beaconId fromTime : Nat)
  | beaconScheduleCancelled (beaconId fromTime : Nat)
  | roundVerified (beaconId round : Nat) (randomness : Bytes32) (signature : Bytes)
deriving DecidableEq

/-- The parts of a run that gas is accounted for: a consumer callback, the verification of a
round, and the start of a served batch member. -/
inductive Mark where
  | callback
  | verification
  | member
deriving DecidableEq

/-- A program of a coordinator with storage `σ`, which calls of type `κ` can re-enter. -/
abbrev CoordinatorTx (σ κ α : Type) := Tx σ Error Event κ Views Mark α

end D20
