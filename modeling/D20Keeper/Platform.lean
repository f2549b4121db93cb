/-
This file collects what the coordinators take from outside their own code: the
hash functions and precompiles, the canonical chain, the vendored proof check,
and what a static call can see of another account.

`Platform` is a parameter of everything that follows. Nothing is assumed of it
except where a theorem says so.
-/

import D20Keeper.Abi

namespace D20

open Evm

/-! ### The platform -/

/-- The calldata form of a VRF proof, `VRF.Proof`. -/
structure Proof where
  pk : Nat × Nat
  gamma : Nat × Nat
  c : Nat
  s : Nat
  seed : Nat
  uWitness : Address
  cGammaWitness : Nat × Nat
  sHashWitness : Nat × Nat
  zInv : Nat
deriving DecidableEq

instance : Inhabited Proof := ⟨(1, 2), (0, 0), 0, 0, 1, 0, (0, 0), (0, 0), 0⟩

/-- The words of a proof in ABI order. -/
def Proof.words (proof : Proof) : List Nat :=
  [proof.pk.1, proof.pk.2, proof.gamma.1, proof.gamma.2, proof.c, proof.s, proof.seed,
    proof.uWitness.word.val, proof.cGammaWitness.1, proof.cGammaWitness.2,
    proof.sHashWitness.1, proof.sHashWitness.2, proof.zInv]

/-- `abi.encode(proof)`. -/
def Proof.encode (proof : Proof) : Bytes := Abi.encode [.static proof.words]

/-- What the contracts take from the chain and from code outside them. `randomValue` is
`_randomValueFromVRFProof` of the vendored proof check and `recover` the signature recovery of
the contract library; both are `none` when they revert. -/
structure Platform where
  chainId : Nat
  canonical : Nat → Bytes32
  keccak256 : Bytes → Bytes32
  sha256 : Bytes → Bytes32
  recover : Bytes32 → Bytes → Option Address
  isOnCurve : Nat × Nat → Bool
  randomValue : Proof → Nat → Option Nat

/-- A platform whose hashes are all one, and on which every proof yields zero. -/
instance : Inhabited Platform :=
  ⟨1, fun _ => 1, fun _ => 1, fun _ => 1, fun _ _ => some ⟨3⟩, fun _ => true, fun _ _ => some 0⟩

namespace Platform

variable (platform : Platform)

/-- `keccak256(abi.encode(...))`. -/
def hash (parts : List Abi) : Bytes32 := platform.keccak256 (Abi.encode parts)

/-- A domain tag: the hash of a text. -/
def domain (text : String) : Bytes32 := platform.keccak256 (ascii text)

end Platform

/-- What a static call can see at one moment: whether an account has code, and the word a beacon
verifier answers when the call succeeds with exactly one word. -/
structure Views where
  hasCode : Address → Bool
  isValidPublicKey : Address → Bytes → Option Nat
  verifyRound : Address → Bytes → Nat → Bytes → Option Nat

/-- Views in which every account has code, every key is valid, and the signatures of one byte
are. -/
instance : Inhabited Views :=
  ⟨fun _ => true, fun _ _ => some 1, fun _ _ _ signature => some signature.length⟩

/-! ### Messages -/

/-- The sender and the value of a message. -/
structure Msg where
  sender : Address
  value : Nat

end D20
