/-
This file is the contract ABI encoding of the argument lists that the modelled
programs hash and log: static words in place, byte strings, arrays of words and
tuples of these behind an offset. Contracts and their off-chain replays encode
through the same function, so that two hashes agree as soon as the encoded lists
do.
-/

import D20Keeper.Evm

namespace Evm

/-! ### Encoding -/

/-- A word in big-endian bytes. -/
def wordBytes (value : Nat) : Bytes :=
  (List.range 32).map fun index => UInt8.ofNat (value / 256 ^ (31 - index))

/-- A byte string filled up with zeros to whole words. -/
def padded (data : Bytes) : Bytes :=
  data ++ List.replicate ((32 - data.length % 32) % 32) 0

/-- A value to encode: a static value of one or more words, a byte string or text, an array of
words, or a tuple with a dynamic part. -/
inductive Abi where
  | static (words : List Nat)
  | bytes (data : Bytes)
  | array (words : List Nat)
  | tuple (parts : List Abi)

namespace Abi

/-- A single word: an unsigned integer of any width, a flag or an enumeration value. -/
def uint (value : Nat) : Abi := .static [value]

/-- An address in a word. -/
def address (value : Address) : Abi := .static [value.word.val]

/-- A thirty-two byte value. -/
def bytes32 (value : Bytes32) : Abi := .static [value.toNat]

/-- The bytes a value takes in the head of its list. -/
def headSize : Abi → Nat
  | .static words => 32 * words.length
  | _ => 32

mutual

/-- The tail of a value: nothing for a static one. -/
def tail : Abi → Bytes
  | .static _ => []
  | .bytes data => wordBytes data.length ++ padded data
  | .array words => wordBytes words.length ++ words.flatMap wordBytes
  | .tuple parts =>
    let laid := layout (parts.map headSize).sum parts
    laid.1 ++ laid.2

/-- The heads and the tails of a list whose next tail starts at `offset`. -/
def layout (offset : Nat) : List Abi → Bytes × Bytes
  | [] => ([], [])
  | part :: rest =>
    let own := tail part
    let later := layout (offset + own.length) rest
    match part with
    | .static words => (words.flatMap wordBytes ++ later.1, later.2)
    | _ => (wordBytes offset ++ later.1, own ++ later.2)

end

/-- `abi.encode` of a list of values. -/
def encode (parts : List Abi) : Bytes :=
  let laid := layout (parts.map headSize).sum parts
  laid.1 ++ laid.2

end Abi

end Evm
