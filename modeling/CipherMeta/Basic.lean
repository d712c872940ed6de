import Mathlib.Data.List.Basic

/-!
The data that crypto/cipher/cipher.c works on: statuses, the cipher type (the
contract a concrete cipher implements, as a table of operations), the instance
record the dispatch layer checks, the known-answer test cases, and the events a
run of the dispatch layer leaves behind.

A concrete cipher is not modelled. Its operations act on a state `σ` that
stands for all the memory the implementation owns, so that any behaviour of
the contract (any status, any octets written, any reported length, depending on
anything that happened before) is one choice of `σ` and of the table.
-/

namespace CipherMeta

/-- The values of `srtp_err_status_t` this file names; err.h, which declares
the enumeration, is not part of the source here, so every other code is
`other`. Only `ok` is success: the harness tests `if (status)`. -/
inductive SrtpErrStatus
  | ok
  | badParam
  | algoFail
  | noSuchOp
  | cantCheck
  | other (code : Nat)
  deriving DecidableEq, Repr, Inhabited

inductive SrtpCipherDirection
  | encrypt
  | decrypt
  deriving DecidableEq, Repr

/-- The algorithm identities of crypto_types.h (not part of the source here);
the self-test only asks whether an instance is one of the two AES-GCM ones. -/
inductive SrtpCipherTypeId
  | nullCipher
  | aesIcm128
  | aesIcm192
  | aesIcm256
  | aesGcm128
  | aesGcm256
  deriving DecidableEq, Repr, Inhabited

/-- `c->algorithm == SRTP_AES_GCM_128 || c->algorithm == SRTP_AES_GCM_256`. -/
def SrtpCipherTypeId.isAesGcm : SrtpCipherTypeId → Bool
  | .aesGcm128 | .aesGcm256 => true
  | _ => false

/-- The fields of `srtp_cipher_t` that the dispatch layer and the self-test
read: whether `type` and `state` are set, `algorithm` and `key_len`. A set
`type` points at the cipher type that allocated the instance. -/
structure SrtpCipher where
  type : Bool
  state : Bool
  algorithm : SrtpCipherTypeId
  keyLen : Nat
  deriving DecidableEq, Repr, Inhabited

/-- `srtp_cipher_test_case_t`. Each array is the list of its octets, so its
`*_length_octets` field is the list's length; the list of test cases stands
for the `next_test_case` chain. `idx` (the IV) has no length field. -/
structure SrtpCipherTestCase where
  key : List UInt8
  idx : List UInt8
  plaintext : List UInt8
  ciphertext : List UInt8
  aad : List UInt8
  tagLengthOctets : Nat
  deriving DecidableEq, Repr

namespace SrtpCipherTestCase

@[simp] def keyLengthOctets (tc : SrtpCipherTestCase) : Nat := tc.key.length
@[simp] def plaintextLengthOctets (tc : SrtpCipherTestCase) : Nat := tc.plaintext.length
@[simp] def ciphertextLengthOctets (tc : SrtpCipherTestCase) : Nat := tc.ciphertext.length
@[simp] def aadLengthOctets (tc : SrtpCipherTestCase) : Nat := tc.aad.length

end SrtpCipherTestCase

/-- What an operation that writes output leaves behind: its status, the octets
it wrote from the destination pointer on, and the value it stored through the
length pointer. The two lengths need not agree. -/
structure SrtpCipherOutput where
  status : SrtpErrStatus
  written : List UInt8
  len : Nat
  deriving DecidableEq, Repr

/-- `srtp_cipher_type_t`: the contract a concrete cipher implements, acting on
the memory `σ` the implementation owns. `alloc`, `set_aad` and `get_tag` may
be NULL. An operation gets the octets at its pointer arguments: `init` the key
array, `set_iv` the IV array (which it does not write), `set_aad` the `aad_len`
octets, `encrypt` and `decrypt` the `src_len` source octets and the capacity in
`*dst_len`, `get_tag` the value in `*tag_len`, `none` when that was never
initialized. -/
structure SrtpCipherType (σ : Type) where
  alloc : Option (σ → Nat → Nat → SrtpErrStatus × SrtpCipher × σ)
  dealloc : σ → SrtpErrStatus × σ
  init : σ → List UInt8 → SrtpErrStatus × σ
  setAad : Option (σ → List UInt8 → SrtpErrStatus × σ)
  encrypt : σ → List UInt8 → Nat → SrtpCipherOutput × σ
  decrypt : σ → List UInt8 → Nat → SrtpCipherOutput × σ
  setIv : σ → List UInt8 → SrtpCipherDirection → SrtpErrStatus × σ
  getTag : Option (σ → Option Nat → SrtpCipherOutput × σ)
  testData : List SrtpCipherTestCase

/-- A call through the dispatch layer, with its arguments and what it gave
back: for the output operations the source octets, the capacity handed over,
the octets the caller then finds in `[dst, dst + len)` and `len`. -/
inductive SrtpCipherCall
  | alloc (keyLen tagLen : Nat)
  | dealloc
  | init (key : List UInt8)
  | setIv (iv : List UInt8) (direction : SrtpCipherDirection)
  | setAad (aad : List UInt8)
  | encrypt (src : List UInt8) (capacity : Nat) (output : List UInt8) (len : Nat)
  | decrypt (src : List UInt8) (capacity : Nat) (output : List UInt8) (len : Nat)
  | getTag (offset : Nat) (capacity : Option Nat) (output : List UInt8) (len : Nat)
  deriving DecidableEq, Repr

/-- The operation a call is of, without its data. -/
inductive CallKind
  | alloc | dealloc | init | setIv | setAad | encrypt | decrypt | getTag
  deriving DecidableEq, Repr

def SrtpCipherCall.kind : SrtpCipherCall → CallKind
  | .alloc .. => .alloc
  | .dealloc => .dealloc
  | .init .. => .init
  | .setIv .. => .setIv
  | .setAad .. => .setAad
  | .encrypt .. => .encrypt
  | .decrypt .. => .decrypt
  | .getTag .. => .getTag

/-- What a run leaves in its trace: each call through the dispatch layer with
the instance and the status it returned; each failed check of the caller's own
(`verdict`, the status the caller then returns); and the benchmark's
allocation and release of its scratch buffer. -/
inductive Event
  | call (c : SrtpCipher) (op : SrtpCipherCall) (status : SrtpErrStatus)
  | verdict (status : SrtpErrStatus)
  | cryptoAlloc (size : Nat) (ok : Bool)
  | cryptoFree
  deriving DecidableEq, Repr

end CipherMeta
