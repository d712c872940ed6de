import CipherMeta.Dispatch

/-!
`srtp_cipher_type_test` and `srtp_cipher_type_self_test`, cipher.c lines
204-624: the known-answer loop over the test cases, then `NUM_RAND_TESTS`
randomized round trips on one instance allocated with the first case's
parameters.

The source repeats `srtp_cipher_dealloc(c); return status;` at each of its
checks; here the two forms are `checkStatus` (after a dispatched call) and
`failCheck` (after a check of the self-test's own, which also marks the trace
with a `verdict`), and every site still calls one of them. The comparison
loops read the octets they compare; the one that stops at the first
difference reads within the same bounds. `case_num` and the debug prints of
plain numbers touch no array and are left out.
-/

namespace CipherMeta

variable {σ : Type}

def selfTestBufOctets : Nat := 128

def numRandTests : Nat := 128

def maxKeyLen : Nat := 64

/-- `size_t` arithmetic is modulo `SIZE_MAX + 1`, 2^64 on the hosts the
library targets. -/
def sizeTModulus : Nat := 18446744073709551616

/-- The locals of `srtp_cipher_type_test` that carry over from one test case
or trial to the next: `buffer`, `buffer2`, and `tag_len`, `none` until a
`get_tag` stores to it. -/
structure TestLocals where
  buffer : List UInt8
  buffer2 : List UInt8
  tagLen : Option Nat

/-- The locals at entry: the buffers' contents are indeterminate, taken as
zeros; `tag_len` is never initialized. -/
def TestLocals.initial : TestLocals :=
  ⟨List.replicate selfTestBufOctets 0, List.replicate selfTestBufOctets 0, none⟩

def checkStatus (ct : SrtpCipherType σ) (c : SrtpCipher) (status : SrtpErrStatus) :
    Exec σ SrtpErrStatus Unit :=
  if status = .ok then pure () else do
    let _ ← srtpCipherDealloc ct c
    exit status

@[simp] theorem checkStatus_ok (ct : SrtpCipherType σ) (c : SrtpCipher) :
    checkStatus ct c .ok = pure () := if_pos rfl

/-- A failed check of the self-test's own: `srtp_cipher_dealloc(c); return
status;`, with the check's verdict marked in the trace. -/
def failCheck (ct : SrtpCipherType σ) (c : SrtpCipher) (status : SrtpErrStatus) :
    Exec σ SrtpErrStatus Unit := do
  emit (.verdict status)
  let _ ← srtpCipherDealloc ct c
  exit status

/-- `debug_print(srtp_mod_cipher, ..., srtp_octet_string_hex_string(data, n))`.
`debug_print` (err.h) evaluates its argument only when the module's debugging
is on, and `srtp_octet_string_hex_string` (datatypes.c) reads the `n` octets it
renders; neither file is part of the source here. -/
def debugHex (debug : Bool) (a : SrtpArray) (data : List UInt8) (n : Nat) :
    Exec σ SrtpErrStatus Unit :=
  if debug then do let _ ← load a data 0 n; pure () else pure ()

/-- A comparison loop: whether the first `n` octets of the two arrays differ. -/
def octetsDiffer (a : SrtpArray) (x : List UInt8) (b : SrtpArray) (y : List UInt8)
    (n : Nat) : Exec σ SrtpErrStatus Bool := do
  let computed ← load a x 0 n
  let expected ← load b y 0 n
  pure (computed != expected)

/-- The AAD step of every pass: for an AES-GCM instance, `srtp_cipher_set_aad`
with the test case's AAD, checked, then its dump; only the encryption pass of
a known-answer case dumps the 12-octet IV first. -/
def setAadIfGcm (ct : SrtpCipherType σ) (debug : Bool) (c : SrtpCipher)
    (tc : SrtpCipherTestCase) (dumpIv : Bool) : Exec σ SrtpErrStatus Unit :=
  if c.algorithm.isAesGcm then do
    if dumpIv then debugHex debug .idx tc.idx 12
    checkStatus ct c (← srtpCipherSetAad ct c tc.aad)
    debugHex debug .aad tc.aad tc.aadLengthOctets
  else pure ()

/-- The tag step of every encryption: for an AES-GCM instance,
`srtp_cipher_get_tag(c, buffer + len, &tag_len)`, checked, then
`len += tag_len` in `size_t`. Returns `buffer`, `len` and `tag_len`. -/
def appendTagIfGcm (ct : SrtpCipherType σ) (c : SrtpCipher) (buffer : List UInt8)
    (len : Nat) (tagLen : Option Nat) :
    Exec σ SrtpErrStatus (List UInt8 × Nat × Option Nat) :=
  if c.algorithm.isAesGcm then do
    let (status, buffer, tagLen) ← srtpCipherGetTag ct c .buffer buffer len tagLen
    checkStatus ct c status
    match tagLen with
    | some t => pure (buffer, (len + t) % sizeTModulus, some t)
    | none => undefined .indeterminate
  else pure (buffer, len, tagLen)

/-- The encryption pass of one known-answer case (lines 248-350). -/
def testEncryption (ct : SrtpCipherType σ) (debug : Bool) (c : SrtpCipher)
    (tc : SrtpCipherTestCase) (l : TestLocals) : Exec σ SrtpErrStatus TestLocals := do
  checkStatus ct c (← srtpCipherInit ct c tc.key)
  if selfTestBufOctets < tc.ciphertextLengthOctets then failCheck ct c .badParam
  let buffer ← copyOctets .buffer l.buffer .plaintext tc.plaintext tc.plaintextLengthOctets
  debugHex debug .buffer buffer tc.plaintextLengthOctets
  checkStatus ct c (← srtpCipherSetIv ct c tc.idx .encrypt)
  setAadIfGcm ct debug c tc true
  let (status, buffer, len) ←
    srtpCipherEncrypt ct c .buffer buffer tc.plaintextLengthOctets selfTestBufOctets
  checkStatus ct c status
  let (buffer, len, tagLen) ← appendTagIfGcm ct c buffer len l.tagLen
  debugHex debug .buffer buffer tc.ciphertextLengthOctets
  if len ≠ tc.ciphertextLengthOctets then failCheck ct c .algoFail
  if (← octetsDiffer .buffer buffer .ciphertext tc.ciphertext tc.ciphertextLengthOctets) then
    debugHex debug .buffer buffer (2 * tc.plaintextLengthOctets)
    debugHex debug .ciphertext tc.ciphertext (2 * tc.plaintextLengthOctets)
    failCheck ct c .algoFail
  pure { l with buffer := buffer, tagLen := tagLen }

/-- The decryption pass of one known-answer case (lines 352-437). -/
def testDecryption (ct : SrtpCipherType σ) (debug : Bool) (c : SrtpCipher)
    (tc : SrtpCipherTestCase) (l : TestLocals) : Exec σ SrtpErrStatus TestLocals := do
  checkStatus ct c (← srtpCipherInit ct c tc.key)
  if selfTestBufOctets < tc.ciphertextLengthOctets then failCheck ct c .badParam
  let buffer ← copyOctets .buffer l.buffer .ciphertext tc.ciphertext tc.ciphertextLengthOctets
  debugHex debug .buffer buffer tc.plaintextLengthOctets
  checkStatus ct c (← srtpCipherSetIv ct c tc.idx .decrypt)
  setAadIfGcm ct debug c tc false
  let (status, buffer, len) ←
    srtpCipherDecrypt ct c .buffer buffer tc.ciphertextLengthOctets selfTestBufOctets
  checkStatus ct c status
  debugHex debug .buffer buffer tc.plaintextLengthOctets
  if len ≠ tc.plaintextLengthOctets then failCheck ct c .algoFail
  if (← octetsDiffer .buffer buffer .plaintext tc.plaintext tc.plaintextLengthOctets) then
    debugHex debug .buffer buffer (2 * tc.plaintextLengthOctets)
    debugHex debug .plaintext tc.plaintext (2 * tc.plaintextLengthOctets)
    failCheck ct c .algoFail
  pure { l with buffer := buffer }

/-- One iteration of the known-answer loop (lines 240-451). -/
def testCase (ct : SrtpCipherType σ) (debug : Bool) (tc : SrtpCipherTestCase)
    (l : TestLocals) : Exec σ SrtpErrStatus TestLocals := do
  let (status, c) ← srtpCipherTypeAlloc ct tc.keyLengthOctets tc.tagLengthOctets
  if status ≠ .ok then exit status
  let l ← testEncryption ct debug c tc l
  let l ← testDecryption ct debug c tc l
  let status ← srtpCipherDealloc ct c
  if status ≠ .ok then exit status
  pure l

/-- The known-answer loop over the `next_test_case` chain. -/
def testCases (ct : SrtpCipherType σ) (debug : Bool) :
    List SrtpCipherTestCase → TestLocals → Exec σ SrtpErrStatus TestLocals
  | [], l => pure l
  | tc :: rest, l => testCase ct debug tc l >>= testCases ct debug rest

/-- One randomized trial (lines 463-607) on the instance `c` allocated with the
parameters of the first test case `tc`. The IV drawn into `iv` is not used:
both directions set `tc.idx`. -/
def randTrial (ct : SrtpCipherType σ) (debug : Bool) (rand : Nat → Nat) (c : SrtpCipher)
    (tc : SrtpCipherTestCase) (l : TestLocals) : Exec σ SrtpErrStatus TestLocals := do
  let plaintextLen := (← srtpCipherRandU32ForTests rand) % (selfTestBufOctets - 64)
  let buffer ← srtpCipherRandForTests rand .buffer l.buffer plaintextLen
  debugHex debug .buffer buffer plaintextLen
  let buffer2 ← copyOctets .buffer2 l.buffer2 .buffer buffer plaintextLen
  if maxKeyLen < tc.keyLengthOctets then failCheck ct c .cantCheck
  let key ← srtpCipherRandForTests rand .key (List.replicate maxKeyLen 0) tc.keyLengthOctets
  let _iv ← srtpCipherRandForTests rand .iv (List.replicate maxKeyLen 0) maxKeyLen
  checkStatus ct c (← srtpCipherInit ct c key)
  checkStatus ct c (← srtpCipherSetIv ct c tc.idx .encrypt)
  setAadIfGcm ct debug c tc false
  let (status, buffer, encryptedLen) ←
    srtpCipherEncrypt ct c .buffer buffer plaintextLen selfTestBufOctets
  checkStatus ct c status
  let (buffer, encryptedLen, tagLen) ← appendTagIfGcm ct c buffer encryptedLen l.tagLen
  debugHex debug .buffer buffer encryptedLen
  checkStatus ct c (← srtpCipherInit ct c key)
  checkStatus ct c (← srtpCipherSetIv ct c tc.idx .decrypt)
  setAadIfGcm ct debug c tc false
  let (status, buffer, decryptedLen) ←
    srtpCipherDecrypt ct c .buffer buffer encryptedLen selfTestBufOctets
  checkStatus ct c status
  debugHex debug .buffer buffer decryptedLen
  if decryptedLen ≠ plaintextLen then failCheck ct c .algoFail
  if (← octetsDiffer .buffer buffer .buffer2 buffer2 plaintextLen) then
    failCheck ct c .algoFail
  pure ⟨buffer, buffer2, tagLen⟩

/-- The trial loop, `n` trials to go. -/
def randTrials (ct : SrtpCipherType σ) (debug : Bool) (rand : Nat → Nat) (c : SrtpCipher)
    (tc : SrtpCipherTestCase) : Nat → TestLocals → Exec σ SrtpErrStatus TestLocals
  | 0, l => pure l
  | n + 1, l => randTrial ct debug rand c tc l >>= randTrials ct debug rand c tc n

/-- `srtp_cipher_type_test(ct, test_data)`, `debug` being whether debugging of
`srtp_mod_cipher` is on and `rand` the values `rand()` returns. The function
always returns, so its result type is empty. -/
def srtpCipherTypeTest (ct : SrtpCipherType σ) (debug : Bool) (rand : Nat → Nat) :
    List SrtpCipherTestCase → Exec σ SrtpErrStatus Empty
  | [] => do
    emit (.verdict .cantCheck)
    exit .cantCheck
  | tc :: rest => do
    let l ← testCases ct debug (tc :: rest) TestLocals.initial
    let (status, c) ← srtpCipherTypeAlloc ct tc.keyLengthOctets tc.tagLengthOctets
    if status ≠ .ok then exit status
    let _ ← randTrials ct debug rand c tc numRandTests l
    let status ← srtpCipherDealloc ct c
    if status ≠ .ok then exit status
    exit .ok

def srtpCipherTypeSelfTest (ct : SrtpCipherType σ) (debug : Bool) (rand : Nat → Nat) :
    Exec σ SrtpErrStatus Empty :=
  srtpCipherTypeTest ct debug rand ct.testData

end CipherMeta
