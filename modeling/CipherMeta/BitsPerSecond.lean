import CipherMeta.TypeTest

/-!
`srtp_cipher_bits_per_second`, cipher.c lines 626-697: the throughput
benchmark. It allocates `enc_buf` of `octets_in_buffer + SRTP_MAX_TAG_LEN`
octets in `size_t`, then runs `num_trials` trials on an instance allocated and
initialized by its caller, each setting the nonce (`v32[3]` the trial's index
as a `uint32_t`), the empty AAD where the type has `set_aad`, encrypting
`enc_buf` in place with `len` both the source length and the capacity, and
fetching the tag into `enc_buf + len` where the type has `get_tag`. `len` and
`tag_len` are passed by address and keep what each call stores in them. Any
failure frees `enc_buf` and returns 0.

What the function takes from outside cipher.c is a parameter (`BenchEnv`):
the values of `SRTP_MAX_TAG_LEN` and `CLOCKS_PER_SEC`, whether
`srtp_crypto_alloc` finds memory, and the ticks `clock()` measures.
-/

namespace CipherMeta

variable {σ ρ α : Type}

def uint32Modulus : Nat := 4294967296

def uint64Modulus : Nat := 18446744073709551616

/-- `clock_t` is a signed 64-bit `long` on the hosts the library targets. -/
def clockTBound : Int := 9223372036854775808

/-- The benchmark's surroundings: `SRTP_MAX_TAG_LEN`, `CLOCKS_PER_SEC`, whether
`srtp_crypto_alloc` returns memory for a size, and the value `clock() - timer`
leaves in `timer`, a `clock_t`. -/
structure BenchEnv where
  srtpMaxTagLen : Nat
  clocksPerSec : Nat
  allocates : Nat → Bool
  elapsed : Int
  elapsed_range : -clockTBound ≤ elapsed ∧ elapsed < clockTBound

/-- The octets of the `uint32_t` value `x` in memory, least significant first
as on the hosts the library targets. -/
def uint32Octets (x : Nat) : List UInt8 :=
  [UInt8.ofNat x, UInt8.ofNat (x / 256), UInt8.ofNat (x / 65536), UInt8.ofNat (x / 16777216)]

/-- `v128_set_to_zero(&v)`: a `v128_t` held as its 16 octets. -/
def v128Zero : List UInt8 := List.replicate 16 0

def v128SetV32 (v : List UInt8) (k x : Nat) : List UInt8 :=
  v.take (4 * k) ++ uint32Octets x ++ v.drop (4 * k + 4)

/-- `srtp_crypto_alloc(size)`: a buffer of `size` octets, or NULL. Its
contents play no part in the benchmark and are taken as zeros. -/
def srtpCryptoAlloc (env : BenchEnv) (size : Nat) : Exec σ ρ (Option (List UInt8)) := do
  emit (.cryptoAlloc size (env.allocates size))
  pure (if env.allocates size then some (List.replicate size 0) else none)

def srtpCryptoFree : Exec σ ρ Unit := emit .cryptoFree

/-- `c->type->set_aad` or `c->type->get_tag` is not NULL; reading it through a
NULL `c->type` is undefined. -/
def typeHas (c : SrtpCipher) (present : Bool) : Exec σ ρ Bool :=
  if c.type then pure present else undefined .nullType

def benchAbort : Exec σ Nat α := do
  srtpCryptoFree
  exit 0

/-- `if (status != srtp_err_status_ok) { srtp_crypto_free(enc_buf); return 0; }`. -/
def benchCheck (status : SrtpErrStatus) : Exec σ Nat Unit :=
  if status = .ok then pure () else benchAbort

/-- The benchmark's locals that one trial hands to the next. -/
structure BenchLocals where
  nonce : List UInt8
  len : Nat
  tagLen : Option Nat
  encBuf : List UInt8

/-- Lines 663-669: the empty AAD, where the type has `set_aad`. -/
def benchSetAad (ct : SrtpCipherType σ) (c : SrtpCipher) : Exec σ Nat Unit := do
  if (← typeHas c ct.setAad.isSome) then
    benchCheck (← srtpCipherSetAad ct c [0, 0, 0, 0])

/-- Lines 678-684: the tag into `enc_buf + len`, where the type has `get_tag`.
Returns `enc_buf` and `tag_len`. -/
def benchGetTag (ct : SrtpCipherType σ) (c : SrtpCipher) (encBuf : List UInt8) (len : Nat)
    (tagLen : Option Nat) : Exec σ Nat (List UInt8 × Option Nat) := do
  if (← typeHas c ct.getTag.isSome) then
    let (status, encBuf, tagLen) ← srtpCipherGetTag ct c .encBuf encBuf len tagLen
    benchCheck status
    pure (encBuf, tagLen)
  else pure (encBuf, tagLen)

/-- One trial of the loop (lines 656-684). -/
def benchTrial (ct : SrtpCipherType σ) (c : SrtpCipher) (l : BenchLocals) :
    Exec σ Nat BenchLocals := do
  benchCheck (← srtpCipherSetIv ct c l.nonce .encrypt)
  benchSetAad ct c
  let (status, encBuf, len) ← srtpCipherEncrypt ct c .encBuf l.encBuf l.len l.len
  benchCheck status
  let (encBuf, tagLen) ← benchGetTag ct c encBuf len l.tagLen
  pure ⟨l.nonce, len, tagLen, encBuf⟩

/-- The trial loop from trial `i` on, `n` trials to go; after each trial
`i++, nonce.v32[3] = (uint32_t)i`. -/
def benchTrials (ct : SrtpCipherType σ) (c : SrtpCipher) :
    Nat → Nat → BenchLocals → Exec σ Nat BenchLocals
  | _, 0, l => pure l
  | i, n + 1, l => do
    let l ← benchTrial ct c l
    benchTrials ct c (i + 1) n { l with nonce := v128SetV32 l.nonce 3 ((i + 1) % uint32Modulus) }

/-- `(uint64_t)CLOCKS_PER_SEC * num_trials * 8 * octets_in_buffer / timer`:
each product in `uint64_t`, and `timer` converted to `uint64_t`. -/
def bitsPerSecondQuotient (clocksPerSec numTrials octetsInBuffer : Nat) (timer : Int) : Nat :=
  (clocksPerSec % uint64Modulus * numTrials % uint64Modulus * 8 % uint64Modulus *
      octetsInBuffer % uint64Modulus) / (timer % uint64Modulus).toNat

/-- `srtp_cipher_bits_per_second(c, octets_in_buffer, num_trials)`, `ct` being
the table of `c->type`. The function always returns, so its result type is
empty. -/
def srtpCipherBitsPerSecond (ct : SrtpCipherType σ) (env : BenchEnv) (c : SrtpCipher)
    (octetsInBuffer numTrials : Nat) : Exec σ Nat Empty := do
  match ← srtpCryptoAlloc env ((octetsInBuffer + env.srtpMaxTagLen) % sizeTModulus) with
  | none => exit 0
  | some encBuf =>
    let _ ← benchTrials ct c 0 numTrials
      ⟨v128Zero, octetsInBuffer, some env.srtpMaxTagLen, encBuf⟩
    srtpCryptoFree
    if env.elapsed = 0 then exit 0
    exit (bitsPerSecondQuotient env.clocksPerSec numTrials octetsInBuffer env.elapsed)

private theorem uint8_toNat_ofNat (n : Nat) : (UInt8.ofNat n).toNat = n % 256 := by
  simp [UInt8.ofNat, UInt8.toNat, BitVec.toNat_ofNat]

/-- The four octets of a `uint32_t` determine it. -/
theorem uint32Octets_inj {x y : Nat} (h : uint32Octets x = uint32Octets y) :
    x % uint32Modulus = y % uint32Modulus := by
  simp only [uint32Octets, List.cons.injEq, and_true] at h
  obtain ⟨h0, h1, h2, h3⟩ := h
  have e0 := congrArg UInt8.toNat h0
  have e1 := congrArg UInt8.toNat h1
  have e2 := congrArg UInt8.toNat h2
  have e3 := congrArg UInt8.toNat h3
  simp only [uint8_toNat_ofNat] at e0 e1 e2 e3
  simp only [uint32Modulus]
  omega

/-- The `uint64_t` products wrap as the whole product does. -/
theorem bitsPerSecondQuotient_eq (clocksPerSec numTrials octetsInBuffer : Nat) (timer : Int) :
    bitsPerSecondQuotient clocksPerSec numTrials octetsInBuffer timer =
      clocksPerSec * numTrials * 8 * octetsInBuffer % uint64Modulus /
        (timer % uint64Modulus).toNat := by
  simp [bitsPerSecondQuotient, Nat.mul_mod, Nat.mod_mod]

/-- A positive `clock_t` converts to `uint64_t` unchanged. -/
theorem BenchEnv.elapsed_toNat (env : BenchEnv) (h : 0 < env.elapsed) :
    (env.elapsed % uint64Modulus).toNat = env.elapsed.toNat := by
  have := env.elapsed_range.2
  rw [Int.emod_eq_of_lt (Int.le_of_lt h) (by simp only [clockTBound, uint64Modulus] at this ⊢; omega)]

end CipherMeta
