import CipherMeta.Complete

/-!
Where the self-test stays inside its arrays. `srtp_cipher_type_test` reads
and writes `buffer`, `buffer2`, `key`, `iv` and the arrays of the test case,
and the contract's `encrypt` and `decrypt` write their output into `buffer`;
in the model an access outside its array is undefined behaviour
(`Undefined.outside`), and so is a source of `src_len` octets that reaches
past `buffer`. With the debugging of `srtp_mod_cipher` off, for a contract
that never allocates an AES-GCM instance, whose `encrypt` and `decrypt` write
no more octets than the capacity they are given and whose `encrypt` reports a
length within it (`Contained`), no run reaches undefined behaviour, for every
list of test vectors whose plaintext fits in `buffer` when its ciphertext
does, and every `rand()` stream. The scratch buffers keep their
`SELF_TEST_BUF_OCTETS` octets throughout (`TestLocals.Fits`).

The premises are needed: with debugging on, a mismatch dumps
`2 * plaintext_length_octets` octets of the test case's arrays; an AES-GCM
instance writes its tag after an output whose length the contract chooses; and
the length `encrypt` reports is the source of the trial's `decrypt`.
-/

namespace CipherMeta

variable {σ : Type}

/-- Falls through as `N` says of the result, may return anything, and never
reaches undefined behaviour. -/
def InBounds {α : Type} (N : α → Prop) : Post σ SrtpErrStatus α :=
  ⟨fun a _ => N a, fun _ _ => True, fun _ _ => False⟩

/-- The scratch buffers `buffer` and `buffer2` have their
`SELF_TEST_BUF_OCTETS` octets. -/
def TestLocals.Fits (l : TestLocals) : Prop :=
  l.buffer.length = selfTestBufOctets ∧ l.buffer2.length = selfTestBufOctets

/-- A contract that never allocates an AES-GCM instance, whose `encrypt` and
`decrypt` write at most the capacity they are given when the source fits in
it, and whose `encrypt` then reports a length within that capacity. -/
structure Contained (ct : SrtpCipherType σ) : Prop where
  not_gcm : ∀ f ∈ ct.alloc, ∀ st keyLen tagLen,
    (f st keyLen tagLen).2.1.algorithm.isAesGcm = false
  encrypt_fits : ∀ st src cap, src.length ≤ cap →
    (ct.encrypt st src cap).1.written.length ≤ cap
  encrypt_len : ∀ st src cap, src.length ≤ cap → (ct.encrypt st src cap).1.len ≤ cap
  decrypt_fits : ∀ st src cap, src.length ≤ cap →
    (ct.decrypt st src cap).1.written.length ≤ cap

theorem identityCipherType_contained (algorithm : SrtpCipherTypeId)
    (h : algorithm.isAesGcm = false) : Contained (identityCipherType algorithm) where
  not_gcm _ hf _ _ _ := by cases hf; exact h
  encrypt_fits _ _ _ hs := hs
  encrypt_len _ _ _ hs := hs
  decrypt_fits _ _ _ hs := hs

/-! ### The statements of the self-test -/

section Statements

variable {α : Type} {P : World σ → Prop} (ct : SrtpCipherType σ) (c : SrtpCipher)

theorem dispatch_inBounds (call : SrtpCipherCall)
    (op : Except SrtpErrStatus (σ → SrtpErrStatus × σ)) :
    Triple P (dispatch c call op) (InBounds fun _ => True) := fun _ _ => by
  cases op <;> exact (Post.holds_next ..).mpr trivial

/-- An output operation stays in `buf` when what it writes fits after `off`;
the array keeps its length. -/
theorem dispatchOutput_inBounds (a : SrtpArray) (buf : List UInt8) (off : Nat)
    (call : List UInt8 → Nat → SrtpCipherCall)
    (op : Except SrtpErrStatus (σ → SrtpCipherOutput × σ))
    (hfit : ∀ f, op = .ok f → ∀ st, off + (f st).1.written.length ≤ buf.length) :
    Triple P (dispatchOutput c a buf off call op)
      (InBounds fun r => r.2.1.length = buf.length) := by
  intro w _
  cases op with
  | error s => exact (Post.holds_next ..).mpr rfl
  | ok f =>
    obtain ⟨buf', hw, hl⟩ := writeAt_eq_some buf off _ (hfit f rfl w.cipher)
    simp only [dispatchOutput, hw]
    exact (Post.holds_next ..).mpr hl

/-- `checkStatus` falls through only on `ok`, and returns otherwise. -/
theorem checkStatus_inBounds (s : SrtpErrStatus) :
    Triple P (checkStatus ct c s) (InBounds fun _ => s = .ok) := by
  unfold checkStatus
  split
  · exact Triple.pure fun _ _ => ‹_›
  · exact fun w _ => by
      simp only [Exec.bind_apply, srtpCipherDealloc, dispatch]
      split <;> exact (Post.holds_done ..).mpr trivial

theorem failCheck_inBounds (s : SrtpErrStatus) :
    Triple P (failCheck ct c s) (InBounds fun _ => False) := by
  intro w _
  simp only [failCheck, Exec.bind_apply, emit, Outcome.next_bind, srtpCipherDealloc, dispatch]
  split <;> exact (Post.holds_done ..).mpr trivial

/-- A call whose status is checked at once. -/
theorem checkStatus_after_inBounds {β : Type} {m : Exec σ SrtpErrStatus SrtpErrStatus}
    {k : Unit → Exec σ SrtpErrStatus β} {N : β → Prop}
    (hm : Triple P m (InBounds fun _ => True))
    (hk : Triple (fun _ => True) (k ()) (InBounds N)) :
    Triple P (m >>= fun s => checkStatus ct c s >>= k) (InBounds N) :=
  Triple.bind hm fun s => Triple.bind (checkStatus_inBounds ct c s) fun _ =>
    Triple.assume fun _ => hk

theorem copyOctets_inBounds (a : SrtpArray) (dst : List UInt8) (b : SrtpArray)
    (src : List UInt8) (n : Nat) (hs : n ≤ src.length) (hd : n ≤ dst.length) :
    Triple P (copyOctets a dst b src n) (InBounds fun r => r.length = dst.length) :=
  fun _ _ => by
    simp only [copyOctets, if_pos (And.intro hs hd)]
    exact (Post.holds_next ..).mpr (by simp [InBounds]; omega)

theorem octetsDiffer_inBounds (a : SrtpArray) (x : List UInt8) (b : SrtpArray) (y : List UInt8)
    (n : Nat) (hx : n ≤ x.length) (hy : n ≤ y.length) :
    Triple P (octetsDiffer a x b y n) (InBounds fun _ => True) := fun _ _ => by
  simp [octetsDiffer, load, hx, hy, InBounds]

theorem debugHex_off (a : SrtpArray) (data : List UInt8) (n : Nat) :
    Triple P (debugHex false a data n) (InBounds fun _ => True) :=
  Triple.pure fun _ _ => trivial

theorem srtpCipherRandForTests_inBounds (rand : Nat → Nat) (a : SrtpArray) (dest : List UInt8)
    (len : Nat) (hl : len ≤ dest.length) :
    Triple P (srtpCipherRandForTests rand a dest len)
      (InBounds fun r => r.length = dest.length) := fun w _ => by
  have hr : (randOctets rand w.draws len).length = len := by simp [randOctets]
  rw [srtpCipherRandForTests, writeAt_zero _ _ (by omega)]
  exact (Post.holds_next ..).mpr (by simp [InBounds, hr]; omega)

theorem srtpCipherRandU32ForTests_inBounds (rand : Nat → Nat) :
    Triple P (srtpCipherRandU32ForTests rand) (InBounds fun _ => True) :=
  fun _ _ => (Post.holds_next ..).mpr trivial

section NotGcm

variable {c} (hc : c.algorithm.isAesGcm = false)
include hc

theorem setAadIfGcm_inBounds (debug : Bool) (tc : SrtpCipherTestCase) (dumpIv : Bool) :
    Triple P (setAadIfGcm ct debug c tc dumpIv) (InBounds fun _ => True) := by
  unfold setAadIfGcm
  rw [if_neg (by simp [hc])]
  exact Triple.pure fun _ _ => trivial

theorem appendTagIfGcm_inBounds (buffer : List UInt8) (len : Nat) (tagLen : Option Nat) :
    Triple P (appendTagIfGcm ct c buffer len tagLen)
      (InBounds fun r => r.1 = buffer ∧ r.2.1 = len) := by
  unfold appendTagIfGcm
  rw [if_neg (by simp [hc])]
  exact Triple.pure fun _ _ => ⟨rfl, rfl⟩

end NotGcm

variable {ct} (h : Contained ct)
include h

/-- An `encrypt` in place of a source that fits in `buf` stays in `buf`, and
reports a length within it. -/
theorem srtpCipherEncrypt_inBounds (a : SrtpArray) (buf : List UInt8) (srcLen dstLen : Nat)
    (hbuf : buf.length = dstLen) (hsrc : srcLen ≤ dstLen) :
    Triple P (srtpCipherEncrypt ct c a buf srcLen dstLen)
      (InBounds fun r => r.2.1.length = buf.length ∧ r.2.2 ≤ dstLen) := by
  intro w _
  have hs : (window buf 0 srcLen).length ≤ dstLen := by simp [window]; omega
  unfold srtpCipherEncrypt dispatchInPlace
  rw [if_neg (by simp; omega)]
  cases hc : c.unusable
  · obtain ⟨buf', hw, hl⟩ := writeAt_eq_some buf 0
      (ct.encrypt w.cipher (window buf 0 srcLen) dstLen).1.written
      (by have := h.encrypt_fits w.cipher _ dstLen hs; omega)
    simp [dispatchOutput, hc, hw, InBounds, hl, h.encrypt_len w.cipher _ dstLen hs]
  · simp [dispatchOutput, hc, InBounds]

theorem srtpCipherDecrypt_inBounds (a : SrtpArray) (buf : List UInt8) (srcLen dstLen : Nat)
    (hbuf : buf.length = dstLen) (hsrc : srcLen ≤ dstLen) :
    Triple P (srtpCipherDecrypt ct c a buf srcLen dstLen)
      (InBounds fun r => r.2.1.length = buf.length) := by
  intro w _
  have hs : (window buf 0 srcLen).length ≤ dstLen := by simp [window]; omega
  unfold srtpCipherDecrypt dispatchInPlace
  rw [if_neg (by simp; omega)]
  cases hc : c.unusable
  · obtain ⟨buf', hw, hl⟩ := writeAt_eq_some buf 0
      (ct.decrypt w.cipher (window buf 0 srcLen) dstLen).1.written
      (by have := h.decrypt_fits w.cipher _ dstLen hs; omega)
    simp [dispatchOutput, hc, hw, InBounds, hl]
  · simp [dispatchOutput, hc, InBounds]

/-- An instance of the contract that was allocated with `ok` is not AES-GCM. -/
theorem srtpCipherTypeAlloc_inBounds (keyLen tagLen : Nat) :
    Triple P (srtpCipherTypeAlloc ct keyLen tagLen)
      (InBounds fun r => r.1 = .ok → r.2.algorithm.isAesGcm = false) := by
  intro w _
  unfold srtpCipherTypeAlloc
  split
  · exact (Post.holds_next ..).mpr nofun
  · next f hf => exact (Post.holds_next ..).mpr fun _ => h.not_gcm f hf _ _ _

end Statements

/-! ### The passes and the trials -/

section Passes

variable {ct : SrtpCipherType σ} (h : Contained ct) {c : SrtpCipher}
  (hc : c.algorithm.isAesGcm = false)
include h hc

theorem testEncryption_inBounds (tc : SrtpCipherTestCase)
    (hv : tc.ciphertextLengthOctets ≤ selfTestBufOctets →
      tc.plaintextLengthOctets ≤ selfTestBufOctets) (l : TestLocals) (hl : l.Fits) :
    Triple (fun _ => True) (testEncryption ct false c tc l) (InBounds TestLocals.Fits) := by
  obtain ⟨hl1, hl2⟩ := hl
  unfold testEncryption
  refine checkStatus_after_inBounds ct c (dispatch_inBounds c _ _) ?_
  refine Triple.early_return (fun _ => failCheck_inBounds ct c _) fun hct => ?_
  have hpt := hv (Nat.le_of_not_lt hct)
  refine Triple.bind (copyOctets_inBounds _ _ _ _ _ le_rfl (by omega)) fun buffer =>
    Triple.assume fun hb => ?_
  refine Triple.bind (debugHex_off _ _ _) fun _ => ?_
  refine checkStatus_after_inBounds ct c (dispatch_inBounds c _ _) ?_
  refine Triple.bind (setAadIfGcm_inBounds ct hc _ _ _) fun _ => ?_
  refine Triple.bind (srtpCipherEncrypt_inBounds c h _ buffer _ _ (by omega) (by omega))
    fun ⟨st, bufE, _⟩ => Triple.assume fun ⟨(hbe : bufE.length = buffer.length), _⟩ => ?_
  refine Triple.bind (checkStatus_inBounds ct c st) fun _ => Triple.assume fun _ => ?_
  refine Triple.bind (appendTagIfGcm_inBounds ct hc _ _ _) fun ⟨bufT, _, _⟩ =>
    Triple.assume fun ⟨(hbt : bufT = bufE), _⟩ => ?_
  have hbt := congrArg List.length hbt
  refine Triple.bind (debugHex_off _ _ _) fun _ => ?_
  refine Triple.early_return (fun _ => failCheck_inBounds ct c _) fun _ => ?_
  refine Triple.bind (octetsDiffer_inBounds _ _ _ _ _ (by omega) le_rfl) fun _ => ?_
  refine Triple.ite (fun _ => ?_) fun _ =>
    Triple.bind (R := fun _ _ => True) (Triple.pure fun _ _ => trivial) fun _ =>
      Triple.pure fun _ _ => ⟨by dsimp only; omega, hl2⟩
  exact Triple.bind (debugHex_off _ _ _) fun _ => Triple.bind (debugHex_off _ _ _) fun _ =>
    Triple.bind (failCheck_inBounds ct c _) fun _ _ h => h.elim

theorem testDecryption_inBounds (tc : SrtpCipherTestCase)
    (hv : tc.ciphertextLengthOctets ≤ selfTestBufOctets →
      tc.plaintextLengthOctets ≤ selfTestBufOctets) (l : TestLocals) (hl : l.Fits) :
    Triple (fun _ => True) (testDecryption ct false c tc l) (InBounds TestLocals.Fits) := by
  obtain ⟨hl1, hl2⟩ := hl
  unfold testDecryption
  refine checkStatus_after_inBounds ct c (dispatch_inBounds c _ _) ?_
  refine Triple.early_return (fun _ => failCheck_inBounds ct c _) fun hct => ?_
  have hpt := hv (Nat.le_of_not_lt hct)
  refine Triple.bind (copyOctets_inBounds _ _ _ _ _ le_rfl (by omega)) fun buffer =>
    Triple.assume fun hb => ?_
  refine Triple.bind (debugHex_off _ _ _) fun _ => ?_
  refine checkStatus_after_inBounds ct c (dispatch_inBounds c _ _) ?_
  refine Triple.bind (setAadIfGcm_inBounds ct hc _ _ _) fun _ => ?_
  refine Triple.bind (srtpCipherDecrypt_inBounds c h _ buffer _ _ (by omega) (by omega))
    fun ⟨st, bufD, _⟩ => Triple.assume fun (hbd : bufD.length = _) => ?_
  refine Triple.bind (checkStatus_inBounds ct c st) fun _ => Triple.assume fun _ => ?_
  refine Triple.bind (debugHex_off _ _ _) fun _ => ?_
  refine Triple.early_return (fun _ => failCheck_inBounds ct c _) fun _ => ?_
  refine Triple.bind (octetsDiffer_inBounds _ _ _ _ _ (by omega) le_rfl) fun _ => ?_
  refine Triple.ite (fun _ => ?_) fun _ =>
    Triple.bind (R := fun _ _ => True) (Triple.pure fun _ _ => trivial) fun _ =>
      Triple.pure fun _ _ => ⟨by dsimp only; omega, hl2⟩
  exact Triple.bind (debugHex_off _ _ _) fun _ => Triple.bind (debugHex_off _ _ _) fun _ =>
    Triple.bind (failCheck_inBounds ct c _) fun _ _ h => h.elim

/-- A randomized trial: its plaintext is shorter than 64 octets, and its key
is drawn only once `key_length_octets` is known to fit in `key`. -/
theorem randTrial_inBounds (rand : Nat → Nat) (tc : SrtpCipherTestCase) (l : TestLocals)
    (hl : l.Fits) :
    Triple (fun _ => True) (randTrial ct false rand c tc l) (InBounds TestLocals.Fits) := by
  obtain ⟨hl1, hl2⟩ := hl
  have h128 : selfTestBufOctets = 128 := rfl
  unfold randTrial
  refine Triple.bind (srtpCipherRandU32ForTests_inBounds rand) fun u => ?_
  have hpl : u % (selfTestBufOctets - 64) < 64 := Nat.mod_lt _ (by decide)
  generalize u % (selfTestBufOctets - 64) = pl at hpl ⊢
  refine Triple.bind (srtpCipherRandForTests_inBounds rand _ _ _ (by omega)) fun buffer =>
    Triple.assume fun hb => ?_
  refine Triple.bind (debugHex_off _ _ _) fun _ => ?_
  refine Triple.bind (copyOctets_inBounds _ _ _ _ _ (by omega) (by omega)) fun buffer2 =>
    Triple.assume fun hb2 => ?_
  refine Triple.early_return (fun _ => failCheck_inBounds ct c _) fun hkey => ?_
  refine Triple.bind (srtpCipherRandForTests_inBounds rand _ _ _
    (by simp only [List.length_replicate]; omega)) fun _ => ?_
  refine Triple.bind (srtpCipherRandForTests_inBounds rand _ _ _ (by simp)) fun _ => ?_
  refine checkStatus_after_inBounds ct c (dispatch_inBounds c _ _) ?_
  refine checkStatus_after_inBounds ct c (dispatch_inBounds c _ _) ?_
  refine Triple.bind (setAadIfGcm_inBounds ct hc _ _ _) fun _ => ?_
  refine Triple.bind (srtpCipherEncrypt_inBounds c h _ buffer _ _ (by omega) (by omega))
    fun ⟨st, bufE, len⟩ => Triple.assume fun ⟨(hbe : bufE.length = buffer.length),
      (hlen : len ≤ _)⟩ => ?_
  refine Triple.bind (checkStatus_inBounds ct c st) fun _ => Triple.assume fun _ => ?_
  refine Triple.bind (appendTagIfGcm_inBounds ct hc _ _ _) fun ⟨bufT, lenT, _⟩ =>
    Triple.assume fun ⟨(hbt : bufT = bufE), (hlt : lenT = len)⟩ => ?_
  have hbt := congrArg List.length hbt
  refine Triple.bind (debugHex_off _ _ _) fun _ => ?_
  refine checkStatus_after_inBounds ct c (dispatch_inBounds c _ _) ?_
  refine checkStatus_after_inBounds ct c (dispatch_inBounds c _ _) ?_
  refine Triple.bind (setAadIfGcm_inBounds ct hc _ _ _) fun _ => ?_
  refine Triple.bind (srtpCipherDecrypt_inBounds c h _ bufT _ _ (by omega) (by omega))
    fun ⟨st, bufD, _⟩ => Triple.assume fun (hbd : bufD.length = _) => ?_
  refine Triple.bind (checkStatus_inBounds ct c st) fun _ => Triple.assume fun _ => ?_
  refine Triple.bind (debugHex_off _ _ _) fun _ => ?_
  refine Triple.early_return (fun _ => failCheck_inBounds ct c _) fun _ => ?_
  refine Triple.bind (octetsDiffer_inBounds _ _ _ _ _ (by omega) (by omega)) fun _ => ?_
  exact Triple.early_return (fun _ => failCheck_inBounds ct c _) fun _ =>
    Triple.pure fun _ _ => ⟨by dsimp only; omega, by dsimp only; omega⟩

theorem randTrials_inBounds (rand : Nat → Nat) (tc : SrtpCipherTestCase) (n : Nat)
    (l : TestLocals) (hl : l.Fits) :
    Triple (fun _ => True) (randTrials ct false rand c tc n l) (InBounds TestLocals.Fits) := by
  induction n generalizing l with
  | zero => exact Triple.pure fun _ _ => hl
  | succ n ih =>
    exact Triple.bind (randTrial_inBounds h hc rand tc l hl) fun l => Triple.assume (ih l)

end Passes

section Runs

variable {ct : SrtpCipherType σ} (h : Contained ct)
include h

theorem testCase_inBounds (tc : SrtpCipherTestCase)
    (hv : tc.ciphertextLengthOctets ≤ selfTestBufOctets →
      tc.plaintextLengthOctets ≤ selfTestBufOctets) (l : TestLocals) (hl : l.Fits) :
    Triple (fun _ => True) (testCase ct false tc l) (InBounds TestLocals.Fits) := by
  unfold testCase
  refine Triple.bind (srtpCipherTypeAlloc_inBounds h _ _) fun ⟨st, c⟩ =>
    Triple.assume fun hgcm => ?_
  refine Triple.early_return (fun _ => Triple.exit fun _ _ => trivial) fun hst => ?_
  have hc := hgcm (not_not.mp hst)
  refine Triple.bind (testEncryption_inBounds h hc tc hv l hl) fun l => Triple.assume fun hl => ?_
  refine Triple.bind (testDecryption_inBounds h hc tc hv l hl) fun l => Triple.assume fun hl => ?_
  refine Triple.bind (dispatch_inBounds c _ _) fun _ => ?_
  exact Triple.early_return (fun _ => Triple.exit fun _ _ => trivial) fun _ =>
    Triple.pure fun _ _ => hl

theorem testCases_inBounds (tcs : List SrtpCipherTestCase)
    (hv : ∀ v ∈ tcs, v.ciphertextLengthOctets ≤ selfTestBufOctets →
      v.plaintextLengthOctets ≤ selfTestBufOctets) (l : TestLocals) (hl : l.Fits) :
    Triple (fun _ => True) (testCases ct false tcs l) (InBounds TestLocals.Fits) := by
  induction tcs generalizing l with
  | nil => exact Triple.pure fun _ _ => hl
  | cons tc rest ih =>
    exact Triple.bind (testCase_inBounds h tc (hv tc (.head _)) l hl) fun l =>
      Triple.assume (ih (fun v hv' => hv v (.tail _ hv')) l)

theorem srtpCipherTypeTest_inBounds (rand : Nat → Nat) (tcs : List SrtpCipherTestCase)
    (hv : ∀ v ∈ tcs, v.ciphertextLengthOctets ≤ selfTestBufOctets →
      v.plaintextLengthOctets ≤ selfTestBufOctets) :
    Triple (fun _ => True) (srtpCipherTypeTest ct false rand tcs) (InBounds fun _ => False) := by
  cases tcs with
  | nil =>
    exact Triple.bind (R := fun _ _ => True) (fun _ _ => (Post.holds_next ..).mpr trivial)
      fun _ => Triple.exit fun _ _ => trivial
  | cons tc rest =>
    refine Triple.bind (testCases_inBounds h _ hv _ ⟨by simp [TestLocals.initial],
      by simp [TestLocals.initial]⟩) fun l => Triple.assume fun hl => ?_
    refine Triple.bind (srtpCipherTypeAlloc_inBounds h _ _) fun ⟨st, c⟩ =>
      Triple.assume fun hgcm => ?_
    refine Triple.early_return (fun _ => Triple.exit fun _ _ => trivial) fun hst => ?_
    refine Triple.bind (randTrials_inBounds h (hgcm (not_not.mp hst)) rand tc _ l hl)
      fun _ => ?_
    refine Triple.bind (dispatch_inBounds c _ _) fun _ => ?_
    exact Triple.early_return (fun _ => Triple.exit fun _ _ => trivial) fun _ =>
      Triple.exit fun _ _ => trivial

end Runs

/-- With the debugging of `srtp_mod_cipher` off, the self-test never reads or
writes outside `buffer`, `buffer2`, `key`, `iv` or the arrays of a test case,
and the contract's sources and outputs stay inside `buffer`: for every
contract that never allocates an AES-GCM instance, whose `encrypt` and
`decrypt` write no more than their capacity and whose `encrypt` reports no
more, every list of test vectors whose plaintext fits in `buffer` when its
ciphertext does, every `rand()` stream and every state. -/
theorem srtpCipherTypeTest_in_bounds (ct : SrtpCipherType σ) (h : Contained ct)
    (rand : Nat → Nat) (tcs : List SrtpCipherTestCase)
    (hv : ∀ v ∈ tcs, v.ciphertextLengthOctets ≤ selfTestBufOctets →
      v.plaintextLengthOctets ≤ selfTestBufOctets) (w : World σ) (u : Undefined)
    (w' : World σ) : srtpCipherTypeTest ct false rand tcs w ≠ .fault u w' := fun hrun =>
  (Post.holds_fault ..).mp (hrun ▸ srtpCipherTypeTest_inBounds h rand tcs hv w trivial)

theorem srtpCipherTypeTest_in_bounds_identity :
    Contained (identityCipherType .aesIcm128) ∧
    (∀ v ∈ [identityTestCase], v.ciphertextLengthOctets ≤ selfTestBufOctets →
      v.plaintextLengthOctets ≤ selfTestBufOctets) ∧
    ∀ u w', srtpCipherTypeTest (identityCipherType .aesIcm128) false (fun _ => 0)
      [identityTestCase] ⟨(), 0, []⟩ ≠ .fault u w' :=
  have hv : ∀ v ∈ [identityTestCase], v.ciphertextLengthOctets ≤ selfTestBufOctets →
      v.plaintextLengthOctets ≤ selfTestBufOctets := by simp [identityTestCase]
  ⟨identityCipherType_contained .aesIcm128 rfl, hv,
    srtpCipherTypeTest_in_bounds (identityCipherType .aesIcm128)
      (identityCipherType_contained .aesIcm128 rfl) (fun _ => 0) [identityTestCase] hv
      ⟨(), 0, []⟩⟩

end CipherMeta
