import CipherMeta.Honest

/-!
What the self-test does with an honest contract. With a contract all of whose
operations succeed and whose outputs are fixed by the session (`Honest`), each
piece of `srtp_cipher_type_test` falls through: the checks it makes pass when
the contract reproduces the known answers and round-trips, as long as what it
reads and writes stays inside its arrays. The triples below say what each
piece leaves in the locals and in the contract's memory; none of them allows a
return or undefined behaviour (`Smooth`).

The statements that draw from `rand()` keep any world predicate that does not
look at the count of values drawn. The randomized trials are walked once, over
rules for the calls they make (`randTrials_passes`); the honest contracts are
one instance of those rules.
-/

namespace CipherMeta

variable {σ ρ : Type}

/-! ### Statements that touch memory only -/

section Memory

variable {P : World σ → Prop}

theorem copyOctets_smooth (a : SrtpArray) (dst : List UInt8) (b : SrtpArray) (src : List UInt8)
    (n : Nat) (hs : n ≤ src.length) (hd : n ≤ dst.length) :
    Triple P (copyOctets (ρ := ρ) a dst b src n)
      (Smooth fun r w => r = src.take n ++ dst.drop n ∧ P w) := by
  intro w hw
  simp [copyOctets, hs, hd, Post.Holds, Smooth, hw]

theorem load_smooth (a : SrtpArray) (buf : List UInt8) (off n : Nat) (h : off + n ≤ buf.length) :
    Triple P (load (ρ := ρ) a buf off n) (Smooth fun r w => r = window buf off n ∧ P w) := by
  intro w hw
  simp [load, h, Post.Holds, Smooth, hw]

theorem debugHex_smooth (debug : Bool) (a : SrtpArray) (data : List UInt8) (n : Nat)
    (h : debug → n ≤ data.length) :
    Triple P (debugHex debug a data n) (Smooth fun _ => P) := by
  unfold debugHex
  cases debug with
  | false => exact Triple.pure fun _ hw => hw
  | true =>
    exact Triple.bind (load_smooth a data 0 n (by simpa using h rfl)) fun _ =>
      Triple.pure fun _ hw => hw.2

theorem octetsDiffer_smooth (a : SrtpArray) (x : List UInt8) (b : SrtpArray) (y : List UInt8)
    (n : Nat) (hx : n ≤ x.length) (hy : n ≤ y.length) :
    Triple P (octetsDiffer a x b y n)
      (Smooth fun r w => r = (window x 0 n != window y 0 n) ∧ P w) := by
  intro w hw
  simp [octetsDiffer, load, hx, hy, Post.Holds, Smooth, hw]

section Draws

variable (hP : ∀ w n, P w → P { w with draws := n })
include hP

theorem srtpCipherRandForTests_smooth (rand : Nat → Nat) (a : SrtpArray) (dest : List UInt8)
    (len : Nat) (h : len ≤ dest.length) :
    Triple P (srtpCipherRandForTests (ρ := ρ) rand a dest len)
      (Smooth fun r w => (∃ d, r = randOctets rand d len ++ dest.drop len) ∧ P w) := by
  intro w hw
  have hl : (randOctets rand w.draws len).length = len := by simp [randOctets]
  rw [srtpCipherRandForTests, writeAt_zero _ _ (by omega), hl]
  exact (Post.holds_next ..).mpr ⟨⟨w.draws, rfl⟩, hP w _ hw⟩

theorem srtpCipherRandU32ForTests_smooth (rand : Nat → Nat) :
    Triple P (srtpCipherRandU32ForTests (ρ := ρ) rand) (Smooth fun _ => P) :=
  fun w hw => (Post.holds_next ..).mpr (hP w _ hw)

end Draws

end Memory

/-! ### The dispatched calls of an honest contract -/

namespace Honest

variable {ct : SrtpCipherType σ} (h : Honest ct) {c : SrtpCipher} (hc : c.unusable = false)

/-- An instance the honest contract allocates for these key and tag lengths. -/
def Allocated (keyLen tagLen : Nat) (c : SrtpCipher) : Prop :=
  c.unusable = false ∧ c.algorithm = h.algorithm keyLen tagLen

theorem srtpCipherTypeAlloc_smooth (keyLen tagLen : Nat) :
    Triple (fun _ => True) (srtpCipherTypeAlloc (ρ := ρ) ct keyLen tagLen)
      (Smooth fun r _ => r.1 = .ok ∧ h.Allocated keyLen tagLen r.2) := by
  obtain ⟨f, hf, hok⟩ := h.alloc_ok
  intro w _
  obtain ⟨hs, hu, ha⟩ := hok w.cipher keyLen tagLen
  simp [srtpCipherTypeAlloc, hf, Post.Holds, Smooth, hs, Allocated, hu, ha]

include h hc

theorem srtpCipherDealloc_smooth :
    Triple (fun _ => True) (srtpCipherDealloc (ρ := ρ) ct c) (Smooth fun s _ => s = .ok) := by
  intro w _
  simp [srtpCipherDealloc, dispatch, SrtpCipher.type_of_usable hc, Post.Holds, Smooth, h.dealloc_ok]

theorem srtpCipherInit_smooth (key : List UInt8) :
    Triple (fun _ => True) (srtpCipherInit (ρ := ρ) ct c key)
      (Smooth fun s w => s = .ok ∧ h.agrees w.cipher (.keyed key)) := by
  intro w _
  simp [srtpCipherInit, dispatch, hc, Post.Holds, Smooth, h.init_ok]

theorem srtpCipherSetIv_smooth (se : Session) (iv : List UInt8) (direction : SrtpCipherDirection) :
    Triple (fun w => h.agrees w.cipher se) (srtpCipherSetIv (ρ := ρ) ct c iv direction)
      (Smooth fun s w => s = .ok ∧ h.agrees w.cipher { se with iv := some (iv, direction) }) := by
  intro w hw
  simp [srtpCipherSetIv, dispatch, hc, Post.Holds, Smooth, h.setIv_ok _ _ _ _ hw]

theorem srtpCipherSetAad_smooth {keyLen tagLen : Nat} (hg : (h.algorithm keyLen tagLen).isAesGcm)
    (se : Session) (aad : List UInt8) :
    Triple (fun w => h.agrees w.cipher se) (srtpCipherSetAad (ρ := ρ) ct c aad)
      (Smooth fun s w => s = .ok ∧ h.agrees w.cipher { se with aad := some aad }) := by
  obtain ⟨f, hf, hok⟩ := h.setAad_ok keyLen tagLen hg
  intro w hw
  simp [srtpCipherSetAad, dispatch, hc, hf, Post.Holds, Smooth, hok _ _ _ hw]

/-- `encrypt` of the `srcLen` octets `src` at the start of `buf`. -/
theorem srtpCipherEncrypt_smooth (se : Session) (a : SrtpArray) (buf : List UInt8)
    (srcLen dstLen : Nat) (src : List UInt8) (hsrc : window buf 0 srcLen = src)
    (hlen : srcLen ≤ buf.length) (hfit : (h.encrypt se src).length ≤ buf.length) :
    Triple (fun w => h.agrees w.cipher se) (srtpCipherEncrypt (ρ := ρ) ct c a buf srcLen dstLen)
      (Smooth fun r w => r = (.ok, h.encrypt se src ++ buf.drop (h.encrypt se src).length,
          (h.encrypt se src).length) ∧
        ∃ st, h.agrees st se ∧ w.cipher = (ct.encrypt st src dstLen).2) := by
  subst hsrc
  intro w hw
  have he := h.encrypt_ok _ _ (window buf 0 srcLen) dstLen hw
  simp [srtpCipherEncrypt, dispatchInPlace, Nat.not_lt.mpr hlen, dispatchOutput, hc, he,
    writeAt_zero _ _ hfit, Post.Holds, Smooth]
  exact ⟨w.cipher, hw, rfl⟩

/-- `decrypt` of the `srcLen` octets `src` at the start of `buf`. -/
theorem srtpCipherDecrypt_smooth (se : Session) (a : SrtpArray) (buf : List UInt8)
    (srcLen dstLen : Nat) (src : List UInt8) (hsrc : window buf 0 srcLen = src)
    (hlen : srcLen ≤ buf.length) (hfit : (h.decrypt se src).length ≤ buf.length) :
    Triple (fun w => h.agrees w.cipher se) (srtpCipherDecrypt (ρ := ρ) ct c a buf srcLen dstLen)
      (Smooth fun r _ => r = (.ok, h.decrypt se src ++ buf.drop (h.decrypt se src).length,
          (h.decrypt se src).length)) := by
  subst hsrc
  intro w hw
  have hd := h.decrypt_ok _ _ (window buf 0 srcLen) dstLen hw
  simp [srtpCipherDecrypt, dispatchInPlace, Nat.not_lt.mpr hlen, dispatchOutput, hc, hd,
    writeAt_zero _ _ hfit, Post.Holds, Smooth]

/-- `get_tag` right after an `encrypt` of `src` in session `se`, into `buf` after
the `pre` octets the encryption left. -/
theorem srtpCipherGetTag_smooth {keyLen tagLen : Nat} (hg : (h.algorithm keyLen tagLen).isAesGcm)
    (se : Session) (src : List UInt8) (capacity : Nat) (a : SrtpArray) (pre rest : List UInt8)
    (tagLen' : Option Nat) (hfit : (h.tag se src).length ≤ rest.length) :
    Triple (fun w => ∃ st, h.agrees st se ∧ w.cipher = (ct.encrypt st src capacity).2)
      (srtpCipherGetTag (ρ := ρ) ct c a (pre ++ rest) pre.length tagLen')
      (Smooth fun r _ => r = (.ok, pre ++ (h.tag se src ++ rest.drop (h.tag se src).length),
        some (h.tag se src).length)) := by
  obtain ⟨f, hf, hok⟩ := h.getTag_ok keyLen tagLen hg
  rintro w ⟨st, hst, hw⟩
  have ht := hok st se src capacity tagLen' hst
  rw [← hw] at ht
  simp [srtpCipherGetTag, dispatchOutput, hc, hf, ht, writeAt_append _ _ _ hfit, Post.Holds,
    Smooth]

end Honest

theorem checkStatus_ok_smooth {ct : SrtpCipherType σ} {c : SrtpCipher} {P : World σ → Prop} :
    Triple P (checkStatus ct c .ok) (Smooth fun _ => P) := by
  rw [checkStatus_ok]
  exact Triple.pure fun _ hw => hw

/-- A call that answers `ok`, its status checked at once: what follows starts
where the call left off. -/
theorem checkStatus_after_smooth {ct : SrtpCipherType σ} {c : SrtpCipher} {β : Type}
    {P Q : World σ → Prop} {m : Exec σ SrtpErrStatus SrtpErrStatus}
    {k : Unit → Exec σ SrtpErrStatus β} {N : β → World σ → Prop}
    (hm : Triple P m (Smooth fun s w => s = .ok ∧ Q w)) (hk : Triple Q (k ()) (Smooth N)) :
    Triple P (m >>= fun s => checkStatus ct c s >>= k) (Smooth N) :=
  Triple.bind hm fun _ => Triple.assume_and fun hs =>
    hs ▸ Triple.bind checkStatus_ok_smooth fun _ => hk

/-! ### Trials that pass

What a randomized trial needs of the calls it makes to fall through: each
answers `ok`, and `decrypt` gives back what `encrypt` took once the tag step is
done. `K`, `I` and `R` say what holds after `init`, `set_iv` and the AAD step,
`E key src out` after an `encrypt` of `src` that wrote `out`, and `S key src` is
what the tag step leaves for `decrypt`; a frame `F` that the draws keep holds
again after the tag step and after the decryption. -/

section Trials

variable {ct : SrtpCipherType σ} (debug : Bool) (rand : Nat → Nat) {c : SrtpCipher}
  {tc : SrtpCipherTestCase} {F : World σ → Prop} {K : List UInt8 → World σ → Prop}
  {I R : List UInt8 → SrtpCipherDirection → World σ → Prop}
  {E : List UInt8 → List UInt8 → List UInt8 → World σ → Prop}
  {S : List UInt8 → List UInt8 → List UInt8}
  (hF : ∀ w n, F w → F { w with draws := n })
  (hinit : ∀ key, Triple F (srtpCipherInit (ρ := SrtpErrStatus) ct c key)
    (Smooth fun s w => s = .ok ∧ K key w))
  (hiv : ∀ key direction, Triple (K key)
    (srtpCipherSetIv (ρ := SrtpErrStatus) ct c tc.idx direction)
    (Smooth fun s w => s = .ok ∧ I key direction w))
  (haad : ∀ key direction, Triple (I key direction) (setAadIfGcm ct debug c tc false)
    (Smooth fun _ => R key direction))
  (hencrypt : ∀ key buf n src, window buf 0 n = src → n < selfTestBufOctets - 64 →
    buf.length = selfTestBufOctets →
    Triple (R key .encrypt)
      (srtpCipherEncrypt (ρ := SrtpErrStatus) ct c .buffer buf n selfTestBufOctets)
      (Smooth fun r w => ∃ out, r = (.ok, out ++ buf.drop out.length, out.length) ∧
        out.length ≤ selfTestBufOctets ∧ E key src out w))
  (htag : ∀ key src out rest tagLen, out.length + rest.length = selfTestBufOctets →
    src.length < selfTestBufOctets - 64 →
    Triple (E key src out) (appendTagIfGcm ct c (out ++ rest) out.length tagLen)
      (Smooth fun r w => (window r.1 0 r.2.1 = S key src ∧ r.2.1 ≤ selfTestBufOctets ∧
        r.1.length = selfTestBufOctets) ∧ F w))
  (hdecrypt : ∀ key buf n src, window buf 0 n = S key src → n ≤ selfTestBufOctets →
    buf.length = selfTestBufOctets → src.length < selfTestBufOctets - 64 →
    Triple (R key .decrypt)
      (srtpCipherDecrypt (ρ := SrtpErrStatus) ct c .buffer buf n selfTestBufOctets)
      (Smooth fun r w => r = (.ok, src ++ buf.drop src.length, src.length) ∧ F w))
include hF hinit hiv haad hencrypt htag hdecrypt

/-- One randomized trial falls through and leaves both buffers full size. -/
theorem randTrial_passes (l : TestLocals) (hkey : tc.keyLengthOctets ≤ maxKeyLen)
    (hl : l.buffer.length = selfTestBufOctets) (hl2 : l.buffer2.length = selfTestBufOctets) :
    Triple F (randTrial ct debug rand c tc l)
      (Smooth fun l' w => (l'.buffer.length = selfTestBufOctets ∧
        l'.buffer2.length = selfTestBufOctets) ∧ F w) := by
  unfold randTrial
  refine Triple.bind (srtpCipherRandU32ForTests_smooth hF rand) fun u => ?_
  have hpl : u % (selfTestBufOctets - 64) < selfTestBufOctets - 64 := Nat.mod_lt _ (by decide)
  generalize u % (selfTestBufOctets - 64) = pl at hpl ⊢
  refine Triple.bind (srtpCipherRandForTests_smooth hF rand .buffer l.buffer pl
    (by rw [hl]; exact (Nat.lt_of_lt_of_le hpl (by decide)).le))
    fun buffer => Triple.assume_and fun ⟨d, hb⟩ => ?_
  subst hb
  have hP : (randOctets rand d pl).length = pl := by simp [randOctets]
  have hlen : (randOctets rand d pl ++ l.buffer.drop pl).length = selfTestBufOctets := by
    simp only [List.length_append, List.length_drop, hP, hl, selfTestBufOctets] at hpl ⊢
    omega
  refine Triple.bind (debugHex_smooth debug .buffer _ _ fun _ => by omega) fun _ => ?_
  refine Triple.bind (copyOctets_smooth .buffer2 l.buffer2 .buffer _ _ (by omega)
    (by simp only [hl2, selfTestBufOctets] at hpl ⊢; omega))
    fun buffer2 => Triple.assume_and fun hb2 => ?_
  subst hb2
  refine Triple.skip (Nat.not_lt.mpr hkey) ?_
  refine Triple.bind (srtpCipherRandForTests_smooth hF rand .key (List.replicate maxKeyLen 0) _
    (by simpa using hkey)) fun key => Triple.assume_and fun _ => ?_
  refine Triple.bind (srtpCipherRandForTests_smooth hF rand .iv (List.replicate maxKeyLen 0)
    maxKeyLen (by simp)) fun _ => Triple.assume_and fun _ => ?_
  -- the encryption half
  refine checkStatus_after_smooth (hinit key) (checkStatus_after_smooth (hiv key .encrypt) ?_)
  refine Triple.bind (haad key .encrypt) fun _ => ?_
  refine Triple.bind (hencrypt key _ pl _ (window_append_of_eq hP) hpl hlen)
    fun r => Triple.ex fun out => Triple.assume_and fun hr => Triple.assume_and fun hout => ?_
  subst hr
  refine Triple.bind checkStatus_ok_smooth fun _ => ?_
  refine Triple.bind (htag key _ out _ l.tagLen (by simp only [List.length_drop]; omega)
    (by rw [hP]; exact hpl))
    fun ⟨buffer, len, tagLen⟩ => Triple.assume_and fun ⟨hw, hn, hb⟩ => ?_
  refine Triple.bind (debugHex_smooth debug .buffer _ _ fun _ => by dsimp only at hn hb; omega)
    fun _ => ?_
  -- the decryption half
  refine checkStatus_after_smooth (hinit key) (checkStatus_after_smooth (hiv key .decrypt) ?_)
  refine Triple.bind (haad key .decrypt) fun _ => ?_
  refine Triple.bind (hdecrypt key buffer len _ hw hn hb (by rw [hP]; exact hpl))
    fun r => Triple.assume_and fun hr => ?_
  subst hr
  refine Triple.bind checkStatus_ok_smooth fun _ => ?_
  refine Triple.bind (debugHex_smooth debug .buffer _ _ fun _ => by simp) fun _ => ?_
  refine Triple.skip (by simp [hP]) ?_
  refine Triple.bind (octetsDiffer_smooth .buffer _ .buffer2 _ _ (by simp; omega)
    (by simp; omega)) fun d => Triple.assume_and fun hd => ?_
  subst hd
  refine Triple.skip (by simp [window, hP]) (Triple.pure fun _ hw => ⟨⟨?_, ?_⟩, hw⟩)
  · dsimp only at hb ⊢
    simp only [List.length_append, List.length_drop, hP, hb, selfTestBufOctets] at hpl ⊢
    omega
  · simp only [List.length_append, List.length_drop, List.length_take, hP, hl2]
    omega

theorem randTrials_passes (n : Nat) (l : TestLocals) (hkey : tc.keyLengthOctets ≤ maxKeyLen)
    (hl : l.buffer.length = selfTestBufOctets) (hl2 : l.buffer2.length = selfTestBufOctets) :
    Triple F (randTrials ct debug rand c tc n l)
      (Smooth fun l' w => (l'.buffer.length = selfTestBufOctets ∧
        l'.buffer2.length = selfTestBufOctets) ∧ F w) := by
  induction n generalizing l with
  | zero => exact Triple.pure fun _ hw => ⟨⟨hl, hl2⟩, hw⟩
  | succ n ih =>
    exact Triple.bind (randTrial_passes debug rand hF hinit hiv haad hencrypt htag hdecrypt l
      hkey hl hl2) fun l' w ⟨⟨hl', hl2'⟩, hw⟩ => ih l' hl' hl2' w hw

end Trials

/-! ### The passes of the self-test -/

namespace Honest

variable {ct : SrtpCipherType σ} (h : Honest ct) (debug : Bool) {c : SrtpCipher}

/-- The AAD step after `set_iv(idx)`: the session of `tc` in that direction. -/
theorem setAadIfGcm_smooth (tc : SrtpCipherTestCase) (dumpIv : Bool) (key : List UInt8)
    (direction : SrtpCipherDirection) (ha : h.Allocated tc.keyLengthOctets tc.tagLengthOctets c)
    (hidx : debug → dumpIv → h.gcm tc → 12 ≤ tc.idx.length) :
    Triple (fun w => h.agrees w.cipher ⟨key, some (tc.idx, direction), none⟩)
      (setAadIfGcm ct debug c tc dumpIv)
      (Smooth fun _ w => h.agrees w.cipher (h.session tc key direction)) := by
  unfold setAadIfGcm
  rw [ha.2]
  cases hg : h.gcm tc with
  | false =>
    rw [if_neg (by simpa [gcm] using hg), h.session_of_not_gcm key direction hg]
    exact Triple.pure fun _ hw => hw
  | true =>
    rw [if_pos (by simpa [gcm] using hg), h.session_of_gcm key direction hg]
    refine Triple.ite_join (R := fun _ w => h.agrees w.cipher ⟨key, some (tc.idx, direction), none⟩)
      (fun hd => debugHex_smooth debug .idx tc.idx 12 fun hdb => hidx hdb hd hg)
      (fun _ => Triple.pure fun _ hw => hw) fun _ => ?_
    exact checkStatus_after_smooth (h.srtpCipherSetAad_smooth ha.1 (by simpa [gcm] using hg) _ tc.aad)
      (debugHex_smooth debug .aad tc.aad _ fun _ => le_rfl)

/-- The tag step after an `encrypt` of `src` that left `out` before `rest`:
the buffer then starts with what was sealed, and `len` is its length. -/
theorem appendTagIfGcm_smooth (tc : SrtpCipherTestCase)
    (ha : h.Allocated tc.keyLengthOctets tc.tagLengthOctets c) (se : Session) (src : List UInt8)
    (capacity : Nat) (rest : List UInt8) (tagLen : Option Nat)
    (hbuf : (h.encrypt se src).length + rest.length = selfTestBufOctets)
    (hfit : (h.sealed (h.gcm tc) se src).length ≤ selfTestBufOctets) :
    Triple (fun w => ∃ st, h.agrees st se ∧ w.cipher = (ct.encrypt st src capacity).2)
      (appendTagIfGcm ct c (h.encrypt se src ++ rest) (h.encrypt se src).length tagLen)
      (Smooth fun r _ => (∃ rest', r.1 = h.sealed (h.gcm tc) se src ++ rest') ∧
        r.1.length = (h.encrypt se src).length + rest.length ∧
        r.2.1 = (h.sealed (h.gcm tc) se src).length) := by
  unfold appendTagIfGcm
  rw [ha.2]
  cases hg : h.gcm tc with
  | false =>
    rw [if_neg (by simpa [gcm] using hg)]
    exact Triple.pure fun _ _ => ⟨⟨rest, by simp⟩, by simp, by simp⟩
  | true =>
    rw [if_pos (by simpa [gcm] using hg)]
    simp only [hg, sealed_true, List.length_append] at hfit
    have hlt : (h.encrypt se src).length + (h.tag se src).length < sizeTModulus := by
      simp only [sizeTModulus, selfTestBufOctets] at hfit ⊢
      omega
    refine Triple.bind (h.srtpCipherGetTag_smooth ha.1 (by simpa [gcm] using hg) se src capacity
      .buffer _ rest tagLen (by omega)) fun r => Triple.assume fun hr => ?_
    subst hr
    refine Triple.bind checkStatus_ok_smooth fun _ => Triple.pure fun _ _ =>
      ⟨⟨rest.drop (h.tag se src).length, by simp⟩, by simp; omega, by simp [Nat.mod_eq_of_lt hlt]⟩

/-- The encryption pass of a known-answer case the contract reproduces. -/
theorem testEncryption_smooth (tc : SrtpCipherTestCase) (l : TestLocals)
    (ha : h.Allocated tc.keyLengthOctets tc.tagLengthOctets c)
    (hrep : h.sealed (h.gcm tc) (h.session tc tc.key .encrypt) tc.plaintext = tc.ciphertext)
    (hct : tc.ciphertextLengthOctets ≤ selfTestBufOctets)
    (hpt : tc.plaintextLengthOctets ≤ selfTestBufOctets)
    (hidx : debug → h.gcm tc → 12 ≤ tc.idx.length) (hl : l.buffer.length = selfTestBufOctets) :
    Triple (fun _ => True) (testEncryption ct debug c tc l)
      (Smooth fun l' _ => l'.buffer.length = selfTestBufOctets ∧ l'.buffer2 = l.buffer2) := by
  simp only [SrtpCipherTestCase.ciphertextLengthOctets,
    SrtpCipherTestCase.plaintextLengthOctets] at hct hpt
  have hout : (h.encrypt (h.session tc tc.key .encrypt) tc.plaintext).length ≤ tc.ciphertext.length := by
    rw [← hrep]; cases h.gcm tc <;> simp
  unfold testEncryption
  refine checkStatus_after_smooth (h.srtpCipherInit_smooth ha.1 tc.key)
    (Triple.skip (Nat.not_lt.mpr hct) ?_)
  refine Triple.bind (copyOctets_smooth .buffer l.buffer .plaintext tc.plaintext _ le_rfl
    (by simp only [SrtpCipherTestCase.plaintextLengthOctets]; omega))
    fun buffer => Triple.assume_and fun hb => ?_
  simp only [SrtpCipherTestCase.plaintextLengthOctets, List.take_length] at hb
  subst hb
  refine Triple.bind (debugHex_smooth debug .buffer _ _ fun _ => by simp) fun _ => ?_
  refine checkStatus_after_smooth (h.srtpCipherSetIv_smooth ha.1 _ tc.idx .encrypt) ?_
  refine Triple.bind (h.setAadIfGcm_smooth debug tc true tc.key .encrypt ha fun hd _ => hidx hd)
    fun _ => ?_
  refine Triple.bind (h.srtpCipherEncrypt_smooth ha.1 _ .buffer _ _ selfTestBufOctets tc.plaintext
    (by simp) (by simp) (by simp; omega)) fun r => Triple.assume_and fun hr => ?_
  subst hr
  refine Triple.bind checkStatus_ok_smooth fun _ => ?_
  refine Triple.bind (h.appendTagIfGcm_smooth tc ha _ tc.plaintext selfTestBufOctets _ l.tagLen
    (by simp; omega) (by rw [hrep]; exact hct))
    fun ⟨buffer, len, tagLen⟩ => Triple.assume fun ⟨⟨rest, hb⟩, hbl, hlen⟩ => ?_
  dsimp only at hb hbl hlen
  rw [hrep] at hb hlen
  subst hb hlen
  refine Triple.bind (debugHex_smooth debug .buffer _ _ fun _ => by simp) fun _ => ?_
  refine Triple.skip (by simp) ?_
  refine Triple.bind (octetsDiffer_smooth .buffer _ .ciphertext tc.ciphertext _ (by simp) le_rfl)
    fun d => Triple.assume_and fun hd => ?_
  subst hd
  refine Triple.skip (by simp [window]) (Triple.pure fun _ _ => ⟨?_, rfl⟩)
  simp only [List.length_append, List.length_drop] at hbl ⊢
  omega

/-- The decryption pass of a known-answer case the contract reproduces. -/
theorem testDecryption_smooth (tc : SrtpCipherTestCase) (l : TestLocals)
    (ha : h.Allocated tc.keyLengthOctets tc.tagLengthOctets c)
    (hrep : h.decrypt (h.session tc tc.key .decrypt) tc.ciphertext = tc.plaintext)
    (hct : tc.ciphertextLengthOctets ≤ selfTestBufOctets)
    (hpt : tc.plaintextLengthOctets ≤ selfTestBufOctets) (hl : l.buffer.length = selfTestBufOctets) :
    Triple (fun _ => True) (testDecryption ct debug c tc l)
      (Smooth fun l' _ => l'.buffer.length = selfTestBufOctets ∧ l'.buffer2 = l.buffer2) := by
  simp only [SrtpCipherTestCase.ciphertextLengthOctets,
    SrtpCipherTestCase.plaintextLengthOctets] at hct hpt
  unfold testDecryption
  refine checkStatus_after_smooth (h.srtpCipherInit_smooth ha.1 tc.key)
    (Triple.skip (Nat.not_lt.mpr hct) ?_)
  refine Triple.bind (copyOctets_smooth .buffer l.buffer .ciphertext tc.ciphertext _ le_rfl
    (by simp only [SrtpCipherTestCase.ciphertextLengthOctets]; omega))
    fun buffer => Triple.assume_and fun hb => ?_
  simp only [SrtpCipherTestCase.ciphertextLengthOctets, List.take_length] at hb
  subst hb
  refine Triple.bind (debugHex_smooth debug .buffer _ _ fun _ => by simp; omega) fun _ => ?_
  refine checkStatus_after_smooth (h.srtpCipherSetIv_smooth ha.1 _ tc.idx .decrypt) ?_
  refine Triple.bind (h.setAadIfGcm_smooth debug tc false tc.key .decrypt ha nofun) fun _ => ?_
  refine Triple.bind (h.srtpCipherDecrypt_smooth ha.1 _ .buffer _ _ selfTestBufOctets tc.ciphertext
    (by simp) (by simp) (by rw [hrep]; simp; omega)) fun r => Triple.assume fun hr => ?_
  rw [hrep] at hr
  subst hr
  refine Triple.bind checkStatus_ok_smooth fun _ => ?_
  refine Triple.bind (debugHex_smooth debug .buffer _ _ fun _ => by simp) fun _ => ?_
  refine Triple.skip (by simp) ?_
  refine Triple.bind (octetsDiffer_smooth .buffer _ .plaintext tc.plaintext _ (by simp) le_rfl)
    fun d => Triple.assume_and fun hd => ?_
  subst hd
  refine Triple.skip (by simp [window]) (Triple.pure fun _ _ => ⟨?_, rfl⟩)
  simp only [List.length_append, List.length_drop]
  omega

/-- One known-answer case the contract reproduces, on an instance it
allocates. -/
theorem testCase_smooth (tc : SrtpCipherTestCase) (l : TestLocals) (hrep : h.Reproduces tc)
    (hct : tc.ciphertextLengthOctets ≤ selfTestBufOctets)
    (hpt : tc.plaintextLengthOctets ≤ selfTestBufOctets)
    (hidx : debug → h.gcm tc → 12 ≤ tc.idx.length) (hl : l.buffer.length = selfTestBufOctets) :
    Triple (fun _ => True) (testCase ct debug tc l)
      (Smooth fun l' _ => l'.buffer.length = selfTestBufOctets ∧ l'.buffer2 = l.buffer2) := by
  unfold testCase
  refine Triple.bind (h.srtpCipherTypeAlloc_smooth _ _) fun ⟨s, c⟩ => Triple.assume fun ⟨hs, ha⟩ => ?_
  dsimp only at hs ha
  subst hs
  refine Triple.skip (fun h => h rfl) ?_
  refine Triple.bind (h.testEncryption_smooth debug tc l ha hrep.1 hct hpt hidx hl)
    fun l₁ => Triple.assume fun ⟨hl₁, hb₁⟩ => ?_
  refine Triple.bind (h.testDecryption_smooth debug tc l₁ ha hrep.2 hct hpt hl₁)
    fun l₂ => Triple.assume fun ⟨hl₂, hb₂⟩ => ?_
  refine Triple.bind (h.srtpCipherDealloc_smooth ha.1) fun s => Triple.assume fun hs => ?_
  subst hs
  exact Triple.skip (fun h => h rfl) (Triple.pure fun _ _ => ⟨hl₂, hb₂.trans hb₁⟩)

theorem testCases_smooth (tcs : List SrtpCipherTestCase) (l : TestLocals)
    (hrep : ∀ tc ∈ tcs, h.Reproduces tc)
    (hct : ∀ tc ∈ tcs, tc.ciphertextLengthOctets ≤ selfTestBufOctets)
    (hpt : ∀ tc ∈ tcs, tc.plaintextLengthOctets ≤ selfTestBufOctets)
    (hidx : debug → ∀ tc ∈ tcs, h.gcm tc → 12 ≤ tc.idx.length)
    (hl : l.buffer.length = selfTestBufOctets) :
    Triple (fun _ => True) (testCases ct debug tcs l)
      (Smooth fun l' _ => l'.buffer.length = selfTestBufOctets ∧ l'.buffer2 = l.buffer2) := by
  induction tcs generalizing l with
  | nil => exact Triple.pure fun _ _ => ⟨hl, rfl⟩
  | cons tc rest ih =>
    simp only [List.mem_cons, forall_eq_or_imp] at hrep hct hpt hidx
    refine Triple.bind (h.testCase_smooth debug tc l hrep.1 hct.1 hpt.1 (fun hd => (hidx hd).1) hl)
      fun l₁ => Triple.assume fun ⟨hl₁, hb₁⟩ => ?_
    exact (ih l₁ hrep.2 hct.2 hpt.2 (fun hd => (hidx hd).2) hl₁).conseq
      (fun _ _ ⟨hl', hb'⟩ => ⟨hl', hb'.trans hb₁⟩) (fun _ _ => id) fun _ _ => id

/-- The trial loop with a contract that round-trips and whose sealed outputs of
the trials' inputs fit the buffer: the honest calls are rules of
`randTrials_passes`, with `S` the sealed output. -/
theorem randTrials_smooth (rand : Nat → Nat) (tc : SrtpCipherTestCase) (n : Nat) (l : TestLocals)
    (ha : h.Allocated tc.keyLengthOctets tc.tagLengthOctets c) (hrt : h.RoundTrips (h.gcm tc))
    (hfit : ∀ key src, src.length < selfTestBufOctets - 64 →
      (h.sealed (h.gcm tc) (h.session tc key .encrypt) src).length ≤ selfTestBufOctets)
    (hkey : tc.keyLengthOctets ≤ maxKeyLen) (hl : l.buffer.length = selfTestBufOctets)
    (hl2 : l.buffer2.length = selfTestBufOctets) :
    Triple (fun _ => True) (randTrials ct debug rand c tc n l)
      (Smooth fun l' _ => l'.buffer.length = selfTestBufOctets ∧
        l'.buffer2.length = selfTestBufOctets) := by
  refine (randTrials_passes debug rand (F := fun _ => True)
    (E := fun key src out w => out = h.encrypt (h.session tc key .encrypt) src ∧
      ∃ st, h.agrees st (h.session tc key .encrypt) ∧
        w.cipher = (ct.encrypt st src selfTestBufOctets).2)
    (S := fun key src => h.sealed (h.gcm tc) (h.session tc key .encrypt) src)
    (fun _ _ _ => trivial) (h.srtpCipherInit_smooth ha.1)
    (fun _ direction => h.srtpCipherSetIv_smooth ha.1 _ tc.idx direction)
    (fun key direction => h.setAadIfGcm_smooth debug tc false key direction ha nofun)
    ?encrypt ?tag ?decrypt n l hkey hl hl2).conseq (fun _ _ h => h.1) (fun _ _ h => h)
    fun _ _ h => h
  case encrypt =>
    intro key buf n src hw hn hb
    have hout : (h.encrypt (h.session tc key .encrypt) src).length ≤ selfTestBufOctets := by
      refine le_trans ?_ (hfit key src ?_)
      · cases h.gcm tc <;> simp
      · rw [← hw, window, List.length_take, List.length_drop]
        omega
    exact (h.srtpCipherEncrypt_smooth ha.1 _ .buffer buf n _ src hw (by omega) (hb ▸ hout)).conseq
      (fun _ _ ⟨hr, hst⟩ => ⟨_, hr, hout, rfl, hst⟩) (fun _ _ h => h) fun _ _ h => h
  case tag =>
    intro key src out rest tagLen hlen hs
    refine Triple.assume_and fun hout => ?_
    subst hout
    exact (h.appendTagIfGcm_smooth tc ha _ src _ rest tagLen hlen (hfit key src hs)).conseq
      (fun _ _ ⟨⟨_, h1⟩, h2, h3⟩ => ⟨⟨by rw [h1, h3]; exact window_append _ _,
        h3 ▸ hfit key src hs, h2.trans hlen⟩, trivial⟩) (fun _ _ h => h) fun _ _ h => h
  case decrypt =>
    intro key buf n src hw hn hb hs
    have hround := hrt key tc.idx (if h.gcm tc then some tc.aad else none) src
    exact (h.srtpCipherDecrypt_smooth ha.1 _ .buffer buf n _ _ hw (by omega)
      (by erw [hround]; omega)).conseq (fun _ _ hr => ⟨by erw [hround] at hr; exact hr, trivial⟩)
      (fun _ _ h => h) fun _ _ h => h

/-- The whole self-test with an honest contract returns `ok`. -/
theorem srtpCipherTypeTest_smooth (rand : Nat → Nat) (tc : SrtpCipherTestCase)
    (rest : List SrtpCipherTestCase) (hrep : ∀ v ∈ tc :: rest, h.Reproduces v)
    (hrt : h.RoundTrips (h.gcm tc))
    (hct : ∀ v ∈ tc :: rest, v.ciphertextLengthOctets ≤ selfTestBufOctets)
    (hpt : ∀ v ∈ tc :: rest, v.plaintextLengthOctets ≤ selfTestBufOctets)
    (hkey : tc.keyLengthOctets ≤ maxKeyLen)
    (hfit : ∀ key src, src.length < selfTestBufOctets - 64 →
      (h.sealed (h.gcm tc) (h.session tc key .encrypt) src).length ≤ selfTestBufOctets)
    (hidx : debug → ∀ v ∈ tc :: rest, h.gcm v → 12 ≤ v.idx.length) :
    Triple (fun _ => True) (srtpCipherTypeTest ct debug rand (tc :: rest))
      ⟨fun e _ => e.elim, fun r _ => r = .ok, fun _ _ => False⟩ := by
  refine Triple.bind (h.testCases_smooth debug _ _ hrep hct hpt hidx (by simp [TestLocals.initial])).never
    fun l => Triple.assume fun ⟨hl, hb⟩ => ?_
  refine Triple.bind (h.srtpCipherTypeAlloc_smooth _ _).never
    fun ⟨s, c⟩ => Triple.assume fun ⟨hs, ha⟩ => ?_
  dsimp only at hs ha
  subst hs
  refine Triple.skip (fun h => h rfl) ?_
  refine Triple.bind (h.randTrials_smooth debug rand tc _ l ha hrt hfit hkey hl
    (by simp [hb, TestLocals.initial])).never fun _ => Triple.assume fun _ => ?_
  refine Triple.bind (h.srtpCipherDealloc_smooth ha.1).never fun s => Triple.assume fun hs => ?_
  subst hs
  exact Triple.skip (fun h => h rfl) (Triple.exit fun _ _ => rfl)

end Honest

variable {ct : SrtpCipherType σ}

/-- Completeness of the self-test: for every honest contract that reproduces
each known answer and round-trips, every `rand()` stream and every state the
run starts from, `srtp_cipher_type_test` returns `ok`, provided what the test
copies and writes fits its buffers (each ciphertext and plaintext at most
`SELF_TEST_BUF_OCTETS` octets, the first key at most `MAX_KEY_LEN`, and every
sealed output of a trial's input, which is shorter than
`SELF_TEST_BUF_OCTETS - 64` octets, at most `SELF_TEST_BUF_OCTETS`) and, when
debugging is on, every AES-GCM case has the 12 IV octets the test dumps. -/
theorem srtpCipherTypeTest_complete (h : Honest ct) (debug : Bool) (rand : Nat → Nat)
    (tc : SrtpCipherTestCase) (rest : List SrtpCipherTestCase)
    (hrep : ∀ v ∈ tc :: rest, h.Reproduces v) (hrt : h.RoundTrips (h.gcm tc))
    (hct : ∀ v ∈ tc :: rest, v.ciphertextLengthOctets ≤ selfTestBufOctets)
    (hpt : ∀ v ∈ tc :: rest, v.plaintextLengthOctets ≤ selfTestBufOctets)
    (hkey : tc.keyLengthOctets ≤ maxKeyLen)
    (hfit : ∀ key src, src.length < selfTestBufOctets - 64 →
      (h.sealed (h.gcm tc) (h.session tc key .encrypt) src).length ≤ selfTestBufOctets)
    (hidx : debug → ∀ v ∈ tc :: rest, h.gcm v → 12 ≤ v.idx.length) (w : World σ) :
    ∃ w', srtpCipherTypeTest ct debug rand (tc :: rest) w = .done .ok w' := by
  have hrun := h.srtpCipherTypeTest_smooth debug rand tc rest hrep hrt hct hpt hkey hfit hidx w trivial
  revert hrun
  cases srtpCipherTypeTest ct debug rand (tc :: rest) w with
  | next e _ => exact e.elim
  | done r w' => exact fun hr => ⟨w', by rw [show r = .ok from (Post.holds_done ..).mp hr]⟩
  | fault _ _ => exact fun hr => ((Post.holds_fault ..).mp hr).elim

theorem srtpCipherTypeTest_complete_identity :
    ∃ w, srtpCipherTypeTest (identityCipherType .aesIcm128) false (fun _ => 0) [identityTestCase]
      ⟨(), 0, []⟩ = .done .ok w :=
  srtpCipherTypeTest_complete (identityCipherType.honest .aesIcm128) false (fun _ => 0)
    identityTestCase [] (fun v hv => by rw [List.mem_singleton.mp hv]; exact ⟨rfl, rfl⟩)
    (identityCipherType_roundTrips _ _) (by simp; decide) (by simp; decide) (by decide)
    (fun _ _ hs => by
      simp only [selfTestBufOctets, Honest.sealed, identityCipherType.honest] at hs ⊢
      simp only [List.length_append]
      split <;> simp <;> omega)
    (fun h => absurd h (by decide)) _

/-- An AES-GCM known-answer case with no IV octets. -/
def shortIvTestCase : SrtpCipherTestCase :=
  ⟨List.replicate 16 0, [], [], [], [], 16⟩

/-- An AES-GCM known-answer case whose ciphertext is a 66-octet tag. -/
def longTagTestCase : SrtpCipherTestCase :=
  ⟨List.replicate 16 0, List.replicate 12 0, [], List.replicate 66 0, [], 16⟩

/-- A known-answer case whose 129-octet plaintext encrypts to nothing. -/
def longPlaintextTestCase : SrtpCipherTestCase :=
  ⟨List.replicate 16 0, List.replicate 16 0, List.replicate 129 0, [], [], 0⟩

set_option maxRecDepth 4000 in
/-- Three honest contracts that reproduce their one known-answer case and
round-trip, with the ciphertext fitting in `buffer` and the key in `key`, and
for which the self-test does not return `ok`: with debugging on, the dump of
an IV shorter than 12 octets reads past it; with a 66-octet tag, the trial
whose input has 63 octets writes its tag past `buffer`; and a plaintext of 129
octets, which line 261 does not check, is copied past `buffer`. -/
theorem srtpCipherTypeTest_false_alarms :
    ((identityCipherType.honest .aesGcm128).Reproduces shortIvTestCase ∧
      (identityCipherType.honest .aesGcm128).RoundTrips true ∧
      shortIvTestCase.ciphertextLengthOctets ≤ selfTestBufOctets ∧
      shortIvTestCase.keyLengthOctets ≤ maxKeyLen ∧
      ∃ w, srtpCipherTypeTest (identityCipherType .aesGcm128) true (fun _ => 0)
        [shortIvTestCase] ⟨(), 0, []⟩ = .fault (.outside .idx) w) ∧
    ((taggedCipherType.honest .aesGcm128 (List.replicate 66 0)).Reproduces longTagTestCase ∧
      (taggedCipherType.honest .aesGcm128 (List.replicate 66 0)).RoundTrips true ∧
      longTagTestCase.ciphertextLengthOctets ≤ selfTestBufOctets ∧
      longTagTestCase.keyLengthOctets ≤ maxKeyLen ∧
      ∃ w, srtpCipherTypeTest (taggedCipherType .aesGcm128 (List.replicate 66 0)) false
        (fun _ => 255) [longTagTestCase] ⟨(), 0, []⟩ = .fault (.outside .buffer) w) ∧
    (swapCipherType.honest.Reproduces longPlaintextTestCase ∧
      swapCipherType.honest.RoundTrips false ∧
      longPlaintextTestCase.ciphertextLengthOctets ≤ selfTestBufOctets ∧
      longPlaintextTestCase.keyLengthOctets ≤ maxKeyLen ∧
      ∃ w, srtpCipherTypeTest swapCipherType false (fun _ => 0) [longPlaintextTestCase]
        ⟨(), 0, []⟩ = .fault (.outside .buffer) w) := by
  refine ⟨⟨⟨rfl, rfl⟩, identityCipherType_roundTrips _ _, by decide, by decide, _, rfl⟩,
    ⟨⟨rfl, rfl⟩, taggedCipherType_roundTrips _ _, by decide, by decide, ?_⟩,
    ⟨by decide, by decide⟩, swapCipherType_roundTrips, by decide, by decide, _, rfl⟩
  have hkat : testCase (taggedCipherType .aesGcm128 (List.replicate 66 0)) false longTagTestCase
      TestLocals.initial ⟨(), 0, []⟩ =
      .next ⟨List.replicate 128 0, List.replicate 128 0, some 66⟩
        (testCase (taggedCipherType .aesGcm128 (List.replicate 66 0)) false longTagTestCase
          TestLocals.initial ⟨(), 0, []⟩).world := rfl
  simp only [srtpCipherTypeTest, testCases, Exec.bind_apply]
  rw [hkat]
  exact ⟨_, rfl⟩

end CipherMeta
