import CipherMeta.Complete
import CipherMeta.Conformance
import CipherMeta.BenchUsage

/-!
What the verdict of `srtp_cipher_type_test` does not cover. The test adds the
length `get_tag` reports to the one `encrypt` reports in `size_t`, so a tag
length of `SIZE_MAX - 3` takes four octets back: a contract whose encryption
of a known answer is four octets too long, followed by a tag it never wrote,
passes every check, the randomized trials included.
-/

namespace CipherMeta

/-- A contract over no memory whose `encrypt` writes its input followed by four
zero octets and reports all of them, and whose `get_tag` writes nothing but
reports `SIZE_MAX - 3` octets. -/
def tagWrapCipherType : SrtpCipherType Unit where
  alloc := some fun st keyLen _ => (.ok, ⟨true, true, .aesGcm128, keyLen⟩, st)
  dealloc st := (.ok, st)
  init st _ := (.ok, st)
  setAad := some fun st _ => (.ok, st)
  encrypt st src _ := (⟨.ok, src ++ [0, 0, 0, 0], src.length + 4⟩, st)
  decrypt st src _ := (⟨.ok, src, src.length⟩, st)
  setIv st _ _ := (.ok, st)
  getTag := some fun st _ => (⟨.ok, [], sizeTModulus - 4⟩, st)
  testData := []

section TagWrap

variable {ρ : Type} (tr : List Event) {c : SrtpCipher} (hc : c.unusable = false)

private theorem prefix_record {w : World Unit} (e : Event) (h : tr <+: w.trace) :
    tr <+: (w.record e).trace :=
  h.trans (List.prefix_append _ _)

private theorem dispatch_ok_extends (call : SrtpCipherCall) (f : Unit → SrtpErrStatus × Unit)
    (hf : (f ()).1 = .ok) :
    Triple (fun w => tr <+: w.trace) (dispatch (ρ := ρ) c call (.ok f))
      (Smooth fun s w => s = .ok ∧ tr <+: w.trace) :=
  fun _ hw => (Post.holds_next ..).mpr ⟨hf, prefix_record tr _ hw⟩

include hc

theorem srtpCipherInit_tagWrap (key : List UInt8) :
    Triple (fun w => tr <+: w.trace) (srtpCipherInit (ρ := ρ) tagWrapCipherType c key)
      (Smooth fun s w => s = .ok ∧ tr <+: w.trace) := by
  rw [srtpCipherInit, hc]
  exact dispatch_ok_extends tr _ _ rfl

theorem srtpCipherSetIv_tagWrap (iv : List UInt8) (direction : SrtpCipherDirection) :
    Triple (fun w => tr <+: w.trace) (srtpCipherSetIv (ρ := ρ) tagWrapCipherType c iv direction)
      (Smooth fun s w => s = .ok ∧ tr <+: w.trace) := by
  rw [srtpCipherSetIv, hc]
  exact dispatch_ok_extends tr _ _ rfl

theorem srtpCipherSetAad_tagWrap (aad : List UInt8) :
    Triple (fun w => tr <+: w.trace) (srtpCipherSetAad (ρ := ρ) tagWrapCipherType c aad)
      (Smooth fun s w => s = .ok ∧ tr <+: w.trace) := by
  rw [srtpCipherSetAad, hc]
  exact dispatch_ok_extends tr _ _ rfl

theorem srtpCipherDealloc_tagWrap :
    Triple (fun w => tr <+: w.trace) (srtpCipherDealloc (ρ := ρ) tagWrapCipherType c)
      (Smooth fun s w => s = .ok ∧ tr <+: w.trace) := by
  rw [srtpCipherDealloc, SrtpCipher.type_of_usable hc]
  exact dispatch_ok_extends tr _ _ rfl

theorem srtpCipherEncrypt_tagWrap (a : SrtpArray) (buf : List UInt8) (srcLen dstLen : Nat)
    (src : List UInt8) (hsrc : window buf 0 srcLen = src) (hlen : srcLen ≤ buf.length)
    (hfit : src.length + 4 ≤ buf.length) :
    Triple (fun w => tr <+: w.trace) (srtpCipherEncrypt (ρ := ρ) tagWrapCipherType c a buf srcLen dstLen)
      (Smooth fun r w => r = (.ok, (src ++ [0, 0, 0, 0]) ++ buf.drop (src.length + 4),
        src.length + 4) ∧ tr <+: w.trace) := by
  subst hsrc
  intro w hw
  simp [srtpCipherEncrypt, dispatchInPlace, Nat.not_lt.mpr hlen, dispatchOutput, hc,
    tagWrapCipherType, Smooth,
    writeAt_zero _ _ (show (window buf 0 srcLen ++ [0, 0, 0, 0]).length ≤ buf.length by simpa using hfit)]
  exact prefix_record tr _ hw

theorem srtpCipherDecrypt_tagWrap (a : SrtpArray) (buf : List UInt8) (srcLen dstLen : Nat)
    (src : List UInt8) (hsrc : window buf 0 srcLen = src) (hlen : srcLen ≤ buf.length)
    (hfit : src.length ≤ buf.length) :
    Triple (fun w => tr <+: w.trace) (srtpCipherDecrypt (ρ := ρ) tagWrapCipherType c a buf srcLen dstLen)
      (Smooth fun r w => r = (.ok, src ++ buf.drop src.length, src.length) ∧ tr <+: w.trace) := by
  subst hsrc
  intro w hw
  simp [srtpCipherDecrypt, dispatchInPlace, Nat.not_lt.mpr hlen, dispatchOutput, hc,
    tagWrapCipherType, Smooth, writeAt_zero _ _ hfit]
  exact prefix_record tr _ hw

/-- `get_tag` into `buf` after the `pre` octets `encrypt` reported. -/
theorem srtpCipherGetTag_tagWrap (a : SrtpArray) (pre rest : List UInt8) (tagLen : Option Nat) :
    Triple (fun w => tr <+: w.trace)
      (srtpCipherGetTag (ρ := ρ) tagWrapCipherType c a (pre ++ rest) pre.length tagLen)
      (Smooth fun r w => r = (.ok, pre ++ rest, some (sizeTModulus - 4)) ∧ tr <+: w.trace) := by
  intro w hw
  simp [srtpCipherGetTag, dispatchOutput, hc, tagWrapCipherType, Smooth,
    writeAt_append pre rest [] (Nat.zero_le _)]
  exact prefix_record tr _ hw

theorem setAadIfGcm_tagWrap (debug : Bool) (tc : SrtpCipherTestCase) (dumpIv : Bool)
    (hidx : debug → dumpIv → 12 ≤ tc.idx.length) :
    Triple (fun w => tr <+: w.trace) (setAadIfGcm tagWrapCipherType debug c tc dumpIv)
      (Smooth fun _ w => tr <+: w.trace) := by
  unfold setAadIfGcm
  refine Triple.ite (fun _ => ?_) fun _ => Triple.pure fun _ hw => hw
  refine Triple.ite_join (R := fun _ w => tr <+: w.trace)
    (fun hd => debugHex_smooth debug .idx tc.idx 12 fun hdb => hidx hdb hd)
    (fun _ => Triple.pure fun _ hw => hw) fun _ => ?_
  exact checkStatus_after_smooth (srtpCipherSetAad_tagWrap tr hc tc.aad)
    (debugHex_smooth debug .aad tc.aad _ fun _ => le_rfl)

/-- The tag step after an encryption that reported the `pre` octets: `len`
comes back four octets short of them. -/
theorem appendTagIfGcm_tagWrap (hg : c.algorithm.isAesGcm) (pre rest : List UInt8)
    (tagLen : Option Nat) (h4 : 4 ≤ pre.length) (hlt : pre.length < sizeTModulus) :
    Triple (fun w => tr <+: w.trace) (appendTagIfGcm tagWrapCipherType c (pre ++ rest) pre.length tagLen)
      (Smooth fun r w => r = (pre ++ rest, pre.length - 4, some (sizeTModulus - 4)) ∧
        tr <+: w.trace) := by
  unfold appendTagIfGcm
  rw [if_pos hg]
  refine Triple.bind (srtpCipherGetTag_tagWrap tr hc .buffer pre rest tagLen)
    fun r => Triple.assume_and fun hr => ?_
  subst hr
  have hwrap : (pre.length + (sizeTModulus - 4)) % sizeTModulus = pre.length - 4 := by
    simp only [sizeTModulus] at hlt ⊢
    omega
  exact Triple.bind checkStatus_ok_smooth fun _ => Triple.pure fun _ hw => ⟨by rw [hwrap], hw⟩

/-- Every randomized trial on an AES-GCM instance of the contract passes, for
every `rand()` stream: its encryption comes back with `len` equal to the input's
length, and decrypts to the input. The contract's calls are rules of
`randTrials_passes`, with the input itself as `S`. -/
theorem randTrials_tagWrap (debug : Bool) (rand : Nat → Nat) (hg : c.algorithm.isAesGcm)
    (tc : SrtpCipherTestCase) (n : Nat) (l : TestLocals) (hkey : tc.keyLengthOctets ≤ maxKeyLen)
    (hl : l.buffer.length = selfTestBufOctets) (hl2 : l.buffer2.length = selfTestBufOctets) :
    Triple (fun w => tr <+: w.trace) (randTrials tagWrapCipherType debug rand c tc n l)
      (Smooth fun _ w => tr <+: w.trace) := by
  refine (randTrials_passes debug rand (F := fun w => tr <+: w.trace)
    (E := fun _ src out w => out = src ++ [0, 0, 0, 0] ∧ tr <+: w.trace) (S := fun _ src => src)
    (fun _ _ h => h) (fun key => srtpCipherInit_tagWrap tr hc key)
    (fun _ direction => srtpCipherSetIv_tagWrap tr hc tc.idx direction)
    (fun _ _ => setAadIfGcm_tagWrap tr hc debug tc false nofun) ?encrypt ?tag ?decrypt n l
    hkey hl hl2).conseq (fun _ _ h => h.2) (fun _ _ h => h) fun _ _ h => h
  case encrypt =>
    intro _ buf n src hw hn hb
    have hs : src.length = n := by
      rw [← hw, window, List.length_take, List.length_drop]
      omega
    exact (srtpCipherEncrypt_tagWrap tr hc .buffer buf n _ src hw (by omega) (by omega)).conseq
      (fun _ _ ⟨hr, hp⟩ => ⟨_, by rw [hr]; simp, by simp; omega, rfl, hp⟩) (fun _ _ h => h)
      fun _ _ h => h
  case tag =>
    intro _ src out rest tagLen hlen hs
    refine Triple.assume_and fun hout => ?_
    subst hout
    have hpre : (src ++ [0, 0, 0, 0]).length = src.length + 4 := by simp
    exact (appendTagIfGcm_tagWrap tr hc hg _ rest tagLen (by omega)
      (by simp only [sizeTModulus, selfTestBufOctets] at hlen ⊢; omega)).conseq
      (fun _ _ ⟨hr, hp⟩ => ⟨by
        rw [hr, hpre, Nat.add_sub_cancel, List.append_assoc]
        refine ⟨window_append _ _, by simp only [selfTestBufOctets] at hs ⊢; omega, ?_⟩
        simp only [List.length_append] at hlen ⊢
        omega, hp⟩)
      (fun _ _ h => h) fun _ _ h => h
  case decrypt =>
    intro _ buf n src hw hn hb hs
    exact srtpCipherDecrypt_tagWrap tr hc .buffer buf n _ src hw (by omega) (by omega)

end TagWrap

theorem srtpCipherTypeAlloc_tagWrap {ρ : Type} (tr : List Event) (keyLen tagLen : Nat) :
    Triple (fun w => tr <+: w.trace) (srtpCipherTypeAlloc (ρ := ρ) tagWrapCipherType keyLen tagLen)
      (Smooth fun r w => r = (.ok, ⟨true, true, .aesGcm128, keyLen⟩) ∧ tr <+: w.trace) :=
  fun _ hw => (Post.holds_next ..).mpr ⟨rfl, prefix_record tr _ hw⟩

/-- A known-answer case of the contract: sixteen octets encrypted to themselves
under an all-zero key and 12-octet IV, with no AAD. -/
def tagWrapTestCase : SrtpCipherTestCase :=
  ⟨List.replicate 16 0, List.replicate 12 0, List.replicate 16 7, List.replicate 16 7, [], 16⟩

set_option maxRecDepth 4000 in
theorem srtpCipherTypeTest_tag_wraps (debug : Bool) (rand : Nat → Nat) :
    ∃ w, srtpCipherTypeTest tagWrapCipherType debug rand [tagWrapTestCase] ⟨(), 0, []⟩ =
        .done .ok w ∧
      Event.call ⟨true, true, .aesGcm128, 16⟩ (.encrypt (List.replicate 16 7) selfTestBufOctets
        (List.replicate 16 7 ++ [0, 0, 0, 0]) 20) .ok ∈ w.trace ∧
      Event.call ⟨true, true, .aesGcm128, 16⟩
        (.getTag 20 none (List.replicate 108 0) (sizeTModulus - 4)) .ok ∈ w.trace := by
  let w₁ := (testCase tagWrapCipherType debug tagWrapTestCase TestLocals.initial ⟨(), 0, []⟩).world
  have hkat : testCase tagWrapCipherType debug tagWrapTestCase TestLocals.initial ⟨(), 0, []⟩ =
      .next ⟨List.replicate 16 7 ++ List.replicate 112 0, List.replicate 128 0,
        some (sizeTModulus - 4)⟩ w₁ := by
    cases debug <;> rfl
  have hmem : Event.call ⟨true, true, .aesGcm128, 16⟩ (.encrypt (List.replicate 16 7)
        selfTestBufOctets (List.replicate 16 7 ++ [0, 0, 0, 0]) 20) .ok ∈ w₁.trace ∧
      Event.call ⟨true, true, .aesGcm128, 16⟩
        (.getTag 20 none (List.replicate 108 0) (sizeTModulus - 4)) .ok ∈ w₁.trace := by
    cases debug <;> decide
  have hrun : Triple (fun w => w = ⟨(), 0, []⟩)
      (srtpCipherTypeTest tagWrapCipherType debug rand [tagWrapTestCase])
      ⟨fun e _ => e.elim, fun r w => r = .ok ∧ w₁.trace <+: w.trace, fun _ _ => False⟩ := by
    refine Triple.bind (R := fun l w => l = ⟨List.replicate 16 7 ++ List.replicate 112 0,
        List.replicate 128 0, some (sizeTModulus - 4)⟩ ∧ w₁.trace <+: w.trace) ?_
      fun l => Triple.assume_and fun hl => ?_
    · rintro w rfl
      simp only [testCases, Exec.bind_apply, hkat, Outcome.next_bind, Exec.pure_apply,
        Post.holds_next]
      exact ⟨trivial, List.prefix_refl _⟩
    subst hl
    refine Triple.bind (srtpCipherTypeAlloc_tagWrap w₁.trace _ _).never
      fun r => Triple.assume_and fun hr => ?_
    subst hr
    refine Triple.skip (fun h => h rfl) ?_
    refine Triple.bind (randTrials_tagWrap w₁.trace (by rfl) debug rand (by rfl) tagWrapTestCase _ _
      (by decide) (by rfl) (by rfl)).never fun _ => ?_
    refine Triple.bind (srtpCipherDealloc_tagWrap w₁.trace (by rfl)).never
      fun s => Triple.assume_and fun hs => ?_
    subst hs
    exact Triple.skip (fun h => h rfl) (Triple.exit fun _ hw => ⟨rfl, hw⟩)
  have h := hrun _ rfl
  revert h
  cases srtpCipherTypeTest tagWrapCipherType debug rand [tagWrapTestCase] ⟨(), 0, []⟩ with
  | next e _ => exact e.elim
  | done r w =>
    intro h
    obtain ⟨rfl, hp⟩ := (Post.holds_done ..).mp h
    exact ⟨w, rfl, hp.subset hmem.1, hp.subset hmem.2⟩
  | fault _ _ => exact fun h => ((Post.holds_fault ..).mp h).elim

/-! ### The IVs the self-test sets -/

section SetIvs

variable {σ ρ α : Type} (ct : SrtpCipherType σ) (tr : List Event) (iv : List UInt8)

/-- Since the trace was `tr`, every `set_iv` was given `iv`. -/
def IvsSince (w : World σ) : Prop :=
  ∃ k, setIvNonces w.trace = setIvNonces tr ++ List.replicate k iv

/-- `I` holds however the code ends. -/
def Keeps (I : World σ → Prop) : Post σ ρ α := ⟨fun _ => I, fun _ => I, fun _ => I⟩

theorem Keeps.world {I : World σ → Prop} {o : Outcome σ ρ α} (h : (Keeps I).Holds o) :
    I o.world := by
  cases o <;> simpa [Keeps, Outcome.world] using h

/-- An event that, when it is a call, has the test case's arguments. -/
def Event.HasArgs (tc : SrtpCipherTestCase) : Event → Prop
  | .call _ x _ => TestArgs tc x
  | _ => True

/-- Events whose calls all have the test case's arguments give `set_iv` its
`idx` only. -/
theorem setIvNonces_of_hasArgs {tc : SrtpCipherTestCase} {es : List Event}
    (h : ∀ e ∈ es, e.HasArgs tc) : ∃ k, setIvNonces es = List.replicate k tc.idx := by
  induction es with
  | nil => exact ⟨0, rfl⟩
  | cons e es ih =>
    obtain ⟨k, hk⟩ := ih fun e he => h e (.tail _ he)
    have he := h e (.head _)
    rw [← List.singleton_append, setIvNonces_append, hk]
    cases e with
    | call c x s =>
      cases x with
      | setIv v _ => exact ⟨k + 1, by simp [setIvNonces, show v = tc.idx from he, List.replicate_succ]⟩
      | _ => exact ⟨k, rfl⟩
    | _ => exact ⟨k, rfl⟩

/-- However a stretch of the self-test ends, every `set_iv` it made was given
the test case's `idx`. -/
theorem Stops.ivsSince {c : SrtpCipher} {tc : SrtpCipherTestCase} {tr' : List Event}
    {ks : List CallKind} {P : World σ → Prop} {m : Exec σ SrtpErrStatus α}
    {N : α → World σ → Prop} (h : Triple P m (Stops c tc tr' ks N))
    (hN : ∀ a w, N a w → ∃ xs rest d, Made c tc tr' ks xs rest d w)
    (htr : ∃ k, setIvNonces tr' = setIvNonces tr ++ List.replicate k tc.idx) :
    Triple P m (Keeps (IvsSince tr tc.idx)) := by
  have hsince : ∀ {w : World σ} {es : List Event}, w.trace = tr' ++ es →
      (∀ e ∈ es, e.HasArgs tc) → IvsSince tr tc.idx w := fun hw hes =>
    let ⟨k, hk⟩ := htr
    let ⟨j, hj⟩ := setIvNonces_of_hasArgs hes
    ⟨k + j, by rw [hw, setIvNonces_append, hk, hj, List.replicate_add, List.append_assoc]⟩
  have hok : ∀ {xs : List SrtpCipherCall}, Planned tc ks xs → ∀ e ∈ okCalls c xs, e.HasArgs tc :=
    fun hxs => by simpa [okCalls, Event.HasArgs] using hxs.2
  refine h.conseq (fun a w hw => ?_) (fun r w ⟨_, xs, s, hxs, hw⟩ => ?_)
    fun _ w ⟨xs, hxs, hw⟩ => hsince hw (hok hxs)
  · obtain ⟨xs, rest, d, hm⟩ := hN a w hw
    exact hsince hm.2.2.1 (hok hm.planned)
  · rcases hw with ⟨x, hx, hw⟩ | hw <;> refine hsince (hw.trans (List.append_assoc ..)) ?_ <;>
      simp only [List.forall_mem_append, List.forall_mem_cons]
    · exact ⟨hok hxs, hx.2 x (by simp), trivial, fun _ h => nomatch h⟩
    · exact ⟨hok hxs, trivial, trivial, fun _ h => nomatch h⟩

/-- Every `set_iv` a randomized trial makes is given the first test case's
`idx`, whatever `rand()` returns. -/
theorem randTrial_ivsSince (debug : Bool) (rand : Nat → Nat) (c : SrtpCipher)
    (tc : SrtpCipherTestCase) (l : TestLocals) :
    Triple (IvsSince tr tc.idx) (randTrial ct debug rand c tc l) (Keeps (IvsSince tr tc.idx)) :=
  fun w hw => Stops.ivsSince tr (randTrial_calls ct debug rand l)
    (fun _ _ ⟨_, _, _, _, _, h⟩ => ⟨_, _, _, h⟩) hw w (made_nil rfl rfl)

theorem randTrials_ivsSince (debug : Bool) (rand : Nat → Nat) (c : SrtpCipher)
    (tc : SrtpCipherTestCase) (n : Nat) (l : TestLocals) :
    Triple (IvsSince tr tc.idx) (randTrials ct debug rand c tc n l)
      (Keeps (IvsSince tr tc.idx)) := by
  induction n generalizing l with
  | zero => exact Triple.pure fun _ h => h
  | succ n ih => exact Triple.bind (randTrial_ivsSince ct tr debug rand c tc l) fun l => ih l

end SetIvs

set_option maxRecDepth 4000 in
/-- The randomized trials never use the IV they draw into `iv`: for every
contract, every `rand()` stream and from every state, each `set_iv` the trial
loop makes is given the first test case's `idx`. With the identity contract and
a stream of ones, a trial draws 64 octets of 1 into `iv` and sets `idx`, sixteen
zero octets, for both directions. -/
theorem randTrials_setIv_idx :
    (∀ {σ : Type} (ct : SrtpCipherType σ) (debug : Bool) (rand : Nat → Nat) (c : SrtpCipher)
      (tc : SrtpCipherTestCase) (n : Nat) (l : TestLocals) (w : World σ),
      ∃ k, setIvNonces (randTrials ct debug rand c tc n l w).world.trace =
        setIvNonces w.trace ++ List.replicate k tc.idx) ∧
    setIvNonces (randTrial (identityCipherType .aesIcm128) false (fun _ => 1)
      ⟨true, true, .aesIcm128, 16⟩ identityTestCase TestLocals.initial ⟨(), 0, []⟩).world.trace =
      [List.replicate 16 0, List.replicate 16 0] :=
  ⟨fun ct debug rand c tc n l w => Keeps.world
    (randTrials_ivsSince ct w.trace debug rand c tc n l w ⟨0, (List.append_nil _).symm⟩), rfl⟩

/-- A known-answer case whose ciphertext differs from what the identity
contract gives, one octet long. -/
def mismatchTestCase : SrtpCipherTestCase :=
  ⟨List.replicate 16 0, List.replicate 16 0, [1], [2], [], 0⟩

/-- An AES-GCM known-answer case with one octet of ciphertext and no
plaintext. -/
def shortTagTestCase : SrtpCipherTestCase :=
  ⟨List.replicate 16 0, List.replicate 12 0, [], [0], [], 16⟩

set_option maxRecDepth 4000 in
/-- Two runs of the self-test with the identity contract, which writes no more
than it is given and reports what it wrote, on a case whose plaintext is no
longer than its ciphertext. With debugging on, the dump of a mismatching
ciphertext reads `2 * plaintext_length_octets` octets of the one-octet
`ciphertext`. And the first `get_tag` is handed `tag_len` before anything was
stored to it. -/
theorem srtpCipherTypeTest_reads_past :
    (∃ w, srtpCipherTypeTest (identityCipherType .aesIcm128) true (fun _ => 0)
      [mismatchTestCase] ⟨(), 0, []⟩ = .fault (.outside .ciphertext) w) ∧
    ∃ w, srtpCipherTypeTest (identityCipherType .aesGcm128) false (fun _ => 0)
        [shortTagTestCase] ⟨(), 0, []⟩ = .done .algoFail w ∧
      Event.call ⟨true, true, .aesGcm128, 16⟩ (.getTag 0 none [] 0) .ok ∈ w.trace :=
  ⟨⟨_, rfl⟩, _, rfl, by decide⟩

end CipherMeta
