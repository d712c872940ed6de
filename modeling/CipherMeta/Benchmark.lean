import CipherMeta.BenchUsage
import CipherMeta.Conformance

/-!
The benchmark keeps the protocol of `BenchUsage` on every path. As for the
self-test, the proof is one Hoare triple per piece of
`srtp_cipher_bits_per_second`: a driven call moves the automaton by what it
was and what it returned, `benchCheck` frees `enc_buf` after a failure, and
the trial loop opens one trial, with its nonce, per iteration.
-/

namespace CipherMeta

open BenchUsage

variable {σ : Type}

/-- The benchmark's protocol state after the world's trace is `u`. -/
def BenchAt (numTrials : Nat) (u : BenchUsage) (w : World σ) : Prop :=
  BenchUsage.ofTrace numTrials w.trace = u

/-- What the benchmark's code may end in: falling through as `N` says, a
return the protocol accepts, `result` being the value returned after all
trials, or undefined behaviour while `enc_buf` is held and nothing failed. -/
def BenchConforms {α : Type} (numTrials result : Nat) (N : α → World σ → Prop) :
    Post σ Nat α :=
  ⟨N, fun r w => (BenchUsage.ofTrace numTrials w.trace).Accepts numTrials result r,
    fun _ w => (BenchUsage.ofTrace numTrials w.trace).Running⟩

section Rules

variable (numTrials : Nat) {α : Type} {D : Nat → World σ → Prop}
  {F : Undefined → World σ → Prop}

theorem emit_benchAt (u : BenchUsage) (e : Event) :
    Triple (BenchAt numTrials u) (emit e)
      ⟨fun _ => BenchAt numTrials (u.step numTrials e), D, F⟩ := by
  intro w (hw : ofTrace numTrials w.trace = u)
  simp [emit, Post.Holds, BenchAt, hw]

theorem benchAbort_at (result k : Nat) (N : α → World σ → Prop) :
    Triple (BenchAt numTrials (aborted k)) benchAbort (BenchConforms numTrials result N) :=
  Triple.bind (emit_benchAt numTrials _ .cryptoFree) fun _ =>
    Triple.exit fun _ (hw : ofTrace numTrials _ = _) => by
      simp only [BenchConforms, hw]
      rfl

theorem benchCheck_at (result : Nat) (u : BenchUsage) (k : Nat) (s : SrtpErrStatus) :
    Triple (BenchAt numTrials (if s = .ok then u else aborted k)) (benchCheck (σ := σ) s)
      (BenchConforms numTrials result fun _ => BenchAt numTrials u) := by
  unfold benchCheck
  by_cases hs : s = .ok
  · rw [if_pos hs, if_pos hs]
    exact Triple.pure fun _ hw => hw
  · rw [if_neg hs, if_neg hs]
    exact benchAbort_at numTrials result k _

variable (c : SrtpCipher) {k : Nat} {en : Bool}

theorem dispatch_benchAt {call : SrtpCipherCall}
    {op : Except SrtpErrStatus (σ → SrtpErrStatus × σ)} {f : SrtpErrStatus → BenchUsage}
    (hf : ∀ s, (running k en).step numTrials (.call c call s) = f s) :
    Triple (BenchAt numTrials (running k en)) (dispatch c call op)
      ⟨fun s => BenchAt numTrials (f s), D, F⟩ := by
  intro w (hw : ofTrace numTrials w.trace = _)
  cases op <;> simp [dispatch, Post.Holds, BenchAt, hw, hf]

theorem records_benchAt {β : Type} {m : Exec σ Nat β} {kind : CallKind}
    {status : β → SrtpErrStatus} {f : SrtpErrStatus → BenchUsage} (h : Records c kind status m)
    (hf : ∀ x s, x.kind = kind → (running k en).step numTrials (.call c x s) = f s) :
    Triple (BenchAt numTrials (running k en)) m
      ⟨fun a => BenchAt numTrials (f (status a)), D,
        fun _ w => (ofTrace numTrials w.trace).Running⟩ := by
  intro w (hw : ofTrace numTrials w.trace = _)
  have h' := h w
  revert h'
  cases m w with
  | next a w' =>
    rintro ⟨x, hx, ht⟩
    refine (Post.holds_next ..).mpr (show ofTrace numTrials w'.trace = _ from ?_)
    rw [ht, ofTrace_append_singleton, hw, hf x _ hx]
  | done _ _ => exact False.elim
  | fault _ w' =>
    intro ht
    refine (Post.holds_fault ..).mpr (show Running (ofTrace numTrials w'.trace) from ?_)
    rw [ht, hw]
    exact ⟨k, en, rfl⟩

theorem typeHas_benchAt (present : Bool) :
    Triple (BenchAt numTrials (running k en)) (typeHas c present)
      ⟨fun b w => b = present ∧ BenchAt numTrials (running k en) w, D,
        fun _ w => (ofTrace numTrials w.trace).Running⟩ := by
  intro w (hw : ofTrace numTrials w.trace = _)
  by_cases ht : c.type
  · simp [typeHas, ht, Post.Holds, BenchAt, hw]
  · simp only [typeHas, ht, Bool.false_eq_true, if_false, undefined, Post.Holds, hw]
    exact ⟨k, en, rfl⟩

end Rules

section Passes

variable (ct : SrtpCipherType σ) (c : SrtpCipher) (numTrials result : Nat)

theorem benchSetAad_at (k : Nat) :
    Triple (BenchAt numTrials (running k false)) (benchSetAad ct c)
      (BenchConforms numTrials result fun _ => BenchAt numTrials (running k false)) := by
  unfold benchSetAad
  refine Triple.bind (typeHas_benchAt numTrials c _) fun _ => ?_
  refine Triple.ite (fun _ => ?_) fun _ => Triple.pure fun _ hw => hw.2
  refine Triple.bind ((dispatch_benchAt numTrials c (f := fun s => if s = .ok then
    running k false else aborted k) fun _ => by rfl).weaken fun _ hw => hw.2) fun s => ?_
  exact benchCheck_at numTrials result _ k s

theorem benchGetTag_at (k : Nat) (encBuf : List UInt8) (len : Nat) (tagLen : Option Nat) :
    Triple (BenchAt numTrials (running k true)) (benchGetTag ct c encBuf len tagLen)
      (BenchConforms numTrials result fun _ w => ∃ en, BenchAt numTrials (running k en) w) := by
  unfold benchGetTag
  refine Triple.bind (typeHas_benchAt numTrials c _) fun _ => ?_
  refine Triple.ite (fun _ => ?_) fun _ => Triple.pure fun _ hw => ⟨true, hw.2⟩
  refine Triple.bind ((records_benchAt numTrials c (srtpCipherGetTag_records ct c .encBuf encBuf
    len tagLen) (f := fun s => if s = .ok then running k false else aborted k)
    fun x s hx => ?_).weaken fun _ hw => hw.2) fun ⟨s, _, _⟩ => ?_
  · cases x <;> cases hx
    rfl
  exact Triple.bind (benchCheck_at numTrials result _ k s) fun _ =>
    Triple.pure fun _ hw => ⟨false, hw⟩

/-- One trial, opened as trial `k`: it sets `trialNonce k` and leaves the
protocol running with `k + 1` trials opened, or ends as the protocol allows. -/
theorem benchTrial_conforms (k : Nat) (hk : k < numTrials) (l : BenchLocals)
    (hl : l.nonce = trialNonce k) :
    Triple (fun w => ∃ en, BenchAt numTrials (running k en) w) (benchTrial ct c l)
      (BenchConforms numTrials result fun l' w =>
        l'.nonce = l.nonce ∧ ∃ en, BenchAt numTrials (running (k + 1) en) w) := by
  refine Triple.ex fun en => ?_
  unfold benchTrial
  rw [hl]
  refine Triple.bind (dispatch_benchAt numTrials c (f := fun s => if s = .ok then
    running (k + 1) false else aborted (k + 1)) fun s => by simp [step, call, hk]) fun s => ?_
  refine Triple.bind (benchCheck_at numTrials result _ _ s) fun _ => ?_
  refine Triple.bind (benchSetAad_at ct c numTrials result _) fun _ => ?_
  refine Triple.bind (records_benchAt numTrials c (srtpCipherEncrypt_records ct c .encBuf _ _ _)
    (f := fun s => if s = .ok then running (k + 1) true else aborted (k + 1))
    fun x s hx => ?_) fun ⟨s, encBuf, len⟩ => ?_
  · cases x <;> cases hx
    rfl
  refine Triple.bind (benchCheck_at numTrials result _ _ s) fun _ => ?_
  refine Triple.bind (benchGetTag_at ct c numTrials result _ _ _ _) fun _ => ?_
  exact Triple.pure fun _ hw => ⟨rfl, hw⟩

theorem benchTrials_conforms (m i : Nat) (l : BenchLocals) (hm : i + m = numTrials)
    (hl : l.nonce = trialNonce i) :
    Triple (fun w => ∃ en, BenchAt numTrials (running i en) w) (benchTrials ct c i m l)
      (BenchConforms numTrials result fun _ w => ∃ en, BenchAt numTrials (running numTrials en) w) := by
  induction m generalizing i l with
  | zero =>
    rw [Nat.add_zero] at hm
    subst hm
    exact Triple.pure fun _ hw => hw
  | succ m ih =>
    refine Triple.bind (benchTrial_conforms ct c numTrials result i (by omega) l hl) fun l' => ?_
    exact fun w ⟨hn, hw⟩ => ih (i + 1) _ (by omega) (by rw [← trialNonce_succ, hn, hl]) w hw

theorem srtpCryptoAlloc_benchAt {D : Nat → World σ → Prop} {F : Undefined → World σ → Prop}
    (env : BenchEnv) (size : Nat) :
    Triple (BenchAt numTrials start) (srtpCryptoAlloc env size)
      ⟨fun o w => match o with
        | some buf => buf = List.replicate size 0 ∧ BenchAt numTrials (running 0 false) w
        | none => BenchAt numTrials refused w, D, F⟩ := by
  intro w (hw : ofTrace numTrials w.trace = _)
  cases h : env.allocates size <;> simp [srtpCryptoAlloc, emit, h, Post.Holds, BenchAt, hw, step]

/-- The whole benchmark keeps its protocol: started with nothing recorded, it
returns as the protocol accepts, `result` being the quotient when `timer` is
not zero, or its behaviour becomes undefined while `enc_buf` is held and nothing
failed. -/
theorem srtpCipherBitsPerSecond_conforms (env : BenchEnv) (octetsInBuffer : Nat) :
    Triple (BenchAt numTrials start) (srtpCipherBitsPerSecond ct env c octetsInBuffer numTrials)
      (BenchConforms numTrials (if env.elapsed = 0 then 0 else
        bitsPerSecondQuotient env.clocksPerSec numTrials octetsInBuffer env.elapsed)
        fun e _ => e.elim) := by
  unfold srtpCipherBitsPerSecond
  refine Triple.bind (srtpCryptoAlloc_benchAt numTrials env _) fun o => ?_
  cases o with
  | none =>
    refine Triple.exit fun _ (hw : ofTrace numTrials _ = _) => ?_
    simp only [BenchConforms, hw]
    rfl
  | some buf =>
    refine Triple.bind ((benchTrials_conforms ct c numTrials _ numTrials 0 _ (by omega)
      trialNonce_zero.symm).weaken fun _ hw => ⟨false, hw.2⟩) fun _ => ?_
    refine Triple.ex fun en => ?_
    refine Triple.bind (emit_benchAt numTrials _ .cryptoFree) fun _ => ?_
    refine Triple.ite_join (R := fun _ w => BenchAt numTrials (freed true numTrials) w ∧
      env.elapsed ≠ 0) (fun h0 => Triple.exit fun _ (hw : ofTrace numTrials _ = _) => ?_)
      (fun h0 => Triple.pure fun _ hw => ⟨hw, h0⟩)
      fun _ => Triple.exit fun _ ⟨(hw : ofTrace numTrials _ = _), h0⟩ => ?_
    · simp only [BenchConforms, hw]
      exact ⟨rfl, by simp [h0]⟩
    · simp only [BenchConforms, hw]
      exact ⟨rfl, by simp [h0]⟩

end Passes

/-! ### The path on which nothing fails -/

/-- A contract and instance that drive the benchmark without failing: the
instance is usable, the driven operations succeed, and `encrypt` and `get_tag`
write and report no more than the capacity they are given. -/
structure Drivable (ct : SrtpCipherType σ) (c : SrtpCipher) : Prop where
  usable : c.unusable = false
  setIv_ok : ∀ st iv, (ct.setIv st iv .encrypt).1 = .ok
  setAad_ok : ∀ f, ct.setAad = some f → ∀ st, (f st [0, 0, 0, 0]).1 = .ok
  encrypt_ok : ∀ st src capacity, src.length ≤ capacity →
    (ct.encrypt st src capacity).1.status = .ok ∧
      (ct.encrypt st src capacity).1.written.length ≤ capacity ∧
      (ct.encrypt st src capacity).1.len ≤ capacity
  getTag_ok : ∀ f, ct.getTag = some f → ∀ st capacity,
    (f st (some capacity)).1.status = .ok ∧
      (f st (some capacity)).1.written.length ≤ capacity ∧ (f st (some capacity)).1.len ≤ capacity

/-- `len` within `octets_in_buffer`, `tag_len` set and within
`SRTP_MAX_TAG_LEN`, and `enc_buf` of their sum. -/
def BenchLocals.Fits (octetsInBuffer srtpMaxTagLen : Nat) (l : BenchLocals) : Prop :=
  l.len ≤ octetsInBuffer ∧ (∃ t, l.tagLen = some t ∧ t ≤ srtpMaxTagLen) ∧
    l.encBuf.length = octetsInBuffer + srtpMaxTagLen

theorem benchCheck_ok_smooth {P : World σ → Prop} :
    Triple P (benchCheck (σ := σ) .ok) (Smooth fun _ => P) :=
  Triple.pure fun _ hw => hw

section Smooth

variable {ct : SrtpCipherType σ} {c : SrtpCipher} (hd : Drivable ct c)
include hd

theorem Drivable.type : c.type = true := SrtpCipher.type_of_usable hd.usable

theorem typeHas_smooth {P : World σ → Prop} (present : Bool) :
    Triple P (typeHas (ρ := Nat) c present) (Smooth fun b w => b = present ∧ P w) := by
  intro w hw
  simp [typeHas, hd.type, Post.Holds, Smooth, hw]

theorem benchSetAad_smooth : Triple (fun _ => True) (benchSetAad ct c) (Smooth fun _ _ => True) := by
  unfold benchSetAad
  refine Triple.bind (typeHas_smooth hd _) fun b => ?_
  refine Triple.ite (fun hb w ⟨hb', _⟩ => ?_) fun _ => Triple.pure fun _ _ => trivial
  obtain ⟨f, hf⟩ := Option.isSome_iff_exists.mp (hb' ▸ hb)
  simp [srtpCipherSetAad, dispatch, hd.usable, hf, hd.setAad_ok f hf, benchCheck, Post.Holds,
    Smooth]

theorem srtpCipherSetIv_smooth (iv : List UInt8) :
    Triple (fun _ => True) (srtpCipherSetIv (ρ := Nat) ct c iv .encrypt) (Smooth fun s _ => s = .ok) := by
  intro w _
  simp [srtpCipherSetIv, dispatch, hd.usable, hd.setIv_ok, Post.Holds, Smooth]

theorem srtpCipherEncrypt_smooth (buf : List UInt8) (n : Nat) (hn : n ≤ buf.length) :
    Triple (fun _ => True) (srtpCipherEncrypt (ρ := Nat) ct c .encBuf buf n n)
      (Smooth fun r _ => r.1 = .ok ∧ r.2.1.length = buf.length ∧ r.2.2 ≤ n) := by
  intro w _
  obtain ⟨hs, hw, hl⟩ := hd.encrypt_ok w.cipher (window buf 0 n) n
    (by simp only [window, List.length_take]; omega)
  obtain ⟨buf', hb, hlen⟩ :=
    writeAt_eq_some buf 0 (ct.encrypt w.cipher (window buf 0 n) n).1.written (by omega)
  simp [srtpCipherEncrypt, dispatchInPlace, Nat.not_lt.mpr hn, dispatchOutput, hd.usable, hb,
    Post.Holds, Smooth, hs, hlen, hl]

theorem benchGetTag_smooth (buf : List UInt8) (len t : Nat) (h : len + t ≤ buf.length) :
    Triple (fun _ => True) (benchGetTag ct c buf len (some t))
      (Smooth fun r _ => r.1.length = buf.length ∧ ∃ t', r.2 = some t' ∧ t' ≤ t) := by
  unfold benchGetTag
  refine Triple.bind (typeHas_smooth hd _) fun b => ?_
  refine Triple.ite (fun hb w ⟨hb', _⟩ => ?_) fun _ => Triple.pure fun _ _ => ⟨rfl, t, rfl, le_rfl⟩
  obtain ⟨f, hf⟩ := Option.isSome_iff_exists.mp (hb' ▸ hb)
  obtain ⟨hs, hw, hl⟩ := hd.getTag_ok f hf w.cipher t
  obtain ⟨buf', hb, hlen⟩ := writeAt_eq_some buf len (f w.cipher (some t)).1.written (by omega)
  simp [srtpCipherGetTag, dispatchOutput, hd.usable, hf, hb, Post.Holds, Smooth, hs, hlen,
    benchCheck, hl]

theorem benchTrial_smooth (octetsInBuffer srtpMaxTagLen : Nat) (l : BenchLocals)
    (hl : l.Fits octetsInBuffer srtpMaxTagLen) :
    Triple (fun _ => True) (benchTrial ct c l)
      (Smooth fun l' _ => l'.nonce = l.nonce ∧ l'.Fits octetsInBuffer srtpMaxTagLen) := by
  obtain ⟨hlen, ⟨t, ht, htm⟩, hbuf⟩ := hl
  unfold benchTrial
  refine Triple.bind (srtpCipherSetIv_smooth hd _) fun s => Triple.assume fun hs => ?_
  subst hs
  refine Triple.bind benchCheck_ok_smooth fun _ => ?_
  refine Triple.bind (benchSetAad_smooth hd) fun _ => ?_
  refine Triple.bind (srtpCipherEncrypt_smooth hd l.encBuf l.len (by omega))
    fun ⟨s, encBuf, len⟩ => Triple.assume fun ⟨hs, hb, hl⟩ => ?_
  dsimp only at hs hb hl
  subst hs
  refine Triple.bind benchCheck_ok_smooth fun _ => ?_
  rw [ht]
  refine Triple.bind (benchGetTag_smooth hd encBuf len t (by omega))
    fun ⟨encBuf', tagLen'⟩ => Triple.assume fun ⟨hb', t', ht', htle⟩ => ?_
  dsimp only at hb' ht' htle
  exact Triple.pure fun _ _ => ⟨rfl, hl.trans hlen, ⟨t', ht', htle.trans htm⟩, hb'.trans (hb.trans hbuf)⟩

theorem benchTrials_smooth (octetsInBuffer srtpMaxTagLen : Nat) (i m : Nat) (l : BenchLocals)
    (hl : l.Fits octetsInBuffer srtpMaxTagLen) :
    Triple (fun _ => True) (benchTrials ct c i m l)
      (Smooth fun l' _ => l'.Fits octetsInBuffer srtpMaxTagLen) := by
  induction m generalizing i l with
  | zero => exact Triple.pure fun _ _ => hl
  | succ m ih =>
    exact Triple.bind (benchTrial_smooth hd _ _ l hl) fun _ =>
      Triple.assume fun ⟨_, hl'⟩ => ih (i + 1) _ hl'

/-- With a drivable contract, an allocation that succeeds and a size that does
not wrap, the benchmark returns the quotient, or 0 when `timer` is zero. -/
theorem srtpCipherBitsPerSecond_smooth (env : BenchEnv) (octetsInBuffer numTrials : Nat)
    (halloc : env.allocates (octetsInBuffer + env.srtpMaxTagLen))
    (hwrap : octetsInBuffer + env.srtpMaxTagLen < sizeTModulus) :
    Triple (fun _ => True) (srtpCipherBitsPerSecond ct env c octetsInBuffer numTrials)
      ⟨fun e _ => e.elim, fun r _ => r = if env.elapsed = 0 then 0 else
        bitsPerSecondQuotient env.clocksPerSec numTrials octetsInBuffer env.elapsed,
        fun _ _ => False⟩ := by
  unfold srtpCipherBitsPerSecond
  rw [Nat.mod_eq_of_lt hwrap]
  refine Triple.bind (R := fun o _ => o = some (List.replicate (octetsInBuffer +
    env.srtpMaxTagLen) 0))
    (fun _ _ => by simp [srtpCryptoAlloc, emit, halloc, Post.Holds]) fun o => Triple.assume ?_
  rintro rfl
  refine Triple.bind (benchTrials_smooth hd octetsInBuffer env.srtpMaxTagLen 0 numTrials _
    ⟨le_rfl, ⟨_, rfl, le_rfl⟩, by simp⟩).never fun _ => ?_
  refine Triple.bind (R := fun _ _ => True) (fun _ _ => (Post.holds_next ..).mpr trivial)
    fun _ => ?_
  exact Triple.ite_join (R := fun _ _ => env.elapsed ≠ 0)
    (fun h0 => Triple.exit fun _ _ => by simp [h0]) (fun h0 => Triple.pure fun _ _ => h0)
    fun _ => Triple.exit fun _ h0 => by simp [h0]

end Smooth

/-- The benchmark returns, and returns the quotient, for a drivable contract
when the allocation succeeds and its size does not wrap. -/
theorem srtpCipherBitsPerSecond_returns {ct : SrtpCipherType σ} {c : SrtpCipher}
    (hd : Drivable ct c) (env : BenchEnv) (octetsInBuffer numTrials : Nat) (w : World σ)
    (halloc : env.allocates (octetsInBuffer + env.srtpMaxTagLen))
    (hwrap : octetsInBuffer + env.srtpMaxTagLen < sizeTModulus) :
    ∃ w', srtpCipherBitsPerSecond ct env c octetsInBuffer numTrials w =
      .done (if env.elapsed = 0 then 0 else
        bitsPerSecondQuotient env.clocksPerSec numTrials octetsInBuffer env.elapsed) w' := by
  have h := srtpCipherBitsPerSecond_smooth hd env octetsInBuffer numTrials halloc hwrap w trivial
  revert h
  cases srtpCipherBitsPerSecond ct env c octetsInBuffer numTrials w with
  | next e _ => exact e.elim
  | done r w' => exact fun h => ⟨w', by rw [show r = _ from (Post.holds_done ..).mp h]⟩
  | fault _ _ => exact fun h => ((Post.holds_fault ..).mp h).elim

/-- A host whose `SRTP_MAX_TAG_LEN` is 16, as in the library's headers, and
whose allocator never fails. -/
def hostEnv (clocksPerSec : Nat) (elapsed : Int)
    (h : -clockTBound ≤ elapsed ∧ elapsed < clockTBound) : BenchEnv :=
  ⟨16, clocksPerSec, fun _ => true, elapsed, h⟩

/-- The identity contract drives the benchmark on any instance of it. -/
theorem identityCipherType_drivable (algorithm : SrtpCipherTypeId) (keyLen : Nat) :
    Drivable (identityCipherType algorithm) ⟨true, true, algorithm, keyLen⟩ where
  usable := rfl
  setIv_ok _ _ := rfl
  setAad_ok _ h _ := by cases h; rfl
  encrypt_ok _ _ _ h := ⟨rfl, h, h⟩
  getTag_ok _ h _ _ := by cases h; exact ⟨rfl, Nat.zero_le _, Nat.zero_le _⟩

/-! ### What the benchmark does, on every run -/

/-- The benchmark's trace drives the instance it is given and nothing more: no
`init` or `dealloc` call, and a `get_tag` only right after a successful
`encrypt`. -/
def DrivesOnly (tr : List Event) : Prop :=
  (∀ c op s, .call c op s ∈ tr → op.kind ≠ .init ∧ op.kind ≠ .dealloc) ∧
    ∀ pre c op s post, tr = pre ++ .call c op s :: post → op.kind = .getTag →
      ∃ pre' c' op', op'.kind = .encrypt ∧ pre = pre' ++ [.call c' op' .ok]

theorem drivesOnly_of_not_broken {numTrials : Nat} {tr : List Event}
    (h : BenchUsage.ofTrace numTrials tr ≠ broken) : DrivesOnly tr := by
  refine ⟨fun c op s hm => ?_, fun pre c op s post htr hg =>
    (call_of_not_broken numTrials (htr ▸ h)).2 hg⟩
  obtain ⟨pre, post, rfl⟩ := List.append_of_mem hm
  rcases (call_of_not_broken numTrials h).1 with hk | hk | hk | hk <;> rw [hk] <;> decide

/-- A state the benchmark's conformance allows at a return is not `broken`. -/
theorem not_broken_of_accepts {numTrials result r : Nat} {u : BenchUsage}
    (h : u.Accepts numTrials result r) : u ≠ broken := by
  rintro rfl
  exact h

theorem not_broken_of_running {u : BenchUsage} (h : u.Running) : u ≠ broken := by
  obtain ⟨k, en, rfl⟩ := h
  nofun

variable (ct : SrtpCipherType σ) (env : BenchEnv) (c : SrtpCipher)
  (octetsInBuffer numTrials : Nat) (st : σ) (draws : Nat)

/-- Where the benchmark returns, the protocol accepts what it returns. -/
theorem srtpCipherBitsPerSecond_accepts {r : Nat} {w : World σ}
    (hw : srtpCipherBitsPerSecond ct env c octetsInBuffer numTrials ⟨st, draws, []⟩ = .done r w) :
    (BenchUsage.ofTrace numTrials w.trace).Accepts numTrials
      (if env.elapsed = 0 then 0 else
        bitsPerSecondQuotient env.clocksPerSec numTrials octetsInBuffer env.elapsed) r := by
  have h := srtpCipherBitsPerSecond_conforms ct c numTrials env octetsInBuffer ⟨st, draws, []⟩ rfl
  rw [hw] at h
  exact (Post.holds_done ..).mp h

/-- Where the benchmark's behaviour becomes undefined, `enc_buf` is held and
nothing has failed. -/
theorem srtpCipherBitsPerSecond_running {u : Undefined} {w : World σ}
    (hw : srtpCipherBitsPerSecond ct env c octetsInBuffer numTrials ⟨st, draws, []⟩ = .fault u w) :
    (BenchUsage.ofTrace numTrials w.trace).Running := by
  have h := srtpCipherBitsPerSecond_conforms ct c numTrials env octetsInBuffer ⟨st, draws, []⟩ rfl
  rw [hw] at h
  exact (Post.holds_fault ..).mp h

/-- Instance lifecycle. The self-test, from a trace with nothing in it, keeps
the protocol of `Usage` on every path: where it returns, every instance it
allocated was deallocated once and nothing follows, and where its behaviour
becomes undefined nothing has failed yet. The benchmark never calls `init` or
`dealloc`, calls `get_tag` only right after a successful `encrypt`, and frees
`enc_buf` exactly once on every path that returns after a successful
allocation, and not before its behaviour becomes undefined. -/
theorem instance_lifecycle (debug : Bool) (rand : Nat → Nat) (tcs : List SrtpCipherTestCase) :
    (Conforms fun e _ => e.elim).Holds (srtpCipherTypeTest ct debug rand tcs ⟨st, draws, []⟩) ∧
      match srtpCipherBitsPerSecond ct env c octetsInBuffer numTrials ⟨st, draws, []⟩ with
      | .done _ w => DrivesOnly w.trace ∧
          ∀ size, .cryptoAlloc size true ∈ w.trace → w.trace.count .cryptoFree = 1
      | .fault _ w => DrivesOnly w.trace ∧ w.trace.count .cryptoFree = 0
      | .next e _ => e.elim := by
  refine ⟨srtpCipherTypeTest_conforms ct debug rand tcs _ rfl, ?_⟩
  cases hrun : srtpCipherBitsPerSecond ct env c octetsInBuffer numTrials ⟨st, draws, []⟩ with
  | next e _ => exact e.elim
  | done r w =>
    have h := srtpCipherBitsPerSecond_accepts ct env c octetsInBuffer numTrials st draws hrun
    have hb := not_broken_of_accepts h
    refine ⟨drivesOnly_of_not_broken hb, fun size hs => ?_⟩
    rw [(ofTrace_inv numTrials hb).2.2.1]
    revert h
    cases hu : BenchUsage.ofTrace numTrials w.trace with
    | refused =>
      obtain ⟨_, hw⟩ := ofTrace_eq_refused numTrials hu
      simp [hw] at hs
    | freed => exact fun _ => rfl
    | _ => exact False.elim
  | fault u w =>
    have h := srtpCipherBitsPerSecond_running ct env c octetsInBuffer numTrials st draws hrun
    have hb := not_broken_of_running h
    refine ⟨drivesOnly_of_not_broken hb, ?_⟩
    obtain ⟨k, en, hu⟩ := h
    rw [(ofTrace_inv numTrials hb).2.2.1, hu]
    rfl

/-- The benchmark's nonces: on every run its `set_iv` calls carry
`trialNonce 0`, `trialNonce 1`, ... in order, one per trial opened, at most
`num_trials` of them and all of them when it returns with nothing failed. The
nonce of trial `i` has `v32[3] = i mod 2^32`, so they are pairwise distinct
when `num_trials` is at most 2^32. -/
theorem srtpCipherBitsPerSecond_nonces :
    match srtpCipherBitsPerSecond ct env c octetsInBuffer numTrials ⟨st, draws, []⟩ with
    | .done _ w => ∃ k ≤ numTrials, setIvNonces w.trace = (List.range k).map trialNonce ∧
        (w.trace.any Event.failure = false → k = numTrials) ∧
        (numTrials ≤ uint32Modulus → (setIvNonces w.trace).Nodup)
    | .fault _ w => ∃ k ≤ numTrials, setIvNonces w.trace = (List.range k).map trialNonce ∧
        (numTrials ≤ uint32Modulus → (setIvNonces w.trace).Nodup)
    | .next e _ => e.elim := by
  cases hrun : srtpCipherBitsPerSecond ct env c octetsInBuffer numTrials ⟨st, draws, []⟩ with
  | next e _ => exact e.elim
  | done r w =>
    have h := srtpCipherBitsPerSecond_accepts ct env c octetsInBuffer numTrials st draws hrun
    obtain ⟨hn, hle, -, hf⟩ := ofTrace_inv numTrials (not_broken_of_accepts h)
    refine ⟨_, hle, hn, fun h0 => ?_, fun hm => hn ▸ trialNonces_nodup (hle.trans hm)⟩
    rw [h0] at hf
    revert h hf
    cases BenchUsage.ofTrace numTrials w.trace with
    | freed completed k => cases completed <;> simp_all [failed, Accepts, trials]
    | _ => simp [Accepts, failed]
  | fault u w =>
    obtain ⟨hn, hle, -, -⟩ := ofTrace_inv numTrials (not_broken_of_running
      (srtpCipherBitsPerSecond_running ct env c octetsInBuffer numTrials st draws hrun))
    exact ⟨_, hle, hn, fun hm => hn ▸ trialNonces_nodup (hle.trans hm)⟩

theorem trialNonce_uint32Modulus : trialNonce uint32Modulus = trialNonce 0 := by
  simp [trialNonce]

/-- With 2^32 + 1 trials that all succeed, trials 0 and 2^32 set the same
nonce. -/
theorem srtpCipherBitsPerSecond_nonce_repeats :
    ∃ r w, srtpCipherBitsPerSecond (identityCipherType .aesGcm128)
        (hostEnv 1 1 (by decide)) ⟨true, true, .aesGcm128, 16⟩ 1
        (uint32Modulus + 1) ⟨(), 0, []⟩ = .done r w ∧ ¬(setIvNonces w.trace).Nodup := by
  obtain ⟨w, hw⟩ := srtpCipherBitsPerSecond_returns (identityCipherType_drivable _ 16)
    (hostEnv 1 1 (by decide)) 1 (uint32Modulus + 1) ⟨(), 0, []⟩ rfl (by decide)
  refine ⟨_, w, hw, fun hnd => ?_⟩
  have h := srtpCipherBitsPerSecond_accepts _ _ _ _ _ _ _ hw
  obtain ⟨hn, -, -, -⟩ := ofTrace_inv _ (not_broken_of_accepts h)
  rw [hn] at hnd
  revert h hnd
  cases BenchUsage.ofTrace (uint32Modulus + 1) w.trace with
  | freed completed k =>
    cases completed
    · exact fun _ h => absurd h (by simp only [Accepts]; decide)
    · rintro hnd ⟨rfl, -⟩
      have := List.inj_on_of_nodup_map hnd (List.mem_range.mpr (by decide : 0 < _))
        (List.mem_range.mpr (by decide : uint32Modulus < _)) trialNonce_uint32Modulus.symm
      exact absurd this (by decide)
  | refused => exact fun _ h => absurd h (by simp only [Accepts]; decide)
  | _ => exact fun _ h => h.elim

/-- The benchmark's result: where it returns, 0 if the allocation or a driven
call failed or `timer` is 0, and, when nothing failed, `timer` is positive and
`CLOCKS_PER_SEC * num_trials * 8 * octets_in_buffer` is below 2^64, the integer
quotient of that product by `timer`; its behaviour becomes undefined only while
nothing failed. For a drivable contract, an allocation that succeeds, a size
that does not wrap and a positive `timer`, it does return. -/
theorem srtpCipherBitsPerSecond_result :
    (match srtpCipherBitsPerSecond ct env c octetsInBuffer numTrials ⟨st, draws, []⟩ with
      | .done r w => (w.trace.any Event.failure = true ∨ env.elapsed = 0 → r = 0) ∧
          (w.trace.any Event.failure = false → 0 < env.elapsed →
            env.clocksPerSec * numTrials * 8 * octetsInBuffer < uint64Modulus →
            r = env.clocksPerSec * numTrials * 8 * octetsInBuffer / env.elapsed.toNat)
      | .fault _ w => w.trace.any Event.failure = false
      | .next e _ => e.elim) ∧
    (Drivable ct c → env.allocates (octetsInBuffer + env.srtpMaxTagLen) →
      octetsInBuffer + env.srtpMaxTagLen < sizeTModulus → 0 < env.elapsed →
      ∃ r w, srtpCipherBitsPerSecond ct env c octetsInBuffer numTrials ⟨st, draws, []⟩ =
        .done r w ∧ (env.clocksPerSec * numTrials * 8 * octetsInBuffer < uint64Modulus →
          r = env.clocksPerSec * numTrials * 8 * octetsInBuffer / env.elapsed.toNat)) := by
  refine ⟨?_, fun hd halloc hwrap hpos => ?_⟩
  · cases hrun : srtpCipherBitsPerSecond ct env c octetsInBuffer numTrials ⟨st, draws, []⟩ with
    | next e _ => exact e.elim
    | done r w =>
      have h := srtpCipherBitsPerSecond_accepts ct env c octetsInBuffer numTrials st draws hrun
      obtain ⟨-, -, -, hf⟩ := ofTrace_inv numTrials (not_broken_of_accepts h)
      have hr : r = if w.trace.any Event.failure = true ∨ env.elapsed = 0 then 0 else
          bitsPerSecondQuotient env.clocksPerSec numTrials octetsInBuffer env.elapsed := by
        rw [hf]
        revert h
        cases BenchUsage.ofTrace numTrials w.trace with
        | refused => simp [Accepts, failed]
        | freed completed k => cases completed <;> simp [Accepts, failed]
        | _ => simp [Accepts]
      refine ⟨fun h0 => by rw [hr, if_pos h0], fun hf0 hpos hlt => ?_⟩
      rw [hr, if_neg (by simp [hf0, Int.ne_of_gt hpos]), bitsPerSecondQuotient_eq,
        env.elapsed_toNat hpos, Nat.mod_eq_of_lt hlt]
    | fault u w =>
      have h := srtpCipherBitsPerSecond_running ct env c octetsInBuffer numTrials st draws hrun
      obtain ⟨-, -, -, hf⟩ := ofTrace_inv numTrials (not_broken_of_running h)
      obtain ⟨k, en, hu⟩ := h
      dsimp only
      rw [hf, hu]
      rfl
  · obtain ⟨w, hw⟩ := srtpCipherBitsPerSecond_returns hd env octetsInBuffer numTrials
      ⟨st, draws, []⟩ halloc hwrap
    rw [if_neg (Int.ne_of_gt hpos), bitsPerSecondQuotient_eq, env.elapsed_toNat hpos] at hw
    exact ⟨_, w, hw, fun hlt => by rw [Nat.mod_eq_of_lt hlt]⟩

theorem srtpCipherBitsPerSecond_result_identity :
    ∃ r w, srtpCipherBitsPerSecond (identityCipherType .aesGcm128)
        (hostEnv 1000000 1000 (by decide)) ⟨true, true, .aesGcm128, 16⟩ 16 2 ⟨(), 0, []⟩ =
      .done r w ∧ (1000000 * 2 * 8 * 16 < uint64Modulus → r = 1000000 * 2 * 8 * 16 / Int.toNat 1000) :=
  (srtpCipherBitsPerSecond_result (identityCipherType .aesGcm128)
    (hostEnv 1000000 1000 (by decide)) ⟨true, true, .aesGcm128, 16⟩ 16 2 () 0).2
    (identityCipherType_drivable _ 16) rfl (by decide) (by decide)

/-- A run in which everything succeeds and `timer` is positive, and the
benchmark returns 0: the product, 8 * 10^6, is below `timer`. -/
theorem srtpCipherBitsPerSecond_zero_result :
    ∃ w, srtpCipherBitsPerSecond (identityCipherType .aesGcm128)
      (hostEnv 1000000 8000001 (by decide)) ⟨true, true, .aesGcm128, 16⟩ 1 1
      ⟨(), 0, []⟩ = .done 0 w := by
  obtain ⟨w, hw⟩ := srtpCipherBitsPerSecond_returns (identityCipherType_drivable _ 16)
    (hostEnv 1000000 8000001 (by decide)) 1 1 ⟨(), 0, []⟩ rfl (by decide)
  exact ⟨w, by rw [hw]; congr 1⟩

/-- The benchmark computes `CLOCKS_PER_SEC * num_trials * 8 *
octets_in_buffer` in `uint64_t`: for a drivable contract, an allocation that
succeeds, a size that does not wrap and a positive `timer`, it returns that
product reduced modulo 2^64, divided by `timer`, whatever the product. -/
theorem srtpCipherBitsPerSecond_product_wraps {ct : SrtpCipherType σ} {c : SrtpCipher}
    (hd : Drivable ct c) (env : BenchEnv) (octetsInBuffer numTrials : Nat) (w : World σ)
    (halloc : env.allocates (octetsInBuffer + env.srtpMaxTagLen))
    (hwrap : octetsInBuffer + env.srtpMaxTagLen < sizeTModulus) (hpos : 0 < env.elapsed) :
    ∃ w', srtpCipherBitsPerSecond ct env c octetsInBuffer numTrials w =
      .done (env.clocksPerSec * numTrials * 8 * octetsInBuffer % uint64Modulus /
        env.elapsed.toNat) w' := by
  obtain ⟨w', hw⟩ := srtpCipherBitsPerSecond_returns hd env octetsInBuffer numTrials w halloc hwrap
  rw [if_neg (Int.ne_of_gt hpos), bitsPerSecondQuotient_eq, env.elapsed_toNat hpos] at hw
  exact ⟨w', hw⟩

/-- A day's run of 1024 trials over 2^40 octets: the product 10^6 * 2^53
wraps, and the benchmark returns 60047995 where the throughput is
104249991374 bits per second. -/
theorem srtpCipherBitsPerSecond_wraps_in_a_day :
    (∃ w, srtpCipherBitsPerSecond (identityCipherType .aesGcm128)
      (hostEnv 1000000 86400000000 (by decide)) ⟨true, true, .aesGcm128, 16⟩ 1099511627776 1024
      ⟨(), 0, []⟩ = .done 60047995 w) ∧
    1000000 * 1024 * 8 * 1099511627776 / 86400000000 = 104249991374 := by
  obtain ⟨w, hw⟩ := srtpCipherBitsPerSecond_product_wraps (identityCipherType_drivable _ 16)
    (hostEnv 1000000 86400000000 (by decide)) 1099511627776 1024 ⟨(), 0, []⟩ rfl (by decide)
    (by decide)
  exact ⟨⟨w, by rw [hw]; congr 1⟩, by decide⟩

/-- At `octets_in_buffer = SIZE_MAX` the allocation size wraps to 15 octets,
and the one trial hands `encrypt` the `SIZE_MAX` octets at `enc_buf`, reading
past the allocation. -/
theorem srtpCipherBitsPerSecond_size_wraps :
    srtpCipherBitsPerSecond (identityCipherType .aesGcm128)
        (hostEnv 1000000 1 (by decide)) ⟨true, true, .aesGcm128, 16⟩
        (sizeTModulus - 1) 1 ⟨(), 0, []⟩ =
      .fault (.outside .encBuf) ⟨(), 0, [.cryptoAlloc 15 true,
        .call ⟨true, true, .aesGcm128, 16⟩ (.setIv v128Zero .encrypt) .ok,
        .call ⟨true, true, .aesGcm128, 16⟩ (.setAad [0, 0, 0, 0]) .ok]⟩ :=
  rfl

end CipherMeta
