import CipherMeta.TypeTest

/-!
The calls each piece of `srtp_cipher_type_test` makes, from one walk of its
statements per piece. A piece is planned as the kinds of the calls it makes
when none fails (`sealKinds`, `openKinds`, `trialKinds`) and started on some
trace `tr`; `Stops` says every way it can end in those terms. It falls
through with its calls made, each answering `ok`; it returns a failure `r`
after some of them, because the next planned call answered `r` or because a
check of its own failed (a `verdict`), and then deallocates the instance; or
its behaviour becomes undefined after some of them. Every call carries the
arguments the code fixes (`TestArgs`), and a piece that falls through also
says what its checks established about the octets its calls gave back
(`Sealing.Yields`, `Opening.Undoes`).

The rules consume the plan from its front, so the walk of a piece needs no
side proof that its calls so far begin the plan. The later modules read their
results off these specs: the usage protocol (`Conformance`), the IVs set
(`SelfTestGaps`), what a verdict of `ok` means (`Soundness`) and the keys of
the trials (`TrialKeys`).
-/

namespace CipherMeta

variable {σ : Type}

/-- The events of the calls `xs` on `c`, each answering `ok`. -/
def okCalls (c : SrtpCipher) (xs : List SrtpCipherCall) : List Event :=
  xs.map fun x => .call c x .ok

@[simp] theorem okCalls_nil (c : SrtpCipher) : okCalls c [] = [] := rfl

@[simp] theorem okCalls_cons (c : SrtpCipher) (x : SrtpCipherCall) (xs : List SrtpCipherCall) :
    okCalls c (x :: xs) = .call c x .ok :: okCalls c xs := rfl

@[simp] theorem okCalls_append (c : SrtpCipher) (xs ys : List SrtpCipherCall) :
    okCalls c (xs ++ ys) = okCalls c xs ++ okCalls c ys := List.map_append ..

/-- The arguments the self-test fixes for a call on the instance of test case
`tc`: `set_iv` is given its `idx`, `set_aad` its AAD. -/
def TestArgs (tc : SrtpCipherTestCase) : SrtpCipherCall → Prop
  | .setIv iv _ => iv = tc.idx
  | .setAad aad => aad = tc.aad
  | _ => True

theorem testArgs_of_kind {tc : SrtpCipherTestCase} {x : SrtpCipherCall}
    (h : x.kind ≠ .setIv ∧ x.kind ≠ .setAad) : TestArgs tc x := by
  cases x <;> first | trivial | exact absurd rfl h.1 | exact absurd rfl h.2

/-! ### The plans -/

/-- `k` before `ks` on an AES-GCM instance, `ks` alone on another: the AAD
and tag steps. -/
def ifGcm (gcm : Bool) (k : CallKind) (ks : List CallKind) : List CallKind :=
  if gcm then k :: ks else ks

def sealKinds (gcm : Bool) : List CallKind :=
  .init :: .setIv :: ifGcm gcm .setAad (.encrypt :: ifGcm gcm .getTag [])

def openKinds (gcm : Bool) : List CallKind :=
  .init :: .setIv :: ifGcm gcm .setAad [.decrypt]

def trialKinds (gcm : Bool) : List CallKind :=
  .init :: .setIv :: ifGcm gcm .setAad (.encrypt :: ifGcm gcm .getTag (openKinds gcm))

/-- An `encrypt` call as the checks see it: its source, the octets then found
in `[dst, dst + len)`, the reported `len`, and the octets and length of the
`get_tag` call that followed it, if any. -/
structure Sealing where
  src : List UInt8
  out : List UInt8
  len : Nat
  tag : Option (List UInt8 × Nat)
  deriving DecidableEq, Repr

/-- A `decrypt` call: its source, the octets then found in `[dst, dst + len)`
and the reported `len`. -/
structure Opening where
  src : List UInt8
  out : List UInt8
  len : Nat
  deriving DecidableEq, Repr

/-- What the known-answer check accepts of an encryption of the plaintext:
with no tag, the output is the ciphertext; with one, the two reported lengths
add up to the ciphertext's in `size_t`, and when that sum does not wrap the
output followed by the tag is the ciphertext. -/
def Sealing.Yields (s : Sealing) (ct : List UInt8) : Prop :=
  match s.tag with
  | none => s.len = ct.length ∧ s.out = ct
  | some (tag, t) => (s.len + t) % sizeTModulus = ct.length ∧
      (s.len + t < sizeTModulus → s.out ++ tag = ct)

/-- A decryption gave back, length and octets, what an encryption was given. -/
def Opening.Undoes (o : Opening) (s : Sealing) : Prop :=
  o.out = s.src ∧ o.len = s.src.length

def aadCalls (c : SrtpCipher) (tc : SrtpCipherTestCase) : List SrtpCipherCall :=
  if c.algorithm.isAesGcm then [.setAad tc.aad] else []

/-- The `get_tag` call at offset `off`, `tag_len` holding `cap`, that gave
back `tag`, when there was one. -/
def tagCalls (off : Nat) (cap : Option Nat) : Option (List UInt8 × Nat) → List SrtpCipherCall
  | none => []
  | some (out, t) => [.getTag off cap out t]

/-- The calls that made the sealing `s`, `tag_len` holding `cap` before its
`get_tag`. -/
def Sealing.calls (s : Sealing) (cap : Option Nat) : List SrtpCipherCall :=
  .encrypt s.src selfTestBufOctets s.out s.len :: tagCalls s.len cap s.tag

def Opening.call (o : Opening) : SrtpCipherCall :=
  .decrypt o.src selfTestBufOctets o.out o.len

/-- The calls of an encryption pass under `key` that made the sealing `s`. -/
def sealCalls (c : SrtpCipher) (tc : SrtpCipherTestCase) (key : List UInt8) (s : Sealing)
    (cap : Option Nat) : List SrtpCipherCall :=
  [.init key, .setIv tc.idx .encrypt] ++ aadCalls c tc ++ s.calls cap

/-- The calls of a decryption pass under `key` that made the opening `o`. -/
def openCalls (c : SrtpCipher) (tc : SrtpCipherTestCase) (key : List UInt8) (o : Opening) :
    List SrtpCipherCall :=
  [.init key, .setIv tc.idx .decrypt] ++ aadCalls c tc ++ [o.call]

/-- The array `key[MAX_KEY_LEN]` after `srtp_cipher_rand_for_tests(key,
keyLen)` drew from position `d` of the stream; the rest of the array is as it
was, taken as zeros. -/
def drawnKey (rand : Nat → Nat) (keyLen d : Nat) : List UInt8 :=
  randOctets rand d keyLen ++ List.replicate (maxKeyLen - keyLen) 0

/-- What the tag step left, from `buffer` and `len` with `tag_len` holding
`cap`, when it falls through: nothing changed without a tag; with a tag of `t`
octets written at `len`, the octets before it are kept, `len` is the `size_t`
sum and `tag_len` holds `t`. -/
def TagStep (buffer : List UInt8) (len : Nat) (cap : Option Nat) :
    Option (List UInt8 × Nat) → List UInt8 × Nat × Option Nat → Prop
  | none, r => r = (buffer, len, cap)
  | some (out, t), r => out = window r.1 len t ∧ window r.1 0 len = window buffer 0 len ∧
      r.2.1 = (len + t) % sizeTModulus ∧ r.2.2 = some t

/-- The two checks of a known-answer encryption, on the length and on the
octets, make what the tag step left yield the ciphertext. -/
theorem Sealing.yields_of_tagStep {buffer src ct : List UInt8} {e : Nat} {cap : Option Nat}
    {tag : Option (List UInt8 × Nat)} {r : List UInt8 × Nat × Option Nat}
    (ht : TagStep buffer e cap tag r) (hl : r.2.1 = ct.length)
    (hw : window r.1 0 ct.length = ct) : Sealing.Yields ⟨src, window buffer 0 e, e, tag⟩ ct := by
  cases tag with
  | none =>
    subst ht
    exact ⟨hl, by rw [show e = ct.length from hl]; exact hw⟩
  | some p =>
    obtain ⟨out, t⟩ := p
    obtain ⟨rfl, hpre, hlen, -⟩ := ht
    refine ⟨hlen ▸ hl, fun hlt => ?_⟩
    rw [hlen, Nat.mod_eq_of_lt hlt] at hl
    show window buffer 0 e ++ window r.1 e t = ct
    rw [← hpre, ← window_zero_add, hl, hw]

/-! ### A stretch of calls -/

section Stretch

variable (c : SrtpCipher) (tc : SrtpCipherTestCase) (tr : List Event) (ks : List CallKind)

/-- `xs` may begin the calls of a stretch planned as `ks`. -/
def Planned (xs : List SrtpCipherCall) : Prop :=
  xs.map SrtpCipherCall.kind <+: ks ∧ ∀ x ∈ xs, TestArgs tc x

/-- The calls `xs` of the stretch are made, each answering `ok`, the kinds
`rest` of the plan are still to come, and `d` values of the `rand()` stream
are drawn. -/
def Made (xs : List SrtpCipherCall) (rest : List CallKind) (d : Nat) (w : World σ) : Prop :=
  xs.map SrtpCipherCall.kind ++ rest = ks ∧ (∀ x ∈ xs, TestArgs tc x) ∧
    w.trace = tr ++ okCalls c xs ∧ w.draws = d

/-- The calls `xs` are made, each answering `ok`, and then `x`, answering `s`. -/
def Called (xs : List SrtpCipherCall) (x : SrtpCipherCall) (s : SrtpErrStatus)
    (rest : List CallKind) (d : Nat) (w : World σ) : Prop :=
  xs.map SrtpCipherCall.kind ++ x.kind :: rest = ks ∧ (∀ y ∈ xs, TestArgs tc y) ∧
    TestArgs tc x ∧ w.trace = tr ++ okCalls c xs ++ [.call c x s] ∧ w.draws = d

/-- How a stretch on `c` planned as `ks` and started on `tr` may end: falling
through as `N` says; returning a failure `r` after some planned calls that
answered `ok`, either the next planned call having answered `r` or a check of
the caller's own having failed, followed by the `dealloc` of `c`; or undefined
behaviour after some planned calls that answered `ok`. -/
def Stops {α : Type} (N : α → World σ → Prop) : Post σ SrtpErrStatus α :=
  ⟨N, fun r w => r ≠ .ok ∧ ∃ xs s, Planned tc ks xs ∧
      ((∃ x, Planned tc ks (xs ++ [x]) ∧
          w.trace = tr ++ okCalls c xs ++ [.call c x r, .call c .dealloc s]) ∨
        w.trace = tr ++ okCalls c xs ++ [.verdict r, .call c .dealloc s]),
    fun _ w => ∃ xs, Planned tc ks xs ∧ w.trace = tr ++ okCalls c xs⟩

end Stretch

/-! ### Rules -/

section Rules

variable (ct : SrtpCipherType σ) {c : SrtpCipher} {tc : SrtpCipherTestCase} {tr : List Event}
  {ks : List CallKind} {xs : List SrtpCipherCall} {rest : List CallKind} {d : Nat}
  {α β : Type}

theorem made_nil {w : World σ} (htr : w.trace = tr) (hd : w.draws = d) :
    Made c tc tr ks [] ks d w :=
  ⟨rfl, (fun _ h => nomatch h), by rw [htr, okCalls_nil, List.append_nil], hd⟩

theorem Made.planned {w : World σ} (h : Made c tc tr ks xs rest d w) : Planned tc ks xs :=
  ⟨⟨rest, h.1⟩, h.2.1⟩

theorem Made.congr {xs' : List SrtpCipherCall} {w : World σ} (h : Made c tc tr ks xs rest d w)
    (hx : xs = xs') : Made c tc tr ks xs' rest d w :=
  hx ▸ h

/-- One more call, `x`, answering `s`, leaves the draws alone. -/
theorem Made.called {w w' : World σ} {x : SrtpCipherCall} {s : SrtpErrStatus}
    (h : Made c tc tr ks xs (x.kind :: rest) d w) (ha : TestArgs tc x)
    (htr : w'.trace = w.trace ++ [.call c x s]) (hd : w'.draws = w.draws) :
    Called c tc tr ks xs x s rest d w' :=
  ⟨h.1, h.2.1, ha, by rw [htr, h.2.2.1], hd.trans h.2.2.2⟩

/-- `m` only reads the world: it falls through with a value `D` allows or its
behaviour is undefined, leaving the world as it was. -/
def Reads {ρ : Type} (D : α → Prop) (m : Exec σ ρ α) : Prop :=
  ∀ w, (∃ a, D a ∧ m w = .next a w) ∨ ∃ u, m w = .fault u w

theorem Reads.made {D : α → Prop} {m : Exec σ SrtpErrStatus α} (h : Reads D m) :
    Triple (Made c tc tr ks xs rest d) m
      (Stops c tc tr ks fun a w => D a ∧ Made c tc tr ks xs rest d w) := by
  intro w hw
  rcases h w with ⟨a, ha, he⟩ | ⟨u, he⟩ <;> rw [he]
  · exact (Post.holds_next ..).mpr ⟨ha, hw⟩
  · exact (Post.holds_fault ..).mpr ⟨xs, hw.planned, hw.2.2.1⟩

theorem copyOctets_reads {ρ : Type} (a : SrtpArray) (dst : List UInt8) (b : SrtpArray)
    (src : List UInt8) (n : Nat) :
    Reads (fun r => n ≤ src.length ∧ n ≤ dst.length ∧ r = src.take n ++ dst.drop n)
      (copyOctets (σ := σ) (ρ := ρ) a dst b src n) := fun w => by
  unfold copyOctets
  split
  · exact .inl ⟨_, ⟨‹_ ∧ _›.1, ‹_ ∧ _›.2, rfl⟩, rfl⟩
  · exact .inr ⟨_, rfl⟩

theorem octetsDiffer_reads (a : SrtpArray) (x : List UInt8) (b : SrtpArray) (y : List UInt8)
    (n : Nat) :
    Reads (fun r => r = (window x 0 n != window y 0 n)) (octetsDiffer (σ := σ) a x b y n) :=
  fun w => by by_cases hx : n ≤ x.length <;> by_cases hy : n ≤ y.length <;>
    simp [octetsDiffer, load, hx, hy]

theorem debugHex_made (debug : Bool) (a : SrtpArray) (data : List UInt8) (n : Nat) :
    Triple (Made c tc tr ks xs rest d) (debugHex (σ := σ) debug a data n)
      (Stops c tc tr ks fun _ => Made c tc tr ks xs rest d) := by
  refine Reads.made (D := fun _ => True) (fun w => ?_) |>.conseq (fun _ _ h => h.2)
    (fun _ _ h => h) fun _ _ h => h
  by_cases h : n ≤ data.length <;> cases debug <;> simp [debugHex, load, h]

theorem srtpCipherRandForTests_made (rand : Nat → Nat) (a : SrtpArray) (dest : List UInt8)
    (len : Nat) :
    Triple (Made c tc tr ks xs rest d) (srtpCipherRandForTests (σ := σ) rand a dest len)
      (Stops c tc tr ks fun r w => r = randOctets rand d len ++ dest.drop len ∧
        Made c tc tr ks xs rest (d + len) w) := by
  rintro w ⟨hks, ha, htr, rfl⟩
  unfold srtpCipherRandForTests writeAt
  split
  next h =>
    split at h
    · cases h
      exact (Post.holds_next ..).mpr ⟨by simp [randOctets], hks, ha, htr, rfl⟩
    · cases h
  · exact (Post.holds_fault ..).mpr ⟨xs, ⟨⟨rest, hks⟩, ha⟩, htr⟩

theorem srtpCipherRandU32ForTests_made (rand : Nat → Nat) :
    Triple (Made c tc tr ks xs rest d) (srtpCipherRandU32ForTests (σ := σ) rand)
      (Stops c tc tr ks fun _ => Made c tc tr ks xs rest (d + 4)) :=
  fun _ ⟨hks, ha, htr, hd⟩ => (Post.holds_next ..).mpr ⟨hks, ha, htr, by simp [hd]⟩

theorem dispatch_made (call : SrtpCipherCall) (op : Except SrtpErrStatus (σ → SrtpErrStatus × σ))
    (ha : TestArgs tc call) :
    Triple (Made c tc tr ks xs (call.kind :: rest) d) (dispatch c call op)
      (Stops c tc tr ks fun s => Called c tc tr ks xs call s rest d) := by
  intro w hw
  cases op <;> exact (Post.holds_next ..).mpr (hw.called ha rfl rfl)

theorem srtpCipherDealloc_next (c : SrtpCipher) (w : World σ) :
    ∃ s w', srtpCipherDealloc (ρ := SrtpErrStatus) ct c w = .next s w' ∧
      w'.trace = w.trace ++ [.call c .dealloc s] := by
  unfold srtpCipherDealloc dispatch
  split <;> exact ⟨_, _, rfl, rfl⟩

/-- A status checked at once: `ok` goes on with the call made, anything else
deallocates and returns it. -/
theorem checkStatus_made {x : SrtpCipherCall} (s : SrtpErrStatus) :
    Triple (Called c tc tr ks xs x s rest d) (checkStatus ct c s)
      (Stops c tc tr ks fun _ w => s = .ok ∧ Made c tc tr ks (xs ++ [x]) rest d w) := by
  rintro w ⟨hks, hxs, hx, htr, hd⟩
  have hks' : (xs ++ [x]).map SrtpCipherCall.kind ++ rest = ks := by simpa using hks
  have hargs : ∀ y ∈ xs ++ [x], TestArgs tc y := fun y hy =>
    (List.mem_append.mp hy).elim (hxs y) fun h => List.eq_of_mem_singleton h ▸ hx
  unfold checkStatus
  split
  next hs =>
    subst hs
    exact (Post.holds_next ..).mpr ⟨rfl, hks', hargs, by simp [htr], hd⟩
  next hs =>
    obtain ⟨s', w', he, htr'⟩ := srtpCipherDealloc_next ct c w
    simp only [Exec.bind_apply, he, Outcome.next_bind]
    exact (Post.holds_done ..).mpr ⟨hs, xs, s', ⟨⟨_, hks⟩, hxs⟩,
      .inl ⟨x, ⟨⟨rest, hks'⟩, hargs⟩, by simp [htr', htr]⟩⟩

/-- A call the code fixes, whose status is checked at once. -/
theorem dispatch_checked (call : SrtpCipherCall)
    (op : Except SrtpErrStatus (σ → SrtpErrStatus × σ)) (ha : TestArgs tc call)
    {k : Unit → Exec σ SrtpErrStatus β} {N : β → World σ → Prop}
    (hk : Triple (Made c tc tr ks (xs ++ [call]) rest d) (k ()) (Stops c tc tr ks N)) :
    Triple (Made c tc tr ks xs (call.kind :: rest) d)
      (dispatch c call op >>= fun s => checkStatus ct c s >>= k) (Stops c tc tr ks N) :=
  Triple.bind (dispatch_made call op ha) fun s =>
    Triple.bind (checkStatus_made ct s) fun _ => Triple.assume_and fun _ => hk

theorem failCheck_made {s : SrtpErrStatus} (hs : s ≠ .ok) {N : Unit → World σ → Prop} :
    Triple (Made c tc tr ks xs rest d) (failCheck ct c s) (Stops c tc tr ks N) := by
  rintro w ⟨hks, hxs, htr, -⟩
  obtain ⟨s', w', he, htr'⟩ := srtpCipherDealloc_next ct c (w.record (.verdict s))
  simp only [failCheck, Exec.bind_apply, emit, Outcome.next_bind, he]
  exact (Post.holds_done ..).mpr ⟨hs, xs, s', ⟨⟨rest, hks⟩, hxs⟩, .inr (by simp [htr', htr])⟩

/-- An in-place `encrypt` or `decrypt` records its call, and one that answers
`ok` records the source it was handed and the output it left. -/
theorem dispatchInPlace_made (a : SrtpArray) (buf : List UInt8) (srcLen dstLen : Nat)
    (call : List UInt8 → Nat → List UInt8 → Nat → SrtpCipherCall) {k : CallKind}
    (hk : ∀ s n o l, (call s n o l).kind = k) (hka : k ≠ .setIv ∧ k ≠ .setAad)
    (op : σ → List UInt8 → Nat → SrtpCipherOutput × σ) :
    Triple (Made c tc tr ks xs (k :: rest) d) (dispatchInPlace c a buf srcLen dstLen call op)
      (Stops c tc tr ks fun r w => ∃ x, (r.1 = .ok →
          x = call (window buf 0 srcLen) dstLen (window r.2.1 0 r.2.2) r.2.2) ∧
        Called c tc tr ks xs x r.1 rest d w) := by
  intro w hw
  have hcall : ∀ {o l}, Made c tc tr ks xs
      ((call (window buf 0 srcLen) dstLen o l).kind :: rest) d w := by
    intro o l; rw [hk]; exact hw
  have ha : ∀ {o l}, TestArgs tc (call (window buf 0 srcLen) dstLen o l) :=
    testArgs_of_kind ((hk _ _ _ _).symm ▸ hka)
  unfold dispatchInPlace
  split
  · exact (Post.holds_fault ..).mpr ⟨xs, hw.planned, hw.2.2.1⟩
  simp only [dispatchOutput, Exec.bind_apply]
  split
  next s hs =>
    refine (Post.holds_next ..).mpr ⟨_, fun h => ?_, hcall.called ha rfl rfl⟩
    subst h
    split at hs <;> simp at hs
  · split
    · exact (Post.holds_fault ..).mpr ⟨xs, hw.planned, hw.2.2.1⟩
    · exact (Post.holds_next ..).mpr ⟨_, fun _ => rfl, hcall.called ha rfl rfl⟩

theorem srtpCipherEncrypt_made (a : SrtpArray) (buf : List UInt8) (srcLen dstLen : Nat) :
    Triple (Made c tc tr ks xs (.encrypt :: rest) d) (srtpCipherEncrypt ct c a buf srcLen dstLen)
      (Stops c tc tr ks fun r w => ∃ x, (r.1 = .ok →
          x = .encrypt (window buf 0 srcLen) dstLen (window r.2.1 0 r.2.2) r.2.2) ∧
        Called c tc tr ks xs x r.1 rest d w) :=
  dispatchInPlace_made a buf srcLen dstLen .encrypt (fun _ _ _ _ => rfl) (by decide) _

theorem srtpCipherDecrypt_made (a : SrtpArray) (buf : List UInt8) (srcLen dstLen : Nat) :
    Triple (Made c tc tr ks xs (.decrypt :: rest) d) (srtpCipherDecrypt ct c a buf srcLen dstLen)
      (Stops c tc tr ks fun r w => ∃ x, (r.1 = .ok →
          x = .decrypt (window buf 0 srcLen) dstLen (window r.2.1 0 r.2.2) r.2.2) ∧
        Called c tc tr ks xs x r.1 rest d w) :=
  dispatchInPlace_made a buf srcLen dstLen .decrypt (fun _ _ _ _ => rfl) (by decide) _

/-- A `get_tag` at `buf + off` that answers `ok` stores a length in `tag_len`,
leaves the `off` octets before it and records what it wrote. -/
theorem srtpCipherGetTag_made (a : SrtpArray) (buf : List UInt8) (off : Nat)
    (tagLen : Option Nat) :
    Triple (Made c tc tr ks xs (.getTag :: rest) d) (srtpCipherGetTag ct c a buf off tagLen)
      (Stops c tc tr ks fun r w => ∃ x, (r.1 = .ok → ∃ t, r.2.2 = some t ∧
          window r.2.1 0 off = window buf 0 off ∧ x = .getTag off tagLen (window r.2.1 off t) t) ∧
        Called c tc tr ks xs x r.1 rest d w) := by
  intro w hw
  simp only [srtpCipherGetTag, dispatchOutput, Exec.bind_apply]
  split
  next s hs =>
    refine (Post.holds_next ..).mpr
      ⟨_, fun h => ?_, hw.called (x := .getTag off tagLen [] 0) trivial rfl rfl⟩
    subst h
    split at hs <;> (try split at hs) <;> simp at hs
  · split
    · exact (Post.holds_fault ..).mpr ⟨xs, hw.planned, hw.2.2.1⟩
    · exact (Post.holds_next ..).mpr ⟨_, fun _ => ⟨_, rfl, window_writeAt_prefix ‹_›, rfl⟩,
        hw.called (x := .getTag off tagLen _ _) trivial rfl rfl⟩

end Rules

/-! ### The pieces -/

section Pieces

variable (ct : SrtpCipherType σ) (debug : Bool) {c : SrtpCipher} {tc : SrtpCipherTestCase}
  {tr : List Event} {ks : List CallKind} {xs : List SrtpCipherCall} {rest : List CallKind}
  {d : Nat}

theorem setAadIfGcm_made (dumpIv : Bool) :
    Triple (Made c tc tr ks xs (ifGcm c.algorithm.isAesGcm .setAad rest) d)
      (setAadIfGcm ct debug c tc dumpIv)
      (Stops c tc tr ks fun _ => Made c tc tr ks (xs ++ aadCalls c tc) rest d) := by
  unfold setAadIfGcm
  split
  next hg =>
    rw [ifGcm, if_pos hg, aadCalls, if_pos hg]
    refine Triple.ite_join (fun _ => debugHex_made _ _ _ _) (fun _ => Triple.pure fun _ hw => hw)
      fun _ => ?_
    exact dispatch_checked ct (.setAad tc.aad) _ rfl (debugHex_made _ _ _ _)
  next hg =>
    rw [ifGcm, if_neg hg, aadCalls, if_neg hg, List.append_nil]
    exact Triple.pure fun _ hw => hw

theorem appendTagIfGcm_made (buffer : List UInt8) (len : Nat) (cap : Option Nat) :
    Triple (Made c tc tr ks xs (ifGcm c.algorithm.isAesGcm .getTag rest) d)
      (appendTagIfGcm ct c buffer len cap)
      (Stops c tc tr ks fun r w => ∃ tag, TagStep buffer len cap tag r ∧
        Made c tc tr ks (xs ++ tagCalls len cap tag) rest d w) := by
  unfold appendTagIfGcm
  split
  next hg =>
    rw [ifGcm, if_pos hg]
    refine Triple.bind (srtpCipherGetTag_made ct .buffer buffer len cap) fun ⟨s, buf, t'⟩ =>
      Triple.ex fun x => Triple.assume_and fun hx =>
        Triple.bind (checkStatus_made ct s) fun _ => Triple.assume_and fun hs => ?_
    obtain ⟨t, rfl, hpre, rfl⟩ := hx hs
    exact Triple.pure fun _ hw => ⟨some (window buf len t, t), ⟨rfl, hpre, rfl, rfl⟩, hw⟩
  next hg =>
    rw [ifGcm, if_neg hg]
    exact Triple.pure fun _ hw => ⟨none, rfl, hw.congr (List.append_nil _).symm⟩

/-- The encryption pass of a known-answer case: when it falls through, its
calls sealed the plaintext into something that yields the ciphertext. -/
theorem testEncryption_calls (l : TestLocals) :
    Triple (Made c tc tr (sealKinds c.algorithm.isAesGcm) [] (sealKinds c.algorithm.isAesGcm) d)
      (testEncryption ct debug c tc l)
      (Stops c tc tr (sealKinds c.algorithm.isAesGcm) fun _ w => ∃ s cap,
        (s.src = tc.plaintext ∧ s.Yields tc.ciphertext) ∧
        Made c tc tr (sealKinds c.algorithm.isAesGcm) (sealCalls c tc tc.key s cap) [] d w) := by
  unfold testEncryption
  refine dispatch_checked ct (.init tc.key) _ trivial ?_
  refine Triple.early_return (fun _ => failCheck_made ct (by decide)) fun _ => ?_
  refine Triple.bind (copyOctets_reads _ _ _ _ _).made fun buffer =>
    Triple.assume_and fun ⟨_, _, hb⟩ => ?_
  refine Triple.bind (debugHex_made _ _ _ _) fun _ => ?_
  refine dispatch_checked ct (.setIv tc.idx .encrypt) _ rfl ?_
  refine Triple.bind (setAadIfGcm_made ct debug true) fun _ => ?_
  refine Triple.bind (srtpCipherEncrypt_made ct .buffer _ _ _) fun ⟨s, buf, e⟩ =>
    Triple.ex fun x => Triple.assume_and fun hx =>
      Triple.bind (checkStatus_made ct s) fun _ => Triple.assume_and fun hs => ?_
  obtain rfl := hx hs
  refine Triple.bind (appendTagIfGcm_made ct _ _ _) fun ⟨buf', len, tagLen⟩ =>
    Triple.ex fun tag => Triple.assume_and fun htag => ?_
  refine Triple.bind (debugHex_made _ _ _ _) fun _ => ?_
  refine Triple.early_return (fun _ => failCheck_made ct (by decide)) fun hlen => ?_
  refine Triple.bind (octetsDiffer_reads _ _ _ _ _).made fun differ =>
    Triple.assume_and fun hd => ?_
  refine Triple.ite (fun _ => ?_) fun hnd => ?_
  · refine Triple.bind (debugHex_made _ _ _ _) fun _ => ?_
    refine Triple.bind (debugHex_made _ _ _ _) fun _ => ?_
    exact Triple.bind (failCheck_made ct (by decide) (N := fun _ _ => False)) fun _ _ h => h.elim
  · have hwin : window buf' 0 tc.ciphertext.length = tc.ciphertext := by
      simpa [hd, window] using hnd
    refine Triple.bind (R := fun _ => Made c tc tr _ _ [] d) (Triple.pure fun _ h => h) fun _ =>
      Triple.pure fun _ hw => ⟨⟨window buffer 0 tc.plaintextLengthOctets, window buf 0 e, e, tag⟩,
        l.tagLen,
        ⟨by simp [hb, window], Sealing.yields_of_tagStep htag (not_not.mp hlen) hwin⟩,
        hw.congr (by simp [sealCalls, Sealing.calls])⟩

/-- The decryption pass of a known-answer case: when it falls through, its
calls opened the ciphertext into the plaintext. -/
theorem testDecryption_calls (l : TestLocals) :
    Triple (Made c tc tr (openKinds c.algorithm.isAesGcm) [] (openKinds c.algorithm.isAesGcm) d)
      (testDecryption ct debug c tc l)
      (Stops c tc tr (openKinds c.algorithm.isAesGcm) fun _ =>
        Made c tc tr (openKinds c.algorithm.isAesGcm)
          (openCalls c tc tc.key ⟨tc.ciphertext, tc.plaintext, tc.plaintext.length⟩) [] d) := by
  unfold testDecryption
  refine dispatch_checked ct (.init tc.key) _ trivial ?_
  refine Triple.early_return (fun _ => failCheck_made ct (by decide)) fun _ => ?_
  refine Triple.bind (copyOctets_reads _ _ _ _ _).made fun buffer =>
    Triple.assume_and fun ⟨_, _, hb⟩ => ?_
  refine Triple.bind (debugHex_made _ _ _ _) fun _ => ?_
  refine dispatch_checked ct (.setIv tc.idx .decrypt) _ rfl ?_
  refine Triple.bind (setAadIfGcm_made ct debug false) fun _ => ?_
  refine Triple.bind (srtpCipherDecrypt_made ct .buffer _ _ _) fun ⟨s, buf, len⟩ =>
    Triple.ex fun x => Triple.assume_and fun hx =>
      Triple.bind (checkStatus_made ct s) fun _ => Triple.assume_and fun hs => ?_
  obtain rfl := hx hs
  refine Triple.bind (debugHex_made _ _ _ _) fun _ => ?_
  refine Triple.early_return (fun _ => failCheck_made ct (by decide)) fun hlen => ?_
  refine Triple.bind (octetsDiffer_reads _ _ _ _ _).made fun differ =>
    Triple.assume_and fun hd => ?_
  refine Triple.ite (fun _ => ?_) fun hnd => ?_
  · refine Triple.bind (debugHex_made _ _ _ _) fun _ => ?_
    refine Triple.bind (debugHex_made _ _ _ _) fun _ => ?_
    exact Triple.bind (failCheck_made ct (by decide) (N := fun _ _ => False)) fun _ _ h => h.elim
  · have hsrc : window buffer 0 tc.ciphertext.length = tc.ciphertext := by simp [hb, window]
    have hwin : window buf 0 tc.plaintext.length = tc.plaintext := by
      simpa [hd, window] using hnd
    obtain rfl := not_not.mp hlen
    exact Triple.bind (R := fun _ => Made c tc tr _ _ [] d) (Triple.pure fun _ h => h) fun _ =>
      Triple.pure fun _ hw => hw.congr (by simp [openCalls, Opening.call, hsrc, hwin])

/-- A randomized trial: when it falls through, it drew the length of its
plaintext, the plaintext and its key from the stream in that order, and its
calls under that key decrypted to what they had encrypted. -/
theorem randTrial_calls (rand : Nat → Nat) (l : TestLocals) :
    Triple (Made c tc tr (trialKinds c.algorithm.isAesGcm) [] (trialKinds c.algorithm.isAesGcm) d)
      (randTrial ct debug rand c tc l)
      (Stops c tc tr (trialKinds c.algorithm.isAesGcm) fun _ w => ∃ pl s cap o, o.Undoes s ∧
        Made c tc tr (trialKinds c.algorithm.isAesGcm)
          (sealCalls c tc (drawnKey rand tc.keyLengthOctets (d + 4 + pl)) s cap ++
            openCalls c tc (drawnKey rand tc.keyLengthOctets (d + 4 + pl)) o) []
          (d + 4 + pl + tc.keyLengthOctets + maxKeyLen) w) := by
  unfold randTrial
  refine Triple.bind (srtpCipherRandU32ForTests_made rand) fun u => ?_
  generalize u % (selfTestBufOctets - 64) = pl
  refine Triple.bind (srtpCipherRandForTests_made _ _ _ _) fun buffer =>
    Triple.assume_and fun _ => ?_
  refine Triple.bind (debugHex_made _ _ _ _) fun _ => ?_
  refine Triple.bind (copyOctets_reads _ _ _ _ _).made fun buffer2 =>
    Triple.assume_and fun ⟨hpl, _, hb2⟩ => ?_
  subst hb2
  refine Triple.early_return (fun _ => failCheck_made ct (by decide)) fun _ => ?_
  refine Triple.bind (srtpCipherRandForTests_made _ _ _ _) fun key =>
    Triple.assume_and fun hkey => ?_
  refine Triple.bind (srtpCipherRandForTests_made _ _ _ _) fun _ =>
    Triple.assume_and fun _ => ?_
  have hkey : key = drawnKey rand tc.keyLengthOctets (d + 4 + pl) := by
    simp [hkey, drawnKey, List.drop_replicate]
  subst hkey
  refine dispatch_checked ct (.init _) _ trivial ?_
  refine dispatch_checked ct (.setIv tc.idx .encrypt) _ rfl ?_
  refine Triple.bind (setAadIfGcm_made ct debug false) fun _ => ?_
  refine Triple.bind (srtpCipherEncrypt_made ct .buffer _ _ _) fun ⟨s, buf, e⟩ =>
    Triple.ex fun x => Triple.assume_and fun hx =>
      Triple.bind (checkStatus_made ct s) fun _ => Triple.assume_and fun hs => ?_
  obtain rfl := hx hs
  refine Triple.bind (appendTagIfGcm_made ct _ _ _) fun ⟨buf', len, tagLen⟩ =>
    Triple.ex fun tag => Triple.assume_and fun _ => ?_
  refine Triple.bind (debugHex_made _ _ _ _) fun _ => ?_
  refine dispatch_checked ct (.init _) _ trivial ?_
  refine dispatch_checked ct (.setIv tc.idx .decrypt) _ rfl ?_
  refine Triple.bind (setAadIfGcm_made ct debug false) fun _ => ?_
  refine Triple.bind (srtpCipherDecrypt_made ct .buffer _ _ _) fun ⟨s, buf'', dlen⟩ =>
    Triple.ex fun x => Triple.assume_and fun hx =>
      Triple.bind (checkStatus_made ct s) fun _ => Triple.assume_and fun hs => ?_
  obtain rfl := hx hs
  refine Triple.bind (debugHex_made _ _ _ _) fun _ => ?_
  refine Triple.early_return (fun _ => failCheck_made ct (by decide)) fun hlen => ?_
  refine Triple.bind (octetsDiffer_reads _ _ _ _ _).made fun differ =>
    Triple.assume_and fun hd => ?_
  obtain rfl := not_not.mp hlen
  refine Triple.early_return (fun _ => failCheck_made ct (by decide)) fun h =>
    Triple.pure fun _ hw => ⟨dlen, ⟨window buffer 0 dlen, window buf 0 e, e, tag⟩, l.tagLen,
      ⟨window buf' 0 len, window buf'' 0 dlen, dlen⟩, ⟨?_, ?_⟩, hw.congr ?_⟩
  · simpa [hd, window, Nat.min_eq_left hpl] using h
  · simp [window, Nat.min_eq_left hpl]
  · simp [sealCalls, openCalls, Sealing.calls, Opening.call, Nat.add_assoc]

end Pieces

end CipherMeta
