import CipherMeta.Exec

/-!
The dispatch layer of cipher.c, lines 64-173: `srtp_cipher_type_alloc` through
`srtp_cipher_set_aad`, `srtp_cipher_output` and `srtp_cipher_get_key_length`.
Each dispatcher checks the instance (`!c || !c->type || !c->state`; `c` itself
is never NULL in the callers modelled), answers `srtp_err_status_bad_param`
or, for a missing optional operation, `srtp_err_status_no_such_op`, and
otherwise forwards to the cipher type's table. Every dispatched call is
recorded in the trace with the status it returns; a call the dispatcher
refuses is recorded with no output.

`Records` says once what one dispatched call does to the trace, so that the
proofs about the self-test never unfold a dispatcher. The last section states
what the checks do, for all dispatchers at once, and where `srtp_cipher_dealloc`
and `srtp_cipher_output` check less than the others.
-/

namespace CipherMeta

variable {σ ρ : Type}

/-- `!c->type || !c->state`. -/
def SrtpCipher.unusable (c : SrtpCipher) : Bool := !c.type || !c.state

theorem SrtpCipher.type_of_usable {c : SrtpCipher} (hc : c.unusable = false) : c.type = true := by
  simp only [SrtpCipher.unusable, Bool.or_eq_false_iff, Bool.not_eq_false'] at hc
  exact hc.1

/-- A dispatcher returning only a status: either its own (`error`) or the one
of the table entry it forwards to. -/
def dispatch (c : SrtpCipher) (call : SrtpCipherCall)
    (op : Except SrtpErrStatus (σ → SrtpErrStatus × σ)) : Exec σ ρ SrtpErrStatus := fun w =>
  match op with
  | .error s => .next s (w.record (.call c call s))
  | .ok f => .next (f w.cipher).1 ({ w with cipher := (f w.cipher).2 }.record
      (.call c call (f w.cipher).1))

/-- A dispatcher of an operation that writes output at `buf + off`, in array
`a`: the octets the operation writes are stored there (undefined when they
reach past `buf`), and the call is recorded with what the caller then finds
in `[buf + off, buf + off + len)`. The length is `none` when the dispatcher
refused the call and stored nothing through the length pointer. -/
def dispatchOutput (c : SrtpCipher) (a : SrtpArray) (buf : List UInt8) (off : Nat)
    (call : List UInt8 → Nat → SrtpCipherCall)
    (op : Except SrtpErrStatus (σ → SrtpCipherOutput × σ)) :
    Exec σ ρ (SrtpErrStatus × List UInt8 × Option Nat) := fun w =>
  match op with
  | .error s => .next (s, buf, none) (w.record (.call c (call [] 0) s))
  | .ok f =>
    match writeAt buf off (f w.cipher).1.written with
    | none => .fault (.outside a) { w with cipher := (f w.cipher).2 }
    | some buf' => .next ((f w.cipher).1.status, buf', some (f w.cipher).1.len)
        ({ w with cipher := (f w.cipher).2 }.record
          (.call c (call (window buf' off (f w.cipher).1.len) (f w.cipher).1.len)
            (f w.cipher).1.status))

/-- `srtp_cipher_type_alloc(ct, &c, key_len, tlen)`: the status and the
instance stored in `c` (left at its default when `ct->alloc` is NULL). -/
def srtpCipherTypeAlloc (ct : SrtpCipherType σ) (keyLen tlen : Nat) :
    Exec σ ρ (SrtpErrStatus × SrtpCipher) := fun w =>
  match ct.alloc with
  | none => .next (.badParam, default) (w.record (.call default (.alloc keyLen tlen) .badParam))
  | some alloc => .next ((alloc w.cipher keyLen tlen).1, (alloc w.cipher keyLen tlen).2.1)
      ({ w with cipher := (alloc w.cipher keyLen tlen).2.2 }.record
        (.call (alloc w.cipher keyLen tlen).2.1 (.alloc keyLen tlen)
          (alloc w.cipher keyLen tlen).1))

/-- `srtp_cipher_dealloc(c)`: it checks `c->type` only. -/
def srtpCipherDealloc (ct : SrtpCipherType σ) (c : SrtpCipher) : Exec σ ρ SrtpErrStatus :=
  dispatch c .dealloc (if c.type then .ok ct.dealloc else .error .badParam)

/-- `srtp_cipher_init(c, key)`. -/
def srtpCipherInit (ct : SrtpCipherType σ) (c : SrtpCipher) (key : List UInt8) :
    Exec σ ρ SrtpErrStatus :=
  dispatch c (.init key) (if c.unusable then .error .badParam else .ok (ct.init · key))

/-- `srtp_cipher_set_iv(c, iv, direction)`. -/
def srtpCipherSetIv (ct : SrtpCipherType σ) (c : SrtpCipher) (iv : List UInt8)
    (direction : SrtpCipherDirection) : Exec σ ρ SrtpErrStatus :=
  dispatch c (.setIv iv direction)
    (if c.unusable then .error .badParam else .ok (ct.setIv · iv direction))

/-- `srtp_cipher_set_aad(c, aad, aad_len)`, given the `aad_len` octets. -/
def srtpCipherSetAad (ct : SrtpCipherType σ) (c : SrtpCipher) (aad : List UInt8) :
    Exec σ ρ SrtpErrStatus :=
  dispatch c (.setAad aad) <|
    if c.unusable then .error .badParam
    else match ct.setAad with
      | none => .error .noSuchOp
      | some f => .ok (f · aad)

/-- `srtp_cipher_encrypt` and `srtp_cipher_decrypt` called as the harness calls
them, `(c, buf, src_len, buf, &len)` in place on array `a` with `len` holding
`dstLen`: past the dispatcher's check, the table entry `op` reads the `src_len`
octets at `buf`, undefined where they reach past the array, and writes its
output from `buf` on. Returns the status, the array and `len`. -/
def dispatchInPlace (c : SrtpCipher) (a : SrtpArray) (buf : List UInt8) (srcLen dstLen : Nat)
    (call : List UInt8 → Nat → List UInt8 → Nat → SrtpCipherCall)
    (op : σ → List UInt8 → Nat → SrtpCipherOutput × σ) :
    Exec σ ρ (SrtpErrStatus × List UInt8 × Nat) :=
  if !c.unusable && buf.length < srcLen then undefined (.outside a) else do
    let (status, buf, len) ← dispatchOutput c a buf 0 (call (window buf 0 srcLen) dstLen)
      (if c.unusable then .error .badParam else .ok (op · (window buf 0 srcLen) dstLen))
    pure (status, buf, len.getD dstLen)

def srtpCipherEncrypt (ct : SrtpCipherType σ) (c : SrtpCipher) (a : SrtpArray)
    (buf : List UInt8) (srcLen dstLen : Nat) : Exec σ ρ (SrtpErrStatus × List UInt8 × Nat) :=
  dispatchInPlace c a buf srcLen dstLen .encrypt ct.encrypt

def srtpCipherDecrypt (ct : SrtpCipherType σ) (c : SrtpCipher) (a : SrtpArray)
    (buf : List UInt8) (srcLen dstLen : Nat) : Exec σ ρ (SrtpErrStatus × List UInt8 × Nat) :=
  dispatchInPlace c a buf srcLen dstLen .decrypt ct.decrypt

/-- `srtp_cipher_get_tag(c, buf + off, &tag_len)` on array `a`, `tagLen` being
the value in `tag_len` (`none`: never initialized). Returns the status, the
array and the new value of `tag_len`. -/
def srtpCipherGetTag (ct : SrtpCipherType σ) (c : SrtpCipher) (a : SrtpArray)
    (buf : List UInt8) (off : Nat) (tagLen : Option Nat) :
    Exec σ ρ (SrtpErrStatus × List UInt8 × Option Nat) := do
  let (status, buf, len) ← dispatchOutput c a buf off (.getTag off tagLen) <|
    if c.unusable then .error .badParam
    else match ct.getTag with
      | none => .error .noSuchOp
      | some f => .ok (f · tagLen)
  pure (status, buf, len <|> tagLen)

/-- `srtp_cipher_output(c, buffer, &n)`: zero the first `n` octets of `buffer`,
then encrypt them in place through `c->type`, with no check of the instance. -/
def srtpCipherOutput (ct : SrtpCipherType σ) (c : SrtpCipher) (a : SrtpArray)
    (buf : List UInt8) (n : Nat) : Exec σ ρ (SrtpErrStatus × List UInt8 × Nat) := do
  let buf ← store a buf 0 (List.replicate n 0)
  if !c.type then undefined .nullType
  let (status, buf, len) ← dispatchOutput c a buf 0 (.encrypt (window buf 0 n) n)
    (.ok (ct.encrypt · (window buf 0 n) n))
  pure (status, buf, len.getD n)

def srtpCipherGetKeyLength (c : SrtpCipher) : Nat := c.keyLen

/-! ### What one dispatched call does to the trace -/

/-- `m` is one call of kind `k` on `c` whose status is `status` of its result:
it falls through after appending exactly that call to the trace, or is
undefined with the trace as it was. -/
def Records {α : Type} (c : SrtpCipher) (k : CallKind) (status : α → SrtpErrStatus)
    (m : Exec σ ρ α) : Prop :=
  ∀ w, match m w with
    | .next a w' => ∃ x, x.kind = k ∧ w'.trace = w.trace ++ [.call c x (status a)]
    | .done _ _ => False
    | .fault _ w' => w'.trace = w.trace

theorem dispatch_records (c : SrtpCipher) (call : SrtpCipherCall)
    (op : Except SrtpErrStatus (σ → SrtpErrStatus × σ)) :
    Records (ρ := ρ) c call.kind id (dispatch c call op) := by
  intro w
  cases op <;> exact ⟨call, rfl, rfl⟩

theorem dispatchOutput_records (c : SrtpCipher) (a : SrtpArray) (buf : List UInt8)
    (off : Nat) (call : List UInt8 → Nat → SrtpCipherCall) (k : CallKind)
    (hk : ∀ o n, (call o n).kind = k)
    (op : Except SrtpErrStatus (σ → SrtpCipherOutput × σ)) :
    Records (ρ := ρ) c k (·.1) (dispatchOutput c a buf off call op) := by
  intro w
  cases op with
  | error s => exact ⟨_, hk _ _, rfl⟩
  | ok f =>
    cases hw : writeAt buf off (f w.cipher).1.written with
    | none => simp only [dispatchOutput, hw]
    | some buf' => simp only [dispatchOutput, hw]; exact ⟨_, hk _ _, rfl⟩

/-- A final `pure` that keeps the status does not change what a call records. -/
theorem Records.map {α β : Type} {c : SrtpCipher} {k : CallKind} {status : α → SrtpErrStatus}
    {m : Exec σ ρ α} (h : Records c k status m) (g : α → β) (status' : β → SrtpErrStatus)
    (hg : ∀ a, status' (g a) = status a) :
    Records c k status' (m >>= fun a => pure (g a)) := by
  intro w
  have hw := h w
  simp only [Exec.bind_apply]
  revert hw
  cases m w with
  | next a w' => exact fun ⟨x, hx, ht⟩ => ⟨x, hx, by rw [ht, hg]⟩
  | done r w' => exact False.elim
  | fault u w' => exact id

theorem dispatchInPlace_records (c : SrtpCipher) (a : SrtpArray) (buf : List UInt8)
    (srcLen dstLen : Nat) (call : List UInt8 → Nat → List UInt8 → Nat → SrtpCipherCall)
    (k : CallKind) (hk : ∀ s d o n, (call s d o n).kind = k)
    (op : σ → List UInt8 → Nat → SrtpCipherOutput × σ) :
    Records (ρ := ρ) c k (·.1) (dispatchInPlace c a buf srcLen dstLen call op) := by
  unfold dispatchInPlace
  split
  · exact fun _ => rfl
  · exact (dispatchOutput_records c a buf 0 _ k (hk _ _) _).map _ _ fun _ => rfl

section Records

variable (ct : SrtpCipherType σ) (c : SrtpCipher)

theorem srtpCipherDealloc_records : Records (ρ := ρ) c .dealloc id (srtpCipherDealloc ct c) :=
  dispatch_records c .dealloc _

theorem srtpCipherInit_records (key : List UInt8) :
    Records (ρ := ρ) c .init id (srtpCipherInit ct c key) :=
  dispatch_records c (.init key) _

theorem srtpCipherSetIv_records (iv : List UInt8) (direction : SrtpCipherDirection) :
    Records (ρ := ρ) c .setIv id (srtpCipherSetIv ct c iv direction) :=
  dispatch_records c (.setIv iv direction) _

theorem srtpCipherSetAad_records (aad : List UInt8) :
    Records (ρ := ρ) c .setAad id (srtpCipherSetAad ct c aad) :=
  dispatch_records c (.setAad aad) _

theorem srtpCipherEncrypt_records (a : SrtpArray) (buf : List UInt8) (srcLen dstLen : Nat) :
    Records (ρ := ρ) c .encrypt (·.1) (srtpCipherEncrypt ct c a buf srcLen dstLen) :=
  dispatchInPlace_records c a buf srcLen dstLen .encrypt .encrypt (fun _ _ _ _ => rfl) _

theorem srtpCipherDecrypt_records (a : SrtpArray) (buf : List UInt8) (srcLen dstLen : Nat) :
    Records (ρ := ρ) c .decrypt (·.1) (srtpCipherDecrypt ct c a buf srcLen dstLen) :=
  dispatchInPlace_records c a buf srcLen dstLen .decrypt .decrypt (fun _ _ _ _ => rfl) _

theorem srtpCipherGetTag_records (a : SrtpArray) (buf : List UInt8) (off : Nat)
    (tagLen : Option Nat) :
    Records (ρ := ρ) c .getTag (·.1) (srtpCipherGetTag ct c a buf off tagLen) :=
  (dispatchOutput_records c a buf off (.getTag off tagLen) .getTag
    (fun _ _ => rfl) _).map _ _ fun _ => rfl

end Records

/-! ### What the checks of the dispatchers do -/

section Checks

variable (ct : SrtpCipherType σ) (c : SrtpCipher) (w : World σ)

/-- An instance without a type or a state is refused by every dispatcher that
checks it: the call answers `srtp_err_status_bad_param`, reaches no table
entry, leaves the implementation's memory and the caller's buffer as they were
and stores nothing through the length pointer. -/
theorem dispatchers_refuse_unusable (hc : c.unusable = true) (key iv aad buf : List UInt8)
    (direction : SrtpCipherDirection) (a : SrtpArray) (srcLen dstLen off : Nat)
    (tagLen : Option Nat) :
    srtpCipherInit (ρ := ρ) ct c key w = .next .badParam (w.record (.call c (.init key) .badParam)) ∧
    srtpCipherSetIv (ρ := ρ) ct c iv direction w =
      .next .badParam (w.record (.call c (.setIv iv direction) .badParam)) ∧
    srtpCipherSetAad (ρ := ρ) ct c aad w = .next .badParam (w.record (.call c (.setAad aad) .badParam)) ∧
    srtpCipherEncrypt (ρ := ρ) ct c a buf srcLen dstLen w = .next (.badParam, buf, dstLen)
      (w.record (.call c (.encrypt (window buf 0 srcLen) dstLen [] 0) .badParam)) ∧
    srtpCipherDecrypt (ρ := ρ) ct c a buf srcLen dstLen w = .next (.badParam, buf, dstLen)
      (w.record (.call c (.decrypt (window buf 0 srcLen) dstLen [] 0) .badParam)) ∧
    srtpCipherGetTag (ρ := ρ) ct c a buf off tagLen w = .next (.badParam, buf, tagLen)
      (w.record (.call c (.getTag off tagLen [] 0) .badParam)) := by
  simp [srtpCipherInit, srtpCipherSetIv, srtpCipherSetAad, srtpCipherEncrypt, srtpCipherDecrypt,
    dispatchInPlace, srtpCipherGetTag, dispatch, dispatchOutput, hc]

/-- A usable instance whose type has no `set_aad` or no `get_tag` gets
`srtp_err_status_no_such_op` from that dispatcher, which then stores nothing
through `tag_len`. -/
theorem dispatchers_no_such_op (hc : c.unusable = false) (aad buf : List UInt8) (a : SrtpArray)
    (off : Nat) (tagLen : Option Nat) :
    (ct.setAad = none → srtpCipherSetAad (ρ := ρ) ct c aad w =
      .next .noSuchOp (w.record (.call c (.setAad aad) .noSuchOp))) ∧
    (ct.getTag = none → srtpCipherGetTag (ρ := ρ) ct c a buf off tagLen w =
      .next (.noSuchOp, buf, tagLen) (w.record (.call c (.getTag off tagLen [] 0) .noSuchOp))) :=
  ⟨fun h => by simp [srtpCipherSetAad, dispatch, hc, h],
    fun h => by simp [srtpCipherGetTag, dispatchOutput, hc, h]⟩

/-- Unlike the other dispatchers, `srtp_cipher_dealloc` checks `c->type`
only, so it forwards to the table for an instance whose state is NULL; and
`srtp_cipher_output` checks nothing, so, given a type, it encrypts its zeroed
octets for an instance the other dispatchers refuse. -/
theorem dealloc_output_skip_checks (ht : c.type = true) (a : SrtpArray) (buf : List UInt8)
    (n : Nat) (hn : n ≤ buf.length)
    (hfit : (ct.encrypt w.cipher (List.replicate n 0) n).1.written.length ≤ buf.length) :
    srtpCipherDealloc (ρ := ρ) ct c w = .next (ct.dealloc w.cipher).1
      ({ w with cipher := (ct.dealloc w.cipher).2 }.record (.call c .dealloc (ct.dealloc w.cipher).1)) ∧
    ∃ buf' w', srtpCipherOutput (ρ := ρ) ct c a buf n w =
      .next ((ct.encrypt w.cipher (List.replicate n 0) n).1.status, buf',
        (ct.encrypt w.cipher (List.replicate n 0) n).1.len) w' ∧
      w'.cipher = (ct.encrypt w.cipher (List.replicate n 0) n).2 := by
  refine ⟨by simp [srtpCipherDealloc, dispatch, ht], ?_⟩
  have hz : (List.replicate n 0 ++ buf.drop n).length = buf.length := by simp; omega
  simp only [srtpCipherOutput, store, Exec.bind_apply,
    writeAt_zero buf (List.replicate n 0) (by simpa using hn), List.length_replicate,
    Outcome.next_bind, ht, Bool.not_true, Bool.false_eq_true, if_false, Exec.pure_apply,
    window_append_of_eq (List.length_replicate n (0 : UInt8)), dispatchOutput,
    writeAt_zero _ _ (hz ▸ hfit)]
  exact ⟨_, _, rfl, rfl⟩

/-- `srtp_cipher_output` reads `c->type->encrypt`, undefined for an instance
with no type. -/
theorem srtpCipherOutput_no_type (ht : c.type = false) (a : SrtpArray) (buf : List UInt8)
    (n : Nat) (hn : n ≤ buf.length) :
    srtpCipherOutput (ρ := ρ) ct c a buf n w = .fault .nullType w := by
  simp [srtpCipherOutput, store, writeAt_zero buf (List.replicate n 0) (by simpa using hn), ht,
    undefined]

end Checks

end CipherMeta
