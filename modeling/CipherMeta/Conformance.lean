import CipherMeta.Honest
import CipherMeta.Usage
import CipherMeta.Calls

/-!
The self-test keeps the protocol of `Usage` on every path. Each piece of
`srtp_cipher_type_test` is read off its spec in `Calls`: the protocol allows
the kinds the piece plans from any typestate of a live instance (`drives`),
so the calls it made before stopping leave the instance live, and a failure
it returns, of its next call or of a check of its own, is followed by the
`dealloc` that closes the instance. The rest of the test, the allocations and
the loops, is walked here with the rules below.
-/

namespace CipherMeta

open Usage

variable {σ : Type}

/-- The protocol's state after the world's trace is `u`. -/
def At (u : Usage) (w : World σ) : Prop := ofTrace w.trace = u

/-- What the self-test's code may end in: falling through as `N` says, a
return the protocol accepts, or undefined behaviour while nothing failed. -/
def Conforms {α : Type} (N : α → World σ → Prop) : Post σ SrtpErrStatus α :=
  ⟨N, fun r w => (ofTrace w.trace).Accepts r, fun _ w => (ofTrace w.trace).Running⟩

/-- Instance `c` is live, whatever its typestate. -/
def LiveOn (c : SrtpCipher) (w : World σ) : Prop :=
  ∃ keyed ivSet encrypted, At (.live c keyed ivSet encrypted) w

/-! ### Rules for the protocol -/

section Rules

variable {α : Type} (ct : SrtpCipherType σ)

theorem dispatch_at (c : SrtpCipher) (call : SrtpCipherCall)
    (op : Except SrtpErrStatus (σ → SrtpErrStatus × σ)) (u : Usage)
    {D : SrtpErrStatus → World σ → Prop} {F : Undefined → World σ → Prop} :
    Triple (At u) (dispatch c call op) ⟨fun s => At (u.call c call.kind s), D, F⟩ := by
  intro w (hw : ofTrace w.trace = u)
  subst hw
  cases op <;> simp [dispatch, Post.Holds, At]

section Dispatched

variable (c : SrtpCipher) (u : Usage) {D : SrtpErrStatus → World σ → Prop}
  {F : Undefined → World σ → Prop}

theorem srtpCipherDealloc_at :
    Triple (At u) (srtpCipherDealloc ct c) ⟨fun s => At (u.call c .dealloc s), D, F⟩ :=
  dispatch_at c _ _ u

theorem srtpCipherTypeAlloc_at (keyLen tlen : Nat) :
    Triple (At idle) (srtpCipherTypeAlloc ct keyLen tlen)
      ⟨fun r => At (idle.call r.2 .alloc r.1), D, F⟩ := by
  intro w (hw : ofTrace w.trace = idle)
  cases h : ct.alloc <;> simp [srtpCipherTypeAlloc, h, Post.Holds, At, hw, SrtpCipherCall.kind]

theorem emit_verdict_at (s : SrtpErrStatus) :
    Triple (At u) (emit (.verdict s)) ⟨fun _ => At (u.verdict s), D, F⟩ := by
  intro w (hw : ofTrace w.trace = u)
  simp [emit, Post.Holds, At, hw]

end Dispatched

theorem liveOn_triple {c : SrtpCipher} {m : Exec σ SrtpErrStatus α}
    {Q : Post σ SrtpErrStatus α}
    (h : ∀ keyed ivSet encrypted, Triple (At (live c keyed ivSet encrypted)) m Q) :
    Triple (LiveOn c) m Q :=
  Triple.ex fun keyed => Triple.ex fun ivSet => Triple.ex fun encrypted => h keyed ivSet encrypted

end Rules

/-! ### Stretches of planned calls -/

section Stretches

variable {c : SrtpCipher} {tc : SrtpCipherTestCase} {tr : List Event} {ks : List CallKind}
  {keyed ivSet encrypted : Bool}

theorem ofTrace_okCalls (tr : List Event) (c : SrtpCipher) (xs : List SrtpCipherCall) :
    ofTrace (tr ++ okCalls c xs) =
      (xs.map SrtpCipherCall.kind).foldl (fun u k => u.call c k .ok) (ofTrace tr) := by
  simp [ofTrace, okCalls, List.foldl_append, List.foldl_map]

theorem ofTrace_append_pair (tr : List Event) (e₁ e₂ : Event) :
    ofTrace (tr ++ [e₁, e₂]) = ((ofTrace tr).step e₁).step e₂ := by
  simp [ofTrace, List.foldl_append]

/-- The protocol allows what each piece of the self-test plans, from any
typestate of a live instance. -/
theorem plans_drive (keyed ivSet encrypted gcm : Bool) :
    drives keyed ivSet encrypted (sealKinds gcm) = true ∧
      drives keyed ivSet encrypted (openKinds gcm) = true ∧
      drives keyed ivSet encrypted (trialKinds gcm) = true := by
  cases keyed <;> cases ivSet <;> cases encrypted <;> cases gcm <;> decide

/-- After planned calls that answered `ok`, the instance is still live and
the protocol allows the rest of the plan. -/
theorem made_live (hks : drives keyed ivSet encrypted ks = true)
    (htr : ofTrace tr = live c keyed ivSet encrypted) {xs : List SrtpCipherCall}
    {rest : List CallKind} (hx : xs.map SrtpCipherCall.kind ++ rest = ks) :
    ∃ k i e, ofTrace (tr ++ okCalls c xs) = live c k i e ∧ drives k i e rest = true := by
  obtain ⟨k, i, e, h, hd⟩ := drives_append c (hx ▸ hks)
  exact ⟨k, i, e, by rw [ofTrace_okCalls, htr, h], hd⟩

theorem Made.liveOn (hks : drives keyed ivSet encrypted ks = true)
    (htr : ofTrace tr = live c keyed ivSet encrypted) {xs : List SrtpCipherCall} {d : Nat}
    {w : World σ} (h : Made c tc tr ks xs [] d w) : LiveOn c w :=
  let ⟨k, i, e, hl, _⟩ := made_live hks htr (h.1.trans rfl)
  ⟨k, i, e, show ofTrace w.trace = _ by rw [h.2.2.1, hl]⟩

/-- A stretch whose plan the protocol allows keeps it: a failure it returns
closes the instance with that status, and its undefined behaviour comes while
the protocol runs. -/
theorem Stops.conforms {α : Type} {P : World σ → Prop} {m : Exec σ SrtpErrStatus α}
    {N N' : α → World σ → Prop} (h : Triple P m (Stops c tc tr ks N))
    (hks : drives keyed ivSet encrypted ks = true)
    (htr : ofTrace tr = live c keyed ivSet encrypted) (hN : ∀ a w, N a w → N' a w) :
    Triple P m (Conforms N') := by
  refine h.conseq hN (fun r w ⟨hr, xs, s, ⟨⟨rest, hx⟩, _⟩, hw⟩ => .inr ⟨hr, ?_⟩)
    fun _ w ⟨xs, ⟨⟨rest, hx⟩, _⟩, hw⟩ => ?_
  · rcases hw with ⟨x, ⟨⟨rest', hx'⟩, _⟩, hw⟩ | hw
    · rw [List.map_append, List.map_singleton, List.append_assoc, List.singleton_append] at hx'
      obtain ⟨k, i, e, hl, hd⟩ := made_live hks htr hx'
      simp only [drives, Bool.and_eq_true, bne_iff_ne, ne_eq] at hd
      rw [hw, List.append_assoc, ← List.append_assoc tr, ofTrace_append_pair, hl]
      simp only [step_call, live_call_fail hd.1.1 hr hd.1.2]
      simp [Usage.call, SrtpCipherCall.kind]
    · obtain ⟨k, i, e, hl, -⟩ := made_live hks htr hx
      rw [hw, List.append_assoc, ← List.append_assoc tr, ofTrace_append_pair, hl]
      simp [Usage.call, Usage.verdict, SrtpCipherCall.kind]
  · obtain ⟨k, i, e, hl, -⟩ := made_live hks htr hx
    show (ofTrace w.trace).Running
    rw [hw, hl]
    exact running_live ..

end Stretches

/-! ### The passes of the self-test -/

section Passes

variable (ct : SrtpCipherType σ) (debug : Bool)

theorem testEncryption_conforms (c : SrtpCipher) (tc : SrtpCipherTestCase) (l : TestLocals) :
    Triple (LiveOn c) (testEncryption ct debug c tc l) (Conforms fun _ => LiveOn c) :=
  liveOn_triple fun keyed ivSet encrypted w hw =>
    Stops.conforms (testEncryption_calls ct debug l) (plans_drive keyed ivSet encrypted _).1 hw
      (fun _ _ ⟨_, _, _, h⟩ => h.liveOn (plans_drive keyed ivSet encrypted _).1 hw) w
      (made_nil rfl rfl)

theorem testDecryption_conforms (c : SrtpCipher) (tc : SrtpCipherTestCase) (l : TestLocals) :
    Triple (LiveOn c) (testDecryption ct debug c tc l) (Conforms fun _ => LiveOn c) :=
  liveOn_triple fun keyed ivSet encrypted w hw =>
    Stops.conforms (testDecryption_calls ct debug l) (plans_drive keyed ivSet encrypted _).2.1 hw
      (fun _ _ h => h.liveOn (plans_drive keyed ivSet encrypted _).2.1 hw) w (made_nil rfl rfl)

theorem randTrial_conforms (rand : Nat → Nat) (c : SrtpCipher) (tc : SrtpCipherTestCase)
    (l : TestLocals) :
    Triple (LiveOn c) (randTrial ct debug rand c tc l) (Conforms fun _ => LiveOn c) :=
  liveOn_triple fun keyed ivSet encrypted w hw =>
    Stops.conforms (randTrial_calls ct debug rand l) (plans_drive keyed ivSet encrypted _).2.2 hw
      (fun _ _ ⟨_, _, _, _, _, h⟩ => h.liveOn (plans_drive keyed ivSet encrypted _).2.2 hw) w
      (made_nil rfl rfl)

/-- After `srtp_cipher_type_alloc`: `if (status) return status;`. -/
theorem allocChecked_at {c : SrtpCipher} {s : SrtpErrStatus} {β : Type}
    {jp : Unit → Exec σ SrtpErrStatus β} {N : β → World σ → Prop}
    (hjp : s = .ok → Triple (At (live c false false false)) (jp ()) (Conforms N)) :
    Triple (At (idle.call c .alloc s))
      (if s ≠ .ok then exit s >>= jp else pure () >>= jp) (Conforms N) := by
  by_cases hs : s = .ok
  · subst hs
    exact Triple.ite_join (fun h => absurd rfl h) (fun _ => Triple.pure fun _ hw => hw)
      fun _ => hjp rfl
  · refine Triple.ite_join (R := fun _ _ => False)
      (fun _ => Triple.exit fun w hw => .inr ⟨hs, ?_⟩) (fun h => absurd hs h) fun _ _ h => h.elim
    rw [hw, idle_call_alloc, if_neg hs]

/-- The closing `srtp_cipher_dealloc(c)` of a live instance, then
`if (status) return status;`. -/
theorem deallocChecked_at (c : SrtpCipher) {β : Type} {k : SrtpErrStatus → Unit → Exec σ SrtpErrStatus β}
    {N : β → World σ → Prop} (hk : ∀ s, s = .ok → Triple (At idle) (k s ()) (Conforms N)) :
    Triple (LiveOn c)
      (srtpCipherDealloc ct c >>= fun s => if s ≠ .ok then exit s >>= k s else pure () >>= k s)
      (Conforms N) := by
  refine liveOn_triple fun keyed ivSet encrypted => ?_
  refine Triple.bind (srtpCipherDealloc_at ct c _) fun s => ?_
  by_cases hs : s = .ok
  · subst hs
    refine Triple.ite_join (fun h => absurd rfl h)
      (fun _ => Triple.pure fun _ hw => (hw.trans (live_call_dealloc ..)).trans (if_pos rfl))
      fun _ => hk .ok rfl
  · refine Triple.ite_join (R := fun _ _ => False)
      (fun _ => Triple.exit fun w hw => .inr ⟨hs, ?_⟩) (fun h => absurd hs h) fun _ _ h => h.elim
    rw [hw, live_call_dealloc, if_neg hs]

theorem testCase_conforms (tc : SrtpCipherTestCase) (l : TestLocals) :
    Triple (At idle) (testCase ct debug tc l) (Conforms fun _ => At idle) := by
  unfold testCase
  refine Triple.bind (srtpCipherTypeAlloc_at ct _ _) fun ⟨s, c⟩ => ?_
  refine allocChecked_at fun _ => ?_
  refine Triple.bind ((testEncryption_conforms ct debug c tc l).weaken
    fun _ hw => ⟨_, _, _, hw⟩) fun l => ?_
  refine Triple.bind (testDecryption_conforms ct debug c tc l) fun l => ?_
  exact deallocChecked_at ct c fun _ _ => Triple.pure fun _ hw => hw

theorem testCases_conforms (tcs : List SrtpCipherTestCase) (l : TestLocals) :
    Triple (At idle) (testCases ct debug tcs l) (Conforms fun _ => At idle) := by
  induction tcs generalizing l with
  | nil => exact Triple.pure fun _ hw => hw
  | cons tc rest ih => exact Triple.bind (testCase_conforms ct debug tc l) fun l => ih l

theorem randTrials_conforms (rand : Nat → Nat) (c : SrtpCipher) (tc : SrtpCipherTestCase)
    (n : Nat) (l : TestLocals) :
    Triple (LiveOn c) (randTrials ct debug rand c tc n l) (Conforms fun _ => LiveOn c) := by
  induction n generalizing l with
  | zero => exact Triple.pure fun _ hw => hw
  | succ n ih => exact Triple.bind (randTrial_conforms ct debug rand c tc l) fun l => ih l

/-- The whole self-test keeps the protocol: started with no call made, it
returns a status the protocol accepts, or its behaviour becomes undefined
before anything failed. -/
theorem srtpCipherTypeTest_conforms (rand : Nat → Nat) (tcs : List SrtpCipherTestCase) :
    Triple (At idle) (srtpCipherTypeTest ct debug rand tcs) (Conforms fun e _ => e.elim) := by
  cases tcs with
  | nil =>
    refine Triple.bind (emit_verdict_at _ _) fun _ => Triple.exit fun w hw => .inr ⟨by decide, ?_⟩
    exact hw
  | cons tc rest =>
    refine Triple.bind (testCases_conforms ct debug _ _) fun l => ?_
    refine Triple.bind (srtpCipherTypeAlloc_at ct _ _) fun ⟨s, c⟩ => ?_
    refine allocChecked_at fun _ => ?_
    refine Triple.bind ((randTrials_conforms ct debug rand c tc _ l).weaken
      fun _ hw => ⟨_, _, _, hw⟩) fun _ => ?_
    exact deallocChecked_at ct c fun _ _ => Triple.exit fun _ hw => .inl ⟨hw, rfl⟩

/-- Error propagation: when a dispatched call is the first thing in a run of
the self-test to fail, the self-test returns that call's status, and the only
call it makes after it is one `dealloc` of the instance that call was made on,
allocated earlier in the run, unless the failing call was an allocation or a
closing `dealloc`. No undefined behaviour follows such a failure. -/
theorem srtpCipherTypeTest_first_failure (rand : Nat → Nat) (tcs : List SrtpCipherTestCase)
    (st : σ) (draws : Nat) (pre post : List Event) (c : SrtpCipher) (op : SrtpCipherCall)
    (s : SrtpErrStatus) (hs : s ≠ .ok) (hpre : ∀ e ∈ pre, e.succeeded) :
    match srtpCipherTypeTest ct debug rand tcs ⟨st, draws, []⟩ with
    | .done r w => w.trace = pre ++ .call c op s :: post → r = s ∧
        if op.kind = .alloc ∨ op.kind = .dealloc then post = []
        else (∃ op' s', op'.kind = .dealloc ∧ post = [.call c op' s']) ∧
          ∃ pre₁ pre₂ op₀, op₀.kind = .alloc ∧ pre = pre₁ ++ .call c op₀ .ok :: pre₂
    | .fault _ w => w.trace ≠ pre ++ .call c op s :: post
    | .next e _ => e.elim := by
  have hf := first_failure post c op hs hpre
  have h := srtpCipherTypeTest_conforms ct debug rand tcs ⟨st, draws, []⟩ rfl
  revert h
  cases srtpCipherTypeTest ct debug rand tcs ⟨st, draws, []⟩ with
  | next e _ => exact e.elim
  | done r w => exact fun h ht => hf.2 r (ht ▸ (Post.holds_done ..).mp h)
  | fault u w => exact fun h ht => hf.1 (ht ▸ (Post.holds_fault ..).mp h)

/-- The identity contract with a `set_iv` that answers the code 8. -/
def ivRefusingCipherType : SrtpCipherType Unit :=
  { identityCipherType .aesIcm128 with setIv := fun st _ _ => (.other 8, st) }

set_option maxRecDepth 4000 in
theorem srtpCipherTypeTest_first_failure_at_setIv :
    SrtpErrStatus.other 8 ≠ .ok ∧
      (∀ e ∈ [Event.call ⟨true, true, .aesIcm128, 16⟩ (.alloc 16 0) .ok,
        .call ⟨true, true, .aesIcm128, 16⟩ (.init (List.replicate 16 0)) .ok], e.succeeded) ∧
      (∃ w, srtpCipherTypeTest ivRefusingCipherType false (fun _ => 0) [identityTestCase]
          ⟨(), 0, []⟩ = .done (.other 8) w ∧
        w.trace = [Event.call ⟨true, true, .aesIcm128, 16⟩ (.alloc 16 0) .ok,
            .call ⟨true, true, .aesIcm128, 16⟩ (.init (List.replicate 16 0)) .ok] ++
          .call ⟨true, true, .aesIcm128, 16⟩ (.setIv (List.replicate 16 0) .encrypt) (.other 8) ::
            [.call ⟨true, true, .aesIcm128, 16⟩ .dealloc .ok]) ∧
      match srtpCipherTypeTest ivRefusingCipherType false (fun _ => 0) [identityTestCase]
          ⟨(), 0, []⟩ with
      | .done r w => w.trace = [Event.call ⟨true, true, .aesIcm128, 16⟩ (.alloc 16 0) .ok,
            .call ⟨true, true, .aesIcm128, 16⟩ (.init (List.replicate 16 0)) .ok] ++
          .call ⟨true, true, .aesIcm128, 16⟩ (.setIv (List.replicate 16 0) .encrypt) (.other 8) ::
            [.call ⟨true, true, .aesIcm128, 16⟩ .dealloc .ok] → r = .other 8 ∧
          if (SrtpCipherCall.setIv (List.replicate 16 0) .encrypt).kind = .alloc ∨
            (SrtpCipherCall.setIv (List.replicate 16 0) .encrypt).kind = .dealloc
          then [Event.call ⟨true, true, .aesIcm128, 16⟩ .dealloc .ok] = []
          else (∃ op' s', op'.kind = .dealloc ∧
              [Event.call ⟨true, true, .aesIcm128, 16⟩ .dealloc .ok] =
                [.call ⟨true, true, .aesIcm128, 16⟩ op' s']) ∧
            ∃ pre₁ pre₂ op₀, op₀.kind = .alloc ∧
              [Event.call ⟨true, true, .aesIcm128, 16⟩ (.alloc 16 0) .ok,
                .call ⟨true, true, .aesIcm128, 16⟩ (.init (List.replicate 16 0)) .ok] =
                pre₁ ++ .call ⟨true, true, .aesIcm128, 16⟩ op₀ .ok :: pre₂
      | .fault _ w => w.trace ≠ [Event.call ⟨true, true, .aesIcm128, 16⟩ (.alloc 16 0) .ok,
            .call ⟨true, true, .aesIcm128, 16⟩ (.init (List.replicate 16 0)) .ok] ++
          .call ⟨true, true, .aesIcm128, 16⟩ (.setIv (List.replicate 16 0) .encrypt) (.other 8) ::
            [.call ⟨true, true, .aesIcm128, 16⟩ .dealloc .ok]
      | .next e _ => e.elim :=
  ⟨by decide, by decide, ⟨_, rfl, rfl⟩,
    srtpCipherTypeTest_first_failure ivRefusingCipherType false (fun _ => 0) [identityTestCase] ()
      0 _ _ _ _ _ (by decide) (by decide)⟩

end Passes

end CipherMeta
