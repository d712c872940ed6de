import Mathlib.Data.List.Nodup
import CipherMeta.BitsPerSecond

/-!
The protocol `srtp_cipher_bits_per_second` keeps, as an automaton read over
the trace like `Usage`. After the allocation of `enc_buf` only the driven
calls may follow: trial `i` (of `numTrials`) opens with a `set_iv` of
`trialNonce i`, `get_tag` comes only right after a successful `encrypt`, and
no `init`, `dealloc`, `alloc` or `decrypt` is ever made. The first failing call
leaves one thing to do, the free of `enc_buf`; after the free nothing may
follow. A failed allocation ends the run with nothing to free.

`trials` counts the `set_iv` calls made; `nonces_of_trace` reads off the
nonces from it, which is how the benchmark's nonce sequence is proved.
-/

namespace CipherMeta

/-- The nonce trial `i` sets: `v32[3]` holds `(uint32_t)i`, the other words are
zero. -/
def trialNonce (i : Nat) : List UInt8 := v128SetV32 v128Zero 3 (i % uint32Modulus)

theorem trialNonce_zero : trialNonce 0 = v128Zero := by decide

/-- The loop step `nonce.v32[3] = (uint32_t)i` turns the nonce of trial `i` into
that of trial `i + 1`. -/
theorem trialNonce_succ (i : Nat) :
    v128SetV32 (trialNonce i) 3 ((i + 1) % uint32Modulus) = trialNonce (i + 1) := by
  simp [trialNonce, v128SetV32, v128Zero, uint32Octets]

/-- Trials with indices below 2^32 set different nonces. -/
theorem trialNonce_inj {i j : Nat} (hi : i < uint32Modulus) (hj : j < uint32Modulus)
    (h : trialNonce i = trialNonce j) : i = j := by
  simp only [trialNonce, v128SetV32] at h
  have := uint32Octets_inj (List.append_cancel_left (List.append_cancel_right h))
  rwa [Nat.mod_mod, Nat.mod_mod, Nat.mod_eq_of_lt hi, Nat.mod_eq_of_lt hj] at this

theorem trialNonces_nodup {k : Nat} (hk : k ≤ uint32Modulus) :
    ((List.range k).map trialNonce).Nodup :=
  (List.nodup_range k).map_on fun _ hi _ hj =>
    trialNonce_inj (by simp at hi; omega) (by simp at hj; omega)

/-- The IVs of the `set_iv` calls of a trace, in order. -/
def setIvNonces (tr : List Event) : List (List UInt8) :=
  tr.filterMap fun
    | .call _ (.setIv iv _) _ => some iv
    | _ => none

@[simp] theorem setIvNonces_append (tr tr' : List Event) :
    setIvNonces (tr ++ tr') = setIvNonces tr ++ setIvNonces tr' := List.filterMap_append ..

theorem setIvNonces_call {c : SrtpCipher} {x : SrtpCipherCall} (hx : x.kind ≠ .setIv)
    (s : SrtpErrStatus) : setIvNonces [.call c x s] = [] := by
  cases x <;> first | rfl | exact absurd rfl hx

/-- A failed allocation of `enc_buf`, or a call that did not return `ok`. -/
def Event.failure : Event → Bool
  | .call _ _ s => s != .ok
  | .cryptoAlloc _ ok => !ok
  | _ => false

inductive BenchUsage
  | start
  | refused
  | running (trials : Nat) (encrypted : Bool)
  | aborted (trials : Nat)
  | freed (completed : Bool) (trials : Nat)
  | broken
  deriving DecidableEq, Repr

namespace BenchUsage

variable (numTrials : Nat)

/-- A driven call returning `s` while `enc_buf` is held, `trials` trials
opened so far and `encrypted` whether the last call was a successful
`encrypt`. -/
def call (trials : Nat) (encrypted : Bool) : SrtpCipherCall → SrtpErrStatus → BenchUsage
  | .setIv iv direction, s =>
    if trials < numTrials ∧ iv = trialNonce trials ∧ direction = .encrypt then
      if s = .ok then running (trials + 1) false else aborted (trials + 1)
    else broken
  | .setAad _, s => if s = .ok then running trials false else aborted trials
  | .encrypt .., s => if s = .ok then running trials true else aborted trials
  | .getTag .., s =>
    if encrypted then (if s = .ok then running trials false else aborted trials) else broken
  | _, _ => broken

def step : BenchUsage → Event → BenchUsage
  | start, .cryptoAlloc _ ok => if ok then running 0 false else refused
  | running trials encrypted, .call _ op s => call numTrials trials encrypted op s
  | running trials _, .cryptoFree => freed true trials
  | aborted trials, .cryptoFree => freed false trials
  | _, _ => broken

/-- The protocol's state after a whole trace. -/
def ofTrace (tr : List Event) : BenchUsage := tr.foldl (step numTrials) start

/-- The number of trials opened. -/
def trials : BenchUsage → Nat
  | running trials _ | aborted trials | freed _ trials => trials
  | _ => 0

/-- Whether something failed: the allocation, or a call. -/
def failed : BenchUsage → Bool
  | refused | aborted _ => true
  | freed completed _ => !completed
  | _ => false

/-- Whether `enc_buf` has been freed. -/
def isFreed : BenchUsage → Bool
  | freed .. => true
  | _ => false

/-- How a run may stop when the function returns `r`, `result` being what it
returns once every trial succeeded: 0 after a failed allocation or a failed
call, freeing `enc_buf` in the second case, and `result` after all trials. -/
def Accepts (result : Nat) : BenchUsage → Nat → Prop
  | refused, r => r = 0
  | freed false _, r => r = 0
  | freed true trials, r => trials = numTrials ∧ r = result
  | _, _ => False

/-- Where a run may be when its behaviour becomes undefined: `enc_buf` is held
and nothing has failed. -/
def Running (u : BenchUsage) : Prop := ∃ trials encrypted, u = running trials encrypted

@[simp] theorem ofTrace_nil : ofTrace numTrials [] = start := rfl

@[simp] theorem ofTrace_append_singleton (tr : List Event) (e : Event) :
    ofTrace numTrials (tr ++ [e]) = (ofTrace numTrials tr).step numTrials e :=
  List.foldl_append ..

@[simp] theorem broken_step (e : Event) : broken.step numTrials e = broken := by
  cases e <;> rfl

theorem broken_run (tr : List Event) : tr.foldl (step numTrials) broken = broken := by
  induction tr with
  | nil => rfl
  | cons e tr ih => simpa using ih

/-- Every step that does not break the protocol. -/
theorem step_cases {u : BenchUsage} {e : Event} (h : u.step numTrials e ≠ broken) :
    (u = start ∧ ∃ size ok, e = .cryptoAlloc size ok ∧
      u.step numTrials e = if ok then running 0 false else refused) ∨
    (∃ k en c s, u = running k en ∧ k < numTrials ∧
      e = .call c (.setIv (trialNonce k) .encrypt) s ∧
      u.step numTrials e = if s = .ok then running (k + 1) false else aborted (k + 1)) ∨
    (∃ k en c op s, u = running k en ∧ e = .call c op s ∧
      (op.kind = .setAad ∨ op.kind = .encrypt ∨ (op.kind = .getTag ∧ en = true)) ∧
      u.step numTrials e = if s = .ok then running k (op.kind == .encrypt) else aborted k) ∨
    (∃ k en, u = running k en ∧ e = .cryptoFree ∧ u.step numTrials e = freed true k) ∨
    (∃ k, u = aborted k ∧ e = .cryptoFree ∧ u.step numTrials e = freed false k) := by
  cases u with
  | start =>
    cases e with
    | cryptoAlloc size ok => exact .inl ⟨rfl, size, ok, rfl, rfl⟩
    | _ => exact absurd rfl h
  | running k en =>
    cases e with
    | call c op s =>
      cases op with
      | setIv iv direction =>
        by_cases hc : k < numTrials ∧ iv = trialNonce k ∧ direction = .encrypt
        · obtain ⟨hk, rfl, rfl⟩ := hc
          exact .inr (.inl ⟨k, en, c, s, rfl, hk, rfl, by simp [step, call, hk]⟩)
        · exact absurd (by simp [step, call, hc]) h
      | setAad aad => exact .inr (.inr (.inl ⟨k, en, c, _, s, rfl, rfl, .inl rfl, rfl⟩))
      | encrypt src capacity output len =>
        exact .inr (.inr (.inl ⟨k, en, c, _, s, rfl, rfl, .inr (.inl rfl), rfl⟩))
      | getTag off capacity output len =>
        cases en
        · exact absurd rfl h
        · exact .inr (.inr (.inl ⟨k, true, c, _, s, rfl, rfl, .inr (.inr ⟨rfl, rfl⟩), rfl⟩))
      | _ => exact absurd rfl h
    | cryptoFree => exact .inr (.inr (.inr (.inl ⟨k, en, rfl, rfl, rfl⟩)))
    | _ => exact absurd rfl h
  | aborted k =>
    cases e with
    | cryptoFree => exact .inr (.inr (.inr (.inr ⟨k, rfl, rfl, rfl⟩)))
    | _ => exact absurd rfl h
  | refused | freed _ _ | broken => cases e <;> exact absurd rfl h

/-! ### What a state says about the trace that led to it -/

/-- What holds of a trace whose protocol state is `u`, unless it broke: the
nonces of its `set_iv` calls are those of the trials opened, at most
`numTrials` of them; `enc_buf` was freed once if `u` is `freed`, and not yet
otherwise; and something failed exactly when `u` says so. -/
def Inv (u : BenchUsage) (tr : List Event) : Prop :=
  u = broken ∨ (setIvNonces tr = (List.range u.trials).map trialNonce ∧
    u.trials ≤ numTrials ∧ tr.count .cryptoFree = (if u.isFreed then 1 else 0) ∧
    tr.any Event.failure = u.failed)

theorem inv_nil : Inv numTrials start [] := .inr ⟨rfl, Nat.zero_le _, rfl, rfl⟩

theorem inv_step {u : BenchUsage} {tr : List Event} (h : Inv numTrials u tr) (e : Event) :
    Inv numTrials (u.step numTrials e) (tr ++ [e]) := by
  rcases h with rfl | ⟨hn, hle, hc, hf⟩
  · exact .inl (broken_step ..)
  by_cases hb : u.step numTrials e = broken
  · exact .inl hb
  right
  rw [setIvNonces_append, List.count_append, List.any_append, hn, hc, hf]
  rcases step_cases numTrials hb with ⟨rfl, size, ok, rfl, he⟩ | ⟨k, en, c, s, rfl, hk, rfl, he⟩ |
    ⟨k, en, c, op, s, rfl, rfl, hop, he⟩ | ⟨k, en, rfl, rfl, he⟩ | ⟨k, rfl, rfl, he⟩ <;>
    rw [he] <;> simp only [trials] at hle
  · cases ok <;> simp [trials, isFreed, failed, Event.failure, setIvNonces]
  · by_cases hs : s = .ok <;> simp [hs, trials, isFreed, failed, Event.failure, setIvNonces,
      List.range_succ, Nat.succ_le_of_lt hk]
  · cases op <;> simp only [SrtpCipherCall.kind, reduceCtorEq, false_and, or_false,
      false_or] at hop <;> by_cases hs : s = .ok <;>
      simp [hs, trials, isFreed, failed, Event.failure, setIvNonces, hle]
  all_goals simp [trials, isFreed, failed, Event.failure, setIvNonces, hle]

theorem inv_ofTrace (tr : List Event) : Inv numTrials (ofTrace numTrials tr) tr := by
  induction tr using List.reverseRecOn with
  | nil => exact inv_nil numTrials
  | append_singleton tr e ih => simpa using inv_step numTrials ih e

theorem broken_append (tr tr' : List Event) (h : ofTrace numTrials (tr ++ tr') ≠ broken) :
    ofTrace numTrials tr ≠ broken := by
  intro hb
  simp only [ofTrace, List.foldl_append] at h hb
  exact h (hb ▸ broken_run numTrials tr')

/-- The only step into a state right after a successful `encrypt`. -/
theorem step_eq_running_true {u : BenchUsage} {e : Event} {k : Nat}
    (h : u.step numTrials e = running k true) :
    ∃ c op, op.kind = .encrypt ∧ e = .call c op .ok := by
  rcases step_cases numTrials (u := u) (e := e) (by simp [h]) with
    ⟨-, _, ok, -, he⟩ | ⟨_, _, _, s, -, -, -, he⟩ | ⟨_, _, c, op, s, -, rfl, -, he⟩ |
    ⟨_, _, -, -, he⟩ | ⟨_, -, -, he⟩ <;> rw [h] at he
  · cases ok <;> cases he
  · split_ifs at he
    cases he
  · split_ifs at he with hs
    · cases hop : op.kind <;> rw [hop] at he <;> cases he
      rw [hs]; exact ⟨c, op, hop, rfl⟩
  · cases he
  · cases he

/-- A state right after a successful `encrypt` is reached by one. -/
theorem ofTrace_eq_running_true {tr : List Event} {k : Nat}
    (h : ofTrace numTrials tr = running k true) :
    ∃ pre c op, op.kind = .encrypt ∧ tr = pre ++ [.call c op .ok] := by
  induction tr using List.reverseRecOn with
  | nil => cases h
  | append_singleton pre e _ =>
    obtain ⟨c, op, hk, rfl⟩ := step_eq_running_true numTrials (by simpa using h)
    exact ⟨pre, c, op, hk, rfl⟩

/-- What a call that does not break the protocol can be: a driven one, and a
`get_tag` only right after a successful `encrypt`. -/
theorem step_call_allowed {u : BenchUsage} {c : SrtpCipher} {op : SrtpCipherCall}
    {s : SrtpErrStatus} (h : u.step numTrials (.call c op s) ≠ broken) :
    (op.kind = .setIv ∨ op.kind = .setAad ∨ op.kind = .encrypt ∨ op.kind = .getTag) ∧
      (op.kind = .getTag → ∃ k, u = running k true) := by
  rcases step_cases numTrials h with
    ⟨-, _, _, he, -⟩ | ⟨k, en, _, _, -, -, he, -⟩ | ⟨k, en, _, op', _, rfl, he, hk, -⟩ |
    ⟨_, _, -, he, -⟩ | ⟨_, -, he, -⟩ <;> cases he
  · exact ⟨.inl rfl, nofun⟩
  · rcases hk with hk | hk | ⟨hk, rfl⟩ <;> simp [hk]

theorem step_ne_start (u : BenchUsage) (e : Event) : u.step numTrials e ≠ start := by
  intro hs
  rcases step_cases numTrials (u := u) (e := e) (by simp [hs]) with
    ⟨-, _, ok, -, he⟩ | ⟨_, _, _, s, -, -, -, he⟩ | ⟨_, _, _, _, s, -, -, -, he⟩ |
    ⟨_, _, -, -, he⟩ | ⟨_, -, -, he⟩ <;> rw [hs] at he <;>
    first | cases he | (split_ifs at he)

/-- A failed allocation is all a refused run did. -/
theorem ofTrace_eq_refused {tr : List Event} (h : ofTrace numTrials tr = refused) :
    ∃ size, tr = [.cryptoAlloc size false] := by
  induction tr using List.reverseRecOn with
  | nil => cases h
  | append_singleton pre e _ =>
    rw [ofTrace_append_singleton] at h
    rcases step_cases numTrials (u := ofTrace numTrials pre) (e := e) (by simp [h]) with
      ⟨hu, size, ok, rfl, he⟩ | ⟨_, _, _, s, -, -, -, he⟩ | ⟨_, _, _, _, s, -, -, -, he⟩ |
      ⟨_, _, -, -, he⟩ | ⟨_, -, -, he⟩ <;> rw [h] at he
    · cases ok
      · rcases pre.eq_nil_or_concat with rfl | ⟨pre', e', rfl⟩
        · exact ⟨size, rfl⟩
        · exact absurd hu (by simpa using step_ne_start numTrials _ e')
      · cases he
    all_goals first | cases he | (split_ifs at he)

/-- What `Inv` says of a trace that did not break the protocol. -/
theorem ofTrace_inv {tr : List Event} (h : ofTrace numTrials tr ≠ broken) :
    setIvNonces tr = (List.range (ofTrace numTrials tr).trials).map trialNonce ∧
      (ofTrace numTrials tr).trials ≤ numTrials ∧
      tr.count .cryptoFree = (if (ofTrace numTrials tr).isFreed then 1 else 0) ∧
      tr.any Event.failure = (ofTrace numTrials tr).failed :=
  (inv_ofTrace numTrials tr).resolve_left h

/-- What an unbroken trace shows of each call in it: it is a driven one, and a
`get_tag` comes right after a successful `encrypt`. -/
theorem call_of_not_broken {pre post : List Event} {c : SrtpCipher} {op : SrtpCipherCall}
    {s : SrtpErrStatus} (h : ofTrace numTrials (pre ++ .call c op s :: post) ≠ broken) :
    (op.kind = .setIv ∨ op.kind = .setAad ∨ op.kind = .encrypt ∨ op.kind = .getTag) ∧
      (op.kind = .getTag → ∃ pre' c' op', op'.kind = .encrypt ∧ pre = pre' ++ [.call c' op' .ok]) := by
  have h₁ := broken_append numTrials (pre ++ [.call c op s]) post (by simpa using h)
  rw [ofTrace_append_singleton] at h₁
  obtain ⟨hk, htag⟩ := step_call_allowed numTrials h₁
  refine ⟨hk, fun hg => ?_⟩
  obtain ⟨k, hk'⟩ := htag hg
  exact ofTrace_eq_running_true numTrials hk'

end BenchUsage

end CipherMeta
