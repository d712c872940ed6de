import Mathlib.Data.List.Forall2
import CipherMeta.Conformance

/-!
What a verdict of `ok` from `srtp_cipher_type_test` does establish, for every
contract. The checks of the test read the buffers an operation left and the
lengths it reported; the trace records exactly those, for each `encrypt`,
`get_tag` and `decrypt` call. So the verdict is read off the trace: its
`encrypt` calls each with the `get_tag` call that followed it (`sealings`),
and its `decrypt` calls (`openings`).

A run that returns `ok` went through every check: each known-answer
decryption turned the ciphertext into the plaintext, each randomized trial
decrypted to the octets it had encrypted, and each known-answer encryption of
the plaintext gave the ciphertext, its tag included, as long as adding the
tag's reported length to the output's did not wrap in `size_t` (`Yields`).
Each pass and trial is read off its spec in `Calls`, whose calls give the
sealing and opening it adds (`Seen`); the loops and the rest of the test are
walked here, where any return is of a failure (`Checked`).
-/

namespace CipherMeta

/-- One event's effect on the sealings of a trace, newest first: an `encrypt`
opens one, a `get_tag` completes the last. -/
def sealStep : List Sealing → Event → List Sealing
  | acc, .call _ (.encrypt src _ out len) _ => ⟨src, out, len, none⟩ :: acc
  | s :: acc, .call _ (.getTag _ _ out len) _ => { s with tag := some (out, len) } :: acc
  | acc, _ => acc

/-- One event's effect on the openings of a trace, newest first. -/
def openStep : List Opening → Event → List Opening
  | acc, .call _ (.decrypt src _ out len) _ => ⟨src, out, len⟩ :: acc
  | acc, _ => acc

/-- The sealings of a trace, newest first. -/
def sealings (tr : List Event) : List Sealing := tr.foldl sealStep []

/-- The openings of a trace, newest first. -/
def openings (tr : List Event) : List Opening := tr.foldl openStep []

@[simp] theorem sealings_append_singleton (tr : List Event) (e : Event) :
    sealings (tr ++ [e]) = sealStep (sealings tr) e := List.foldl_append ..

@[simp] theorem openings_append_singleton (tr : List Event) (e : Event) :
    openings (tr ++ [e]) = openStep (openings tr) e := List.foldl_append ..

section Folds

variable (c : SrtpCipher) (tc : SrtpCipherTestCase) (key : List UInt8)

/-- The calls of an encryption pass add their sealing and no opening. -/
theorem sealings_sealCalls (tr : List Event) (s : Sealing) (cap : Option Nat) :
    sealings (tr ++ okCalls c (sealCalls c tc key s cap)) = s :: sealings tr := by
  unfold sealings
  rw [List.foldl_append]
  generalize tr.foldl sealStep [] = acc
  obtain ⟨src, out, len, _ | ⟨o, t⟩⟩ := s <;> unfold sealCalls aadCalls <;> split <;>
    cases acc <;> rfl

theorem openings_sealCalls (tr : List Event) (s : Sealing) (cap : Option Nat) :
    openings (tr ++ okCalls c (sealCalls c tc key s cap)) = openings tr := by
  unfold openings
  rw [List.foldl_append]
  obtain ⟨src, out, len, _ | ⟨o, t⟩⟩ := s <;> unfold sealCalls aadCalls <;> split <;> rfl

/-- The calls of a decryption pass add their opening and no sealing. -/
theorem sealings_openCalls (tr : List Event) (o : Opening) :
    sealings (tr ++ okCalls c (openCalls c tc key o)) = sealings tr := by
  unfold sealings
  rw [List.foldl_append]
  generalize tr.foldl sealStep [] = acc
  unfold openCalls aadCalls; split <;> cases acc <;> rfl

theorem openings_openCalls (tr : List Event) (o : Opening) :
    openings (tr ++ okCalls c (openCalls c tc key o)) = o :: openings tr := by
  unfold openings
  rw [List.foldl_append]
  unfold openCalls aadCalls; split <;> rfl

end Folds

variable {σ : Type}

/-- The trace's sealings and openings are `S` and `O`. -/
def Seen (S : List Sealing) (O : List Opening) (w : World σ) : Prop :=
  sealings w.trace = S ∧ openings w.trace = O

/-- Falls through as `N` says; any return is of a failure. Undefined behaviour
is not looked at. -/
def Checked {α : Type} (N : α → World σ → Prop) : Post σ SrtpErrStatus α :=
  ⟨N, fun r _ => r ≠ .ok, fun _ _ => True⟩

section Rules

variable {α : Type} {S : List Sealing} {O : List Opening} (ct : SrtpCipherType σ)
  (c : SrtpCipher)

theorem sealStep_call {x : SrtpCipherCall} (hx : x.kind ≠ .encrypt ∧ x.kind ≠ .getTag)
    (acc : List Sealing) (s : SrtpErrStatus) : sealStep acc (.call c x s) = acc := by
  cases x <;> cases acc <;> simp_all [sealStep, SrtpCipherCall.kind]

theorem openStep_call {x : SrtpCipherCall} (hx : x.kind ≠ .decrypt) (acc : List Opening)
    (s : SrtpErrStatus) : openStep acc (.call c x s) = acc := by
  cases x <;> simp_all [openStep, SrtpCipherCall.kind]

/-- A call that is not an `encrypt`, `decrypt` or `get_tag` leaves the
sealings and openings alone. -/
theorem Seen.record_call {w : World σ} (h : Seen S O w) {x : SrtpCipherCall}
    (hk : x.kind ≠ .encrypt ∧ x.kind ≠ .getTag ∧ x.kind ≠ .decrypt) (s : SrtpErrStatus) :
    Seen S O (w.record (.call c x s)) := by
  simp only [Seen, World.record_trace, sealings_append_singleton, openings_append_singleton,
    h.1, h.2, sealStep_call c ⟨hk.1, hk.2.1⟩, openStep_call c hk.2.2, and_self]

theorem Records.seen {c : SrtpCipher} {k : CallKind} {status : α → SrtpErrStatus}
    {m : Exec σ SrtpErrStatus α} (h : Records c k status m)
    (hk : k ≠ .encrypt ∧ k ≠ .getTag ∧ k ≠ .decrypt) :
    Triple (Seen S O) m (Checked fun _ => Seen S O) := by
  intro w hw
  have h' := h w
  revert h'
  cases m w with
  | next a w' =>
    rintro ⟨x, rfl, ht⟩
    refine (Post.holds_next ..).mpr ?_
    have := hw.record_call c hk (status a)
    rwa [Seen, World.record_trace, ← ht] at this
  | done _ _ => exact False.elim
  | fault _ _ => exact fun _ => (Post.holds_fault ..).mpr trivial

theorem exit_checked {r : SrtpErrStatus} (hr : r ≠ .ok) {P : World σ → Prop}
    {N : α → World σ → Prop} : Triple P (exit r) (Checked N) :=
  Triple.exit fun _ _ => hr

/-- `checkStatus` falls through only on `ok`. -/
theorem checkStatus_checked (s : SrtpErrStatus) {P : World σ → Prop} :
    Triple P (checkStatus ct c s) (Checked fun _ w => s = .ok ∧ P w) := by
  unfold checkStatus
  split
  · exact Triple.pure fun _ hw => ⟨‹_›, hw⟩
  · exact fun w _ => by
      simp only [Exec.bind_apply, srtpCipherDealloc, dispatch]
      split <;> exact (Post.holds_done ..).mpr ‹_›

/-- A call whose status is checked at once: what follows starts where the
call left off. -/
theorem checkStatus_after {β : Type} {P Q : World σ → Prop}
    {m : Exec σ SrtpErrStatus SrtpErrStatus}
    {k : Unit → Exec σ SrtpErrStatus β} {N : β → World σ → Prop}
    (hm : Triple P m (Checked fun _ => Q)) (hk : Triple Q (k ()) (Checked N)) :
    Triple P (m >>= fun s => checkStatus ct c s >>= k) (Checked N) :=
  Triple.bind hm fun s => Triple.bind (checkStatus_checked ct c s) fun _ =>
    Triple.assume_and fun _ => hk

/-- A piece read off its spec in `Calls`: each return is of a failure. -/
theorem Stops.checked {tc : SrtpCipherTestCase} {tr : List Event} {ks : List CallKind}
    {P : World σ → Prop} {m : Exec σ SrtpErrStatus α} {N N' : α → World σ → Prop}
    (h : Triple P m (Stops c tc tr ks N)) (hN : ∀ a w, N a w → N' a w) :
    Triple P m (Checked N') :=
  h.conseq hN (fun _ _ h => h.1) fun _ _ _ => trivial

theorem srtpCipherTypeAlloc_seen (keyLen tlen : Nat) :
    Triple (Seen S O) (srtpCipherTypeAlloc ct keyLen tlen) (Checked fun _ => Seen S O) := by
  intro w hw
  unfold srtpCipherTypeAlloc
  split <;> exact (Post.holds_next ..).mpr (hw.record_call _ (by simp [SrtpCipherCall.kind]) _)

/-- The encryption pass of a known-answer case, when it falls through, sealed
the plaintext and its result `Yields` the ciphertext. -/
theorem testEncryption_seen (debug : Bool) (tc : SrtpCipherTestCase) (l : TestLocals) :
    Triple (Seen S O) (testEncryption ct debug c tc l)
      (Checked fun _ w => ∃ s, (s.src = tc.plaintext ∧ s.Yields tc.ciphertext) ∧
        Seen (s :: S) O w) :=
  fun w ⟨hS, hO⟩ => Stops.checked c (testEncryption_calls ct debug l)
    (fun _ _ ⟨s, _, hs, hm⟩ => ⟨s, hs, by
      rw [Seen, hm.2.2.1, sealings_sealCalls, openings_sealCalls, hS, hO]; exact ⟨rfl, rfl⟩⟩)
    w (made_nil rfl rfl)

/-- The decryption pass of a known-answer case, when it falls through, opened
the ciphertext into the plaintext. -/
theorem testDecryption_seen (debug : Bool) (tc : SrtpCipherTestCase) (l : TestLocals) :
    Triple (Seen S O) (testDecryption ct debug c tc l)
      (Checked fun _ => Seen S (⟨tc.ciphertext, tc.plaintext, tc.plaintext.length⟩ :: O)) :=
  fun w ⟨hS, hO⟩ => Stops.checked c (testDecryption_calls ct debug l)
    (fun _ _ hm => show sealings _ = _ ∧ openings _ = _ by
      rw [hm.2.2.1, sealings_openCalls, openings_openCalls, hS, hO]; exact ⟨rfl, rfl⟩)
    w (made_nil rfl rfl)

/-- Both passes over a known-answer case, when they fall through. -/
theorem testCase_seen (debug : Bool) (tc : SrtpCipherTestCase) (l : TestLocals) :
    Triple (Seen S O) (testCase ct debug tc l)
      (Checked fun _ w => ∃ s, (s.src = tc.plaintext ∧ s.Yields tc.ciphertext) ∧
        Seen (s :: S) (⟨tc.ciphertext, tc.plaintext, tc.plaintext.length⟩ :: O) w) := by
  unfold testCase
  refine Triple.bind (srtpCipherTypeAlloc_seen ct _ _) fun ⟨st, c⟩ => ?_
  refine Triple.early_return (fun h => exit_checked h) fun _ => ?_
  refine Triple.bind (testEncryption_seen ct c debug tc l) fun l => ?_
  refine Triple.ex fun s => Triple.assume_and fun hs => ?_
  refine Triple.bind (testDecryption_seen ct c debug tc l) fun l => ?_
  refine Triple.bind ((srtpCipherDealloc_records ct c).seen (by decide)) fun st => ?_
  exact Triple.early_return (fun h => exit_checked h) fun _ => Triple.pure fun _ h => ⟨s, hs, h⟩

/-- The known-answer loop: one sealing and one opening per case, in order. -/
theorem testCases_seen (debug : Bool) (tcs : List SrtpCipherTestCase) (l : TestLocals) :
    Triple (Seen S O) (testCases ct debug tcs l)
      (Checked fun _ w => ∃ kat, List.Forall₂ (fun s v => s.src = v.plaintext ∧
          s.Yields v.ciphertext) kat.reverse tcs ∧
        Seen (kat ++ S) ((tcs.map fun v => (⟨v.ciphertext, v.plaintext,
          v.plaintext.length⟩ : Opening)).reverse ++ O) w) := by
  induction tcs generalizing S O l with
  | nil => exact Triple.pure fun _ h => ⟨[], .nil, h⟩
  | cons tc rest ih =>
    refine Triple.bind (testCase_seen ct debug tc l) fun l => ?_
    refine Triple.ex fun s => Triple.assume_and fun hs => ?_
    refine (ih l).conseq (fun _ _ ⟨kat, hk, hw⟩ => ⟨kat ++ [s], ?_, ?_⟩) (fun _ _ h => h)
      fun _ _ h => h
    · simpa using (List.Forall₂.cons hs hk : List.Forall₂ _ (s :: kat.reverse) (tc :: rest))
    · simpa using hw

/-- A randomized trial, when it falls through, decrypted to the octets it had
encrypted, whatever the contract and the `rand()` stream. -/
theorem randTrial_seen (debug : Bool) (rand : Nat → Nat) (tc : SrtpCipherTestCase)
    (l : TestLocals) :
    Triple (Seen S O) (randTrial ct debug rand c tc l)
      (Checked fun _ w => ∃ s o, o.Undoes s ∧ Seen (s :: S) (o :: O) w) :=
  fun w ⟨hS, hO⟩ => Stops.checked c (randTrial_calls ct debug rand l)
    (fun _ _ ⟨_, s, _, o, hu, hm⟩ => ⟨s, o, hu, by
      rw [Seen, hm.2.2.1, okCalls_append, ← List.append_assoc, sealings_openCalls,
        sealings_sealCalls, openings_openCalls, openings_sealCalls, hS, hO]
      exact ⟨rfl, rfl⟩⟩)
    w (made_nil rfl rfl)

/-- The trials, when they fall through, each decrypted to what it had encrypted. -/
theorem randTrials_seen (debug : Bool) (rand : Nat → Nat) (tc : SrtpCipherTestCase) (n : Nat)
    (l : TestLocals) :
    Triple (Seen S O) (randTrials ct debug rand c tc n l)
      (Checked fun _ w => ∃ trials opened, trials.length = n ∧
        List.Forall₂ Opening.Undoes opened trials ∧ Seen (trials ++ S) (opened ++ O) w) := by
  induction n generalizing S O l with
  | zero => exact Triple.pure fun _ h => ⟨[], [], rfl, .nil, h⟩
  | succ n ih =>
    refine Triple.bind (randTrial_seen ct c debug rand tc l) fun l => ?_
    refine Triple.ex fun s => Triple.ex fun o => Triple.assume_and fun hu => ?_
    refine (ih l).conseq (fun _ _ ⟨trials, opened, hn, hf, hw⟩ =>
      ⟨trials ++ [s], opened ++ [o], by simp [hn], List.rel_append hf (.cons hu .nil),
        by simpa using hw⟩) (fun _ _ h => h) fun _ _ h => h

/-- Code that returns only failures meets any requirement on a return of `ok`. -/
theorem Triple.of_checked {P : World σ → Prop} {m : Exec σ SrtpErrStatus α}
    {N : α → World σ → Prop} {D : World σ → Prop} (h : Triple P m (Checked N)) :
    Triple P m ⟨N, fun r w => r = .ok → D w, fun _ _ => True⟩ :=
  h.conseq (fun _ _ h => h) (fun _ _ hr h => absurd h hr) fun _ _ h => h

end Rules

/-- What a verdict of `ok` establishes about the calls of the run: the newest
`numRandTests` sealings and openings are the trials, each decrypting to the
octets it had encrypted; before them, one sealing and one opening for each
known-answer case, in order, the encryption of its plaintext yielding its
ciphertext and its ciphertext decrypting to its plaintext. -/
def Passed (tcs : List SrtpCipherTestCase) (tr : List Event) : Prop :=
  ∃ trials kat opened, sealings tr = trials ++ kat ∧
    List.Forall₂ (fun s v => s.src = v.plaintext ∧ s.Yields v.ciphertext) kat.reverse tcs ∧
    openings tr = opened ++ (tcs.map fun v => (⟨v.ciphertext, v.plaintext,
      v.plaintext.length⟩ : Opening)).reverse ∧
    trials.length = numRandTests ∧ List.Forall₂ Opening.Undoes opened trials

theorem srtpCipherTypeTest_seen (ct : SrtpCipherType σ) (debug : Bool) (rand : Nat → Nat)
    (tcs : List SrtpCipherTestCase) :
    Triple (Seen [] []) (srtpCipherTypeTest ct debug rand tcs)
      ⟨fun e _ => e.elim, fun r w => r = .ok → Passed tcs w.trace, fun _ _ => True⟩ := by
  cases tcs with
  | nil =>
    exact Triple.bind (R := fun _ _ => True) (fun _ _ => (Post.holds_next ..).mpr trivial)
      fun _ => Triple.exit fun _ _ h => nomatch h
  | cons tc rest =>
    refine Triple.bind (testCases_seen ct debug _ _).of_checked fun l => ?_
    refine Triple.ex fun kat => Triple.assume_and fun hkat => ?_
    refine Triple.bind (srtpCipherTypeAlloc_seen ct _ _).of_checked fun ⟨st, c⟩ => ?_
    refine Triple.early_return (fun h => exit_checked h |>.of_checked) fun _ => ?_
    refine Triple.bind (randTrials_seen ct c debug rand tc _ _).of_checked fun _ => ?_
    refine Triple.ex fun trials => Triple.ex fun opened =>
      Triple.assume_and fun hn => Triple.assume_and fun hu => ?_
    refine Triple.bind ((srtpCipherDealloc_records ct c).seen (by decide)).of_checked fun st => ?_
    exact Triple.early_return (fun h => exit_checked h |>.of_checked) fun _ =>
      Triple.exit fun w ⟨hs, ho⟩ _ => ⟨trials, kat, opened, by simpa using hs, hkat,
        by simpa using ho, hn, hu⟩

/-- A run of the self-test that returns `ok` passed its checks in the sense of
`Passed`, for every contract, every list of test cases and every `rand()`
stream. -/
theorem srtpCipherTypeTest_verdict_sound (ct : SrtpCipherType σ) (debug : Bool)
    (rand : Nat → Nat) (tcs : List SrtpCipherTestCase) (st : σ) (draws : Nat) :
    match srtpCipherTypeTest ct debug rand tcs ⟨st, draws, []⟩ with
    | .done .ok w => Passed tcs w.trace
    | _ => True := by
  have h := srtpCipherTypeTest_seen ct debug rand tcs ⟨st, draws, []⟩ ⟨rfl, rfl⟩
  revert h
  cases srtpCipherTypeTest ct debug rand tcs ⟨st, draws, []⟩ with
  | done r w => cases r <;> simp_all [Post.holds_done]
  | _ => exact fun _ => trivial

end CipherMeta
