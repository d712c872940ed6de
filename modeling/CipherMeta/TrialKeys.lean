import CipherMeta.Soundness

/-!
The keys of the randomized trials of `srtp_cipher_type_test`. The IV a trial
draws into `iv` is never read (both directions set the first test case's
`idx`), but the key it draws into `key` is what both of its
`srtp_cipher_init` calls get. Each trial reads `rand()` in a fixed order: four
values for the plaintext's length, the plaintext, `key_length_octets` values
for the key, then `MAX_KEY_LEN` for `iv`. So the count of values drawn only
grows from trial to trial, and no value of the stream goes into the keys of two
trials.

The trace projection `initKeys` lists the keys the `init` calls were given;
the count of values drawn is the world's `draws`. Both are read off the spec
of a trial (`randTrial_calls`).
-/

namespace CipherMeta

/-- The keys of the `init` calls of a trace, in order. -/
def initKeys (tr : List Event) : List (List UInt8) :=
  tr.filterMap fun
    | .call _ (.init key) _ => some key
    | _ => none

@[simp] theorem initKeys_append (tr tr' : List Event) :
    initKeys (tr ++ tr') = initKeys tr ++ initKeys tr' := List.filterMap_append ..

/-- The keys given to `init` so far, and the count of values drawn. -/
def KeyDraws (K : List (List UInt8)) (d : Nat) (w : World σ) : Prop :=
  initKeys w.trace = K ∧ w.draws = d

/-- The calls of a trial under `key` give `init` that key twice. -/
theorem initKeys_trialCalls (c : SrtpCipher) (tc : SrtpCipherTestCase) (key : List UInt8)
    (s : Sealing) (cap : Option Nat) (o : Opening) :
    initKeys (okCalls c (sealCalls c tc key s cap ++ openCalls c tc key o)) = [key, key] := by
  obtain ⟨src, out, len, _ | ⟨tag, t⟩⟩ := s <;> unfold sealCalls openCalls aadCalls <;>
    split <;> rfl

section Rules

variable {K : List (List UInt8)} {d : Nat} (ct : SrtpCipherType σ) (c : SrtpCipher)

/-- A trial that falls through initialized twice with the key it drew after
the length of its plaintext and the plaintext, and then drew the IV. -/
theorem randTrial_keyDraws (debug : Bool) (rand : Nat → Nat) (tc : SrtpCipherTestCase)
    (l : TestLocals) :
    Triple (KeyDraws K d) (randTrial ct debug rand c tc l)
      (Checked fun _ => fun w => ∃ pl, KeyDraws (K ++
        [drawnKey rand tc.keyLengthOctets (d + 4 + pl),
          drawnKey rand tc.keyLengthOctets (d + 4 + pl)])
        (d + 4 + pl + tc.keyLengthOctets + maxKeyLen) w) :=
  fun w ⟨hK, hd⟩ => Stops.checked c (randTrial_calls ct debug rand l)
    (fun _ _ ⟨pl, _, _, _, _, hm⟩ =>
      ⟨pl, by rw [hm.2.2.1, initKeys_append, initKeys_trialCalls, hK], hm.2.2.2⟩)
    w (made_nil rfl hd)

/-- The trial loop: two `init` calls per trial, both with the key the trial
drew, each key from a window of the stream that starts after every earlier
window ends. -/
theorem randTrials_keyDraws (debug : Bool) (rand : Nat → Nat) (tc : SrtpCipherTestCase)
    (n : Nat) (l : TestLocals) :
    Triple (KeyDraws K d) (randTrials ct debug rand c tc n l)
      (Checked fun _ w => d ≤ w.draws ∧ ∃ ds : List Nat, ds.length = n ∧
        ds.Pairwise (fun e e' => e + tc.keyLengthOctets ≤ e') ∧
        (∀ e ∈ ds, d ≤ e ∧ e + tc.keyLengthOctets ≤ w.draws) ∧
        initKeys w.trace = K ++ ds.flatMap fun e =>
          [drawnKey rand tc.keyLengthOctets e, drawnKey rand tc.keyLengthOctets e]) := by
  induction n generalizing K d l with
  | zero =>
    exact Triple.pure fun _ ⟨hK, hd⟩ => ⟨hd.ge, [], rfl, .nil, by simp, by simp [hK]⟩
  | succ n ih =>
    refine Triple.bind (randTrial_keyDraws ct c debug rand tc l) fun l => ?_
    refine Triple.ex fun pl => (ih l).conseq (fun _ _ ⟨hd, ds, hn, hp, hb, hK⟩ =>
      ⟨by omega, (d + 4 + pl) :: ds, by simp [hn],
        List.pairwise_cons.mpr ⟨fun e he => by have := hb e he; omega, hp⟩, ?_,
        by simp [hK]⟩) (fun _ _ h => h) fun _ _ h => h
    simp only [List.forall_mem_cons]
    exact ⟨by omega, fun e he => by have := hb e he; omega⟩

end Rules

/-- Each randomized trial encrypts and decrypts under the key it drew, and no
two trials share a drawn value. When the `n` trials all fall through, their
`init` calls were given, two by two, the keys drawn from positions `ds` of the
`rand()` stream, one position per trial and in order; each key window lies
within the draws the loop made, and each ends before the next one starts. -/
theorem randTrials_fresh_keys (ct : SrtpCipherType σ) (debug : Bool) (rand : Nat → Nat)
    (c : SrtpCipher) (tc : SrtpCipherTestCase) (n : Nat) (l : TestLocals) (w : World σ) :
    match randTrials ct debug rand c tc n l w with
    | .next _ w' => ∃ ds : List Nat, ds.length = n ∧
        ds.Pairwise (fun e e' => e + tc.keyLengthOctets ≤ e') ∧
        (∀ e ∈ ds, w.draws ≤ e ∧ e + tc.keyLengthOctets ≤ w'.draws) ∧
        initKeys w'.trace = initKeys w.trace ++ ds.flatMap fun e =>
          [drawnKey rand tc.keyLengthOctets e, drawnKey rand tc.keyLengthOctets e]
    | _ => True := by
  have h := randTrials_keyDraws ct c debug rand tc n l w ⟨rfl, rfl⟩
  revert h
  cases randTrials ct debug rand c tc n l w with
  | next _ w' => exact fun h => ((Post.holds_next ..).mp h).2
  | _ => exact fun _ => trivial

end CipherMeta
