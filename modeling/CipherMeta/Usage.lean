import CipherMeta.Basic

/-!
The protocol a caller of the dispatch layer keeps with the instances it
allocates, as an automaton read over the trace. From `idle` a successful
`alloc` makes an instance live; while it is live only calls on it are
allowed, `encrypt` and `decrypt` only once `init` and then `set_iv` were
called since the last `init`, and `get_tag` only right after a successful
`encrypt`; its `dealloc` ends it. The first failure, a call returning
anything but `ok` or a failed check of the caller's own (a `verdict`), leaves
one thing to do, the `dealloc` of the instance then live, after which
nothing may follow (`closed`). Anything else is `broken`, and stays so.
-/

namespace CipherMeta

/-- An event that reports no failure: a call that returned `ok`. -/
def Event.succeeded : Event → Bool
  | .call _ _ s => s == .ok
  | _ => false

theorem Event.succeeded_iff {e : Event} : e.succeeded ↔ ∃ c op, e = .call c op .ok := by
  cases e <;> simp [Event.succeeded]

inductive Usage
  | idle
  | live (c : SrtpCipher) (keyed ivSet encrypted : Bool)
  | failed (c : SrtpCipher) (status : SrtpErrStatus)
  | closed (status : SrtpErrStatus)
  | broken
  deriving DecidableEq, Repr

namespace Usage

/-- Whether a live instance, keyed and given an IV since its last `init` or
not, and just encrypted or not, may receive a call of kind `k`. -/
def allows (keyed ivSet encrypted : Bool) : CallKind → Bool
  | .alloc => false
  | .encrypt | .decrypt => keyed && ivSet
  | .getTag => encrypted
  | _ => true

/-- The protocol's state after a successful call of kind `k` on live `c`. -/
def afterCall (c : SrtpCipher) (keyed ivSet : Bool) : CallKind → Usage
  | .dealloc => .idle
  | .init => .live c true false false
  | .setIv => .live c keyed true false
  | .encrypt => .live c keyed ivSet true
  | _ => .live c keyed ivSet false

/-- Whether successful calls of kinds `ks`, on a live instance keyed and given
an IV or not and just encrypted or not, are each allowed, none of them its
`dealloc`. -/
def drives : Bool → Bool → Bool → List CallKind → Bool
  | _, _, _, [] => true
  | keyed, ivSet, encrypted, k :: ks => allows keyed ivSet encrypted k && k != .dealloc &&
      match k with
      | .init => drives true false false ks
      | .setIv => drives keyed true false ks
      | .encrypt => drives keyed ivSet true ks
      | _ => drives keyed ivSet false ks

/-- A call of kind `k` on `c` that returned `s`. -/
def call : Usage → SrtpCipher → CallKind → SrtpErrStatus → Usage
  | .idle, c, k, s =>
    if k = .alloc then (if s = .ok then .live c false false false else .closed s) else .broken
  | .live c keyed ivSet encrypted, c', k, s =>
    if c' = c ∧ allows keyed ivSet encrypted k = true then
      if s = .ok then afterCall c keyed ivSet k
      else if k = .dealloc then .closed s else .failed c s
    else .broken
  | .failed c s, c', k, _ => if c' = c ∧ k = .dealloc then .closed s else .broken
  | _, _, _, _ => .broken

/-- A failed check of the caller's own, returning `s`. -/
def verdict : Usage → SrtpErrStatus → Usage
  | .idle, s => .closed s
  | .live c .., s => .failed c s
  | _, _ => .broken

def step (u : Usage) : Event → Usage
  | .call c op s => u.call c op.kind s
  | .verdict s => u.verdict s
  | _ => .broken

/-- The protocol's state after a whole trace. -/
def ofTrace (tr : List Event) : Usage := tr.foldl step .idle

@[simp] theorem ofTrace_nil : ofTrace [] = .idle := rfl

@[simp] theorem ofTrace_append_singleton (tr : List Event) (e : Event) :
    ofTrace (tr ++ [e]) = (ofTrace tr).step e := List.foldl_append ..

@[simp] theorem step_call (u : Usage) (c : SrtpCipher) (op : SrtpCipherCall)
    (s : SrtpErrStatus) : u.step (.call c op s) = u.call c op.kind s := rfl

@[simp] theorem step_verdict (u : Usage) (s : SrtpErrStatus) :
    u.step (.verdict s) = u.verdict s := rfl

@[simp] theorem broken_call (c : SrtpCipher) (k : CallKind) (s : SrtpErrStatus) :
    broken.call c k s = broken := rfl

@[simp] theorem closed_call (s : SrtpErrStatus) (c : SrtpCipher) (k : CallKind)
    (s' : SrtpErrStatus) : (closed s).call c k s' = broken := rfl

@[simp] theorem broken_step (e : Event) : broken.step e = broken := by
  cases e <;> rfl

theorem broken_run (tr : List Event) : tr.foldl step broken = broken := by
  induction tr with
  | nil => rfl
  | cons e tr ih => simpa using ih

/-- A live instance answering a successful call the protocol allows. -/
theorem live_call_ok {c : SrtpCipher} {keyed ivSet encrypted : Bool} {k : CallKind}
    (hk : allows keyed ivSet encrypted k = true) :
    (live c keyed ivSet encrypted).call c k .ok = afterCall c keyed ivSet k := by
  simp [call, hk]

/-- A live instance answering a failed call the protocol allows. -/
theorem live_call_fail {c : SrtpCipher} {keyed ivSet encrypted : Bool} {k : CallKind}
    {s : SrtpErrStatus} (hk : allows keyed ivSet encrypted k = true) (hs : s ≠ .ok)
    (hkd : k ≠ .dealloc) : (live c keyed ivSet encrypted).call c k s = failed c s := by
  simp [call, hk, hs, hkd]

theorem idle_call_alloc (c : SrtpCipher) (s : SrtpErrStatus) :
    idle.call c .alloc s = if s = .ok then live c false false false else closed s := rfl

theorem live_call_dealloc (c : SrtpCipher) (keyed ivSet encrypted : Bool) (s : SrtpErrStatus) :
    (live c keyed ivSet encrypted).call c .dealloc s = if s = .ok then idle else closed s := by
  by_cases hs : s = .ok <;> simp [call, allows, afterCall, hs]

/-- Successful calls that `drives` allows leave the instance live, and the
kinds after them are allowed in turn. -/
theorem drives_append (c : SrtpCipher) {keyed ivSet encrypted : Bool} {pre post : List CallKind}
    (h : drives keyed ivSet encrypted (pre ++ post) = true) :
    ∃ k i e, pre.foldl (fun u kd => u.call c kd .ok) (live c keyed ivSet encrypted) = live c k i e ∧
      drives k i e post = true := by
  induction pre generalizing keyed ivSet encrypted with
  | nil => exact ⟨_, _, _, rfl, h⟩
  | cons kd pre ih =>
    simp only [List.cons_append, drives, Bool.and_eq_true, bne_iff_ne, ne_eq] at h
    obtain ⟨⟨ha, hd⟩, h⟩ := h
    rw [List.foldl_cons, live_call_ok ha]
    cases kd <;> first | exact absurd rfl hd | exact ih h

/-- How a run may stop when its function returns `r`: no instance is left
and the protocol is not broken, and `r` is the first failure's status, or
`ok` when nothing failed. -/
def Accepts (u : Usage) (r : SrtpErrStatus) : Prop :=
  (u = .idle ∧ r = .ok) ∨ (r ≠ .ok ∧ u = .closed r)

/-- Where a run may be when its behaviour becomes undefined: nothing has
failed yet and the protocol is not broken. -/
def Running (u : Usage) : Prop :=
  u = .idle ∨ ∃ c keyed ivSet encrypted, u = .live c keyed ivSet encrypted

theorem running_live (c : SrtpCipher) (keyed ivSet encrypted : Bool) :
    Running (live c keyed ivSet encrypted) := .inr ⟨c, keyed, ivSet, encrypted, rfl⟩

theorem afterCall_running (c : SrtpCipher) (keyed ivSet : Bool) (k : CallKind) :
    (afterCall c keyed ivSet k).Running := by
  cases k <;> first | exact .inl rfl | exact running_live ..

theorem ofTrace_append_cons (pre post : List Event) (e : Event) :
    ofTrace (pre ++ e :: post) = post.foldl step ((ofTrace pre).step e) := by
  simp [ofTrace, List.foldl_append]

/-- Calls that all succeed keep a running protocol running, or break it. -/
theorem run_succeeded {tr : List Event} (htr : ∀ e ∈ tr, e.succeeded) :
    ∀ {u : Usage}, u.Running ∨ u = broken → (tr.foldl step u).Running ∨
      tr.foldl step u = broken := by
  induction tr with
  | nil => exact id
  | cons e tr ih =>
    intro u hu
    refine ih (fun e he => htr e (.tail _ he)) ?_
    obtain ⟨c, op, rfl⟩ := Event.succeeded_iff.mp (htr e (.head _))
    rcases hu with (rfl | ⟨c₀, keyed, ivSet, encrypted, rfl⟩) | rfl
    · by_cases hk : op.kind = .alloc <;> simp [step, call, hk, running_live]
    · by_cases h : c = c₀ ∧ allows keyed ivSet encrypted op.kind = true
      · simp only [step, call, if_pos h, if_pos rfl]
        exact .inl (afterCall_running ..)
      · simp [step, call, h]
    · simp

/-- Once closed, any further event breaks the protocol. -/
theorem closed_run (s : SrtpErrStatus) (tr : List Event) :
    tr.foldl step (closed s) = if tr = [] then closed s else broken := by
  cases tr with
  | nil => rfl
  | cons e tr => cases e <;> simp [step, verdict, broken_run]

theorem failed_run (c : SrtpCipher) (s : SrtpErrStatus) (tr : List Event) :
    tr.foldl step (failed c s) = failed c s ∨ tr.foldl step (failed c s) = broken ∨
      ∃ op s', op.kind = .dealloc ∧ tr = [.call c op s'] ∧
        tr.foldl step (failed c s) = closed s := by
  rcases tr with _ | ⟨e, tr⟩
  · exact .inl rfl
  refine .inr ?_
  cases e with
  | call c' op s' =>
    by_cases h : c' = c ∧ op.kind = .dealloc
    · obtain ⟨rfl, hk⟩ := h
      simp only [List.foldl_cons, step, call, hk, and_self, if_true, closed_run]
      by_cases ht : tr = []
      · subst ht; exact .inr ⟨op, s', hk, rfl, rfl⟩
      · simp [ht]
    · simp [step, call, h, broken_run]
  | _ => simp [step, verdict, broken_run]

theorem afterCall_eq_live {c₀ c : SrtpCipher} {keyed ivSet k i e : Bool} {kind : CallKind}
    (h : afterCall c₀ keyed ivSet kind = live c k i e) : c₀ = c := by
  cases kind <;> simp [afterCall] at h <;> exact h.1

/-- The only ways into a live state: a call that keeps the instance live, or
its successful allocation from `idle`. -/
theorem step_eq_live {u : Usage} {e : Event} {c : SrtpCipher} {k i en : Bool}
    (h : u.step e = live c k i en) :
    (∃ k i en, u = live c k i en) ∨ (u = idle ∧ ∃ op, op.kind = .alloc ∧ e = .call c op .ok) := by
  cases e with
  | call c' op s =>
    cases u with
    | idle =>
      simp only [step, call] at h
      split_ifs at h with hk hs
      cases h
      exact .inr ⟨rfl, op, hk, by rw [hs]⟩
    | live c₀ k₀ i₀ e₀ =>
      simp only [step, call] at h
      split_ifs at h with hc
      obtain ⟨rfl, -⟩ := hc
      exact .inl ⟨k₀, i₀, e₀, by rw [afterCall_eq_live h]⟩
    | failed c₀ s₀ => simp only [step, call] at h; split_ifs at h
    | closed s₀ => simp [step] at h
    | broken => simp [step] at h
  | verdict s => cases u <;> simp [step, verdict] at h
  | cryptoAlloc => simp [step] at h
  | cryptoFree => simp [step] at h

/-- A live instance was allocated by a successful call earlier in the trace. -/
theorem run_live {c : SrtpCipher} {keyed ivSet encrypted : Bool} {tr : List Event} :
    ∀ {u : Usage}, tr.foldl step u = live c keyed ivSet encrypted →
      (∃ k i e, u = live c k i e) ∨
        ∃ pre₁ pre₂ op, op.kind = .alloc ∧ tr = pre₁ ++ .call c op .ok :: pre₂ := by
  induction tr with
  | nil => exact fun h => .inl ⟨_, _, _, h⟩
  | cons e tr ih =>
    intro u h
    rcases ih h with ⟨k, i, en, hu⟩ | ⟨pre₁, pre₂, op, hk, rfl⟩
    · rcases step_eq_live hu with hu | ⟨rfl, op, hk, rfl⟩
      · exact .inl hu
      · exact .inr ⟨[], tr, op, hk, rfl⟩
    · exact .inr ⟨e :: pre₁, pre₂, op, hk, rfl⟩

/-- A failing call on a running protocol: a failed allocation or `dealloc`
closes it, any other failure of an allowed call on the live instance leaves
that instance to be deallocated, and anything else breaks it. -/
theorem call_fail {u : Usage} (hu : u.Running) {c : SrtpCipher} {k : CallKind}
    {s : SrtpErrStatus} (hs : s ≠ .ok) :
    ((k = .alloc ∨ k = .dealloc) ∧ u.call c k s = closed s) ∨
      (¬(k = .alloc ∨ k = .dealloc) ∧ (∃ k i e, u = live c k i e) ∧ u.call c k s = failed c s) ∨
      u.call c k s = broken := by
  rcases hu with rfl | ⟨c₀, keyed, ivSet, encrypted, rfl⟩
  · by_cases hk : k = .alloc <;> simp [call, hk, hs]
  · by_cases h : c = c₀ ∧ allows keyed ivSet encrypted k = true
    · obtain ⟨rfl, ha⟩ := h
      by_cases hkd : k = .dealloc
      · subst hkd; simp [call, hs, allows]
      · have hka : k ≠ .alloc := by rintro rfl; simp [allows] at ha
        exact .inr (.inl ⟨by tauto, ⟨_, _, _, rfl⟩, by simp [call, ha, hs, hkd]⟩)
    · simp [call, h]

/-- What the first failure of a trace leaves to happen: the protocol stops with
its status, after nothing more when it was an allocation or a `dealloc`, and
otherwise after exactly one `dealloc` of the instance it was made on, which an
earlier successful allocation made. Where it is followed by undefined
behaviour, the protocol is no longer running. -/
theorem first_failure {pre : List Event} (post : List Event) (c : SrtpCipher)
    (op : SrtpCipherCall) {s : SrtpErrStatus} (hs : s ≠ .ok) (hpre : ∀ e ∈ pre, e.succeeded) :
    ¬(ofTrace (pre ++ .call c op s :: post)).Running ∧
      ∀ r, (ofTrace (pre ++ .call c op s :: post)).Accepts r → r = s ∧
        if op.kind = .alloc ∨ op.kind = .dealloc then post = []
        else (∃ op' s', op'.kind = .dealloc ∧ post = [.call c op' s']) ∧
          ∃ pre₁ pre₂ op₀, op₀.kind = .alloc ∧ pre = pre₁ ++ .call c op₀ .ok :: pre₂ := by
  rw [ofTrace_append_cons, step_call]
  have hrun : (ofTrace pre).Running ∨ ofTrace pre = broken := run_succeeded hpre (.inl (.inl rfl))
  generalize hu : ofTrace pre = u at hrun
  rcases hrun with hrun | rfl
  swap
  · simp [broken_run, Running, Accepts]
  rcases call_fail hrun (c := c) (k := op.kind) hs with ⟨hk, hv⟩ | ⟨hk, ⟨k, i, e, rfl⟩, hv⟩ | hv <;>
    rw [hv]
  · rw [closed_run]
    split_ifs with hp <;> simp [Running, Accepts, hk, hp, eq_comm]
  · rcases failed_run c s post with h | h | ⟨op', s', hd, rfl, h⟩ <;> rw [h]
    · simp [Running, Accepts]
    · simp [Running, Accepts]
    · refine ⟨by simp [Running], fun r hr => ⟨?_, ?_⟩⟩
      · simp [Accepts] at hr
        exact hr.2.symm
      · rw [if_neg hk]
        refine ⟨⟨op', s', hd, rfl⟩, ?_⟩
        rcases run_live hu with ⟨_, _, _, h⟩ | h
        · cases h
        · exact h
  · simp [broken_run, Running, Accepts]

end Usage

end CipherMeta
