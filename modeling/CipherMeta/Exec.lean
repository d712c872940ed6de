import CipherMeta.Basic

/-!
How a run is modelled: a state-passing monad over the cipher's memory, the
position in the `rand()` stream and the trace of calls. A statement either
falls through to the next one, returns from the enclosing C function (`done`),
or has undefined behaviour (`fault`): an access outside an array, a read of a
local never stored to, or a read through a NULL `c->type`. A run that faults
has no defined result, so every claim about returned values is about `done`.

Arrays are lists of octets. The monad's outcome rules (`Triple.bind` and the
others) are the Hoare rules the proofs of later modules are built from.
-/

namespace CipherMeta

/-- The arrays the self-test and the benchmark access. -/
inductive SrtpArray
  | buffer | buffer2 | key | iv | plaintext | ciphertext | aad | idx | encBuf
  deriving DecidableEq, Repr

/-- Undefined behaviour the model detects. -/
inductive Undefined
  | outside (array : SrtpArray)
  | indeterminate
  | nullType
  deriving DecidableEq, Repr

/-- What persists from statement to statement besides the caller's locals: the
implementation's memory, how many `rand()` values were drawn, and the trace. -/
structure World (σ : Type) where
  cipher : σ
  draws : Nat
  trace : List Event

def World.record {σ : Type} (w : World σ) (e : Event) : World σ :=
  { w with trace := w.trace ++ [e] }

@[simp] theorem World.record_trace {σ : Type} (w : World σ) (e : Event) :
    (w.record e).trace = w.trace ++ [e] := rfl

@[simp] theorem World.record_draws {σ : Type} (w : World σ) (e : Event) :
    (w.record e).draws = w.draws := rfl

@[simp] theorem World.record_cipher {σ : Type} (w : World σ) (e : Event) :
    (w.record e).cipher = w.cipher := rfl

/-- How a statement ends: it falls through with a value, the enclosing
function returns `r`, or the behaviour is undefined. -/
inductive Outcome (σ ρ α : Type)
  | next (a : α) (w : World σ)
  | done (r : ρ) (w : World σ)
  | fault (u : Undefined) (w : World σ)

/-- The world an outcome leaves. -/
def Outcome.world {σ ρ α : Type} : Outcome σ ρ α → World σ
  | .next _ w | .done _ w | .fault _ w => w

def Outcome.bind {σ ρ α β : Type} : Outcome σ ρ α → (α → World σ → Outcome σ ρ β) →
    Outcome σ ρ β
  | .next a w, f => f a w
  | .done r w, _ => .done r w
  | .fault u w, _ => .fault u w

/-- Statements of a C function returning `ρ`, run against the world. -/
def Exec (σ ρ α : Type) := World σ → Outcome σ ρ α

instance {σ ρ : Type} : Monad (Exec σ ρ) where
  pure a := fun w => .next a w
  bind m f := fun w => (m w).bind f

section Primitives

variable {σ ρ α : Type}

@[simp] theorem Exec.pure_apply (a : α) (w : World σ) :
    (pure a : Exec σ ρ α) w = .next a w := rfl

@[simp] theorem Exec.bind_apply {β : Type} (m : Exec σ ρ α) (f : α → Exec σ ρ β)
    (w : World σ) : (m >>= f) w = (m w).bind f := rfl

@[simp] theorem Outcome.next_bind {β : Type} (a : α) (w : World σ)
    (f : α → World σ → Outcome σ ρ β) : (Outcome.next a w).bind f = f a w := rfl

@[simp] theorem Outcome.done_bind {β : Type} (r : ρ) (w : World σ)
    (f : α → World σ → Outcome σ ρ β) : (Outcome.done r w).bind f = .done r w := rfl

@[simp] theorem Outcome.fault_bind {β : Type} (u : Undefined) (w : World σ)
    (f : α → World σ → Outcome σ ρ β) : (Outcome.fault u w).bind f = .fault u w := rfl

/-- `return r;` from the enclosing function. -/
def exit (r : ρ) : Exec σ ρ α := fun w => .done r w

/-- Undefined behaviour at this statement. -/
def undefined (u : Undefined) : Exec σ ρ α := fun w => .fault u w

/-- Append an event to the trace. -/
def emit (e : Event) : Exec σ ρ Unit := fun w => .next () (w.record e)

/-- The octets `bytes` stored from offset `off` of `buf` on, or `none` when
they would reach past its end. -/
def writeAt (buf : List UInt8) (off : Nat) (bytes : List UInt8) : Option (List UInt8) :=
  if off + bytes.length ≤ buf.length then
    some (buf.take off ++ bytes ++ buf.drop (off + bytes.length))
  else none

theorem writeAt_eq_some (buf : List UInt8) (off : Nat) (bytes : List UInt8)
    (h : off + bytes.length ≤ buf.length) :
    ∃ buf', writeAt buf off bytes = some buf' ∧ buf'.length = buf.length := by
  refine ⟨_, if_pos h, ?_⟩
  simp only [List.length_append, List.length_take, List.length_drop]
  omega

/-- The `n` octets of `buf` from offset `off` on, as far as `buf` goes. -/
def window (buf : List UInt8) (off n : Nat) : List UInt8 := (buf.drop off).take n

@[simp] theorem window_append (xs ys : List UInt8) : window (xs ++ ys) 0 xs.length = xs := by
  simp [window]

theorem window_append_of_eq {xs ys : List UInt8} {n : Nat} (h : xs.length = n) :
    window (xs ++ ys) 0 n = xs :=
  h ▸ window_append xs ys

/-- Writing after a prefix keeps the prefix and overwrites what follows it. -/
theorem writeAt_append (pre rest bytes : List UInt8) (h : bytes.length ≤ rest.length) :
    writeAt (pre ++ rest) pre.length bytes = some (pre ++ (bytes ++ rest.drop bytes.length)) := by
  rw [writeAt, if_pos (by simp only [List.length_append]; omega)]
  simp [List.drop_append]

theorem writeAt_zero (buf bytes : List UInt8) (h : bytes.length ≤ buf.length) :
    writeAt buf 0 bytes = some (bytes ++ buf.drop bytes.length) :=
  writeAt_append [] buf bytes h

/-- A write from `off` on leaves the `off` octets before it. -/
theorem window_writeAt_prefix {buf buf' bytes : List UInt8} {off : Nat}
    (h : writeAt buf off bytes = some buf') : window buf' 0 off = window buf 0 off := by
  unfold writeAt at h
  split at h
  · cases h
    simp only [window, List.drop_zero, List.append_assoc]
    rw [List.take_append_of_le_length (by simp; omega), List.take_take, Nat.min_self]
  · cases h

/-- The octets from 0 up to `m + n` are those up to `m`, then the `n` from `m` on. -/
theorem window_zero_add (buf : List UInt8) (m n : Nat) :
    window buf 0 (m + n) = window buf 0 m ++ window buf m n := by
  simp [window, List.take_add]

/-- Store `bytes` into array `a` at `off`. -/
def store (a : SrtpArray) (buf : List UInt8) (off : Nat) (bytes : List UInt8) :
    Exec σ ρ (List UInt8) := fun w =>
  match writeAt buf off bytes with
  | some buf' => .next buf' w
  | none => .fault (.outside a) w

/-- Read `n` octets of array `a` from `off` on. -/
def load (a : SrtpArray) (buf : List UInt8) (off n : Nat) : Exec σ ρ (List UInt8) :=
  fun w => if off + n ≤ buf.length then .next (window buf off n) w else .fault (.outside a) w

/-- `for (k = 0; k < n; k++) dst[k] = src[k];`. The first access outside an
array is undefined: `src[k]` is read before `dst[k]` is written. -/
def copyOctets (dstArray : SrtpArray) (dst : List UInt8) (srcArray : SrtpArray)
    (src : List UInt8) (n : Nat) : Exec σ ρ (List UInt8) := fun w =>
  if n ≤ src.length ∧ n ≤ dst.length then .next (src.take n ++ dst.drop n) w
  else .fault (.outside (if src.length ≤ dst.length then srcArray else dstArray)) w

/-- The low octets (`val & 0xff`) of `len` successive `rand()` values from
position `draws` of the stream on. -/
def randOctets (rand : Nat → Nat) (draws len : Nat) : List UInt8 :=
  (List.range len).map fun i => UInt8.ofNat (rand (draws + i) % 256)

/-- `srtp_cipher_rand_for_tests(dest, len)`. -/
def srtpCipherRandForTests (rand : Nat → Nat) (a : SrtpArray) (dest : List UInt8)
    (len : Nat) : Exec σ ρ (List UInt8) := fun w =>
  match writeAt dest 0 (randOctets rand w.draws len) with
  | some dest' => .next dest' { w with draws := w.draws + len }
  | none => .fault (.outside a) w

/-- `srtp_cipher_rand_u32_for_tests()`: four octets of
`srtp_cipher_rand_for_tests` stored into a `uint32_t`, read in little-endian
host order. -/
def srtpCipherRandU32ForTests (rand : Nat → Nat) : Exec σ ρ Nat := fun w =>
  .next ((randOctets rand w.draws 4).foldr (fun b acc => b.toNat + 256 * acc) 0)
    { w with draws := w.draws + 4 }

end Primitives

/-! ### Hoare rules -/

/-- A postcondition for each way a statement can end. -/
structure Post (σ ρ α : Type) where
  next : α → World σ → Prop
  done : ρ → World σ → Prop
  fault : Undefined → World σ → Prop

/-- The outcome is one `Q` allows. Irreducible, so that elaborating a triple
never runs the program it is about; the three lemmas below unfold it. -/
@[irreducible] def Post.Holds {σ ρ α : Type} (Q : Post σ ρ α) : Outcome σ ρ α → Prop
  | .next a w => Q.next a w
  | .done r w => Q.done r w
  | .fault u w => Q.fault u w

@[simp] theorem Post.holds_next {σ ρ α : Type} (Q : Post σ ρ α) (a : α) (w : World σ) :
    Q.Holds (.next a w) = Q.next a w := by
  unfold Post.Holds; rfl

@[simp] theorem Post.holds_done {σ ρ α : Type} (Q : Post σ ρ α) (r : ρ) (w : World σ) :
    Q.Holds (.done r w) = Q.done r w := by
  unfold Post.Holds; rfl

@[simp] theorem Post.holds_fault {σ ρ α : Type} (Q : Post σ ρ α) (u : Undefined) (w : World σ) :
    Q.Holds (.fault u w) = Q.fault u w := by
  unfold Post.Holds; rfl

/-- From every world satisfying `P`, `m` ends as `Q` allows. -/
def Triple {σ ρ α : Type} (P : World σ → Prop) (m : Exec σ ρ α) (Q : Post σ ρ α) : Prop :=
  ∀ w, P w → Q.Holds (m w)

/-- Neither a return nor undefined behaviour: the code falls through as `N`
says. -/
def Smooth {σ ρ α : Type} (N : α → World σ → Prop) : Post σ ρ α :=
  ⟨N, fun _ _ => False, fun _ _ => False⟩

namespace Triple

variable {σ ρ α β : Type} {P : World σ → Prop} {Q : Post σ ρ β}

theorem bind {m : Exec σ ρ α} {f : α → Exec σ ρ β} {R : α → World σ → Prop}
    (hm : Triple P m ⟨R, Q.done, Q.fault⟩) (hf : ∀ a, Triple (R a) (f a) Q) :
    Triple P (m >>= f) Q := by
  intro w hw
  show Q.Holds ((m w).bind f)
  revert hw
  have h := hm w
  revert h
  cases m w with
  | next a w' => simpa using fun h hw => hf a w' (h hw)
  | done r w' => simp
  | fault u w' => simp

theorem pure {a : β} (h : ∀ w, P w → Q.next a w) : Triple P (Pure.pure a) Q :=
  fun w hw => (Post.holds_next Q a w).mpr (h w hw)

theorem exit {r : ρ} (h : ∀ w, P w → Q.done r w) : Triple P (CipherMeta.exit r) Q :=
  fun w hw => (Post.holds_done Q r w).mpr (h w hw)

theorem ite {c : Prop} {inst : Decidable c} {m₁ m₂ : Exec σ ρ β}
    (h₁ : c → Triple P m₁ Q) (h₂ : ¬c → Triple P m₂ Q) :
    Triple P (if c then m₁ else m₂) Q := by
  by_cases hc : c
  · simpa [hc] using h₁ hc
  · simpa [hc] using h₂ hc

/-- An `if` statement in the middle of a `do` block: both arms go on to the
same join point `jp`. -/
theorem ite_join {c : Prop} {inst : Decidable c} {m₁ m₂ : Exec σ ρ α}
    {jp : α → Exec σ ρ β} {R : α → World σ → Prop}
    (h₁ : c → Triple P m₁ ⟨R, Q.done, Q.fault⟩) (h₂ : ¬c → Triple P m₂ ⟨R, Q.done, Q.fault⟩)
    (hjp : ∀ a, Triple (R a) (jp a) Q) :
    Triple P (if c then m₁ >>= jp else m₂ >>= jp) Q :=
  ite (fun hc => bind (h₁ hc) hjp) fun hc => bind (h₂ hc) hjp

/-- An `if` statement in the middle of a `do` block whose condition does not
hold. -/
theorem skip {c : Prop} {inst : Decidable c} {m : Exec σ ρ β} {jp : Unit → Exec σ ρ β}
    (hc : ¬c) (h : Triple P (jp ()) Q) :
    Triple P (if c then m else Pure.pure () >>= jp) Q := by
  rw [if_neg hc]
  exact h

/-- An early return, `if (c) { ...; return s; }` in the middle of a `do`
block: the returning arm never falls through, so what follows starts from
`P`, knowing `¬c`. -/
theorem early_return {c : Prop} {inst : Decidable c} {m : Exec σ ρ Unit}
    {jp : Unit → Exec σ ρ β} {N : β → World σ → Prop} {D : ρ → World σ → Prop}
    {F : Undefined → World σ → Prop} (h₁ : c → Triple P m ⟨fun _ _ => False, D, F⟩)
    (h₂ : ¬c → Triple P (jp ()) ⟨N, D, F⟩) :
    Triple P (if c then m >>= jp else Pure.pure () >>= jp) ⟨N, D, F⟩ :=
  ite (fun hc => bind (h₁ hc) fun _ _ h => h.elim)
    fun hc => bind (pure fun _ hw => hw) fun _ => h₂ hc

theorem ex {ι : Type} {P : ι → World σ → Prop} {m : Exec σ ρ β} (h : ∀ x, Triple (P x) m Q) :
    Triple (fun w => ∃ x, P x w) m Q := fun w ⟨x, hx⟩ => h x w hx

theorem weaken {P' : World σ → Prop} {m : Exec σ ρ β} (h : Triple P' m Q)
    (hp : ∀ w, P w → P' w) : Triple P m Q := fun w hw => h w (hp w hw)

theorem conseq {Q' : Post σ ρ β} {m : Exec σ ρ β} (h : Triple P m Q')
    (hn : ∀ a w, Q'.next a w → Q.next a w) (hd : ∀ r w, Q'.done r w → Q.done r w)
    (hf : ∀ u w, Q'.fault u w → Q.fault u w) : Triple P m Q := by
  intro w hw
  have h' := h w hw
  revert h'
  cases m w with
  | next a w' => simpa using hn a w'
  | done r w' => simpa using hd r w'
  | fault u w' => simpa using hf u w'

/-- A fact the precondition states beside one about the world. -/
theorem assume_and {p : Prop} {P' : World σ → Prop} {m : Exec σ ρ β} (h : p → Triple P' m Q) :
    Triple (fun w => p ∧ P' w) m Q := fun w ⟨hp, hw⟩ => h hp w hw

/-- A fact the precondition states beside what follows from it. -/
theorem assume_imp {p : Prop} {P' : World σ → Prop} {m : Exec σ ρ β} (h : p → Triple P' m Q) :
    Triple (fun w => p ∧ (p → P' w)) m Q := fun w ⟨hp, hw⟩ => h hp w (hw hp)

/-- A fact the precondition states about nothing in the world. -/
theorem assume {p : Prop} {m : Exec σ ρ β} (h : p → Triple (fun _ => True) m Q) :
    Triple (fun _ => p) m Q := fun w hp => h hp w trivial

/-- Code that never returns and never faults meets any postcondition for those
two ends. -/
theorem never {m : Exec σ ρ β} {N : β → World σ → Prop} {D : ρ → World σ → Prop}
    {F : Undefined → World σ → Prop}
    (h : Triple P m ⟨N, fun _ _ => False, fun _ _ => False⟩) : Triple P m ⟨N, D, F⟩ :=
  h.conseq (fun _ _ h => h) (fun _ _ h => h.elim) (fun _ _ h => h.elim)

end Triple

end CipherMeta
