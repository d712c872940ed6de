import CipherMeta.TypeTest

/-!
Contracts that behave. An honest contract answers `ok` to every operation,
allocates usable instances, and produces outputs that depend only on what the
instance was told since its last `init` (its `Session`) and on the input:
`encrypt`, `decrypt`, and the tag a `get_tag` right after an `encrypt` gives.
The contract's memory may hold anything else; `agrees` relates it to the
session it stands for, so the premise covers every contract whose outputs are
so determined, not only those that store the session.

`Reproduces` and `RoundTrips` are what the self-test asks of such a contract:
the known answers of a test case, and the round trip of its randomized trials.
-/

namespace CipherMeta

variable {σ : Type}

/-- What an instance was told since its last `init`: the key, the IV and
direction of the last `set_iv`, and the AAD of the last `set_aad`. -/
structure Session where
  key : List UInt8
  iv : Option (List UInt8 × SrtpCipherDirection)
  aad : Option (List UInt8)
  deriving DecidableEq, Repr

/-- The session right after `init(key)`. -/
def Session.keyed (key : List UInt8) : Session := ⟨key, none, none⟩

/-- A contract all of whose operations succeed, with outputs given by
`encrypt`, `tag` and `decrypt` of the session. `algorithm` is what `alloc`
stores in `c->algorithm` for a key and tag length; `set_aad` and `get_tag` are
required for the AES-GCM instances only, the only ones the self-test calls them
on. -/
structure Honest (ct : SrtpCipherType σ) where
  agrees : σ → Session → Prop
  algorithm : Nat → Nat → SrtpCipherTypeId
  encrypt : Session → List UInt8 → List UInt8
  tag : Session → List UInt8 → List UInt8
  decrypt : Session → List UInt8 → List UInt8
  alloc_ok : ∃ f, ct.alloc = some f ∧ ∀ st keyLen tagLen, (f st keyLen tagLen).1 = .ok ∧
    (f st keyLen tagLen).2.1.unusable = false ∧
    (f st keyLen tagLen).2.1.algorithm = algorithm keyLen tagLen
  dealloc_ok : ∀ st, (ct.dealloc st).1 = .ok
  init_ok : ∀ st key, (ct.init st key).1 = .ok ∧ agrees (ct.init st key).2 (.keyed key)
  setIv_ok : ∀ st se iv direction, agrees st se → (ct.setIv st iv direction).1 = .ok ∧
    agrees (ct.setIv st iv direction).2 { se with iv := some (iv, direction) }
  setAad_ok : ∀ keyLen tagLen, (algorithm keyLen tagLen).isAesGcm →
    ∃ f, ct.setAad = some f ∧ ∀ st se aad, agrees st se → (f st aad).1 = .ok ∧
      agrees (f st aad).2 { se with aad := some aad }
  encrypt_ok : ∀ st se src capacity, agrees st se →
    (ct.encrypt st src capacity).1 = ⟨.ok, encrypt se src, (encrypt se src).length⟩
  getTag_ok : ∀ keyLen tagLen, (algorithm keyLen tagLen).isAesGcm →
    ∃ f, ct.getTag = some f ∧ ∀ st se src capacity tagCapacity, agrees st se →
      (f (ct.encrypt st src capacity).2 tagCapacity).1 =
        ⟨.ok, tag se src, (tag se src).length⟩
  decrypt_ok : ∀ st se src capacity, agrees st se →
    (ct.decrypt st src capacity).1 = ⟨.ok, decrypt se src, (decrypt se src).length⟩

namespace Honest

variable {ct : SrtpCipherType σ} (h : Honest ct)

/-- Whether the instances allocated for a test case are AES-GCM ones. -/
def gcm (tc : SrtpCipherTestCase) : Bool :=
  (h.algorithm tc.keyLengthOctets tc.tagLengthOctets).isAesGcm

/-- The session a pass over `tc` in `direction` sets up: the case's key and
`idx`, and its AAD for an AES-GCM instance. -/
def session (tc : SrtpCipherTestCase) (key : List UInt8) (direction : SrtpCipherDirection) :
    Session :=
  ⟨key, some (tc.idx, direction), if h.gcm tc then some tc.aad else none⟩

theorem session_of_gcm {tc : SrtpCipherTestCase} (key : List UInt8)
    (direction : SrtpCipherDirection) (hg : h.gcm tc = true) :
    h.session tc key direction = ⟨key, some (tc.idx, direction), some tc.aad⟩ := by
  simp [session, hg]

theorem session_of_not_gcm {tc : SrtpCipherTestCase} (key : List UInt8)
    (direction : SrtpCipherDirection) (hg : h.gcm tc = false) :
    h.session tc key direction = ⟨key, some (tc.idx, direction), none⟩ := by
  simp [session, hg]

/-- What an encryption leaves in the buffer: the output, then for AES-GCM the
tag. -/
def sealed (gcm : Bool) (se : Session) (src : List UInt8) : List UInt8 :=
  h.encrypt se src ++ if gcm then h.tag se src else []

@[simp] theorem sealed_true (se : Session) (src : List UInt8) :
    h.sealed true se src = h.encrypt se src ++ h.tag se src := by
  simp [sealed]

@[simp] theorem sealed_false (se : Session) (src : List UInt8) :
    h.sealed false se src = h.encrypt se src := by
  simp [sealed]

/-- The contract gives the known answers of `tc`. -/
def Reproduces (tc : SrtpCipherTestCase) : Prop :=
  h.sealed (h.gcm tc) (h.session tc tc.key .encrypt) tc.plaintext = tc.ciphertext ∧
    h.decrypt (h.session tc tc.key .decrypt) tc.ciphertext = tc.plaintext

/-- Decrypting under the key, IV and AAD of an encryption what it sealed gives
back the input. -/
def RoundTrips (gcm : Bool) : Prop :=
  ∀ key iv aad src, h.decrypt ⟨key, some (iv, .decrypt), aad⟩
    (h.sealed gcm ⟨key, some (iv, .encrypt), aad⟩ src) = src

end Honest

/-- A contract over no memory whose outputs are its inputs, with an empty tag:
an instance of `algorithm` for every key and tag length. -/
def identityCipherType (algorithm : SrtpCipherTypeId) : SrtpCipherType Unit where
  alloc := some fun st keyLen _ => (.ok, ⟨true, true, algorithm, keyLen⟩, st)
  dealloc st := (.ok, st)
  init st _ := (.ok, st)
  setAad := some fun st _ => (.ok, st)
  encrypt st src _ := (⟨.ok, src, src.length⟩, st)
  decrypt st src _ := (⟨.ok, src, src.length⟩, st)
  setIv st _ _ := (.ok, st)
  getTag := some fun st _ => (⟨.ok, [], 0⟩, st)
  testData := []

/-- A known-answer case of the identity contract: three octets encrypted to
themselves under a 16-octet key and IV. -/
def identityTestCase : SrtpCipherTestCase :=
  ⟨List.replicate 16 0, List.replicate 16 0, [1, 2, 3], [1, 2, 3], [], 0⟩

/-- The identity contract is honest. -/
def identityCipherType.honest (algorithm : SrtpCipherTypeId) :
    Honest (identityCipherType algorithm) where
  agrees _ _ := True
  algorithm _ _ := algorithm
  encrypt _ src := src
  tag _ _ := []
  decrypt _ src := src
  alloc_ok := ⟨_, rfl, fun _ _ _ => ⟨rfl, rfl, rfl⟩⟩
  dealloc_ok _ := rfl
  init_ok _ _ := ⟨rfl, trivial⟩
  setIv_ok _ _ _ _ _ := ⟨rfl, trivial⟩
  setAad_ok _ _ _ := ⟨_, rfl, fun _ _ _ _ => ⟨rfl, trivial⟩⟩
  encrypt_ok _ _ _ _ _ := rfl
  getTag_ok _ _ _ := ⟨_, rfl, fun _ _ _ _ _ _ => rfl⟩
  decrypt_ok _ _ _ _ _ := rfl

theorem identityCipherType_roundTrips (algorithm : SrtpCipherTypeId) (gcm : Bool) :
    (identityCipherType.honest algorithm).RoundTrips gcm := by
  intro _ _ _ _
  cases gcm <;> simp [Honest.sealed, identityCipherType.honest]

/-- A contract over no memory that encrypts to its input, with the tag `tag`,
and decrypts by dropping as many octets from the end. -/
def taggedCipherType (algorithm : SrtpCipherTypeId) (tag : List UInt8) : SrtpCipherType Unit where
  alloc := some fun st keyLen _ => (.ok, ⟨true, true, algorithm, keyLen⟩, st)
  dealloc st := (.ok, st)
  init st _ := (.ok, st)
  setAad := some fun st _ => (.ok, st)
  encrypt st src _ := (⟨.ok, src, src.length⟩, st)
  decrypt st src _ := (⟨.ok, src.take (src.length - tag.length), src.length - tag.length⟩, st)
  setIv st _ _ := (.ok, st)
  getTag := some fun st _ => (⟨.ok, tag, tag.length⟩, st)
  testData := []

/-- The tagged contract is honest. -/
def taggedCipherType.honest (algorithm : SrtpCipherTypeId) (tag : List UInt8) :
    Honest (taggedCipherType algorithm tag) where
  agrees _ _ := True
  algorithm _ _ := algorithm
  encrypt _ src := src
  tag _ _ := tag
  decrypt _ src := src.take (src.length - tag.length)
  alloc_ok := ⟨_, rfl, fun _ _ _ => ⟨rfl, rfl, rfl⟩⟩
  dealloc_ok _ := rfl
  init_ok _ _ := ⟨rfl, trivial⟩
  setIv_ok _ _ _ _ _ := ⟨rfl, trivial⟩
  setAad_ok _ _ _ := ⟨_, rfl, fun _ _ _ _ => ⟨rfl, trivial⟩⟩
  encrypt_ok _ _ _ _ _ := rfl
  getTag_ok _ _ _ := ⟨_, rfl, fun _ _ _ _ _ _ => rfl⟩
  decrypt_ok _ _ src _ _ := by simp [taggedCipherType]

theorem taggedCipherType_roundTrips (algorithm : SrtpCipherTypeId) (tag : List UInt8) :
    (taggedCipherType.honest algorithm tag).RoundTrips true := by
  intro _ _ _ _
  simp [Honest.sealed, taggedCipherType.honest]

/-- Exchanges the empty input and the 129 zero octets, and keeps every other
input. -/
def swapLong (src : List UInt8) : List UInt8 :=
  if src = [] then List.replicate 129 0 else if src = List.replicate 129 0 then [] else src

theorem swapLong_swapLong (src : List UInt8) : swapLong (swapLong src) = src := by
  unfold swapLong
  split_ifs <;> simp_all

/-- A contract over no memory, for AES-ICM, that encrypts and decrypts by
`swapLong`. -/
def swapCipherType : SrtpCipherType Unit where
  alloc := some fun st keyLen _ => (.ok, ⟨true, true, .aesIcm128, keyLen⟩, st)
  dealloc st := (.ok, st)
  init st _ := (.ok, st)
  setAad := none
  encrypt st src _ := (⟨.ok, swapLong src, (swapLong src).length⟩, st)
  decrypt st src _ := (⟨.ok, swapLong src, (swapLong src).length⟩, st)
  setIv st _ _ := (.ok, st)
  getTag := none
  testData := []

/-- The swapping contract is honest. -/
def swapCipherType.honest : Honest swapCipherType where
  agrees _ _ := True
  algorithm _ _ := .aesIcm128
  encrypt _ := swapLong
  tag _ _ := []
  decrypt _ := swapLong
  alloc_ok := ⟨_, rfl, fun _ _ _ => ⟨rfl, rfl, rfl⟩⟩
  dealloc_ok _ := rfl
  init_ok _ _ := ⟨rfl, trivial⟩
  setIv_ok _ _ _ _ _ := ⟨rfl, trivial⟩
  setAad_ok _ _ h := nomatch h
  encrypt_ok _ _ _ _ _ := rfl
  getTag_ok _ _ h := nomatch h
  decrypt_ok _ _ _ _ _ := rfl

theorem swapCipherType_roundTrips : swapCipherType.honest.RoundTrips false := by
  intro _ _ _ src
  simp [Honest.sealed, swapCipherType.honest, swapLong_swapLong]

end CipherMeta
