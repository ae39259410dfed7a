import SyncEngine.Envelope.Types

namespace StellarConduit

structure EncryptionKey where
  key : Bytes32
  deriving DecidableEq

/-- `NONCE_SIZE` -/
def nonceSize : Nat := 12

structure EncryptionNonce where
  bytes : Vector UInt8 nonceSize
  deriving DecidableEq

/-- `[..NONCE_SIZE].try_into()` -/
def EncryptionNonce.tryFrom (bytes : Bytes) : Option EncryptionNonce :=
  if sized : bytes.toArray.size = nonceSize then
    some ⟨⟨bytes.toArray, sized⟩⟩
  else none

@[simp] theorem EncryptionNonce.tryFrom_toList (nonce : EncryptionNonce) :
    tryFrom nonce.bytes.toList = some nonce := by
  have sized : nonce.bytes.toList.toArray.size = nonceSize := by simp
  rw [tryFrom, dif_pos sized]
  rfl

/-- `Aes256Gcm` of the crate aes_gcm. Under one key, decryption inverts
encryption. -/
structure Aes256Gcm where
  encrypt : EncryptionKey → EncryptionNonce → Bytes → Option Bytes
  decrypt : EncryptionKey → EncryptionNonce → Bytes → Option Bytes
  decrypt_encrypt : ∀ key nonce plaintext ciphertext,
    encrypt key nonce plaintext = some ciphertext →
    decrypt key nonce ciphertext = some plaintext

variable (cipher : Aes256Gcm)

def encrypt (plaintext : Bytes) (key : EncryptionKey)
    (nonce : EncryptionNonce) : Except SyncEngineError Bytes :=
  match cipher.encrypt key nonce plaintext with
  | some ciphertext => .ok ciphertext
  | none => .error (.encryptionError "Encryption failed: aead::Error")

def decrypt (ciphertext : Bytes) (key : EncryptionKey)
    (nonce : EncryptionNonce) : Except SyncEngineError Bytes :=
  match cipher.decrypt key nonce ciphertext with
  | some plaintext => .ok plaintext
  | none => .error .decryptionFailed

/-- A nonce, then the ciphertext with its tag. -/
structure EncryptedData where
  bytes : Bytes
  deriving DecidableEq

namespace EncryptedData

/-- `nonce` is the one that `EncryptionNonce::generate` returns. -/
def encrypt (plaintext : Bytes) (key : EncryptionKey)
    (nonce : EncryptionNonce) : Except SyncEngineError EncryptedData :=
  match StellarConduit.encrypt cipher plaintext key nonce with
  | .error error => .error error
  | .ok ciphertext => .ok ⟨nonce.bytes.toList ++ ciphertext⟩

def decrypt (self : EncryptedData) (key : EncryptionKey) :
    Except SyncEngineError Bytes :=
  if self.bytes.length < nonceSize then .error .decryptionFailed
  else
    match EncryptionNonce.tryFrom (self.bytes.take nonceSize) with
    | none => .error .decryptionFailed
    | some nonce =>
        StellarConduit.decrypt cipher (self.bytes.drop nonceSize) key nonce

variable {cipher} {plaintext : Bytes} {key other : EncryptionKey}
  {nonce : EncryptionNonce} {data : EncryptedData}

theorem encrypt_cases
    (encrypted : encrypt cipher plaintext key nonce = .ok data) :
    ∃ ciphertext, cipher.encrypt key nonce plaintext = some ciphertext ∧
      data = ⟨nonce.bytes.toList ++ ciphertext⟩ := by
  unfold encrypt StellarConduit.encrypt at encrypted
  cases sealed : cipher.encrypt key nonce plaintext with
  | none => simp [sealed] at encrypted
  | some ciphertext =>
      simp only [sealed, Except.ok.injEq] at encrypted
      exact ⟨ciphertext, rfl, encrypted.symm⟩

theorem decrypt_mk (nonce : EncryptionNonce) (ciphertext : Bytes)
    (key : EncryptionKey) :
    decrypt cipher ⟨nonce.bytes.toList ++ ciphertext⟩ key =
      StellarConduit.decrypt cipher ciphertext key nonce := by
  have size : nonce.bytes.toList.length = nonceSize := by simp
  have long : ¬(nonce.bytes.toList ++ ciphertext).length < nonceSize := by
    simp
  have start : (nonce.bytes.toList ++ ciphertext).take nonceSize =
      nonce.bytes.toList :=
    List.take_left' size
  have rest : (nonce.bytes.toList ++ ciphertext).drop nonceSize =
      ciphertext :=
    List.drop_left' size
  rw [decrypt, if_neg long, start, rest, EncryptionNonce.tryFrom_toList]

theorem decrypt_encrypt
    (encrypted : encrypt cipher plaintext key nonce = .ok data) :
    data.decrypt cipher key = .ok plaintext := by
  obtain ⟨ciphertext, sealed, rfl⟩ := encrypt_cases encrypted
  rw [decrypt_mk, StellarConduit.decrypt,
    cipher.decrypt_encrypt _ _ _ _ sealed]

theorem decrypt_short (short : data.bytes.length < nonceSize) :
    data.decrypt cipher key = .error .decryptionFailed := by
  rw [decrypt, if_pos short]

end EncryptedData

/-- Decryption fails under another key than that of the encryption, and on the
encoding of an envelope, which no encryption has made. -/
structure Authentic (serde : RmpSerde TransactionEnvelope) : Prop where
  wrongKey : ∀ key other nonce plaintext ciphertext, other ≠ key →
    cipher.encrypt key nonce plaintext = some ciphertext →
    cipher.decrypt other nonce ciphertext = none
  notCiphertext : ∀ key envelope bytes, serde.toVec envelope = .ok bytes →
    EncryptedData.decrypt cipher ⟨bytes⟩ key = .error .decryptionFailed

variable {cipher}

theorem Authentic.decrypt_encrypt_ne {serde : RmpSerde TransactionEnvelope}
    (authentic : Authentic cipher serde) {plaintext : Bytes}
    {key other : EncryptionKey} {nonce : EncryptionNonce}
    {data : EncryptedData} (differ : other ≠ key)
    (encrypted : EncryptedData.encrypt cipher plaintext key nonce =
      .ok data) :
    data.decrypt cipher other = .error .decryptionFailed := by
  obtain ⟨ciphertext, sealed, rfl⟩ := EncryptedData.encrypt_cases encrypted
  rw [EncryptedData.decrypt_mk, decrypt,
    authentic.wrongKey _ _ _ _ _ differ sealed]

/-! A cipher that writes its key in front of the text. -/

def sampleCipher : Aes256Gcm where
  encrypt key _ plaintext := some (key.key.toVec ++ plaintext)
  decrypt key _ ciphertext :=
    if key.key.toVec <+: ciphertext then
      some (ciphertext.drop key.key.toVec.length)
    else none
  decrypt_encrypt := by
    intro key nonce plaintext ciphertext sealed
    obtain rfl := Option.some_inj.mp sealed
    simp

theorem sampleCipher_wrongKey (key other : EncryptionKey)
    (nonce : EncryptionNonce) (plaintext ciphertext : Bytes)
    (differ : other ≠ key)
    (sealed : sampleCipher.encrypt key nonce plaintext = some ciphertext) :
    sampleCipher.decrypt other nonce ciphertext = none := by
  obtain rfl := Option.some_inj.mp sealed
  have apart : ¬other.key.toVec <+: key.key.toVec ++ plaintext := by
    intro starts
    have sameLength : other.key.toVec.length = key.key.toVec.length := by
      simp [Bytes32.toVec]
    have inside : other.key.toVec <+: key.key.toVec :=
      List.prefix_of_prefix_length_le starts (List.prefix_append _ _)
        sameLength.le
    have same := Bytes32.toVec_injective (inside.eq_of_length sameLength)
    apply differ
    cases other
    cases key
    exact congrArg EncryptionKey.mk same
  exact if_neg apart

end StellarConduit
