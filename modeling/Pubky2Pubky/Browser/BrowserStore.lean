import Pubky2Pubky.Foundation.Machine
import Pubky2Pubky.Foundation.Utf8
import Pubky2Pubky.Browser.StoreAgreement

/-!
# The IndexedDB database

All tabs of an origin share one database. An exported operation runs one or more
transactions. Each of them is atomic, and transactions of other operations may come
between them.
-/

namespace Pubky2Pubky
namespace Browser

open Foundation Client Protocol

def maxSealedBytes : Nat := 64 * 1024

def maxIdentities : Nat := 64

abbrev Table (α : Type) := Std.ExtTreeMap String α compare

/-!
# Sealed records
-/

/-- A key that the browser keeps and never exports. -/
structure CryptoKey where
  number : Nat
  deriving DecidableEq

/-- AES-GCM with a tag of 128 bits, as the browser offers it. -/
structure WebCrypto where
  encrypt (key : CryptoKey) (iv additionalData plaintext : Bytes) : Bytes
  decrypt (key : CryptoKey) (iv additionalData ciphertext : Bytes) : Option Bytes

def ivBytes : Nat := 12

/-- The random bytes of one encryption. -/
abbrev Iv := { bytes : Bytes // bytes.length = ivBytes }

/-- Documented behaviour, for the sizes that are sealed. -/
class WebCrypto.Lawful (C : WebCrypto) : Prop where
  encrypt_length (key : CryptoKey) (iv : Iv) (additionalData plaintext : Bytes) :
    plaintext.length ≤ maxSealedBytes ->
      (C.encrypt key iv.val additionalData plaintext).length = plaintext.length + 16
  decrypt_encrypt (key : CryptoKey) (iv : Iv) (additionalData plaintext : Bytes) :
    plaintext.length ≤ maxSealedBytes ->
      C.decrypt key iv.val additionalData
        (C.encrypt key iv.val additionalData plaintext) = some plaintext

structure Encrypted where
  iv : Bytes
  ciphertext : Bytes
  deriving DecidableEq

def associatedData (origin purpose identity clientId keyId : String) : Bytes :=
  utf8 (String.intercalate "\u0000"
    ["pubky2pubky-browser-protocol-v1-state-v1", purpose, origin, identity, clientId,
      keyId]).toList

/-- `isSealable` is the test of the plaintext on both sides. -/
def isSealable (plaintext : Bytes) : Bool :=
  decide (0 < plaintext.length ∧ plaintext.length ≤ maxSealedBytes)

section Sealing

variable (C : WebCrypto)

def sealText (key : CryptoKey) (iv : Iv) (plaintext : String) (aad : Bytes) :
    StoreResult Encrypted := do
  let bytes := utf8 plaintext.toList
  rejectIf (isSealable bytes = false) "storage-too-large"
  pure { iv := iv.val, ciphertext := C.encrypt key iv.val aad bytes }

/-- The decoder is strict, and it drops a byte order mark. -/
def unsealText (key : CryptoKey) (version : Nat) (record : Encrypted) (aad : Bytes) :
    StoreResult String := do
  rejectIf (version ≠ 1 ∨ record.iv.length ≠ ivBytes ∨
      record.ciphertext.length = 0 ∨ record.ciphertext.length > maxSealedBytes + 16)
    "storage-tampered"
  let plaintext <- okOr (C.decrypt key record.iv aad record.ciphertext)
    "storage-tampered"
  rejectIf (isSealable plaintext = false) "storage-tampered"
  let text <- okOr (decodeText plaintext) "storage-tampered"
  pure (String.ofList text)

end Sealing

/-!
# Validators
-/

def utf16Length (text : String) : Nat :=
  (text.toList.map fun c => if c.toNat < 0x10000 then 1 else 2).sum

def lowControl (c : Char) : Bool :=
  decide (c.toNat ≤ 0x1f) || c.toNat == 0x7f

def isBoundedText (value : String) (maximum : Nat) : Bool :=
  decide (0 < utf16Length value ∧ utf16Length value ≤ maximum) &&
    !value.toList.any lowControl

def validateBoundedText (value : String) (maximum : Nat) : StoreResult String := do
  rejectIf (isBoundedText value maximum = false) "storage-invalid"
  pure value

/-!
# Records
-/

structure StoredIdentity where
  identity : String
  keyId : String
  clientId : String
  homeserver : String
  grantId : String
  grantExpiresAt : Nat
  restore : String
  deriving DecidableEq

structure IdentityRecord where
  version : Nat
  identity : String
  keyId : String
  clientId : String
  homeserver : String
  grantId : String
  grantExpiresAt : Nat
  createdAt : Nat
  encrypted : Encrypted
  deriving DecidableEq

structure IdentitySummary where
  identity : String
  clientId : String
  homeserver : String
  grantId : String
  grantExpiresAt : Nat
  createdAt : Nat
  deriving DecidableEq

structure DeviceRecord where
  version : Nat
  identity : String
  controlKey : String
  encrypted : Encrypted
  deriving DecidableEq

/-- The five object stores. -/
structure Database where
  grantKeys : Table CryptoKey
  identities : Table IdentityRecord
  encryptionKeys : Table CryptoKey
  deviceStates : Table DeviceRecord
  sequences : SequenceRecords

def Database.empty : Database :=
  { grantKeys := ∅
    identities := ∅
    encryptionKeys := ∅
    deviceStates := ∅
    sequences := ∅ }

def isSafePositive (n : Nat) : Bool :=
  decide (0 < n ∧ n ≤ jsMaxSafeCounter)

def validateIdentityRecord (record : StoredIdentity) : StoreResult StoredIdentity := do
  let _ <- validateIdentity record.identity
  let _ <- validateBoundedText record.keyId 128
  let _ <- validateBoundedText record.clientId 253
  let _ <- validateIdentity record.homeserver
  let _ <- validateBoundedText record.grantId 128
  rejectIf (isSafePositive record.grantExpiresAt = false) "storage-invalid"
  let _ <- validateBoundedText record.restore maxSealedBytes
  pure record

def sanitizedIdentity (record : IdentityRecord) : StoreResult IdentitySummary := do
  rejectIf (record.version ≠ 1 ∨ isZ32 record.identity = false ∨
      isZ32 record.homeserver = false ∨
      isBoundedText record.clientId 253 = false ∨
      isBoundedText record.keyId 128 = false ∨
      isBoundedText record.grantId 128 = false ∨
      isSafePositive record.grantExpiresAt = false ∨
      isSafePositive record.createdAt = false)
    "storage-tampered"
  pure
    { identity := record.identity
      clientId := record.clientId
      homeserver := record.homeserver
      grantId := record.grantId
      grantExpiresAt := record.grantExpiresAt
      createdAt := record.createdAt }

/-!
# Reading transactions
-/

section Reads

variable (C : WebCrypto) (origin : String) (database : Database)

def listIdentities : StoreResult (List IdentitySummary) := do
  rejectIf (database.identities.size > maxIdentities) "storage-tampered"
  (database.identities.toList.map Prod.snd).mapM sanitizedIdentity

def loadIdentity (identity : String) : StoreResult StoredIdentity := do
  let account <- validateIdentity identity
  let record <- okOr database.identities[account]? "identity-not-found"
  let summary <- sanitizedIdentity record
  let key <- okOr database.encryptionKeys[account]? "storage-key-missing"
  let restore <- unsealText C key record.version record.encrypted
    (associatedData origin "grant" account record.clientId record.keyId)
  pure
    { identity := summary.identity
      keyId := record.keyId
      clientId := summary.clientId
      homeserver := summary.homeserver
      grantId := summary.grantId
      grantExpiresAt := summary.grantExpiresAt
      restore := restore }

def loadDeviceState (identity : String) : StoreResult (Option String) := do
  let account <- validateIdentity identity
  match database.deviceStates[account]? with
  | none => pure none
  | some record => do
      let key <- okOr database.encryptionKeys[account]? "storage-key-missing"
      rejectIf (record.version ≠ 1 ∨ record.identity ≠ account ∨
          isZ32 record.controlKey = false)
        "storage-tampered"
      let state <- unsealText C key record.version record.encrypted
        (associatedData origin "device" account "v1" record.controlKey)
      pure (some state)

end Reads

/-!
# Writing transactions
-/

/-- When a transaction reads the clock, in milliseconds. -/
structure Clock where
  checkedAt : Nat
  createdAt : Nat

def validateSequenceCandidate (records : SequenceRecords) (candidate : SequenceEntry) :
    StoreResult Unit := do
  rejectIf (records.size ≥ maxSequenceEntries) "sequence-limit"
  validateRecords records.toList
  validateStoredSequence candidate
  rejectIf
    ((Json.array ((records.toList ++ [candidate]).map recordToJson)).size >
      maxSequenceBytes)
    "sequence-limit"

def newPublisher (account control : String) : SequenceEntry :=
  (publisherRecordKey account account control,
    publisherRecord account account control 0)

def deviceRecord (account control : String) (encrypted : Encrypted) : DeviceRecord :=
  { version := 1
    identity := account
    controlKey := control
    encrypted := encrypted }

def Database.putDevice (database : Database) (account control : String)
    (encrypted : Encrypted) : Database :=
  { database with
    deviceStates := database.deviceStates.insert account
      (deviceRecord account control encrypted)
    sequences := database.sequences.insert (newPublisher account control).1
      (newPublisher account control).2 }

/-- Only an expired identity is replaced, and the key of its Grant with it. -/
def grantKeysAfterSave (database : Database) (clock : Clock) (value : StoredIdentity) :
    StoreResult (Table CryptoKey) :=
  match database.identities[value.identity]? with
  | some existing => do
      let summary <- sanitizedIdentity existing
      rejectIf (summary.grantExpiresAt > clock.checkedAt / 1000) "identity-exists"
      pure (if existing.keyId ≠ value.keyId then
        database.grantKeys.erase existing.keyId else database.grantKeys)
  | none => do
      rejectIf (database.identities.size ≥ maxIdentities) "storage-too-large"
      pure database.grantKeys

def identityRecord (value : StoredIdentity) (createdAt : Nat) (encrypted : Encrypted) :
    IdentityRecord :=
  { version := 1
    identity := value.identity
    keyId := value.keyId
    clientId := value.clientId
    homeserver := value.homeserver
    grantId := value.grantId
    grantExpiresAt := value.grantExpiresAt
    createdAt := createdAt
    encrypted := encrypted }

def saveIdentity (database : Database) (clock : Clock) (value : StoredIdentity)
    (encrypted : Encrypted) : StoreResult Database := do
  let grantKeys <- grantKeysAfterSave database clock value
  pure
    { database with
      grantKeys := grantKeys
      identities := database.identities.insert value.identity
        (identityRecord value clock.createdAt encrypted) }

def saveNewDeviceState (database : Database) (account control : String)
    (encrypted : Encrypted) : StoreResult Database := do
  let publisher := newPublisher account control
  rejectIf (database.deviceStates.contains account = true ∨
      database.sequences.contains publisher.1 = true)
    "device-state-exists"
  rejectIf (database.sequences.toList.any (fun entry =>
      entry.2.accountId == account &&
        decide (entry.2.kind = SequenceKind.publisher)) = true)
    "storage-key-missing"
  validateSequenceCandidate database.sequences publisher
  pure (database.putDevice account control encrypted)

def replaceDeviceState (database : Database) (account oldControl newControl : String)
    (encrypted : Encrypted) : StoreResult Database := do
  let publisher := newPublisher account newControl
  let old <- okOr database.deviceStates[account]? "storage-tampered"
  rejectIf (old.version ≠ 1 ∨ old.identity ≠ account ∨ old.controlKey ≠ oldControl ∨
      database.sequences.contains publisher.1 = true)
    "storage-tampered"
  validateSequenceCandidate database.sequences publisher
  pure (database.putDevice account newControl encrypted)

def removeAccount (database : Database) (account keyId : String) : Database :=
  { grantKeys := database.grantKeys.erase keyId
    identities := database.identities.erase account
    encryptionKeys := database.encryptionKeys.erase account
    deviceStates := database.deviceStates.erase account
    sequences := database.sequences.filter fun _ record =>
      decide (record.accountId ≠ account) }

/-!
# Operations
-/

/-- A record that is written once the key of its account is there. -/
inductive Write where
  | identity (value : StoredIdentity)
  | newDevice (account control state : String)
  | replacedDevice (account oldControl newControl state : String)

namespace Write

def account : Write -> String
  | identity value => value.identity
  | newDevice account _ _ => account
  | replacedDevice account _ _ _ => account

def plaintext : Write -> String
  | identity value => value.restore
  | newDevice _ _ state => state
  | replacedDevice _ _ _ state => state

def additionalData (origin : String) : Write -> Bytes
  | identity value =>
      associatedData origin "grant" value.identity value.clientId value.keyId
  | newDevice account control _ => associatedData origin "device" account "v1" control
  | replacedDevice account _ newControl _ =>
      associatedData origin "device" account "v1" newControl

def transaction (database : Database) (clock : Clock) (encrypted : Encrypted) :
    Write -> StoreResult Database
  | identity value => saveIdentity database clock value encrypted
  | newDevice account control _ =>
      saveNewDeviceState database account control encrypted
  | replacedDevice account oldControl newControl _ =>
      replaceDeviceState database account oldControl newControl encrypted

end Write

inductive SequenceOperation where
  | recordBatch (accountId : String) (observations : List SequenceObservation)
  | initializePublisher (accountId identity controlKey : String)
  | nextPublisher (accountId identity controlKey : String)

def SequenceOperation.transaction (fault : Option TransactionFault)
    (records : SequenceRecords) :
    SequenceOperation -> SequenceRecords × StoreResult Nat
  | recordBatch accountId observations =>
      let (after, result) := recordSequenceBatch accountId fault records observations
      (after, result.map fun _ => 0)
  | initializePublisher accountId identity controlKey =>
      publisherSequence accountId fault records
        (PublisherOperation.initializeLocatorPublisher identity controlKey)
  | nextPublisher accountId identity controlKey =>
      publisherSequence accountId fault records
        (PublisherOperation.nextLocatorSequence identity controlKey)

inductive BrowserOperation where
  | ensureGrantKey (keyId : String)
  | deleteGrantKey (keyId : String)
  | saveIdentity (record : StoredIdentity)
  | saveNewDeviceState (identity controlKey plaintext : String)
  | replaceDeviceState (identity oldControlKey newControlKey plaintext : String)
  | removeIdentity (identity : String)
  | sequences (operation : SequenceOperation)

/-- What an operation does next: a transaction, or the encryption of its record. -/
inductive Stage where
  | readGrantKey (keyId : String)
  | addGrantKey (keyId : String) (pair : CryptoKey)
  | deleteGrantKey (keyId : String)
  | readEncryptionKey (write : Write)
  | addEncryptionKey (write : Write) (generated : CryptoKey)
  | readWinner (write : Write)
  | encrypt (write : Write) (key : CryptoKey)
  | write (write : Write) (encrypted : Encrypted)
  | readRemoved (account : String)
  | remove (account keyId : String)
  | sequences (operation : SequenceOperation)

def BrowserOperation.prepare : BrowserOperation -> StoreResult Stage
  | ensureGrantKey keyId => do
      let resolved <- validateBoundedText keyId 128
      pure (Stage.readGrantKey resolved)
  | deleteGrantKey keyId => do
      let resolved <- validateBoundedText keyId 128
      pure (Stage.deleteGrantKey resolved)
  | saveIdentity record => do
      let value <- validateIdentityRecord record
      pure (Stage.readEncryptionKey (Write.identity value))
  | saveNewDeviceState identity controlKey plaintext => do
      let account <- validateIdentity identity
      let control <- validateIdentity controlKey
      let state <- validateBoundedText plaintext maxSealedBytes
      pure (Stage.readEncryptionKey (Write.newDevice account control state))
  | replaceDeviceState identity oldControlKey newControlKey plaintext => do
      let account <- validateIdentity identity
      let oldControl <- validateIdentity oldControlKey
      let newControl <- validateIdentity newControlKey
      rejectIf (oldControl = newControl) "storage-tampered"
      let state <- validateBoundedText plaintext maxSealedBytes
      pure (Stage.readEncryptionKey
        (Write.replacedDevice account oldControl newControl state))
  | removeIdentity identity => do
      let account <- validateIdentity identity
      pure (Stage.readRemoved account)
  | sequences operation => pure (Stage.sequences operation)

inductive Progress where
  | continues (stage : Stage)
  | ends (result : StoreResult Nat)

section Advance

variable (C : WebCrypto)

def Write.sealed (origin : String) (write : Write) (key : CryptoKey) (iv : Iv) :
    Progress :=
  match sealText C key iv write.plaintext (write.additionalData origin) with
  | Except.error e => Progress.ends (Except.error e)
  | Except.ok encrypted => Progress.continues (Stage.write write encrypted)

/-- A transaction with a fault writes nothing, and its operation fails. -/
def unlessFault (fault : Option TransactionFault) (database : Database)
    (body : Database × Progress) : Database × Progress :=
  match fault with
  | some found => (database, Progress.ends (Except.error found.code))
  | none => body

/-- One stage; `fresh` and `iv` are what the browser generates when it is asked to. -/
def advance (origin : String) (fresh : CryptoKey) (iv : Iv) (clock : Clock)
    (fault : Option TransactionFault) (database : Database) :
    Stage -> Database × Progress
  | Stage.readGrantKey keyId =>
      unlessFault fault database <|
        if database.grantKeys.contains keyId = true then
          (database, Progress.ends (Except.ok 0))
        else (database, Progress.continues (Stage.addGrantKey keyId fresh))
  | Stage.addGrantKey keyId pair =>
      unlessFault fault database <|
        if database.grantKeys.contains keyId = true then
          (database, Progress.ends (Except.error "storage-failed"))
        else
          ({ database with grantKeys := database.grantKeys.insert keyId pair },
            Progress.ends (Except.ok 0))
  | Stage.deleteGrantKey keyId =>
      unlessFault fault database
        ({ database with grantKeys := database.grantKeys.erase keyId },
          Progress.ends (Except.ok 0))
  | Stage.readEncryptionKey write =>
      unlessFault fault database <|
        match database.encryptionKeys[write.account]? with
        | some key => (database, Progress.continues (Stage.encrypt write key))
        | none => (database, Progress.continues (Stage.addEncryptionKey write fresh))
  | Stage.addEncryptionKey write generated =>
      -- A failed `add` is caught: another tab may have won.
      if fault.isSome = true ∨ database.encryptionKeys.contains write.account = true then
        (database, Progress.continues (Stage.readWinner write))
      else
        ({ database with
            encryptionKeys := database.encryptionKeys.insert write.account generated },
          Progress.continues (Stage.encrypt write generated))
  | Stage.readWinner write =>
      unlessFault fault database <|
        match database.encryptionKeys[write.account]? with
        | some key => (database, Progress.continues (Stage.encrypt write key))
        | none => (database, Progress.ends (Except.error "storage-failed"))
  -- No transaction: the other tabs go on while the record is encrypted.
  | Stage.encrypt write key => (database, write.sealed C origin key iv)
  | Stage.write write encrypted =>
      unlessFault fault database <|
        match write.transaction database clock encrypted with
        | Except.error e => (database, Progress.ends (Except.error e))
        | Except.ok written => (written, Progress.ends (Except.ok 0))
  | Stage.readRemoved account =>
      unlessFault fault database <|
        match (do
          let record <- okOr database.identities[account]? "identity-not-found"
          let _ <- sanitizedIdentity record
          validateBoundedText record.keyId 128) with
        | Except.error e => (database, Progress.ends (Except.error e))
        | Except.ok keyId => (database, Progress.continues (Stage.remove account keyId))
  | Stage.remove account keyId =>
      unlessFault fault database
        (removeAccount database account keyId, Progress.ends (Except.ok 0))
  | Stage.sequences operation =>
      let (sequences, result) := operation.transaction fault database.sequences
      ({ database with sequences := sequences }, Progress.ends result)

end Advance

/-!
# Runs
-/

/-- What a transaction has committed. -/
inductive Commit where
  | saved (account control : String)
  | allocated (account identity control : String) (number : Nat)
  | removed (account : String)
  deriving DecidableEq

def Stage.commit (result : StoreResult Nat) : Stage -> Option Commit
  | write (Write.newDevice account control _) _ =>
      result.toOption.map fun _ => Commit.saved account control
  | write (Write.replacedDevice account _ control _) _ =>
      result.toOption.map fun _ => Commit.saved account control
  | remove account _ => result.toOption.map fun _ => Commit.removed account
  | sequences (SequenceOperation.nextPublisher account identity control) =>
      result.toOption.map fun number =>
        Commit.allocated account identity control number
  | _ => none

def Progress.commit (stage : Stage) : Progress -> Option Commit
  | continues _ => none
  | ends result => stage.commit result

def Progress.later : Progress -> Option Stage
  | continues stage => some stage
  | ends _ => none

/-- The operations that run in all tabs, and what has been committed so far. -/
structure StoreRun where
  database : Database
  nextKey : Nat
  calls : Nat -> Option Stage
  log : List Commit

inductive StoreEvent where
  | call (caller : Nat) (operation : BrowserOperation)
  | resume (caller : Nat) (fault : Option TransactionFault) (clock : Clock) (iv : Iv)
  | close (caller : Nat)

namespace StoreRun

def settle (s : StoreRun) (caller : Nat) (stage : Stage)
    (outcome : Database × Progress) : StoreRun :=
  { database := outcome.1
    nextKey := s.nextKey + 1
    calls := Function.update s.calls caller outcome.2.later
    log := s.log ++ (outcome.2.commit stage).toList }

variable (C : WebCrypto)

/-- A generated key is never generated again. -/
def outcome (origin : String) (s : StoreRun) (fault : Option TransactionFault)
    (clock : Clock) (iv : Iv) (stage : Stage) : Database × Progress :=
  advance C origin { number := s.nextKey } iv clock fault s.database stage

def next (origin : String) (s : StoreRun) : StoreEvent -> Option StoreRun
  | StoreEvent.call caller operation =>
      match s.calls caller, operation.prepare with
      | none, Except.ok stage =>
          some { s with calls := Function.update s.calls caller (some stage) }
      | none, Except.error _ => some s
      | some _, _ => none
  | StoreEvent.resume caller fault clock iv =>
      (s.calls caller).map fun stage =>
        s.settle caller stage (s.outcome C origin fault clock iv stage)
  | StoreEvent.close caller =>
      some { s with calls := Function.update s.calls caller none }

end StoreRun

def storeRuns (C : WebCrypto) (origin : String) : Machine StoreRun StoreEvent where
  initial := fun s =>
    s = { database := Database.empty, nextKey := 0, calls := fun _ => none, log := [] }
  next := StoreRun.next C origin

end Browser
end Pubky2Pubky
