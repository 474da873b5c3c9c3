import Pubky2Pubky.Browser.PublisherCounters

/-!
# Sealed records open

The key of an account is made once, and every record of the account is sealed with
it. A record that is stored can be opened, unless its account was removed between
the reading of the key and the write.
-/

namespace Pubky2Pubky
namespace Browser

open Foundation Client Protocol

/-!
# Sealing
-/

/-- What a decoder that drops a byte order mark makes of the text. -/
def decodedText (text : String) : String :=
  String.ofList (dropMark text.toList)

section Sealing

variable {C : WebCrypto} {key : CryptoKey} {iv : Iv} {text : String} {aad : Bytes}
  {encrypted : Encrypted}

theorem sealText_eq_ok :
    sealText C key iv text aad = Except.ok encrypted <->
      isSealable (utf8 text.toList) = true ∧
        { iv := iv.val,
          ciphertext := C.encrypt key iv.val aad (utf8 text.toList) } = encrypted := by
  unfold sealText
  simp only [bind_eq_ok, exists_unit, rejectIf_eq_ok, pure_eq_ok, Bool.not_eq_false]

theorem unsealText_sealed [C.Lawful]
    (h : sealText C key iv text aad = Except.ok encrypted) :
    unsealText C key 1 encrypted aad = Except.ok (decodedText text) := by
  rcases sealText_eq_ok.mp h with ⟨hsealable, rfl⟩
  have hbounds : 0 < (utf8 text.toList).length ∧
      (utf8 text.toList).length ≤ maxSealedBytes := of_decide_eq_true hsealable
  have hlength := WebCrypto.Lawful.encrypt_length (C := C) key iv aad _ hbounds.right
  unfold unsealText
  dsimp only
  rw [rejectIf_of_not, ok_bind,
    WebCrypto.Lawful.decrypt_encrypt key iv aad _ hbounds.right]
  · dsimp only [okOr]
    rw [ok_bind, hsealable, rejectIf_of_not nofun, ok_bind, decodeText_utf8]
    rfl
  · have hiv : iv.val.length = ivBytes := iv.property
    rw [hlength, hiv]
    omega

end Sealing

/-!
# Stored identities
-/

/-- What `validateIdentityRecord` lets pass. -/
structure StoredIdentity.Valid (value : StoredIdentity) : Prop where
  identity : isZ32 value.identity = true
  keyId : isBoundedText value.keyId 128 = true
  clientId : isBoundedText value.clientId 253 = true
  homeserver : isZ32 value.homeserver = true
  grantId : isBoundedText value.grantId 128 = true
  grantExpiresAt : isSafePositive value.grantExpiresAt = true

theorem isBoundedText_of_validate {value found : String} {maximum : Nat}
    (h : validateBoundedText value maximum = Except.ok found) :
    isBoundedText value maximum = true := by
  unfold validateBoundedText at h
  simp only [bind_eq_ok, exists_unit, rejectIf_eq_ok, Bool.not_eq_false] at h
  exact h.left

theorem valid_of_validate {record value : StoredIdentity}
    (h : validateIdentityRecord record = Except.ok value) : value.Valid := by
  unfold validateIdentityRecord at h
  simp only [bind_eq_ok, pure_eq_ok, exists_unit, rejectIf_eq_ok,
    Bool.not_eq_false] at h
  rcases h with ⟨_, hidentity, _, hkeyId, _, hclientId, _, hhomeserver, _, hgrantId,
    hexpires, _, _, rfl⟩
  exact
    { identity := isZ32_of_validate hidentity
      keyId := isBoundedText_of_validate hkeyId
      clientId := isBoundedText_of_validate hclientId
      homeserver := isZ32_of_validate hhomeserver
      grantId := isBoundedText_of_validate hgrantId
      grantExpiresAt := hexpires }

/-- A record that `sanitizedIdentity` lets pass. -/
structure IdentityRecord.Sane (record : IdentityRecord) : Prop where
  version : record.version = 1
  identity : isZ32 record.identity = true
  keyId : isBoundedText record.keyId 128 = true
  clientId : isBoundedText record.clientId 253 = true
  homeserver : isZ32 record.homeserver = true
  grantId : isBoundedText record.grantId 128 = true
  grantExpiresAt : isSafePositive record.grantExpiresAt = true
  createdAt : isSafePositive record.createdAt = true

def IdentityRecord.summary (record : IdentityRecord) : IdentitySummary :=
  { identity := record.identity
    clientId := record.clientId
    homeserver := record.homeserver
    grantId := record.grantId
    grantExpiresAt := record.grantExpiresAt
    createdAt := record.createdAt }

theorem IdentityRecord.Sane.sanitized {record : IdentityRecord} (h : record.Sane) :
    sanitizedIdentity record = Except.ok record.summary := by
  unfold sanitizedIdentity
  rw [h.identity, h.keyId, h.clientId, h.homeserver, h.grantId, h.grantExpiresAt,
    h.createdAt, h.version, rejectIf_of_not (by simp)]
  rfl

/-!
# What is stored
-/

/-- An identity that is going to be written has been checked. -/
def Write.Checked : Write -> Prop
  | identity value => value.Valid
  | _ => True

/-- The text, sealed with the key that its account has now. -/
def SealedFor (C : WebCrypto) (database : Database) (account : String) (aad : Bytes)
    (text : String) (encrypted : Encrypted) : Prop :=
  exists key iv, database.encryptionKeys[account]? = some key ∧
    sealText C key iv text aad = Except.ok encrypted

def IdentityRecord.additionalData (origin : String) (record : IdentityRecord) : Bytes :=
  associatedData origin "grant" record.identity record.clientId record.keyId

def DeviceRecord.additionalData (origin : String) (record : DeviceRecord) : Bytes :=
  associatedData origin "device" record.identity "v1" record.controlKey

structure Openable (C : WebCrypto) (origin : String) (database : Database) : Prop where
  identities (account : String) (record : IdentityRecord) :
    database.identities[account]? = some record ->
      record.Sane ∧ record.identity = account ∧
        exists text, SealedFor C database account (record.additionalData origin) text
          record.encrypted
  devices (account : String) (record : DeviceRecord) :
    database.deviceStates[account]? = some record ->
      record.version = 1 ∧ record.identity = account ∧ isZ32 account = true ∧
        isZ32 record.controlKey = true ∧
        exists text, SealedFor C database account (record.additionalData origin) text
          record.encrypted
  size : database.identities.size ≤ maxIdentities

/-- From the reading of the key to the write, a pending operation holds the key. -/
def Stage.Ready (C : WebCrypto) (origin : String) (database : Database) : Stage -> Prop
  | readEncryptionKey pending => pending.Checked
  | addEncryptionKey pending _ => pending.Checked
  | readWinner pending => pending.Checked
  | encrypt pending key =>
      pending.Checked ∧ database.encryptionKeys[pending.account]? = some key
  | write pending encrypted =>
      pending.Checked ∧ SealedFor C database pending.account
        (pending.additionalData origin) pending.plaintext encrypted
  | _ => True

section Opening

variable {C : WebCrypto} {origin : String} {database : Database} {account text : String}

def IdentityRecord.stored (record : IdentityRecord) (restore : String) :
    StoredIdentity :=
  { identity := record.identity
    keyId := record.keyId
    clientId := record.clientId
    homeserver := record.homeserver
    grantId := record.grantId
    grantExpiresAt := record.grantExpiresAt
    restore := restore }

theorem loadIdentity_sealed [C.Lawful] {record : IdentityRecord}
    (hrecord : database.identities[account]? = some record) (hsane : record.Sane)
    (hidentity : record.identity = account)
    (hsealed : SealedFor C database account (record.additionalData origin) text
      record.encrypted) :
    loadIdentity C origin database account =
      Except.ok (record.stored (decodedText text)) := by
  rcases hsealed with ⟨key, iv, hkey, hsealed⟩
  unfold IdentityRecord.additionalData at hsealed
  rw [hidentity] at hsealed
  unfold loadIdentity
  rw [validateIdentity_of (hidentity ▸ hsane.identity), ok_bind, hrecord]
  dsimp only [okOr]
  rw [ok_bind, hsane.sanitized, ok_bind, hkey, ok_bind, hsane.version,
    unsealText_sealed hsealed, ok_bind]
  rfl

theorem loadDeviceState_sealed [C.Lawful] {record : DeviceRecord}
    (hrecord : database.deviceStates[account]? = some record)
    (hversion : record.version = 1) (hidentity : record.identity = account)
    (haccount : isZ32 account = true) (hcontrol : isZ32 record.controlKey = true)
    (hsealed : SealedFor C database account (record.additionalData origin) text
      record.encrypted) :
    loadDeviceState C origin database account =
      Except.ok (some (decodedText text)) := by
  rcases hsealed with ⟨key, iv, hkey, hsealed⟩
  unfold DeviceRecord.additionalData at hsealed
  rw [hidentity] at hsealed
  unfold loadDeviceState
  rw [validateIdentity_of haccount, ok_bind, hrecord]
  dsimp only [okOr]
  rw [hkey, ok_bind, hversion, hidentity, hcontrol, rejectIf_of_not (by simp), ok_bind,
    unsealText_sealed hsealed]
  rfl

theorem Openable.listIdentities (h : Openable C origin database) :
    listIdentities database = Except.ok
      (database.identities.toList.map fun entry => entry.2.summary) := by
  have hall : forall entries : List (String × IdentityRecord),
      (forall entry, entry ∈ entries -> entry.2.Sane) ->
        (entries.map Prod.snd).mapM sanitizedIdentity =
          Except.ok (entries.map fun entry => entry.2.summary) := by
    intro entries hentries
    induction entries with
    | nil => rfl
    | cons entry rest ih =>
        rw [List.map_cons, List.mapM_cons,
          (hentries entry List.mem_cons_self).sanitized,
          ih fun later hlater => hentries later (List.mem_cons_of_mem entry hlater)]
        rfl
  unfold Browser.listIdentities
  rw [rejectIf_of_not (Nat.not_lt_of_le h.size), ok_bind]
  apply hall
  rintro ⟨key, record⟩ hentry
  rw [Std.ExtTreeMap.mem_toList_iff_getElem?_eq_some] at hentry
  exact (h.identities key record hentry).left

end Opening

/-!
# Steps
-/

section Steps

variable {C : WebCrypto} {origin : String} {database after : Database}

/-- No account has lost its key. -/
def KeepsKeys (database after : Database) : Prop :=
  forall (account : String) (key : CryptoKey),
    database.encryptionKeys[account]? = some key ->
      after.encryptionKeys[account]? = some key

theorem SealedFor.mono {account text : String} {aad : Bytes} {encrypted : Encrypted}
    (h : SealedFor C database account aad text encrypted)
    (hkeys : forall key, database.encryptionKeys[account]? = some key ->
      after.encryptionKeys[account]? = some key) :
    SealedFor C after account aad text encrypted := by
  rcases h with ⟨key, iv, hkey, hsealed⟩
  exact ⟨key, iv, hkeys key hkey, hsealed⟩

/-- The account whose key or sealed record a stage holds. -/
def Stage.holds : Stage -> Option String
  | encrypt pending _ => some pending.account
  | write pending _ => some pending.account
  | _ => none

theorem ready_mono {stage : Stage} (h : stage.Ready C origin database)
    (hkeys : forall account, stage.holds = some account -> forall key,
      database.encryptionKeys[account]? = some key ->
        after.encryptionKeys[account]? = some key) : stage.Ready C origin after := by
  cases stage with
  | encrypt pending key => exact ⟨h.left, hkeys pending.account rfl key h.right⟩
  | write pending encrypted => exact ⟨h.left, h.right.mono (hkeys pending.account rfl)⟩
  | _ => exact h

theorem Openable.mono (h : Openable C origin database)
    (hidentities : after.identities = database.identities)
    (hdevices : after.deviceStates = database.deviceStates)
    (hkeys : KeepsKeys database after) : Openable C origin after := by
  constructor
  case identities =>
    intro account record hrecord
    rw [hidentities] at hrecord
    rcases h.identities account record hrecord with ⟨hsane, hidentity, text, hsealed⟩
    exact ⟨hsane, hidentity, text, hsealed.mono (hkeys account)⟩
  case devices =>
    intro account record hrecord
    rw [hdevices] at hrecord
    rcases h.devices account record hrecord with
      ⟨hversion, hidentity, haccount, hcontrol, text, hsealed⟩
    exact ⟨hversion, hidentity, haccount, hcontrol, text, hsealed.mono (hkeys account)⟩
  case size =>
    rw [hidentities]
    exact h.size

theorem prepare_ready {operation : BrowserOperation} {stage : Stage}
    (h : operation.prepare = Except.ok stage) : stage.Ready C origin database := by
  cases operation with
  | saveIdentity record =>
      unfold BrowserOperation.prepare at h
      simp only [bind_eq_ok, pure_eq_ok] at h
      rcases h with ⟨value, hvalue, rfl⟩
      exact valid_of_validate hvalue
  | saveNewDeviceState identity controlKey plaintext =>
      unfold BrowserOperation.prepare at h
      simp only [bind_eq_ok, pure_eq_ok] at h
      rcases h with ⟨_, _, _, _, _, _, rfl⟩
      trivial
  | replaceDeviceState identity oldControlKey newControlKey plaintext =>
      unfold BrowserOperation.prepare at h
      simp only [bind_eq_ok, pure_eq_ok, exists_unit] at h
      rcases h with ⟨_, _, _, _, _, _, _, _, _, rfl⟩
      trivial
  | ensureGrantKey keyId =>
      unfold BrowserOperation.prepare at h
      simp only [bind_eq_ok, pure_eq_ok] at h
      rcases h with ⟨_, _, rfl⟩
      trivial
  | deleteGrantKey keyId =>
      unfold BrowserOperation.prepare at h
      simp only [bind_eq_ok, pure_eq_ok] at h
      rcases h with ⟨_, _, rfl⟩
      trivial
  | removeIdentity identity =>
      unfold BrowserOperation.prepare at h
      simp only [bind_eq_ok, pure_eq_ok] at h
      rcases h with ⟨_, _, rfl⟩
      trivial
  | sequences operation =>
      cases h
      trivial

structure Opened (C : WebCrypto) (origin : String) (outcome : Database × Progress) :
    Prop where
  openable : Openable C origin outcome.1
  ready (later : Stage) : outcome.2 = Progress.continues later ->
    later.Ready C origin outcome.1

theorem opened_ends (h : Openable C origin after) (result : StoreResult Nat) :
    Opened C origin (after, Progress.ends result) :=
  ⟨h, nofun⟩

theorem opened_continues {later : Stage} (h : Openable C origin after)
    (hready : later.Ready C origin after) :
    Opened C origin (after, Progress.continues later) where
  openable := h
  ready found hfound := by
    injection hfound with hfound
    rw [← hfound]
    exact hready

theorem opened_sealed {write : Write} {key : CryptoKey} (iv : Iv)
    (h : Openable C origin after) (hready : (Stage.encrypt write key).Ready C origin after) :
    Opened C origin (after, write.sealed C origin key iv) := by
  unfold Write.sealed
  split
  · exact opened_ends h _
  · next encrypted hsealed =>
      exact opened_continues h ⟨hready.left, key, iv, hready.right, hsealed⟩

theorem opened_unlessFault {fault : Option TransactionFault}
    {body : Database × Progress} (h : Openable C origin database)
    (hbody : fault = none -> Opened C origin body) :
    Opened C origin (unlessFault fault database body) := by
  cases fault with
  | none => exact hbody rfl
  | some found => exact opened_ends h _

theorem sane_identityRecord {value : StoredIdentity} {createdAt : Nat}
    (hvalue : value.Valid) (hcreated : isSafePositive createdAt = true)
    (encrypted : Encrypted) : (identityRecord value createdAt encrypted).Sane where
  version := rfl
  identity := hvalue.identity
  keyId := hvalue.keyId
  clientId := hvalue.clientId
  homeserver := hvalue.homeserver
  grantId := hvalue.grantId
  grantExpiresAt := hvalue.grantExpiresAt
  createdAt := hcreated

theorem size_afterSave {value : StoredIdentity} {record : IdentityRecord} {clock : Clock}
    {grantKeys : Table CryptoKey} (h : database.identities.size ≤ maxIdentities)
    (hkeys : grantKeysAfterSave database clock value = Except.ok grantKeys) :
    (database.identities.insert value.identity record).size ≤ maxIdentities := by
  unfold grantKeysAfterSave at hkeys
  split at hkeys
  · next existing hexisting =>
      have hmem : database.identities.contains value.identity = true := by
        rw [Std.ExtTreeMap.contains_eq_isSome_getElem?, hexisting]
        rfl
      rw [Std.ExtTreeMap.size_insert, if_pos hmem]
      exact h
  · simp only [bind_eq_ok, exists_unit, rejectIf_eq_ok, ge_iff_le, Nat.not_le] at hkeys
    exact Nat.le_trans Std.ExtTreeMap.size_insert_le (Nat.succ_le_of_lt hkeys.left)

theorem openable_putIdentity {value : StoredIdentity} {clock : Clock} {text : String}
    {encrypted : Encrypted} {grantKeys : Table CryptoKey}
    (h : Openable C origin database) (hvalue : value.Valid)
    (hclock : isSafePositive clock.createdAt = true)
    (hsealed : SealedFor C database value.identity
      (associatedData origin "grant" value.identity value.clientId value.keyId)
      text encrypted)
    (hkeys : grantKeysAfterSave database clock value = Except.ok grantKeys) :
    Openable C origin
      { database with
        grantKeys := grantKeys
        identities := database.identities.insert value.identity
          (identityRecord value clock.createdAt encrypted) } := by
  constructor
  case identities =>
    intro account record hrecord
    dsimp only at hrecord
    rw [Std.ExtTreeMap.getElem?_insert] at hrecord
    split at hrecord
    · next heq =>
        have haccount := Std.LawfulEqCmp.eq_of_compare heq
        subst haccount
        cases hrecord
        exact ⟨sane_identityRecord hvalue hclock encrypted, rfl, text, hsealed⟩
    · exact h.identities account record hrecord
  case devices => exact h.devices
  case size => exact size_afterSave h.size hkeys

theorem openable_putDevice {account control text : String} {encrypted : Encrypted}
    (h : Openable C origin database) (haccount : isZ32 account = true)
    (hcontrol : isZ32 control = true)
    (hsealed : SealedFor C database account
      (associatedData origin "device" account "v1" control) text encrypted) :
    Openable C origin (database.putDevice account control encrypted) := by
  constructor
  case identities => exact h.identities
  case devices =>
    intro other record hrecord
    unfold Database.putDevice at hrecord
    dsimp only at hrecord
    rw [Std.ExtTreeMap.getElem?_insert] at hrecord
    split at hrecord
    · next heq =>
        have hother := Std.LawfulEqCmp.eq_of_compare heq
        subst hother
        cases hrecord
        exact ⟨rfl, rfl, haccount, hcontrol, text, hsealed⟩
    · exact h.devices other record hrecord
  case size => exact h.size

theorem opened_write {pending : Write} {clock : Clock} {encrypted : Encrypted}
    {written : Database} (h : Openable C origin database) (hnamed : pending.Named)
    (hready : (Stage.write pending encrypted).Ready C origin database)
    (hclock : isSafePositive clock.createdAt = true)
    (hwritten : pending.transaction database clock encrypted = Except.ok written) :
    Openable C origin written := by
  rcases hready with ⟨hchecked, hsealed⟩
  cases pending with
  | identity value =>
      unfold Write.transaction saveIdentity at hwritten
      simp only [bind_eq_ok, pure_eq_ok] at hwritten
      rcases hwritten with ⟨grantKeys, hkeys, rfl⟩
      exact openable_putIdentity h hchecked hclock hsealed hkeys
  | newDevice account control state =>
      unfold Write.transaction saveNewDeviceState at hwritten
      simp only [bind_eq_ok, pure_eq_ok, exists_unit] at hwritten
      rcases hwritten with ⟨_, _, _, rfl⟩
      exact openable_putDevice h hnamed.left hnamed.right hsealed
  | replacedDevice account oldControl newControl state =>
      unfold Write.transaction replaceDeviceState at hwritten
      simp only [bind_eq_ok, pure_eq_ok, exists_unit] at hwritten
      rcases hwritten with ⟨_, _, _, _, rfl⟩
      exact openable_putDevice h hnamed.left hnamed.right hsealed

theorem key_removed {account removed : String} {key : CryptoKey}
    (hne : account ≠ removed) (keyId : String)
    (h : database.encryptionKeys[account]? = some key) :
    (removeAccount database removed keyId).encryptionKeys[account]? = some key := by
  unfold removeAccount
  dsimp only
  rw [Std.ExtTreeMap.getElem?_erase, if_neg]
  · exact h
  · intro heq
    exact hne (Std.LawfulEqCmp.eq_of_compare heq).symm

theorem openable_remove (h : Openable C origin database) (removed keyId : String) :
    Openable C origin (removeAccount database removed keyId) := by
  constructor
  case identities =>
    intro account record hrecord
    unfold removeAccount at hrecord
    dsimp only at hrecord
    rw [Std.ExtTreeMap.getElem?_erase] at hrecord
    split at hrecord
    · cases hrecord
    · next hne =>
        rcases h.identities account record hrecord with
          ⟨hsane, hidentity, text, hsealed⟩
        refine ⟨hsane, hidentity, text, hsealed.mono fun _ => key_removed ?_ keyId⟩
        rintro rfl
        exact hne Std.ReflCmp.compare_self
  case devices =>
    intro account record hrecord
    unfold removeAccount at hrecord
    dsimp only at hrecord
    rw [Std.ExtTreeMap.getElem?_erase] at hrecord
    split at hrecord
    · cases hrecord
    · next hne =>
        rcases h.devices account record hrecord with
          ⟨hversion, hidentity, haccount, hcontrol, text, hsealed⟩
        refine ⟨hversion, hidentity, haccount, hcontrol, text,
          hsealed.mono fun _ => key_removed ?_ keyId⟩
        rintro rfl
        exact hne Std.ReflCmp.compare_self
  case size => exact Nat.le_trans Std.ExtTreeMap.size_erase_le h.size

theorem keepsKeys_insert {account : String} (generated : CryptoKey)
    (hfree : database.encryptionKeys[account]? = none) :
    KeepsKeys database
      { database with
        encryptionKeys := database.encryptionKeys.insert account generated } := by
  intro other key hkey
  dsimp only
  rw [Std.ExtTreeMap.getElem?_insert, if_neg]
  · exact hkey
  · intro heq
    rw [← Std.LawfulEqCmp.eq_of_compare heq, hfree] at hkey
    cases hkey

theorem opened_advance {fresh : CryptoKey} {iv : Iv} {clock : Clock}
    {fault : Option TransactionFault} {stage : Stage} (h : Openable C origin database)
    (hnamed : stage.Named) (hready : stage.Ready C origin database)
    (hclock : isSafePositive clock.createdAt = true) :
    Opened C origin (advance C origin fresh iv clock fault database stage) := by
  cases stage with
  | readGrantKey keyId =>
      refine opened_unlessFault h fun _ => ?_
      split
      · exact opened_ends h _
      · exact opened_continues h trivial
  | addGrantKey keyId pair =>
      refine opened_unlessFault h fun _ => ?_
      split
      · exact opened_ends h _
      · refine opened_ends ?_ _
        exact h.mono rfl rfl fun _ _ hkey => hkey
  | deleteGrantKey keyId =>
      refine opened_unlessFault h fun _ => opened_ends ?_ _
      exact h.mono rfl rfl fun _ _ hkey => hkey
  | readEncryptionKey pending =>
      refine opened_unlessFault h fun _ => ?_
      split
      · next key hkey => exact opened_continues h ⟨hready, hkey⟩
      · exact opened_continues h hready
  | addEncryptionKey pending generated =>
      unfold advance
      dsimp only
      split
      · exact opened_continues h hready
      · next hfree =>
          rw [not_or] at hfree
          refine opened_continues
            (h.mono rfl rfl (keepsKeys_insert generated (not_contains hfree.right)))
            ⟨hready, ?_⟩
          dsimp only
          rw [Std.ExtTreeMap.getElem?_insert_self]
  | readWinner pending =>
      refine opened_unlessFault h fun _ => ?_
      split
      · next key hkey => exact opened_continues h ⟨hready, hkey⟩
      · exact opened_ends h _
  | encrypt pending key => exact opened_sealed iv h hready
  | write pending encrypted =>
      refine opened_unlessFault h fun _ => ?_
      split
      · exact opened_ends h _
      · next written hwritten =>
          exact opened_ends (opened_write h hnamed hready hclock hwritten) _
  | readRemoved account =>
      refine opened_unlessFault h fun _ => ?_
      split
      · exact opened_ends h _
      · exact opened_continues h trivial
  | remove account keyId =>
      exact opened_unlessFault h fun _ => opened_ends (openable_remove h account keyId) _
  | sequences operation =>
      refine opened_ends ?_ _
      exact h.mono rfl rfl fun _ _ hkey => hkey

theorem keepsKeys_write {pending : Write} {clock : Clock} {encrypted : Encrypted}
    {written : Database}
    (hwritten : pending.transaction database clock encrypted = Except.ok written) :
    written.encryptionKeys = database.encryptionKeys := by
  cases pending with
  | identity value =>
      unfold Write.transaction saveIdentity at hwritten
      simp only [bind_eq_ok, pure_eq_ok] at hwritten
      rcases hwritten with ⟨grantKeys, _, rfl⟩
      rfl
  | newDevice account control state =>
      unfold Write.transaction saveNewDeviceState at hwritten
      simp only [bind_eq_ok, pure_eq_ok, exists_unit] at hwritten
      rcases hwritten with ⟨_, _, _, rfl⟩
      rfl
  | replacedDevice account oldControl newControl state =>
      unfold Write.transaction replaceDeviceState at hwritten
      simp only [bind_eq_ok, pure_eq_ok, exists_unit] at hwritten
      rcases hwritten with ⟨_, _, _, _, rfl⟩
      rfl

/-- A load returns what the write has saved. -/
def Write.Loads (C : WebCrypto) (origin : String) (database : Database) : Write -> Prop
  | identity value =>
      loadIdentity C origin database value.identity =
        Except.ok { value with restore := decodedText value.restore }
  | newDevice account _ state =>
      loadDeviceState C origin database account = Except.ok (some (decodedText state))
  | replacedDevice account _ _ state =>
      loadDeviceState C origin database account = Except.ok (some (decodedText state))

theorem loads_putDevice [C.Lawful] {account control state : String}
    {encrypted : Encrypted} (haccount : isZ32 account = true)
    (hcontrol : isZ32 control = true)
    (hsealed : SealedFor C database account
      (associatedData origin "device" account "v1" control) state encrypted) :
    loadDeviceState C origin (database.putDevice account control encrypted) account =
      Except.ok (some (decodedText state)) := by
  have hstored : (database.putDevice account control encrypted).deviceStates[account]? =
      some (deviceRecord account control encrypted) :=
    Std.ExtTreeMap.getElem?_insert_self
  exact loadDeviceState_sealed hstored rfl rfl haccount hcontrol hsealed

theorem loads_write [C.Lawful] {pending : Write} {clock : Clock} {encrypted : Encrypted}
    {written : Database} (hnamed : pending.Named)
    (hready : (Stage.write pending encrypted).Ready C origin database)
    (hclock : isSafePositive clock.createdAt = true)
    (hwritten : pending.transaction database clock encrypted = Except.ok written) :
    pending.Loads C origin written := by
  rcases hready with ⟨hchecked, hsealed⟩
  cases pending with
  | identity value =>
      unfold Write.transaction saveIdentity at hwritten
      simp only [bind_eq_ok, pure_eq_ok] at hwritten
      rcases hwritten with ⟨grantKeys, _, rfl⟩
      exact loadIdentity_sealed Std.ExtTreeMap.getElem?_insert_self
        (sane_identityRecord hchecked hclock encrypted) rfl hsealed
  | newDevice account control state =>
      unfold Write.transaction saveNewDeviceState at hwritten
      simp only [bind_eq_ok, pure_eq_ok, exists_unit] at hwritten
      rcases hwritten with ⟨_, _, _, rfl⟩
      exact loads_putDevice hnamed.left hnamed.right hsealed
  | replacedDevice account oldControl newControl state =>
      unfold Write.transaction replaceDeviceState at hwritten
      simp only [bind_eq_ok, pure_eq_ok, exists_unit] at hwritten
      rcases hwritten with ⟨_, _, _, _, rfl⟩
      exact loads_putDevice hnamed.left hnamed.right hsealed

theorem loads_advance [C.Lawful] {fresh : CryptoKey} {iv : Iv} {clock : Clock}
    {fault : Option TransactionFault} {pending : Write} {encrypted : Encrypted}
    (hnamed : pending.Named)
    (hready : (Stage.write pending encrypted).Ready C origin database)
    (hclock : isSafePositive clock.createdAt = true)
    (h : (advance C origin fresh iv clock fault database
      (Stage.write pending encrypted)).2.Succeeded) :
    pending.Loads C origin (advance C origin fresh iv clock fault database
      (Stage.write pending encrypted)).1 := by
  cases fault with
  | some found => exact False.elim h
  | none =>
      cases hwritten : pending.transaction database clock encrypted with
      | error e =>
          unfold advance unlessFault at h
          dsimp only at h
          rw [hwritten] at h
          exact False.elim h
      | ok written =>
          unfold advance unlessFault
          dsimp only
          rw [hwritten]
          exact loads_write hnamed hready hclock hwritten

theorem keepsKeys_unlessFault {fault : Option TransactionFault}
    {body : Database × Progress} (h : fault = none -> KeepsKeys database body.1) :
    KeepsKeys database (unlessFault fault database body).1 := by
  cases fault with
  | none => exact h rfl
  | some found => exact fun _ _ hkey => hkey

theorem keepsKeys_advance {fresh : CryptoKey} {iv : Iv} {clock : Clock}
    {fault : Option TransactionFault} {stage : Stage}
    (h : forall account keyId, stage = Stage.remove account keyId -> fault ≠ none) :
    KeepsKeys database (advance C origin fresh iv clock fault database stage).1 := by
  have hsame : KeepsKeys database database := fun _ _ hkey => hkey
  cases stage with
  | addEncryptionKey pending generated =>
      unfold advance
      dsimp only
      split
      · exact hsame
      · next hfree =>
          rw [not_or] at hfree
          exact keepsKeys_insert generated (not_contains hfree.right)
  | write pending encrypted =>
      refine keepsKeys_unlessFault fun _ => ?_
      split
      · exact hsame
      · next written hwritten =>
          intro account key hkey
          rw [keepsKeys_write hwritten]
          exact hkey
  | remove account keyId =>
      exact keepsKeys_unlessFault fun hnone => absurd hnone (h account keyId rfl)
  | readGrantKey keyId =>
      refine keepsKeys_unlessFault fun _ => ?_
      split <;> exact hsame
  | addGrantKey keyId pair =>
      refine keepsKeys_unlessFault fun _ => ?_
      split <;> exact hsame
  | deleteGrantKey keyId => exact keepsKeys_unlessFault fun _ => hsame
  | readEncryptionKey pending =>
      refine keepsKeys_unlessFault fun _ => ?_
      split <;> exact hsame
  | readWinner pending =>
      refine keepsKeys_unlessFault fun _ => ?_
      split <;> exact hsame
  | readRemoved account =>
      refine keepsKeys_unlessFault fun _ => ?_
      split <;> exact hsame
  | encrypt pending key => exact hsame
  | sequences operation => exact hsame

end Steps

/-!
# Runs
-/

section Runs

variable {C : WebCrypto} {origin : String} {s s' : StoreRun} {event : StoreEvent}

/--
The clock is set, and no account is removed while an operation has the key of it and
has not yet written its record.
-/
structure Undisturbed (s : StoreRun) (event : StoreEvent) : Prop where
  clock (caller : Nat) (fault : Option TransactionFault) (clock : Clock) (iv : Iv) :
    event = StoreEvent.resume caller fault clock iv ->
      isSafePositive clock.createdAt = true
  removal (caller : Nat) (clock : Clock) (iv : Iv) (account keyId : String) :
    event = StoreEvent.resume caller none clock iv ->
    s.calls caller = some (Stage.remove account keyId) ->
    forall other stage, s.calls other = some stage -> stage.holds ≠ some account

structure AllSealed (C : WebCrypto) (origin : String) (s : StoreRun) : Prop where
  named : s.Named
  sound : Sound s.database.sequences
  openable : Openable C origin s.database
  ready (caller : Nat) (stage : Stage) :
    s.calls caller = some stage -> stage.Ready C origin s.database

theorem ready_update {database : Database} {calls : Nat -> Option Stage} {caller : Nat}
    {found : Option Stage}
    (h : forall other stage, other ≠ caller -> calls other = some stage ->
      stage.Ready C origin database)
    (hfound : forall stage, found = some stage -> stage.Ready C origin database) :
    forall other stage, Function.update calls caller found other = some stage ->
      stage.Ready C origin database := by
  intro other stage hstage
  by_cases heq : other = caller
  · rw [heq, Function.update_self] at hstage
    exact hfound stage hstage
  · rw [Function.update_of_ne heq] at hstage
    exact h other stage heq hstage

/-- The other pending operations still hold the keys of their accounts. -/
theorem ready_settle {caller : Nat} {stage : Stage} {fault : Option TransactionFault}
    {clock : Clock} {iv : Iv} (h : AllSealed C origin s)
    (hundisturbed : Undisturbed s (StoreEvent.resume caller fault clock iv))
    (hstage : s.calls caller = some stage) :
    forall other pending, other ≠ caller -> s.calls other = some pending ->
      pending.Ready C origin (s.outcome C origin fault clock iv stage).1 := by
  intro other pending _ hpending
  have hready := h.ready other pending hpending
  by_cases hremoval : (exists account keyId, stage = Stage.remove account keyId) ∧
      fault = none
  · rcases hremoval with ⟨⟨account, keyId, rfl⟩, rfl⟩
    apply ready_mono hready
    intro held hheld key
    apply key_removed
    rintro rfl
    exact hundisturbed.removal caller clock iv held keyId rfl hstage other pending
      hpending hheld
  · apply ready_mono hready
    intro held _
    apply keepsKeys_advance
    rintro account keyId rfl hnone
    exact hremoval ⟨⟨account, keyId, rfl⟩, hnone⟩

theorem AllSealed.next (h : AllSealed C origin s) (hundisturbed : Undisturbed s event)
    (hnext : s.next C origin event = some s') : AllSealed C origin s' := by
  have hnamed := named_next h.named h.sound hnext
  cases step_of_next hnext with
  | refused caller operation => exact h
  | called hprepare =>
      refine { h with named := hnamed, ready := ready_update ?_ ?_ }
      · exact fun other stage _ hstage => h.ready other stage hstage
      · rintro stage ⟨⟩
        exact prepare_ready hprepare
  | @ran caller stage fault clock iv hstage =>
      have hopened : Opened C origin (s.outcome C origin fault clock iv stage) :=
        opened_advance h.openable (h.named _ _ hstage) (h.ready _ _ hstage)
          (hundisturbed.clock _ _ _ _ rfl)
      refine
        { named := hnamed
          sound :=
            (advanced_outcome C origin h.named h.sound hstage fault clock iv).sound
          openable := hopened.openable
          ready := ready_update (ready_settle h hundisturbed hstage) ?_ }
      intro later hlater
      apply hopened.ready later
      unfold Progress.later at hlater
      split at hlater
      · next hcontinues =>
          cases hlater
          exact hcontinues
      · cases hlater
  | closed caller =>
      refine { h with named := hnamed, ready := ready_update ?_ nofun }
      exact fun other stage _ hstage => h.ready other stage hstage

theorem allSealed_of_reachable (h : (storeRuns C origin).ReachableWhen Undisturbed s) :
    AllSealed C origin s := by
  refine Machine.ReachableWhen.invariant (I := AllSealed C origin) ?_ ?_ h
  · rintro t rfl
    refine ⟨nofun, sound_empty, ?_, nofun⟩
    constructor
    case identities =>
      intro account record hrecord
      rw [Database.empty, Std.ExtTreeMap.getElem?_empty] at hrecord
      cases hrecord
    case devices =>
      intro account record hrecord
      rw [Database.empty, Std.ExtTreeMap.getElem?_empty] at hrecord
      cases hrecord
    case size => exact Nat.zero_le _
  · intro t event t' hsealed hundisturbed hnext
    exact hsealed.next hundisturbed hnext

theorem AllSealed.loads [C.Lawful] (h : AllSealed C origin s) {caller : Nat}
    {fault : Option TransactionFault} {clock : Clock} {iv : Iv} {pending : Write}
    {encrypted : Encrypted} (hstage : s.calls caller = some (Stage.write pending encrypted))
    (hclock : isSafePositive clock.createdAt = true)
    (hsucceeded :
      (s.outcome C origin fault clock iv (Stage.write pending encrypted)).2.Succeeded)
    (hnext : s.next C origin (StoreEvent.resume caller fault clock iv) = some s') :
    pending.Loads C origin s'.database := by
  change (s.calls caller).map _ = some s' at hnext
  rw [hstage] at hnext
  cases hnext
  exact loads_advance (h.named caller _ hstage) (h.ready caller _ hstage) hclock
    hsucceeded

/-- What loads from a database, and what a save that succeeds adds to it. -/
structure RecordsOpen (C : WebCrypto) (origin : String) (s : StoreRun) : Prop where
  identities (account : String) (record : IdentityRecord) :
    s.database.identities[account]? = some record ->
      exists text, SealedFor C s.database account (record.additionalData origin) text
          record.encrypted ∧
        loadIdentity C origin s.database account =
          Except.ok (record.stored (decodedText text))
  devices (account : String) (record : DeviceRecord) :
    s.database.deviceStates[account]? = some record ->
      exists text, SealedFor C s.database account (record.additionalData origin) text
          record.encrypted ∧
        loadDeviceState C origin s.database account =
          Except.ok (some (decodedText text))
  listed : listIdentities s.database = Except.ok
    (s.database.identities.toList.map fun entry => entry.2.summary)
  saved (caller : Nat) (fault : Option TransactionFault) (clock : Clock) (iv : Iv)
      (pending : Write) (encrypted : Encrypted) (s' : StoreRun) :
    s.calls caller = some (Stage.write pending encrypted) ->
    isSafePositive clock.createdAt = true ->
    (s.outcome C origin fault clock iv (Stage.write pending encrypted)).2.Succeeded ->
    s.next C origin (StoreEvent.resume caller fault clock iv) = some s' ->
    pending.Loads C origin s'.database

/--
In every run of any number of tabs in which no account is removed between the reading
of its key and the writing of its record, every stored record opens to the text that
was sealed in it, without a byte order mark at the start, and the stored identities
can be listed. What a save has just written is what is loaded.
-/
theorem stored_records_open [C.Lawful]
    (h : (storeRuns C origin).ReachableWhen Undisturbed s) : RecordsOpen C origin s := by
  have hsealed := allSealed_of_reachable h
  constructor
  case identities =>
    intro account record hrecord
    rcases hsealed.openable.identities account record hrecord with
      ⟨hsane, hidentity, text, htext⟩
    exact ⟨text, htext, loadIdentity_sealed hrecord hsane hidentity htext⟩
  case devices =>
    intro account record hrecord
    rcases hsealed.openable.devices account record hrecord with
      ⟨hversion, hidentity, haccount, hcontrol, text, htext⟩
    exact ⟨text, htext,
      loadDeviceState_sealed hrecord hversion hidentity haccount hcontrol htext⟩
  case listed => exact hsealed.openable.listIdentities
  case saved =>
    intro caller fault clock iv pending encrypted s' hstage hclock hsucceeded hnext
    exact hsealed.loads hstage hclock hsucceeded hnext

end Runs

/-!
# One identity
-/

namespace OneIdentity

open OneDevice

def origin : String := "https://example.org"

def record (restore : String) : StoredIdentity :=
  { identity with restore := restore }

/-- The clock is set, and the transaction is no removal. -/
def keeps (s : StoreRun) : StoreEvent -> Bool
  | StoreEvent.resume caller _ clock _ =>
      isSafePositive clock.createdAt &&
        match s.calls caller with
        | some (Stage.remove _ _) => false
        | _ => true
  | _ => true

theorem undisturbed_of_keeps {s : StoreRun} {event : StoreEvent}
    (h : keeps s event = true) : Undisturbed s event := by
  constructor
  case clock =>
    rintro caller fault clock iv rfl
    exact (Bool.and_eq_true_iff.mp h).left
  case removal =>
    rintro caller clock iv account keyId rfl hstage
    have hkeeps := (Bool.and_eq_true_iff.mp h).right
    rw [hstage] at hkeeps
    cases hkeeps

/--
Two tabs save an identity at once, and the key of the first is used by both. The
first has written a text with a byte order mark, the second is about to write, and
the first has stored a device too.
-/
def saved : List StoreEvent :=
  [StoreEvent.call 0 (BrowserOperation.saveIdentity (record "\uFEFFfirst")),
    StoreEvent.call 1 (BrowserOperation.saveIdentity (record "second"))] ++
    ([0, 1, 0, 1, 0, 1, 0, 1].map fun caller =>
      StoreEvent.resume caller none clock iv) ++
    completed 0 3 save

def written (s : StoreRun) : Bool :=
  s.database.identities.contains account && s.database.deviceStates.contains account &&
    match s.calls 1 with
    | some (Stage.write _ _) => true
    | _ => false

theorem saved_run :
    (((storeRuns Tagged.crypto origin).runChecked keeps start saved).any
      written) = true := by
  decide +kernel

theorem stored_records_open_sample :
    exists s, written s = true ∧ RecordsOpen Tagged.crypto origin s := by
  rcases (Option.any_eq_true _ _).mp saved_run with ⟨s, hrun, hwritten⟩
  have hstart : (storeRuns Tagged.crypto origin).ReachableWhen Undisturbed start :=
    Machine.ReachableWhen.start rfl
  exact ⟨s, hwritten, stored_records_open
    (hstart.runChecked (fun _ _ => undisturbed_of_keeps) hrun)⟩

/-- An account is removed while an expired identity of it is saved anew. -/
def stranded : List StoreEvent :=
  completed 0 4 (BrowserOperation.saveIdentity (record "first")) ++
    completed 0 1 (BrowserOperation.saveIdentity (record "second")) ++
    completed 1 2 (BrowserOperation.removeIdentity account) ++
    [StoreEvent.resume 0 none clock iv, StoreEvent.resume 0 none clock iv]

theorem stranded_run :
    (((storeRuns Tagged.crypto origin).run start stranded).any fun s =>
      s.database.identities.contains account &&
        decide (loadIdentity Tagged.crypto origin s.database account =
          Except.error "storage-key-missing")) = true := by
  decide +kernel

/-- Without the assumption a record can be stored whose key is gone. -/
theorem removal_strands_record :
    exists s : StoreRun, (storeRuns Tagged.crypto origin).Reachable s ∧
      s.database.identities.contains account = true ∧
      loadIdentity Tagged.crypto origin s.database account =
        Except.error "storage-key-missing" := by
  rcases (Option.any_eq_true _ _).mp stranded_run with ⟨s, hrun, hs⟩
  rw [Bool.and_eq_true, decide_eq_true_eq] at hs
  have hstart : (storeRuns Tagged.crypto origin).Reachable start :=
    Machine.ReachableWhen.start rfl
  exact ⟨s, hstart.run hrun, hs.left, hs.right⟩

end OneIdentity

end Browser
end Pubky2Pubky
