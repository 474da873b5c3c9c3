import Pubky2Pubky.Protocol.Reference

/-!
# Digests by length

A second reference, whose hash of a message is only its length. Two records of
different lengths then have different digests, and this is decided without
hashing them.
-/

namespace Pubky2Pubky
namespace Protocol
namespace Reference

open Foundation

/-!
# Lengths of canonical texts
-/

/-- Bytes of the fields of an object, with a comma after each. -/
def fieldsSize (fields : List (String × Json)) : Nat :=
  (fields.map fun field =>
    Json.quotedSize field.1 + 2 + Json.size field.2).sum

theorem fieldsSize_cons (key : String) (value : Json)
    (rest : List (String × Json)) :
    fieldsSize ((key, value) :: rest) =
      Json.quotedSize key + 2 + Json.size value + fieldsSize rest := by
  unfold fieldsSize
  rw [List.map_cons, List.sum_cons]

theorem renderFields_length (fields : List (String × Json)) :
    (utf8 (Json.renderFields fields)).length = fieldsSize fields - 1 := by
  have hcolon : (':' : Char).utf8Size = 1 := by decide
  have hcomma : (',' : Char).utf8Size = 1 := by decide
  induction fields with
  | nil => rfl
  | cons field rest ih =>
      rcases field with ⟨key, value⟩
      rw [fieldsSize_cons]
      cases rest with
      | nil =>
          have hnil : fieldsSize [] = 0 := rfl
          rw [hnil]
          simp only [Json.renderFields, utf8_append, List.length_append,
            utf8_cons_length, hcolon, Json.quotedSize, Json.size]
          omega
      | cons next more =>
          rcases next with ⟨other, found⟩
          rw [fieldsSize_cons] at ih ⊢
          simp only [Json.renderFields, utf8_append, List.length_append,
            utf8_cons_length, hcolon, hcomma, Json.quotedSize, Json.size]
            at ih ⊢
          omega

theorem size_object (fields : List (String × Json)) :
    Json.size (Json.object fields) = 2 + (fieldsSize fields - 1) := by
  have hopen : ('{' : Char).utf8Size = 1 := by decide
  have hclose : ('}' : Char).utf8Size = 1 := by decide
  have hfields := renderFields_length fields
  simp only [Json.size, Json.render, List.cons_append, utf8_cons_length,
    utf8_append, List.length_append, utf8_nil, List.length_nil, hopen, hclose]
  omega

theorem insertField_perm (key : String) (value : Json)
    (fields : List (String × Json)) :
    (insertField key value fields).Perm ((key, value) :: fields) := by
  induction fields with
  | nil => exact List.Perm.refl _
  | cons field rest ih =>
      rcases field with ⟨other, found⟩
      unfold insertField
      split
      · exact List.Perm.refl _
      · exact (ih.cons _).trans (List.Perm.swap _ _ _)

theorem fieldsSize_insertField (key : String) (value : Json)
    (fields : List (String × Json)) :
    fieldsSize (insertField key value fields) =
      Json.quotedSize key + 2 + Json.size value + fieldsSize fields := by
  rw [← fieldsSize_cons]
  unfold fieldsSize
  exact ((insertField_perm key value fields).map _).sum_eq

mutual

/-- Sorting the fields keeps the length of the text. -/
theorem size_canonical : forall value : Json,
    Json.size (canonical value) = Json.size value
  | Json.null => rfl
  | Json.string value => rfl
  | Json.number value => rfl
  | Json.array items => by
      have hitems := renderItems_canonicalItems items
      unfold canonical Json.size Json.render
      simp only [List.cons_append, utf8_cons_length, utf8_append,
        List.length_append, hitems]
  | Json.object fields => by
      unfold canonical
      rw [size_object, size_object, fieldsSize_canonicalFields fields]

theorem renderItems_canonicalItems : forall items : List Json,
    (utf8 (Json.renderItems (canonicalItems items))).length =
      (utf8 (Json.renderItems items)).length
  | [] => rfl
  | [item] => by
      have hitem := size_canonical item
      unfold Json.size at hitem
      change (utf8 (Json.renderItems [canonical item])).length = _
      simp only [Json.renderItems, hitem]
  | item :: next :: rest => by
      have hitem := size_canonical item
      have hrest := renderItems_canonicalItems (next :: rest)
      unfold Json.size at hitem
      change (utf8 (Json.renderItems
        (canonical item :: canonical next :: canonicalItems rest))).length = _
      change (utf8 (Json.renderItems
        (canonical next :: canonicalItems rest))).length = _ at hrest
      simp only [Json.renderItems, utf8_append, List.length_append,
        utf8_cons_length, hitem, hrest]

theorem fieldsSize_canonicalFields : forall fields : List (String × Json),
    fieldsSize (canonicalFields fields) = fieldsSize fields
  | [] => rfl
  | (key, value) :: rest => by
      have hvalue := size_canonical value
      have hrest := fieldsSize_canonicalFields rest
      unfold canonicalFields
      rw [fieldsSize_insertField, fieldsSize_cons, hvalue, hrest]

end

/-!
# The operations
-/

def lengthDigest (message : Bytes) : Bytes :=
  UInt8.ofNat message.length :: List.replicate 31 0

theorem lengthDigest_length (message : Bytes) :
    (lengthDigest message).length = 32 := rfl

/-- The operations of the sample, with lengths for digests. -/
abbrev measured : Primitives :=
  { sample with sha256 := lengthDigest }

instance : measured.Lawful :=
  { (inferInstance : sample.Lawful) with
    sha256_length := lengthDigest_length }

instance : measured.UrlSafe :=
  { (inferInstance : sample.UrlSafe) with }

theorem measured_authentic :
    V1GrantAuthorization.Authentic measured authorization identity
      grantClaims :=
  { decoded := authorization_authentic.decoded
    identity := authorization_authentic.identity
    independent := authorization_authentic.independent
    clientId := authorization_authentic.clientId
    someCaps := authorization_authentic.someCaps
    boundedCaps := authorization_authentic.boundedCaps
    distinctCaps := authorization_authentic.distinctCaps
    covers := authorization_authentic.covers }

theorem measured_verify {now : UInt64} (hstart : 1000 ≤ now.toNat)
    (hstop : now.toNat < 1000000) :
    authorization.verify measured identity now = Except.ok grantClaims := by
  have hiat : grantClaims.iat.toNat = 1000 := by decide
  have hexp : grantClaims.exp.toNat = 1000000 := by decide
  have hmax : v1MaxGrantLifetimeSeconds.toNat = 63072000 := by decide
  exact V1GrantAuthorization.verify_eq_ok.mpr
    ⟨measured_authentic, by omega, by omega, by omega, by omega⟩

/-- Records whose texts differ by one character have different digests. -/
theorem measured_digest_ne {shorter longer : V1DeviceRecord}
    (h : longer.toJson.size = shorter.toJson.size + 1) :
    shorter.digest measured ≠ longer.digest measured := by
  intro heq
  have hhash := base64Encode_injective (P := measured) heq
  have hlength : forall value : Json,
      (canonicalForSigning measured v1DeviceRecordDigestDomain value).length =
        2 + (Json.quotedSize "domain" + 2 +
          Json.size (Json.string v1DeviceRecordDigestDomain) +
          (Json.quotedSize "payload" + 2 + Json.size value + 0) - 1) := by
    intro value
    change Json.size (canonical (Json.object [("domain",
      Json.string v1DeviceRecordDigestDomain), ("payload", value)])) = _
    rw [size_canonical, size_object, fieldsSize_cons, fieldsSize_cons]
    rfl
  injection hhash with hhead _
  have hbytes := congrArg UInt8.toNat hhead
  rw [hlength, hlength, h, UInt8.toNat_ofNat', UInt8.toNat_ofNat'] at hbytes
  omega

/-!
# Devices
-/

namespace DeviceKeys

def measuredCredential (keys : DeviceKeys) : V1DeviceCredential :=
  V1DeviceCredential.issued measured authorization grantClaims (keyOf 2)
    keys.deviceId 1000 500000 keys.control keys.iroh

def measuredNonce : String :=
  v1RandomChallenge measured (keyOf 9)

/-- A record of the device that starts with its certificate. -/
def measuredLocator (keys : DeviceKeys) (sequence expiresAt : UInt64) :
    V1SignedLocator :=
  V1SignedLocator.sealed measured keys.control
    (V1SignedLocator.announcement measured authorization
      keys.measuredCredential.certificate [relay] measuredNonce sequence 1000
      expiresAt)

def measuredRecord (keys : DeviceKeys) (sequence expiresAt : UInt64) :
    V1DeviceRecord :=
  { authorization := authorization
    certificate := keys.measuredCredential.certificate
    locator := keys.measuredLocator sequence expiresAt }

theorem measuredCredential_verify (keys : DeviceKeys) :
    keys.measuredCredential.verify measured 1000 = Except.ok () :=
  V1DeviceCredential.issued_verify
    (measured_verify (by decide) (by decide)) rfl keys.usable
    ⟨by decide, by decide, by decide, by decide⟩ (by decide) (by decide)
    keys.distinct

theorem measuredCredential_controlKey (keys : DeviceKeys) :
    keys.measuredCredential.controlKey measured = Except.ok keys.control :=
  V1DeviceCredential.issued_controlKey (P := measured) _ _ _ _ _ _ _ _

theorem measured_relay_accepted :
    validateRelays measured [relay] false = Except.ok () := by
  rw [validateRelays_eq_ok]
  refine ⟨by decide, by decide, ?_, by decide⟩
  intro url hurl
  rw [List.mem_singleton.mp hurl]
  exact rejectIf_of_not (by decide)

section Announced

variable (keys : DeviceKeys) {sequence expiresAt : UInt64}

theorem measuredLocator_sign (hsequence : sequence ≠ 0)
    (hafter : (1000 : UInt64) < expiresAt) (hbefore : expiresAt ≤ 1900) :
    V1SignedLocator.signWithPolicy measured keys.measuredCredential [relay]
      measuredNonce sequence (1000, expiresAt) false =
        Except.ok (keys.measuredLocator sequence expiresAt) := by
  have hlow : (1000 : UInt64).toNat < expiresAt.toNat :=
    UInt64.lt_iff_toNat_lt.mp hafter
  have hhigh : expiresAt.toNat ≤ (1900 : UInt64).toNat :=
    UInt64.le_iff_toNat_le.mp hbefore
  have hstart : (1000 : UInt64).toNat = 1000 := by decide
  have hstop : (1900 : UInt64).toNat = 1900 := by decide
  have hmax : v1MaxLocatorLifetimeSeconds.toNat = 900 := by decide
  have hskew : maxClockSkewSeconds.toNat = 120 := by decide
  exact V1SignedLocator.signWithPolicy_succeeds keys.measuredCredential_verify
    keys.measuredCredential_controlKey (validateChallenge_v1RandomChallenge _ _)
    hsequence measured_relay_accepted ⟨by omega, by omega, by omega, by omega⟩
    (show (1000 : UInt64) ≤ 1000 by decide)
    (UInt64.le_trans hbefore (show (1900 : UInt64) ≤ 500000 by decide))

variable (sequence expiresAt) in
theorem measuredRecord_size :
    (keys.measuredRecord sequence expiresAt).toJson.size ≤ 4300 := by
  rcases V1DeviceCertificate.verify_eq_ok.mp
    (V1DeviceCredential.verify_eq_ok.mp keys.measuredCredential_verify).left with
    ⟨grant, hauth, _⟩
  have hgrant : grant = grantClaims :=
    hauth.grantAuthentic.claims_unique measured_authentic
  subst hgrant
  have hlocator : (keys.measuredRecord sequence expiresAt).locator =
      V1SignedLocator.sealed measured keys.control
        (V1SignedLocator.announcement measured authorization
          keys.measuredCredential.certificate [relay] measuredNonce sequence 1000
          expiresAt) := rfl
  have hnonce : validateChallenge measured measuredNonce "v1 instance nonce" =
      Except.ok () := validateChallenge_v1RandomChallenge _ _
  have hsize := V1DeviceRecord.announced_size_le hauth rfl hlocator hnonce
  have hjws := grantJws_quotedSize
  have hjti : Json.quotedSize grantClaims.jti = 11 := by decide
  have hrelays : Json.size (Json.array
      ([relay].map fun url => Json.string url.asStr)) ≤ 30 := by
    decide
  change _ ≤ 2226 + Json.quotedSize authorization.grantJws + _ + _ at hsize
  omega

theorem measuredRecord_new (hsequence : sequence ≠ 0)
    (hafter : (1000 : UInt64) < expiresAt) (hbefore : expiresAt ≤ 1900) :
    V1DeviceRecord.new measured keys.measuredCredential
      (keys.measuredLocator sequence expiresAt) 1000 false =
        Except.ok (keys.measuredRecord sequence expiresAt) :=
  V1DeviceRecord.new_of_sign keys.measuredCredential_verify
    (measuredLocator_sign keys hsequence hafter hbefore)
    (Nat.le_trans (measuredRecord_size keys sequence expiresAt) (by decide))

theorem measuredRecord_verify (hsequence : sequence ≠ 0)
    (hafter : (1000 : UInt64) < expiresAt) (hbefore : expiresAt ≤ 1900)
    {now : UInt64} (hstart : (1000 : UInt64) ≤ now) (hstop : now < expiresAt) :
    (keys.measuredRecord sequence expiresAt).verify measured identity now false
      none = Except.ok () :=
  V1DeviceRecord.verify_later (V1DeviceRecord.new_eq_ok
    (measuredRecord_new keys hsequence hafter hbefore)).right.right.right hstart hstop

end Announced

/-- The tenth sequence has one digit more than the ninth. -/
theorem measuredLocator_size (keys : DeviceKeys) :
    (keys.measuredLocator 10 1030).claims.toJson.size =
      (keys.measuredLocator 9 1900).claims.toJson.size + 1 := by
  have hnine : Json.size (Json.number (9 : UInt64).toNat) = 1 := by decide
  have hten : Json.size (Json.number (10 : UInt64).toNat) = 2 := by decide
  have hearly : Json.size (Json.number (1030 : UInt64).toNat) = 4 := by decide
  have hlate : Json.size (Json.number (1900 : UInt64).toNat) = 4 := by decide
  unfold V1LocatorClaims.toJson
  rw [size_object, size_object]
  simp only [fieldsSize_cons, measuredLocator, V1SignedLocator.sealed,
    V1SignedLocator.announcement, hnine, hten, hearly, hlate]
  omega

theorem measuredRecord_digest_ne (keys : DeviceKeys) :
    (keys.measuredRecord 9 1900).digest measured ≠
      (keys.measuredRecord 10 1030).digest measured := by
  apply measured_digest_ne
  have hsignature : forall sequence expiresAt,
      Json.size (Json.string (keys.measuredLocator sequence expiresAt).signature) =
        88 := by
    intro sequence expiresAt
    rw [Json.size_string]
    exact encodeSignature_quotedSize (P := measured) _
  have hclaims := keys.measuredLocator_size
  unfold V1DeviceRecord.toJson V1SignedLocator.toJson
  simp only [size_object, fieldsSize_cons, measuredRecord, hsignature, hclaims]
  omega

end DeviceKeys

end Reference
end Protocol
end Pubky2Pubky
