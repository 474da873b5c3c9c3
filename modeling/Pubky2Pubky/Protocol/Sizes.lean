import Pubky2Pubky.Protocol.Currentness

/-!
# Encoded sizes

Every text inside a verified record is short, so an answer to an accepted Hello
always fits its size bound.
-/

namespace Pubky2Pubky
namespace Protocol

open Foundation

variable {P : Primitives}

theorem unusableText_quotedSize {text : String} {maximum : Nat}
    (h : ¬ unusableText text maximum) :
    Json.quotedSize text ≤ 2 * maximum + 2 := by
  unfold unusableText at h
  simp only [not_or, Bool.not_eq_true, gt_iff_lt, Nat.not_lt] at h
  rcases h with ⟨_, hlength, hcontrol, _⟩
  have hprintable : forall c, c ∈ text.toList -> 32 ≤ c.toNat := by
    intro c hc
    have hclear := List.any_eq_false.mp hcontrol c hc
    simp only [isControl, Bool.or_eq_true, Bool.and_eq_true,
      decide_eq_true_eq, not_or] at hclear
    omega
  have hquoted := Json.quotedSize_le hprintable
  omega

theorem validateApplication_quotedSize {application : String}
    (h : validateApplication application = Except.ok ()) :
    Json.quotedSize application ≤ 2 * maxApplicationBytes + 2 := by
  rcases V1SignedHello.validateApplication_ascii h with ⟨hchars, hlength⟩
  have hprintable : forall c, c ∈ application.toList -> 32 ≤ c.toNat := by
    intro c hc
    have happ := List.all_eq_true.mp hchars c hc
    by_contra hlow
    have hdash : c ≠ '-' ∧ c ≠ '_' ∧ c ≠ '.' ∧ c ≠ '/' := by
      refine ⟨?_, ?_, ?_, ?_⟩ <;>
        · intro heq
          subst heq
          exact hlow (by decide)
    simp only [applicationChar, Bool.or_eq_true, Bool.and_eq_true,
      decide_eq_true_eq, beq_iff_eq, hdash, or_false] at happ
    omega
  have hquoted := Json.quotedSize_le hprintable
  omega

section Lawful

variable [P.Lawful]

theorem parsePublicKey_quotedSize {encoded : String} {key : P.PublicKey}
    (h : parsePublicKey P encoded = Except.ok key) :
    Json.quotedSize encoded = 54 := by
  rw [← (parsePublicKey_eq_ok.mp h).right,
    Json.quotedSize_plain (Primitives.Lawful.z32_plain key),
    Primitives.Lawful.z32_length]

theorem base64Encode_quotedSize (bytes : Bytes) :
    Json.quotedSize (P.base64Encode bytes) = (8 * bytes.length + 5) / 6 + 2 := by
  rw [Json.quotedSize_plain (Primitives.Lawful.base64Encode_plain bytes),
    Primitives.Lawful.base64Encode_length]

theorem canonicalDigest_quotedSize (domain : String) (value : Json) :
    Json.quotedSize (canonicalDigest P domain value) = 45 := by
  unfold canonicalDigest
  rw [base64Encode_quotedSize, Primitives.Lawful.sha256_length]

theorem encodeSignature_quotedSize (signature : P.Signature) :
    Json.quotedSize (encodeSignature P signature) = 88 := by
  unfold encodeSignature
  rw [base64Encode_quotedSize, Primitives.Lawful.signatureToBytes_length]

theorem validateChallenge_quotedSize {value label : String}
    (h : validateChallenge P value label = Except.ok ()) :
    Json.quotedSize value ≤ 45 := by
  unfold validateChallenge at h
  simp only [bind_eq_ok, rejectIf_eq_ok, not_not] at h
  rcases h with ⟨bytes, hdecoded, hlength⟩
  have hmax : bytes.length ≤ 32 := hlength.right
  rw [← (decodeCanonicalBase64_eq_ok.mp hdecoded).right,
    base64Encode_quotedSize]
  omega

theorem instant_size (t : UInt64) : Json.size (Json.number t.toNat) ≤ 20 := by
  apply Json.size_number_le (by decide)
  have hlt := UInt64.toNat_lt t
  omega

/-- Sizes of the certified texts that the handshake copies. -/
structure PartySizes (claims : V1DeviceCertificateClaims) : Prop where
  identity : Json.quotedSize claims.identity = 54
  deviceId : Json.quotedSize claims.deviceId ≤ 130
  control : Json.quotedSize claims.controlSigningKey = 54
  iroh : Json.quotedSize claims.irohEndpointId = 54

theorem V1DeviceCertificate.Authentic.partySizes
    {certificate : V1DeviceCertificate} {authorization : V1GrantAuthorization}
    {expectedIdentity : String} {grant : V1GrantAuthorization.Claims P}
    (h : Authentic P certificate authorization expectedIdentity grant) :
    PartySizes certificate.claims := by
  rcases h.keys with ⟨control, iroh, hcontrol, hiroh, _⟩
  constructor
  · rw [h.identity]
    exact parsePublicKey_quotedSize h.grantAuthentic.identity
  · exact unusableText_quotedSize h.deviceId
  · exact parsePublicKey_quotedSize hcontrol
  · exact parsePublicKey_quotedSize hiroh

/-- A signed object is little longer than its claims. -/
theorem signed_size_le (claims : Json) (signature : P.Signature) :
    Json.size (Json.object
        [("claims", claims),
         ("signature", Json.string (encodeSignature P signature))]) ≤
      Json.size claims + 113 := by
  have hkeys : Json.keysSize ["claims", "signature"] = 23 := by
    decide
  refine Nat.le_trans (Json.size_object_le _) ?_
  simp only [List.map_cons, List.map_nil, Json.valuesSize_cons,
    Json.valuesSize_nil, Json.size_string, encodeSignature_quotedSize, hkeys]
  omega

/-!
# Records

Of an accepted certificate only the Grant's identifier is unbounded, and of an
accepted locator only the relays are.
-/

theorem V1DeviceCertificate.Authentic.claims_size_le
    {certificate : V1DeviceCertificate} {authorization : V1GrantAuthorization}
    {expectedIdentity : String} {grant : V1GrantAuthorization.Claims P}
    (h : Authentic P certificate authorization expectedIdentity grant) :
    certificate.claims.toJson.size ≤ 1200 + Json.quotedSize grant.jti := by
  have hparty := h.partySizes
  have hid := hparty.deviceId
  have hdigest : Json.quotedSize certificate.claims.grantDigest = 45 := by
    rw [h.grantDigest]
    exact canonicalDigest_quotedSize _ _
  have hclient : Json.quotedSize certificate.claims.clientId ≤ 508 := by
    rw [h.clientId]
    exact unusableText_quotedSize h.grantAuthentic.clientId
  have hcnf := parsePublicKey_quotedSize h.cnfForm
  have hstart := instant_size certificate.claims.issuedAt
  have hstop := instant_size certificate.claims.expiresAt
  have hversion : Json.size (Json.number v1ProtocolVersion.toNat) = 1 := by
    decide
  have hkeys : Json.keysSize
      ["version", "identity", "grant_digest", "grant_jti", "client_id",
        "grant_cnf_key", "device_id", "control_signing_key",
        "iroh_endpoint_id", "issued_at", "expires_at"] ≤ 200 := by
    decide
  refine Nat.le_trans (Json.size_object_le _) ?_
  simp only [List.map_cons, List.map_nil, Json.valuesSize_cons,
    Json.valuesSize_nil, Json.size_string, h.version, hversion, hdigest,
    h.grantJti, hcnf, hparty.identity, hparty.control, hparty.iroh]
  omega

theorem V1SignedLocator.announcement_size_le
    (authorization : V1GrantAuthorization) {certificate : V1DeviceCertificate}
    (hparty : PartySizes certificate.claims) (relayUrls : List Url)
    {instanceNonce label : String}
    (hnonce : validateChallenge P instanceNonce label = Except.ok ())
    (sequence issuedAt expiresAt : UInt64) :
    Json.size (announcement P authorization certificate relayUrls instanceNonce
        sequence issuedAt expiresAt).toJson ≤
      700 + Json.size (Json.array
        (relayUrls.map fun url => Json.string url.asStr)) := by
  have hnonceSize := validateChallenge_quotedSize hnonce
  have hsequence := instant_size sequence
  have hstart := instant_size issuedAt
  have hstop := instant_size expiresAt
  have hversion : Json.size (Json.number v1ProtocolVersion.toNat) = 1 := by
    decide
  have halpn : Json.quotedSize v1IrohAlpnText = 21 := by
    decide
  have hkeys : Json.keysSize
      ["version", "identity", "grant_digest", "device_certificate_digest",
        "control_signing_key", "iroh_endpoint_id", "relay_urls", "alpn",
        "instance_nonce", "sequence", "issued_at", "expires_at"] ≤ 220 := by
    decide
  refine Nat.le_trans (Json.size_object_le _) ?_
  simp only [announcement, V1GrantAuthorization.digest,
    V1DeviceCertificate.digest, List.map_cons, List.map_nil,
    Json.valuesSize_cons, Json.valuesSize_nil, Json.size_string,
    canonicalDigest_quotedSize, halpn, hversion, hparty.identity,
    hparty.control, hparty.iroh]
  omega

theorem V1DeviceRecord.size_le (record : V1DeviceRecord) :
    record.toJson.size ≤ 100 + Json.quotedSize record.authorization.grantJws +
      record.certificate.toJson.size + record.locator.toJson.size := by
  have hkeys : Json.keysSize ["authorization", "certificate", "locator"] ≤ 60 := by
    decide
  have hjwsKey : Json.keysSize ["grant_jws"] ≤ 20 := by
    decide
  have hauthorization : record.authorization.toJson.size ≤
      22 + Json.quotedSize record.authorization.grantJws := by
    refine Nat.le_trans (Json.size_object_le _) ?_
    simp only [List.map_cons, List.map_nil, Json.valuesSize_cons,
      Json.valuesSize_nil, Json.size_string]
    omega
  refine Nat.le_trans (Json.size_object_le _) ?_
  simp only [List.map_cons, List.map_nil, Json.valuesSize_cons,
    Json.valuesSize_nil]
  omega

/-!
# Answers fit their bounds
-/

theorem V1SignedAck.answer_size_le {hello : V1SignedHello}
    {initiatorRecord responderRecord : V1DeviceRecord}
    (hinitiator : PartySizes initiatorRecord.certificate.claims)
    (hresponder : PartySizes responderRecord.certificate.claims)
    {sessionLabel responderNonce label : String}
    (happlicationForm : validateApplication hello.claims.application =
      Except.ok ())
    (hsessionNonce : validateChallenge P hello.claims.sessionNonce sessionLabel =
      Except.ok ())
    (hnonce : validateChallenge P responderNonce label = Except.ok ())
    (issuedAt expiresAt : UInt64) :
    Json.size (answer P hello initiatorRecord responderRecord responderNonce
      issuedAt expiresAt).toJson ≤ 2000 := by
  have hresponderId := hresponder.deviceId
  have hinitiatorId := hinitiator.deviceId
  have happlication := validateApplication_quotedSize happlicationForm
  have hsession := validateChallenge_quotedSize hsessionNonce
  have hresponse := validateChallenge_quotedSize hnonce
  have hstart := instant_size issuedAt
  have hstop := instant_size expiresAt
  have hversion : Json.size (Json.number v1ProtocolVersion.toNat) = 1 := by
    decide
  have halpn : Json.quotedSize v1IrohAlpnText = 21 := by
    decide
  have hkeys : Json.keysSize
      ["version", "from_identity", "from_device_id",
        "from_control_signing_key", "from_iroh_endpoint_id", "to_identity",
        "to_device_id", "to_control_signing_key", "to_iroh_endpoint_id",
        "application", "alpn", "session_nonce", "responder_nonce",
        "hello_digest", "responder_device_record_digest", "issued_at",
        "expires_at"] ≤ 320 := by
    decide
  have hmax : maxApplicationBytes = 128 := rfl
  refine Nat.le_trans (Json.size_object_le _) ?_
  simp only [answer, V1SignedHello.digest, V1DeviceRecord.digest,
    List.map_cons, List.map_nil, Json.valuesSize_cons, Json.valuesSize_nil,
    Json.size_string, canonicalDigest_quotedSize, hresponder.identity,
    hresponder.control, hresponder.iroh, hinitiator.identity,
    hinitiator.control, hinitiator.iroh, halpn, hversion]
  omega

theorem V1SignedCurrentnessProof.statement_size_le (ownRecord : V1DeviceRecord)
    (hello : V1SignedHello) (role : V1CurrentnessRole) {challenge label : String}
    (hchallenge : validateChallenge P challenge label = Except.ok ())
    (issuedAt expiresAt : UInt64) :
    Json.size (statement P ownRecord hello role challenge issuedAt
      expiresAt).toJson ≤ 2000 := by
  have hnonce := validateChallenge_quotedSize hchallenge
  have hstart := instant_size issuedAt
  have hstop := instant_size expiresAt
  have hversion : Json.size (Json.number v1ProtocolVersion.toNat) = 1 := by
    decide
  have hrole : role.toJson.size ≤ 11 := by
    cases role with
    | initiator =>
        decide
    | responder =>
        decide
  have hkeys : Json.keysSize
      ["version", "role", "challenge", "hello_digest", "device_record_digest",
        "grant_digest", "locator_digest", "issued_at", "expires_at"] ≤ 160 := by
    decide
  refine Nat.le_trans (Json.size_object_le _) ?_
  simp only [statement, V1SignedHello.digest, V1DeviceRecord.digest,
    V1GrantAuthorization.digest, V1SignedLocator.digest, List.map_cons,
    List.map_nil, Json.valuesSize_cons, Json.valuesSize_nil, Json.size_string,
    canonicalDigest_quotedSize, hversion]
  omega

end Lawful

end Protocol
end Pubky2Pubky
