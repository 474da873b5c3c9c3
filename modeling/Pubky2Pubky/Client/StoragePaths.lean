import Pubky2Pubky.Protocol.SigningInputs
import Pubky2Pubky.Client.Discovery
import Pubky2Pubky.Client.Exchange

/-!
# Storage paths

The signer of a proof, the peer that fetches it and the resolver that reads the
storage build or check the same paths on their own. The paths agree, every built
path is accepted, and an accepted path is spelled as a built one.
-/

namespace Pubky2Pubky
namespace Client

open Foundation Protocol

/-!
# Building a path
-/

section Building

variable {P : Primitives}

theorem v1DeviceRecordPath_eq_ok {grantCnfKey controlSigningKey path : String}
    (h : v1DeviceRecordPath P grantCnfKey controlSigningKey = Except.ok path) :
    path = v1DeviceRecordPathPrefix ++
      (DigestInput.devicePath grantCnfKey controlSigningKey).digest P ++ ".json" := by
  unfold v1DeviceRecordPath at h
  simp only [bind_eq_ok, pure_eq_ok] at h
  rcases h with ⟨_, _, _, _, rfl⟩
  rfl

theorem v1CurrentnessPath_eq_ok {role : V1CurrentnessRole}
    {challenge helloDigest deviceRecordDigest grantDigest locatorDigest path : String}
    (h : v1CurrentnessPath P role challenge helloDigest deviceRecordDigest grantDigest
      locatorDigest = Except.ok path) :
    path = v1CurrentnessPathPrefix ++ (DigestInput.currentnessPath role challenge
      helloDigest deviceRecordDigest grantDigest locatorDigest).digest P ++
        ".json" := by
  unfold v1CurrentnessPath at h
  simp only [bind_eq_ok, exists_unit, pure_eq_ok] at h
  rcases h with ⟨_, _, _, _, _, rfl⟩
  rfl

theorem digest_bytes [P.Lawful] (input : DigestInput) :
    exists bytes : Bytes, bytes.length = 32 ∧ input.digest P = P.base64Encode bytes := by
  rw [DigestInput.digest_eq]
  exact ⟨_, Primitives.Lawful.sha256_length _, rfl⟩

theorem challenge_of_sign {credential : V1DeviceCredential}
    {ownRecord peerRecord : V1DeviceRecord} {hello : V1SignedHello}
    {role : V1CurrentnessRole} {challenge : String} {issuedAt expiresAt : UInt64}
    {allowLoopbackDev : Bool} {proof : V1SignedCurrentnessProof}
    (h : V1SignedCurrentnessProof.sign P credential ownRecord peerRecord hello role
      challenge issuedAt expiresAt allowLoopbackDev = Except.ok proof) :
    validateChallenge P challenge "v1 currentness challenge" = Except.ok () := by
  unfold V1SignedCurrentnessProof.sign at h
  simp only [bind_eq_ok, rejectIf_eq_ok, exists_unit, pure_eq_ok] at h
  rcases h with ⟨_, _, hclaims, _⟩
  rcases V1SignedCurrentnessProof.validateClaims_eq_ok.mp hclaims with ⟨_, hbound, _⟩
  exact hbound.challengeForm

/-- A signed proof is stored where its reader looks for it. -/
theorem path_of_sign [P.Lawful] {credential : V1DeviceCredential}
    {ownRecord peerRecord : V1DeviceRecord} {hello : V1SignedHello}
    {role : V1CurrentnessRole} {challenge : String} {issuedAt expiresAt : UInt64}
    {allowLoopbackDev : Bool} {proof : V1SignedCurrentnessProof}
    (h : V1SignedCurrentnessProof.sign P credential ownRecord peerRecord hello role
      challenge issuedAt expiresAt allowLoopbackDev = Except.ok proof) :
    exists path, proof.path P = Except.ok path ∧
      currentnessPath P role challenge hello ownRecord = Except.ok path := by
  have hsame := sign_path h
  rcases currentnessPath_exists (challenge_of_sign h) role hello ownRecord with
    ⟨path, hpath⟩
  rw [hpath] at hsame
  exact ⟨path, fromProtocol_eq_ok.mp hsame, hpath⟩

/-- Both ends of an exchange name the same pair of paths. -/
theorem readiness_accepted [P.Lawful] {client : V1Client} {target : ResolvedV1Device}
    {application : String} {greeting : Greeting} {ack : V1SignedAck} {now : UInt64}
    {reply : Reply}
    (h : signReply P client target application greeting ack now = Except.ok reply) :
    exists ready, readiness P target greeting reply = Except.ok ready ∧
      validateProofControl P ready ack.claims.responderNonce greeting.hello
        greeting.senderRecord target.record = Except.ok () := by
  rcases signReply_eq_ok h with ⟨_, _, hsign⟩
  rcases readiness_exists h (challenge_of_sign hsign) with ⟨ready, hready⟩
  exact ⟨ready, hready, readiness_valid h hready⟩

end Building

/-!
# Checking a path
-/

structure Spelled (P : Primitives) (leading path : String) : Prop where
  digest : exists bytes : Bytes, bytes.length = 32 ∧
    (P.base64Encode bytes).toList.length = 43 ∧
    path = leading ++ P.base64Encode bytes ++ ".json"
  slashes : path.toList.count '/' = leading.toList.count '/'
  noDotDot : ¬ ['.', '.'] <:+: path.toList
  unmarked : forall c, c ∈ path.toList -> c ≠ '?' ∧ c ≠ '#' ∧ c ≠ '\\'

section Checking

variable {P : Primitives} {path : String}

theorem spelled_of_valid [P.Lawful] [P.UrlSafe] {leading label : String}
    (hleading : leading.toList.all pathChar = true)
    (h : validateHashPath P path leading label = Except.ok ()) :
    Spelled P leading path := by
  have hplain := hashPath_plain hleading h
  rcases validateHashPath_ok h with ⟨bytes, hsize, hpath⟩
  have hspelled : path = leading ++ P.base64Encode bytes ++ ".json" := by
    apply String.toList_injective
    rw [hpath, String.toList_append, String.toList_append, List.append_assoc]
  refine ⟨⟨bytes, hsize, ?_, hspelled⟩, hplain.slashes, ?_, hplain.unmarked⟩
  · rw [Primitives.Lawful.base64Encode_length, hsize]
  · intro hinfix
    have hcount := hinfix.sublist.count_le '.'
    rw [hplain.dots] at hcount
    exact absurd hcount (by decide)

theorem addressed_hashPath [P.UrlSafe] [DiscoveryReaders P] (key : P.PublicKey)
    {leading label : String} (hleading : leading.toList.all pathChar = true)
    (hroot : leading.toList.head? = some '/')
    (h : validateHashPath P path leading label = Except.ok ()) :
    addressed P (P.z32 key) path = Except.ok ("pubky://" ++ P.z32 key ++ path) := by
  have hplain := hashPath_plain hleading h
  exact addressed_of_plain key (hplain.rooted hroot) (Nat.le_of_eq hplain.dots)
    hplain.unmarked

theorem validateHashPath_of_digest [P.Lawful] [P.UrlSafe] (input : DigestInput)
    (leading label : String) :
    validateHashPath P (leading ++ input.digest P ++ ".json") leading label =
      Except.ok () := by
  rcases digest_bytes (P := P) input with ⟨bytes, hsize, hdigest⟩
  rw [hdigest]
  exact validateHashPath_of_bytes hsize leading label

end Checking

/-!
# Agreement
-/

/--
A proof is stored where its reader looks, the pair of paths that an initiator names
is the one its peer expects, every built path is accepted by its validator and
addressed, an accepted path is spelled as a built one, and different inputs have
one path only where the hash collides.
-/
theorem storage_paths_agree (P : Primitives) [P.Lawful] [P.UrlSafe]
    [P.CanonicalJson] [DiscoveryReaders P] :
    (forall (credential : V1DeviceCredential) (ownRecord peerRecord : V1DeviceRecord)
        (hello : V1SignedHello) (role : V1CurrentnessRole) (challenge : String)
        (issuedAt expiresAt : UInt64) (allowLoopbackDev : Bool)
        (proof : V1SignedCurrentnessProof),
      V1SignedCurrentnessProof.sign P credential ownRecord peerRecord hello role
        challenge issuedAt expiresAt allowLoopbackDev = Except.ok proof ->
      exists path, proof.path P = Except.ok path ∧
        currentnessPath P role challenge hello ownRecord = Except.ok path) ∧
    (forall (client : V1Client) (target : ResolvedV1Device) (application : String)
        (greeting : Greeting) (ack : V1SignedAck) (now : UInt64) (reply : Reply),
      signReply P client target application greeting ack now = Except.ok reply ->
      exists ready, readiness P target greeting reply = Except.ok ready ∧
        validateProofControl P ready ack.claims.responderNonce greeting.hello
          greeting.senderRecord target.record = Except.ok ()) ∧
    (forall grantCnfKey controlSigningKey path : String,
      v1DeviceRecordPath P grantCnfKey controlSigningKey = Except.ok path ->
      validateDevicePath P path = Except.ok () ∧
        forall key : P.PublicKey, addressed P (P.z32 key) path =
          Except.ok ("pubky://" ++ P.z32 key ++ path)) ∧
    (forall (role : V1CurrentnessRole)
        (challenge hello record grant locator path : String),
      v1CurrentnessPath P role challenge hello record grant locator =
        Except.ok path ->
      validateCurrentnessPath P path = Except.ok () ∧
        forall key : P.PublicKey, addressed P (P.z32 key) path =
          Except.ok ("pubky://" ++ P.z32 key ++ path)) ∧
    (forall path : String,
      (validateDevicePath P path = Except.ok () ->
        Spelled P v1DeviceRecordPathPrefix path) ∧
      (validateCurrentnessPath P path = Except.ok () ->
        Spelled P v1CurrentnessPathPrefix path)) ∧
    (forall cnf control otherCnf otherControl path : String,
      v1DeviceRecordPath P cnf control = Except.ok path ->
      v1DeviceRecordPath P otherCnf otherControl = Except.ok path ->
      (cnf = otherCnf ∧ control = otherControl) ∨
        Collides P ((DigestInput.devicePath cnf control).bytes P)
          ((DigestInput.devicePath otherCnf otherControl).bytes P)) ∧
    (forall (role otherRole : V1CurrentnessRole)
        (challenge hello record grant locator : String)
        (otherChallenge otherHello otherRecord otherGrant otherLocator : String)
        (path : String),
      v1CurrentnessPath P role challenge hello record grant locator =
        Except.ok path ->
      v1CurrentnessPath P otherRole otherChallenge otherHello otherRecord otherGrant
        otherLocator = Except.ok path ->
      (role = otherRole ∧ challenge = otherChallenge ∧ hello = otherHello ∧
          record = otherRecord ∧ grant = otherGrant ∧ locator = otherLocator) ∨
        Collides P
          ((DigestInput.currentnessPath role challenge hello record grant
            locator).bytes P)
          ((DigestInput.currentnessPath otherRole otherChallenge otherHello
            otherRecord otherGrant otherLocator).bytes P)) := by
  refine ⟨?_, ?_, ?_, ?_, ?_, ?_, ?_⟩
  · intro credential ownRecord peerRecord hello role challenge issuedAt expiresAt
      allowLoopbackDev proof h
    exact path_of_sign h
  · intro client target application greeting ack now reply h
    exact readiness_accepted h
  · intro grantCnfKey controlSigningKey path h
    have hpath := v1DeviceRecordPath_eq_ok h
    have hvalid : validateDevicePath P path = Except.ok () := by
      rw [hpath]
      exact validateHashPath_of_digest _ _ _
    exact ⟨hvalid, fun key => addressed_hashPath key (by decide) rfl hvalid⟩
  · intro role challenge hello record grant locator path h
    have hpath := v1CurrentnessPath_eq_ok h
    have hvalid : validateCurrentnessPath P path = Except.ok () := by
      rw [hpath]
      exact validateHashPath_of_digest _ _ _
    exact ⟨hvalid, fun key => addressed_hashPath key (by decide) rfl hvalid⟩
  · intro path
    exact ⟨fun h => spelled_of_valid (by decide) h,
      fun h => spelled_of_valid (by decide) h⟩
  · intro cnf control otherCnf otherControl path h hother
    rw [v1DeviceRecordPath_eq_ok h] at hother
    have hdigest := digest_of_path (v1DeviceRecordPath_eq_ok hother)
    rcases DigestInput.eq_or_collides hdigest with hsame | hcollides
    · injection hsame with hcnf hcontrol
      exact Or.inl ⟨hcnf, hcontrol⟩
    · exact Or.inr hcollides
  · intro role otherRole challenge hello record grant locator otherChallenge
      otherHello otherRecord otherGrant otherLocator path h hother
    rw [v1CurrentnessPath_eq_ok h] at hother
    have hdigest := digest_of_path (v1CurrentnessPath_eq_ok hother)
    rcases DigestInput.eq_or_collides hdigest with hsame | hcollides
    · injection hsame with hrole hchallenge hhello hrecord hgrant hlocator
      exact Or.inl ⟨hrole, hchallenge, hhello, hrecord, hgrant, hlocator⟩
    · exact Or.inr hcollides

/-- The sample responder's proof is stored at an accepted path its peer computes. -/
theorem storage_paths_agree_sample :
    exists (proof : V1SignedCurrentnessProof) (path : String),
      proof.path Reference.sample = Except.ok path ∧
      currentnessPath Reference.sample V1CurrentnessRole.responder
        Reference.challenge Reference.hello Reference.phone.record =
          Except.ok path ∧
      validateCurrentnessPath Reference.sample path = Except.ok () := by
  rcases Reference.laptop_caller.proof_sign with ⟨proof, hproof⟩
  have hagree := storage_paths_agree (P := Reference.sample)
  rcases hagree with ⟨hstored, _, _, hcurrentness, _⟩
  rcases hstored _ _ _ _ _ _ _ _ _ _ hproof with ⟨path, hpath, hreader⟩
  have hvalid := hcurrentness _ _ _ _ _ _ _ hpath
  exact ⟨proof, path, hpath, hreader, hvalid.left⟩

end Client
end Pubky2Pubky
