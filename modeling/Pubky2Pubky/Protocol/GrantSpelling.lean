import Pubky2Pubky.Protocol.Reference

/-!
# The spelling of a Grant

Verification accepts one text for each pair of claims and signature bytes: the
fixed header, the claims as the JSON writer emits them, and the signature, each
in canonical base64. Every accepted text is such a spelling, and every spelling
that passes the checks of its claims is accepted.
-/

namespace Pubky2Pubky
namespace Protocol

open Foundation

/--
Documented behaviour of the Grant types: an Ed25519 signature is any 64 bytes,
the header reader reads the canonical header, the JSON writer emits some text,
and two capabilities with one text are the same.
-/
class Primitives.GrantFormat (P : Primitives) : Prop where
  signatureFromSlice_isSome (bytes : Bytes) :
    (P.signatureFromSlice bytes).isSome = true <-> bytes.length = 64
  grantHeaderFromSlice_json : P.grantHeaderFromSlice v1GrantHeaderJson =
    some { alg := "EdDSA", typ := "pubky-grant" }
  grantClaimsToVec_ne_nil (claims : GrantClaims P.PublicKey P.Capability) :
    P.grantClaimsToVec claims ≠ []
  capabilityToString_injective (first second : P.Capability) :
    P.capabilityToString first = P.capabilityToString second -> first = second

namespace V1GrantAuthorization

section Spelling

variable (P : Primitives)

def signingInput (claims : Claims P) : List Char :=
  (P.base64Encode v1GrantHeaderJson).toList ++
    '.' :: (P.base64Encode (P.grantClaimsToVec claims)).toList

def spelling (claims : Claims P) (signature : Bytes) : List Char :=
  signingInput P claims ++ '.' :: (P.base64Encode signature).toList

/--
The JWS is the spelling of claims that the JSON reader reads back, and of 64
bytes that are a signature of the issuer over the first two segments.
-/
structure Spelled (authorization : V1GrantAuthorization) (claims : Claims P)
    (signature : Bytes) : Prop where
  text : authorization.grantJws = String.ofList (spelling P claims signature)
  typed : P.grantClaimsFromSlice (P.grantClaimsToVec claims) = some claims
  length : signature.length = 64
  signed : exists root, P.signatureFromSlice signature = some root ∧
    P.verify claims.iss (utf8 (signingInput P claims)) root = true
  size : authorization.grantJws.utf8ByteSize ≤ v1MaxGrantJwsBytes

/-- A spelling whose claims pass every check at a time. -/
structure Granted (authorization : V1GrantAuthorization)
    (expectedIdentity : String) (now : UInt64) (claims : Claims P)
    (signature : Bytes) : Prop where
  spelled : Spelled P authorization claims signature
  identity : P.z32 claims.iss = expectedIdentity
  independent : claims.cnf ≠ claims.iss
  window : WindowOpen claims.iat claims.exp v1MaxGrantLifetimeSeconds now
  someCaps : 1 ≤ claims.caps.length
  boundedCaps : claims.caps.length ≤ 32
  distinctCaps : claims.caps.Nodup
  covers : exists required, P.storagePathNew "/pub/pubky2pubky/" = some required ∧
    exists capability, capability ∈ claims.caps ∧
      P.scopeCoversPath capability required = true ∧
      P.allowsWrite capability = true
  someClientId : 1 ≤ claims.clientId.utf8ByteSize
  boundedClientId : claims.clientId.utf8ByteSize ≤ 253
  plainClientId (c : Char) : c ∈ claims.clientId.toList -> isControl c = false
  visibleClientId : exists c, c ∈ claims.clientId.toList ∧
    isWhitespace c = false

variable {P}

theorem dot_not_mem_base64 [P.UrlSafe] (bytes : Bytes) :
    '.' ∉ (P.base64Encode bytes).toList := by
  intro h
  exact absurd (Primitives.UrlSafe.base64Encode_chars bytes '.' h) (by decide)

theorem base64_ne_nil [P.Lawful] {bytes : Bytes} (h : bytes ≠ []) :
    (P.base64Encode bytes).toList ≠ [] := by
  intro hempty
  have hlength := Primitives.Lawful.base64Encode_length (P := P) bytes
  rw [hempty, List.length_nil] at hlength
  have hpos : 0 < bytes.length := List.length_pos_iff.mpr h
  omega

theorem splitOn_spelling [P.UrlSafe] (claims : Claims P) (signature : Bytes) :
    (spelling P claims signature).splitOn '.' =
      [(P.base64Encode v1GrantHeaderJson).toList,
        (P.base64Encode (P.grantClaimsToVec claims)).toList,
        (P.base64Encode signature).toList] := by
  unfold spelling signingInput
  rw [List.append_assoc, List.cons_append,
    List.splitOn_append_cons_self_of_not_mem (dot_not_mem_base64 _),
    List.splitOn_append_cons_self_of_not_mem (dot_not_mem_base64 _),
    List.splitOn_eq_singleton (dot_not_mem_base64 _)]

theorem segments_eq_ok {self : V1GrantAuthorization}
    {header payload signature : List Char} :
    self.segments = Except.ok (header, payload, signature) <->
      self.grantJws.toList.splitOn '.' = [header, payload, signature] ∧
        header ≠ [] ∧ payload ≠ [] ∧ signature ≠ [] := by
  unfold segments
  constructor
  · intro h
    split at h
    · rename_i first second third hsplit
      simp only [bind_eq_ok, rejectIf_eq_ok, exists_unit, pure_eq_ok, not_or]
        at h
      rcases h with ⟨hsome, hequal⟩
      cases hequal
      exact ⟨hsplit, hsome.left, hsome.right.left, hsome.right.right⟩
    · cases h
  · rintro ⟨hsplit, hheader, hpayload, hsignature⟩
    rw [hsplit]
    simp only [bind_eq_ok, rejectIf_eq_ok, exists_unit, pure_eq_ok, not_or]
    exact ⟨⟨hheader, hpayload, hsignature⟩, trivial⟩

theorem toList_of_splitOn {text first second third : List Char}
    (h : text.splitOn '.' = [first, second, third]) :
    text = first ++ '.' :: second ++ '.' :: third := by
  have hjoined : ['.'].intercalate (text.splitOn '.') = text :=
    List.intercalate_splitOn '.'
  rw [h] at hjoined
  rw [← hjoined]
  simp [List.intercalate]

theorem Spelled.toList [P.UrlSafe] {self : V1GrantAuthorization}
    {claims : Claims P} {signature : Bytes} (h : Spelled P self claims signature) :
    self.grantJws.toList = spelling P claims signature := by
  rw [h.text, String.toList_ofList]

theorem Spelled.segments [P.Lawful] [P.UrlSafe] [P.GrantFormat]
    {self : V1GrantAuthorization} {claims : Claims P} {signature : Bytes}
    (h : Spelled P self claims signature) :
    self.segments = Except.ok ((P.base64Encode v1GrantHeaderJson).toList,
      (P.base64Encode (P.grantClaimsToVec claims)).toList,
      (P.base64Encode signature).toList) := by
  have hsignature : signature ≠ [] := by
    intro hempty
    have hlength := h.length
    rw [hempty] at hlength
    exact absurd hlength (by decide)
  rw [segments_eq_ok, h.toList]
  exact ⟨splitOn_spelling claims signature, base64_ne_nil (by decide),
    base64_ne_nil (Primitives.GrantFormat.grantClaimsToVec_ne_nil claims),
    base64_ne_nil hsignature⟩

theorem decodeCanonicalBase64_ofList [P.Lawful] (bytes : Bytes)
    (label : String) :
    decodeCanonicalBase64 P (String.ofList (P.base64Encode bytes).toList) label =
      Except.ok bytes := by
  rw [String.ofList_toList]
  exact decodeCanonicalBase64_encode bytes label

theorem decodeSigned_iff_spelled [P.Lawful] [P.UrlSafe] [P.GrantFormat]
    {self : V1GrantAuthorization} {claims : Claims P} :
    self.decodeSigned P = Except.ok claims <->
      exists signature, Spelled P self claims signature := by
  constructor
  · intro h
    rcases decodeSigned_eq_ok.mp h with ⟨headerSegment, payloadSegment,
      signatureSegment, header, payloadBytes, signatureBytes, root, _, hsize,
      hsegments, hheader, _, _, _, hpayload, hfound, hexact, hsignature, hroot,
      hverified⟩
    have hsplit := (segments_eq_ok.mp hsegments).left
    have hheaderText : headerSegment =
        (P.base64Encode v1GrantHeaderJson).toList := by
      rw [(decodeCanonicalBase64_eq_ok.mp hheader).right, String.toList_ofList]
    have hpayloadText : payloadSegment =
        (P.base64Encode (P.grantClaimsToVec claims)).toList := by
      rw [hexact, (decodeCanonicalBase64_eq_ok.mp hpayload).right,
        String.toList_ofList]
    have hsignatureText : signatureSegment =
        (P.base64Encode signatureBytes).toList := by
      rw [(decodeCanonicalBase64_eq_ok.mp hsignature).right,
        String.toList_ofList]
    rw [hheaderText, hpayloadText] at hverified
    refine ⟨signatureBytes, ?_⟩
    constructor
    case text =>
      have hjoined := toList_of_splitOn hsplit
      rw [hheaderText, hpayloadText, hsignatureText] at hjoined
      rw [← String.ofList_toList (s := self.grantJws), hjoined]
      unfold spelling signingInput
      simp only [List.append_assoc, List.cons_append]
    case typed =>
      rw [hexact]
      exact hfound
    case length =>
      apply (Primitives.GrantFormat.signatureFromSlice_isSome (P := P) _).mp
      rw [hroot]
      rfl
    case signed => exact ⟨root, hroot, hverified⟩
    case size => exact hsize
  · rintro ⟨signature, h⟩
    rcases h.signed with ⟨root, hroot, hverified⟩
    have hne : self.grantJws ≠ "" := by
      intro hempty
      have htext := h.toList
      rw [hempty] at htext
      have hlength := congrArg List.length htext
      unfold spelling at hlength
      rw [List.length_append, List.length_cons] at hlength
      exact absurd hlength (by simp)
    exact decodeSigned_eq_ok.mpr ⟨_, _, _, _, P.grantClaimsToVec claims,
      signature, root, hne, h.size, h.segments,
      decodeCanonicalBase64_ofList _ _,
      Primitives.GrantFormat.grantHeaderFromSlice_json, rfl, rfl,
      decodeCanonicalBase64_ofList _ _, h.typed, rfl,
      decodeCanonicalBase64_ofList _ _, hroot, hverified⟩

/-!
# The checks of the claims
-/

theorem usableText_iff (text : String) (maximum : Nat) :
    ¬ unusableText text maximum <->
      1 ≤ text.utf8ByteSize ∧ text.utf8ByteSize ≤ maximum ∧
        (forall c, c ∈ text.toList -> isControl c = false) ∧
        exists c, c ∈ text.toList ∧ isWhitespace c = false := by
  have hempty : text ≠ "" <-> 1 ≤ text.utf8ByteSize := by
    rw [Nat.one_le_iff_ne_zero, ne_eq, ne_eq, String.utf8ByteSize_eq_zero_iff]
  unfold unusableText
  simp only [not_or, Nat.not_lt, gt_iff_lt, Bool.not_eq_true, List.any_eq_false,
    List.all_eq_false]
  rw [← hempty]

theorem grantCoversStorage_iff (claims : Claims P) :
    grantCoversStorage P claims = true <->
      exists required, P.storagePathNew v1RequiredStorageScope = some required ∧
        exists capability, capability ∈ claims.caps ∧
          P.scopeCoversPath capability required = true ∧
          P.allowsWrite capability = true := by
  unfold grantCoversStorage
  cases P.storagePathNew v1RequiredStorageScope with
  | none =>
      constructor
      · intro h
        cases h
      · rintro ⟨required, h, _⟩
        cases h
  | some path =>
      simp only [List.any_eq_true, Bool.and_eq_true, Option.some.injEq,
        exists_eq_left']

theorem distinctCaps_iff [P.GrantFormat] (claims : Claims P) :
    (claims.caps.map P.capabilityToString).Nodup <-> claims.caps.Nodup := by
  constructor
  · exact List.Nodup.of_map _
  · exact List.Nodup.map Primitives.GrantFormat.capabilityToString_injective

theorem verify_iff_granted [P.Lawful] [P.UrlSafe] [P.GrantFormat]
    {self : V1GrantAuthorization} {expectedIdentity : String} {now : UInt64}
    {claims : Claims P} :
    self.verify P expectedIdentity now = Except.ok claims <->
      exists signature,
        Granted P self expectedIdentity now claims signature := by
  rw [verify_eq_ok]
  constructor
  · rintro ⟨hauth, hwindow⟩
    rcases decodeSigned_iff_spelled.mp hauth.decoded with ⟨signature, hspelled⟩
    rcases (usableText_iff _ _).mp hauth.clientId with
      ⟨hsome, hbound, hplain, hvisible⟩
    exact ⟨signature,
      { spelled := hspelled
        identity := hauth.z32_iss
        independent := hauth.independent
        window := hwindow
        someCaps := List.length_pos_iff.mpr hauth.someCaps
        boundedCaps := hauth.boundedCaps
        distinctCaps := (distinctCaps_iff claims).mp hauth.distinctCaps
        covers := (grantCoversStorage_iff claims).mp hauth.covers
        someClientId := hsome
        boundedClientId := hbound
        plainClientId := hplain
        visibleClientId := hvisible }⟩
  · rintro ⟨signature, h⟩
    refine ⟨?_, h.window⟩
    constructor
    case decoded => exact decodeSigned_iff_spelled.mpr ⟨signature, h.spelled⟩
    case identity =>
      rw [← h.identity]
      exact parsePublicKey_z32 claims.iss
    case independent => exact h.independent
    case clientId =>
      exact (usableText_iff _ _).mpr ⟨h.someClientId, h.boundedClientId,
        h.plainClientId, h.visibleClientId⟩
    case someCaps => exact List.length_pos_iff.mp h.someCaps
    case boundedCaps => exact h.boundedCaps
    case distinctCaps => exact (distinctCaps_iff claims).mpr h.distinctCaps
    case covers => exact (grantCoversStorage_iff claims).mpr h.covers

/-!
# One spelling for each Grant
-/

/-- Two spellings of the same claims and signature bytes are the same text. -/
theorem Spelled.unique {first second : V1GrantAuthorization}
    {claims : Claims P} {signature : Bytes}
    (hfirst : Spelled P first claims signature)
    (hsecond : Spelled P second claims signature) : first = second := by
  cases first with
  | mk firstJws =>
      cases second with
      | mk secondJws =>
          have hfirstText : firstJws = _ := hfirst.text
          have hsecondText : secondJws = _ := hsecond.text
          rw [hfirstText, hsecondText]

/-- The text is accepted for some identity and at some time. -/
def Accepted (P : Primitives) (authorization : V1GrantAuthorization) : Prop :=
  exists expectedIdentity now claims,
    authorization.verify P expectedIdentity now = Except.ok claims

/-- A reader of Grants, strict or lenient, that reads every spelling back. -/
def Reads (P : Primitives)
    (read : V1GrantAuthorization -> Option (Claims P × Bytes)) : Prop :=
  forall authorization claims signature,
    Spelled P authorization claims signature ->
      read authorization = some (claims, signature)

/--
The accepted texts are exactly the granted spellings; claims and signature bytes
have one accepted text; an accepted text is three nonempty segments; and no other
text that some reader takes for the same Grant is accepted.
-/
structure GrantExactness (P : Primitives) : Prop where
  exact (authorization : V1GrantAuthorization) (expectedIdentity : String)
    (now : UInt64) (claims : Claims P) :
    authorization.verify P expectedIdentity now = Except.ok claims <->
      exists signature,
        Granted P authorization expectedIdentity now claims signature
  unique (first second : V1GrantAuthorization)
    (firstIdentity secondIdentity : String) (firstNow secondNow : UInt64)
    (claims : Claims P) (signature : Bytes) :
    Granted P first firstIdentity firstNow claims signature ->
    Granted P second secondIdentity secondNow claims signature ->
      first = second
  segmented (authorization : V1GrantAuthorization) :
    Accepted P authorization ->
      exists header payload signature : List Char,
        authorization.grantJws.toList.splitOn '.' =
          [header, payload, signature] ∧
        header ≠ [] ∧ payload ≠ [] ∧ signature ≠ []
  rigid (read : V1GrantAuthorization -> Option (Claims P × Bytes))
    (authorization other : V1GrantAuthorization) :
    Reads P read -> Accepted P authorization ->
    read other = read authorization -> other ≠ authorization ->
      ¬ Accepted P other

variable [P.Lawful] [P.UrlSafe] [P.GrantFormat]

theorem Accepted.spelled {authorization : V1GrantAuthorization}
    (h : Accepted P authorization) :
    exists claims signature, Spelled P authorization claims signature := by
  rcases h with ⟨expectedIdentity, now, claims, hverify⟩
  rcases verify_iff_granted.mp hverify with ⟨signature, hgranted⟩
  exact ⟨claims, signature, hgranted.spelled⟩

theorem grant_jws_exact (P : Primitives) [P.Lawful] [P.UrlSafe]
    [P.GrantFormat] : GrantExactness P := by
  constructor
  case exact =>
    intro authorization expectedIdentity now claims
    exact verify_iff_granted
  case unique =>
    intro first second _ _ _ _ claims signature hfirst hsecond
    exact hfirst.spelled.unique hsecond.spelled
  case segmented =>
    intro authorization haccepted
    rcases haccepted.spelled with ⟨claims, signature, hspelled⟩
    exact ⟨_, _, _, segments_eq_ok.mp hspelled.segments⟩
  case rigid =>
    intro read authorization other hreads haccepted hsame hne hother
    rcases haccepted.spelled with ⟨claims, signature, hspelled⟩
    rcases hother.spelled with ⟨otherClaims, otherSignature, hotherSpelled⟩
    have hread := hreads authorization claims signature hspelled
    have hotherRead := hreads other otherClaims otherSignature hotherSpelled
    rw [hsame, hread] at hotherRead
    injection hotherRead with hpair
    injection hpair with hclaims hsignature
    subst hclaims hsignature
    exact hne (hotherSpelled.unique hspelled)

end Spelling

end V1GrantAuthorization

namespace Reference

theorem Capability.text_injective {first second : Capability}
    (h : first.text = second.text) : first = second := by
  cases first with
  | mk scope write =>
      cases second with
      | mk scope' write' =>
          have hlist := congrArg String.toList h
          unfold Capability.text at hlist
          rw [String.toList_append, String.toList_append] at hlist
          have hwrite : write = write' := by
            have hlast := congrArg List.getLast? hlist
            rw [List.getLast?_append, List.getLast?_append] at hlast
            have hrw : ":rw".toList.getLast? = some 'w' := by decide
            have hr : ":r".toList.getLast? = some 'r' := by decide
            cases write with
            | true =>
                cases write' with
                | true => rfl
                | false =>
                    rw [if_pos rfl, if_neg Bool.false_ne_true, hrw, hr,
                      Option.some_or, Option.some_or] at hlast
                    exact absurd hlast (by decide)
            | false =>
                cases write' with
                | true =>
                    rw [if_pos rfl, if_neg Bool.false_ne_true, hrw, hr,
                      Option.some_or, Option.some_or] at hlast
                    exact absurd hlast (by decide)
                | false => rfl
          subst hwrite
          have hscope : scope = scope' :=
            String.toList_injective (List.append_cancel_right hlist)
          rw [hscope]

instance (known : List (GrantClaims Key Capability)) :
    (operations known).GrantFormat where
  signatureFromSlice_isSome bytes := by
    change (signatureOfBytes bytes).isSome = true <-> bytes.length = 64
    unfold signatureOfBytes
    constructor
    · intro h
      split at h
      · rename_i hlength
        exact hlength
      · cases h
    · intro hlength
      rw [dif_pos hlength]
      rfl
  grantHeaderFromSlice_json :=
    (operations_grantHeaderFromSlice known _).trans grantHeaderFromSlice_json
  grantClaimsToVec_ne_nil := grantClaimsToVec_ne_nil
  capabilityToString_injective _ _ := Capability.text_injective

end Reference

/-- The Grant of the two devices is accepted in one spelling. -/
theorem V1GrantAuthorization.grant_jws_exact_sample :
    GrantExactness Reference.sample ∧
      Accepted Reference.sample Reference.authorization :=
  ⟨grant_jws_exact Reference.sample, Reference.identity, 2000, _,
    Reference.authorization_verify (by decide) (by decide)⟩

end Protocol
end Pubky2Pubky
