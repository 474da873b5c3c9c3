import Pubky2Pubky.Foundation.Radix
import Pubky2Pubky.Foundation.Sha256
import Pubky2Pubky.Protocol.Issuance
import Pubky2Pubky.Protocol.UrlParts

/-!
# Reference operations

An instance of the third-party operations: URL-safe base64, z-base-32, SHA-256
and the JSON writers as they are specified, and an ideal signature scheme in
which a signature is the signer's key followed by the hash of the message. The
Grant reader knows a table of Grants.
-/

namespace Pubky2Pubky
namespace Protocol
namespace Reference

open Foundation

/-!
# Text encodings
-/

def base64Url : Radix.Alphabet 6 where
  chars :=
    "ABCDEFGHIJKLMNOPQRSTUVWXYZabcdefghijklmnopqrstuvwxyz0123456789-_".toList
  size := by decide
  nodup := by decide

def zBase32 : Radix.Alphabet 5 where
  chars := "ybndrfg8ejkmcpqxot1uwisza345h769".toList
  size := by decide
  nodup := by decide

theorem encode_plain {n : Nat} {A : Radix.Alphabet (n + 1)}
    (h : A.chars.all Json.plainChar = true) (bytes : Bytes) :
    (String.ofList (A.encode bytes)).toList.all Json.plainChar = true := by
  rw [String.toList_ofList, List.all_eq_true]
  intro c hc
  exact List.all_eq_true.mp h c (A.mem_of_mem_encode hc)

/-!
# Canonical JSON

Objects list their fields in the order of their keys.
-/

def insertField (key : String) (value : Json) :
    List (String × Json) -> List (String × Json)
  | [] => [(key, value)]
  | (other, found) :: rest =>
      if key < other then (key, value) :: (other, found) :: rest
      else (other, found) :: insertField key value rest

mutual

def canonical : Json -> Json
  | Json.null => Json.null
  | Json.string value => Json.string value
  | Json.number value => Json.number value
  | Json.array items => Json.array (canonicalItems items)
  | Json.object fields => Json.object (canonicalFields fields)

def canonicalItems : List Json -> List Json
  | [] => []
  | item :: rest => canonical item :: canonicalItems rest

def canonicalFields : List (String × Json) -> List (String × Json)
  | [] => []
  | (key, value) :: rest => insertField key (canonical value) (canonicalFields rest)

end

/-!
# Keys, Grants and URLs
-/

abbrev Key := { bytes : Bytes // bytes.length = 32 }

abbrev Signature := { bytes : Bytes // bytes.length = 64 }

structure Capability where
  scope : String
  write : Bool

def Capability.text (self : Capability) : String :=
  self.scope ++ (if self.write then ":rw" else ":r")

def keyOfBytes (bytes : Bytes) : Option Key :=
  if h : bytes.length = 32 then some ⟨bytes, h⟩ else none

def signatureOfBytes (bytes : Bytes) : Option Signature :=
  if h : bytes.length = 64 then some ⟨bytes, h⟩ else none

def sign (key : Key) (message : Bytes) : Signature :=
  ⟨key.val ++ Sha256.hash message, by
    rw [List.length_append, key.property, Sha256.hash_length]⟩

def verify (key : Key) (message : Bytes) (signature : Signature) : Bool :=
  signature.val == key.val ++ Sha256.hash message

def z32 (key : Key) : String :=
  String.ofList (zBase32.encode key.val)

theorem quotedSize_z32 (key : Key) : Json.quotedSize (z32 key) = 54 := by
  have hplain : (z32 key).toList.all Json.plainChar = true :=
    encode_plain (by decide) key.val
  rw [Json.quotedSize_plain hplain]
  unfold z32
  rw [String.toList_ofList, zBase32.encode_length, key.property]

def base64Encode (bytes : Bytes) : String :=
  String.ofList (base64Url.encode bytes)

def grantClaimsToVec (claims : GrantClaims Key Capability) : Bytes :=
  utf8 (Json.render (Json.object
    [("iss", Json.string (z32 claims.iss)),
     ("client_id", Json.string claims.clientId),
     ("caps", Json.array (claims.caps.map fun cap => Json.string cap.text)),
     ("cnf", Json.string (z32 claims.cnf)),
     ("jti", Json.string claims.jti),
     ("iat", Json.number claims.iat.toNat),
     ("exp", Json.number claims.exp.toNat)]))

def grantHeader : V1GrantHeader :=
  { alg := "EdDSA", typ := "pubky-grant" }

/-- The header is read in its canonical text only. -/
def grantHeaderFromSlice (bytes : Bytes) : Option V1GrantHeader :=
  if bytes = v1GrantHeaderJson then some grantHeader else none

theorem grantHeaderFromSlice_json :
    grantHeaderFromSlice v1GrantHeaderJson = some grantHeader := by
  unfold grantHeaderFromSlice
  rw [if_pos rfl]

def grantClaimsFromSlice (known : List (GrantClaims Key Capability))
    (bytes : Bytes) : Option (GrantClaims Key Capability) :=
  known.find? fun claims => grantClaimsToVec claims == bytes

theorem grantClaimsFromSlice_singleton (claims : GrantClaims Key Capability) :
    grantClaimsFromSlice [claims] (grantClaimsToVec claims) = some claims := by
  simp [grantClaimsFromSlice]

/-- What follows the scheme and the two slashes. -/
def urlRest (url : Url) : List Char :=
  (url.asStr.toList.dropWhile (· != ':')).drop 3

def urlAuthority (url : Url) : List Char :=
  (urlRest url).takeWhile fun c => c != '/' && c != '?' && c != '#'

def urlUserInfo (url : Url) : List Char :=
  if '@' ∈ urlAuthority url then (urlAuthority url).takeWhile (· != '@') else []

/-- The host, with the colon and the port after it. -/
def urlHostPort (url : Url) : List Char :=
  if '@' ∈ urlAuthority url
  then ((urlAuthority url).dropWhile (· != '@')).drop 1
  else urlAuthority url

def urlHost (url : Url) : List Char :=
  match urlHostPort url with
  | '[' :: rest => '[' :: (rest.takeWhile (· != ']') ++ [']'])
  | text => text.takeWhile (· != ':')

def urlParsedHost (url : Url) : Option Host :=
  match urlHostPort url with
  | '[' :: rest =>
      match readIpv6Addr (rest.takeWhile (· != ']')) with
      | some (groups, []) => some (Host.ipv6 groups)
      | _ => none
  | text =>
      match readIpv4Addr (text.takeWhile (· != ':')) with
      | some (octets, []) => some (Host.ipv4 octets)
      | _ => some (Host.domain (String.ofList (text.takeWhile (· != ':'))))

def urlPort (url : Url) : Option Nat :=
  match (urlHostPort url).drop (urlHost url).length with
  | ':' :: digits => (readNumber 10 5 65535 false digits).map Prod.fst
  | _ => none

def urlDefaultPort (scheme : List Char) : Option Nat :=
  if scheme = "https".toList then some 443
  else if scheme = "http".toList then some 80
  else none

def urlOrigin (url : Url) : Option Origin :=
  let scheme := url.asStr.toList.takeWhile (· != ':')
  (urlDefaultPort scheme).map fun port =>
    { scheme := String.ofList scheme
      host := String.ofList (urlHost url)
      port := (urlPort url).getD port }

/-- The text after a mark, when the mark is there. -/
def after (mark : Char) (text : List Char) : Option String :=
  if mark ∈ text then some (String.ofList ((text.dropWhile (· != mark)).drop 1))
  else none

/-- Serialized web URLs are taken as they are. -/
def urlParse (text : String) : Option Url :=
  let url : Url := { asStr := text }
  if (urlDefaultPort (text.toList.takeWhile (· != ':'))).isSome ∧
      urlHost url ≠ [] ∧ after ':' (urlUserInfo url) ≠ some ""
  then some url
  else none

theorem urlParse_eq_some {text : String} {url : Url}
    (h : urlParse text = some url) :
    url.asStr = text ∧
      (urlDefaultPort (text.toList.takeWhile (· != ':'))).isSome ∧
      urlHost url ≠ [] ∧ after ':' (urlUserInfo url) ≠ some "" := by
  unfold urlParse at h
  dsimp only at h
  split at h
  · rename_i hweb
    injection h with h
    subst h
    exact ⟨rfl, hweb⟩
  · cases h

def urlTail (url : Url) : List Char :=
  (urlRest url).drop (urlAuthority url).length

/-- The operations, with a table of the Grants that the reader knows. -/
def operations (known : List (GrantClaims Key Capability)) : Primitives where
  PublicKey := Key
  Keypair := Key
  Signature := Signature
  Capability := Capability
  StoragePath := String
  decidableEqPublicKey := inferInstance
  z32 := z32
  tryFromZ32 text := (zBase32.decode text.toList).bind keyOfBytes
  publicKey key := key
  fromSecret bytes :=
    (keyOfBytes bytes).getD ⟨List.replicate 32 0, List.length_replicate⟩
  secret key := key.val
  sign := sign
  verify := verify
  signatureToBytes signature := signature.val
  signatureFromSlice := signatureOfBytes
  sha256 := Sha256.hash
  base64Encode := base64Encode
  base64Decode text := base64Url.decode text.toList
  jsonToVec value := utf8 value.render
  jcsToVec value := utf8 (canonical value).render
  grantHeaderFromSlice := grantHeaderFromSlice
  grantClaimsFromSlice := grantClaimsFromSlice known
  grantClaimsToVec := grantClaimsToVec
  storagePathNew path := if path.toList.head? = some '/' then some path else none
  scopeCoversPath capability path :=
    capability.scope.toList.isPrefixOf path.toList
  allowsWrite capability := capability.write
  capabilityToString := Capability.text
  urlScheme url := String.ofList (url.asStr.toList.takeWhile (· != ':'))
  urlHostStr url :=
    if urlHost url = [] then none else some (String.ofList (urlHost url))
  urlUsername url :=
    String.ofList ((urlUserInfo url).takeWhile (· != ':'))
  urlPassword url := after ':' (urlUserInfo url)
  urlPath url :=
    String.ofList ((urlTail url).takeWhile fun c => c != '?' && c != '#')
  urlQuery url := after '?' ((urlTail url).takeWhile (· != '#'))
  urlFragment url := after '#' (urlTail url)

theorem operations_grantHeaderFromSlice
    (known : List (GrantClaims Key Capability)) (bytes : Bytes) :
    (operations known).grantHeaderFromSlice bytes =
      grantHeaderFromSlice bytes := rfl

theorem operations_grantClaimsFromSlice
    (known : List (GrantClaims Key Capability)) (bytes : Bytes) :
    (operations known).grantClaimsFromSlice bytes =
      grantClaimsFromSlice known bytes := rfl

instance (known : List (GrantClaims Key Capability)) :
    (operations known).Lawful where
  tryFromZ32_z32 key := by
    change (zBase32.decode (String.ofList (zBase32.encode key.val)).toList).bind
      keyOfBytes = some key
    rw [String.toList_ofList, zBase32.decode_encode (by decide)]
    exact dif_pos key.property
  z32_length key := by
    change (String.ofList (zBase32.encode key.val)).toList.length = 52
    rw [String.toList_ofList, zBase32.encode_length, key.property]
  z32_plain key := encode_plain (by decide) key.val
  fromSecret_secret key := by
    change (keyOfBytes key.val).getD _ = key
    unfold keyOfBytes
    rw [dif_pos key.property]
    rfl
  secret_length key := key.property
  verify_sign key message := beq_self_eq_true (sign key message).val
  signatureFromSlice_toBytes signature := dif_pos signature.property
  signatureToBytes_length signature := signature.property
  sha256_length := Sha256.hash_length
  base64Decode_encode bytes := by
    change base64Url.decode (String.ofList (base64Url.encode bytes)).toList =
      some bytes
    rw [String.toList_ofList, base64Url.decode_encode (by decide)]
  base64Encode_length bytes := by
    change (String.ofList (base64Url.encode bytes)).toList.length = _
    rw [String.toList_ofList, base64Url.encode_length]
  base64Encode_plain bytes := encode_plain (by decide) bytes
  jsonToVec_length value := rfl

instance (known : List (GrantClaims Key Capability)) :
    (operations known).ZBase32 where
  z32_chars key c hc := by
    change c ∈ (String.ofList (zBase32.encode key.val)).toList at hc
    rw [String.toList_ofList] at hc
    exact zBase32.mem_of_mem_encode hc

instance (known : List (GrantClaims Key Capability)) :
    (operations known).UrlSafe where
  base64Encode_chars bytes c hc := by
    change c ∈ (String.ofList (base64Url.encode bytes)).toList at hc
    rw [String.toList_ofList] at hc
    exact base64Url.mem_of_mem_encode hc

instance (known : List (GrantClaims Key Capability)) :
    UrlParts (operations known) where
  parse := urlParse
  host := urlParsedHost
  port := urlPort
  origin := urlOrigin
  parse_asStr text url h := by
    rw [(urlParse_eq_some h).left]
    exact h
  parse_empty := by
    cases hempty : urlParse "" with
    | none => rfl
    | some url =>
        exact absurd (urlParse_eq_some hempty).right.left (by decide)
  parse_host text url h _ := by
    change (if urlHost url = [] then none
      else some (String.ofList (urlHost url))) ≠ none
    rw [if_neg (urlParse_eq_some h).right.right.left]
    exact Option.some_ne_none _
  parse_password text url h := (urlParse_eq_some h).right.right.right
  hostStr_ipv4 url octets h := by
    change exists text, (if urlHost url = [] then none
      else some (String.ofList (urlHost url))) = some text ∧ _
    unfold urlParsedHost at h
    split at h
    · split at h
      · cases h
      · cases h
    · rename_i hnot
      have hhost : urlHost url = (urlHostPort url).takeWhile (· != ':') := by
        unfold urlHost
        split
        · rename_i rest hrest
          exact absurd hrest (hnot rest)
        · rfl
      split at h
      · rename_i found hread
        injection h with h
        injection h with h
        rw [h] at hread
        have hne : urlHost url ≠ [] := by
          intro hempty
          rw [← hhost, hempty] at hread
          cases hread
        refine ⟨String.ofList (urlHost url), if_neg hne, ?_⟩
        rw [String.toList_ofList, hhost]
        exact hread
      · cases h
  hostStr_ipv6 url groups h := by
    change exists text, (if urlHost url = [] then none
      else some (String.ofList (urlHost url))) = some ("[" ++ text ++ "]")
    unfold urlParsedHost at h
    split at h
    · rename_i rest hrest
      have hhost : urlHost url =
          '[' :: (rest.takeWhile (· != ']') ++ [']']) := by
        unfold urlHost
        rw [hrest]
        rfl
      refine ⟨String.ofList (rest.takeWhile (· != ']')), ?_⟩
      rw [hhost, if_neg (List.cons_ne_nil _ _), Option.some.injEq]
      apply String.toList_injective
      have hinner : (String.ofList (rest.takeWhile (· != ']'))).toList =
          rest.takeWhile (· != ']') := String.toList_ofList
      rw [String.toList_ofList, String.toList_append, String.toList_append,
        hinner]
      rfl
    · split at h
      · cases h
      · cases h

/-!
# Compact Grants

A Grant that its root signs and writes as a compact JWS decodes to its claims
when the reader knows it and it is not too long.
-/

def headerText : List Char := base64Url.encode v1GrantHeaderJson

def payloadText (claims : GrantClaims Key Capability) : List Char :=
  base64Url.encode (grantClaimsToVec claims)

def signatureText (claims : GrantClaims Key Capability) : List Char :=
  base64Url.encode
    (sign claims.iss (utf8 (headerText ++ '.' :: payloadText claims))).val

def compactText (claims : GrantClaims Key Capability) : List Char :=
  headerText ++ '.' :: (payloadText claims ++ '.' :: signatureText claims)

def compactGrant (claims : GrantClaims Key Capability) : V1GrantAuthorization :=
  { grantJws := String.ofList (compactText claims) }

theorem dot_not_mem_encode (bytes : Bytes) : '.' ∉ base64Url.encode bytes := by
  intro h
  exact absurd (base64Url.mem_of_mem_encode h) (by decide)

theorem encode_ne_nil {bytes : Bytes} (h : bytes ≠ []) :
    base64Url.encode bytes ≠ [] := by
  intro hempty
  have hlength := base64Url.encode_length bytes
  rw [hempty, List.length_nil] at hlength
  have hpos : 0 < bytes.length := List.length_pos_iff.mpr h
  omega

theorem segments_compactGrant {claims : GrantClaims Key Capability}
    (hpayload : grantClaimsToVec claims ≠ []) :
    (compactGrant claims).segments =
      Except.ok (headerText, payloadText claims, signatureText claims) := by
  have hsignature : (sign claims.iss
      (utf8 (headerText ++ '.' :: payloadText claims))).val ≠ [] := by
    intro hempty
    have hlength := (sign claims.iss
      (utf8 (headerText ++ '.' :: payloadText claims))).property
    rw [hempty] at hlength
    exact absurd hlength (by decide)
  have hheader : '.' ∉ headerText := dot_not_mem_encode _
  have hclaims : '.' ∉ payloadText claims := dot_not_mem_encode _
  have hsigned : '.' ∉ signatureText claims := dot_not_mem_encode _
  have hsplit : (String.ofList (compactText claims)).toList.splitOn '.' =
      [headerText, payloadText claims, signatureText claims] := by
    unfold compactText
    rw [String.toList_ofList,
      List.splitOn_append_cons_self_of_not_mem hheader,
      List.splitOn_append_cons_self_of_not_mem hclaims,
      List.splitOn_eq_singleton hsigned]
  unfold V1GrantAuthorization.segments compactGrant
  rw [hsplit]
  have hsome : ¬ (headerText = [] ∨ payloadText claims = [] ∨
      signatureText claims = []) := by
    rw [not_or, not_or]
    exact ⟨encode_ne_nil (by decide), encode_ne_nil hpayload,
      encode_ne_nil hsignature⟩
  simp only [rejectIf_of_not hsome, ok_bind]
  rfl

theorem decodeSigned_compactGrant (claims : GrantClaims Key Capability)
    (hpayload : grantClaimsToVec claims ≠ [])
    (hsize : (compactGrant claims).grantJws.utf8ByteSize ≤ v1MaxGrantJwsBytes) :
    (compactGrant claims).decodeSigned (operations [claims]) =
      Except.ok claims := by
  have htext : (compactGrant claims).grantJws.toList = compactText claims :=
    String.toList_ofList
  have hne : (compactGrant claims).grantJws ≠ "" := by
    intro hempty
    rw [hempty] at htext
    have hlength := congrArg List.length htext
    unfold compactText at hlength
    rw [List.length_append, List.length_cons] at hlength
    exact absurd hlength (by simp)
  have hparsed := (operations_grantHeaderFromSlice [claims]
    v1GrantHeaderJson).trans grantHeaderFromSlice_json
  have hfound := (operations_grantClaimsFromSlice [claims]
    (grantClaimsToVec claims)).trans (grantClaimsFromSlice_singleton claims)
  let message := utf8 (headerText ++ '.' :: payloadText claims)
  have hheader : decodeCanonicalBase64 (operations [claims])
      (String.ofList headerText) "v1 Grant header" =
        Except.ok v1GrantHeaderJson :=
    decodeCanonicalBase64_encode v1GrantHeaderJson _
  have hclaims : decodeCanonicalBase64 (operations [claims])
      (String.ofList (payloadText claims)) "v1 Grant payload" =
        Except.ok (grantClaimsToVec claims) :=
    decodeCanonicalBase64_encode (grantClaimsToVec claims) _
  have hsigned : decodeCanonicalBase64 (operations [claims])
      (String.ofList (signatureText claims)) "v1 Grant signature" =
        Except.ok (sign claims.iss message).val :=
    decodeCanonicalBase64_encode (sign claims.iss message).val _
  have hslice : (operations [claims]).signatureFromSlice
      (sign claims.iss message).val = some (sign claims.iss message) :=
    dif_pos (sign claims.iss message).property
  have hverified : (operations [claims]).verify claims.iss message
      (sign claims.iss message) = true :=
    beq_self_eq_true (sign claims.iss message).val
  exact V1GrantAuthorization.decodeSigned_eq_ok.mpr
    ⟨headerText, payloadText claims, signatureText claims, grantHeader,
      grantClaimsToVec claims, (sign claims.iss message).val,
      sign claims.iss message, hne, hsize, segments_compactGrant hpayload,
      hheader, hparsed, rfl, rfl, hclaims, hfound, rfl, hsigned, hslice, hverified⟩

theorem grantClaimsToVec_ne_nil (claims : GrantClaims Key Capability) :
    grantClaimsToVec claims ≠ [] := by
  intro hempty
  have hlength := congrArg List.length hempty
  unfold grantClaimsToVec Json.render at hlength
  rw [List.cons_append, utf8_cons_length] at hlength
  have hpos := Char.utf8Size_pos '{'
  simp only [List.length_nil] at hlength
  omega

theorem compactText_plain (claims : GrantClaims Key Capability) :
    (compactText claims).all Json.plainChar = true := by
  have hbase : base64Url.chars.all Json.plainChar = true := by decide
  have hplain : forall bytes : Bytes,
      (base64Url.encode bytes).all Json.plainChar = true := by
    intro bytes
    rw [List.all_eq_true]
    intro c hc
    exact List.all_eq_true.mp hbase c (base64Url.mem_of_mem_encode hc)
  have hdot : Json.plainChar '.' = true := by decide
  unfold compactText headerText payloadText signatureText
  rw [List.all_append, List.all_cons, List.all_append, List.all_cons, hplain,
    hplain, hplain, hdot]
  rfl

theorem compactText_length (claims : GrantClaims Key Capability) :
    (compactText claims).length =
      47 + (8 * (grantClaimsToVec claims).length + 5) / 6 + 88 := by
  have hheader : v1GrantHeaderJson.length = 35 := by decide
  unfold compactText headerText payloadText signatureText
  rw [List.length_append, List.length_cons, List.length_append,
    List.length_cons, base64Url.encode_length, base64Url.encode_length,
    base64Url.encode_length, hheader, (sign _ _).property]
  omega

/-!
# Two devices

One identity with one Grant and two devices. The records start at instant 1000,
and the Hello from the laptop to the phone starts sixty seconds later.
-/

def keyOf (byte : UInt8) : Key :=
  ⟨List.replicate 32 byte, List.length_replicate⟩

def grantClaims : GrantClaims Key Capability :=
  { iss := keyOf 1
    clientId := "app.example"
    caps := [{ scope := "/pub/pubky2pubky/", write := true }]
    cnf := keyOf 2
    jti := "grant-one"
    iat := 1000
    exp := 1000000 }

abbrev sample : Primitives :=
  operations [grantClaims]

abbrev identity : String := sample.z32 (keyOf 1)

abbrev authorization : V1GrantAuthorization :=
  compactGrant grantClaims

theorem grantClaimsToVec_length_le :
    (grantClaimsToVec grantClaims).length ≤ 300 := by
  have hiss := quotedSize_z32 grantClaims.iss
  have hcnf := quotedSize_z32 grantClaims.cnf
  have hclient : Json.quotedSize grantClaims.clientId = 13 := by decide
  have hcaps : Json.size (Json.array (grantClaims.caps.map fun cap =>
      Json.string cap.text)) ≤ 30 := by
    decide
  have hjti : Json.quotedSize grantClaims.jti = 11 := by decide
  have hstart := instant_size grantClaims.iat
  have hstop := instant_size grantClaims.exp
  have hkeys : Json.keysSize
      ["iss", "client_id", "caps", "cnf", "jti", "iat", "exp"] ≤ 60 := by
    decide
  refine Nat.le_trans (Json.size_object_le _) ?_
  simp only [List.map_cons, List.map_nil, Json.valuesSize_cons,
    Json.valuesSize_nil, Json.size_string, hiss, hcnf, hclient, hjti]
  omega

theorem grantJws_ascii (c : Char) (hc : c ∈ authorization.grantJws.toList) :
    32 ≤ c.toNat ∧ c.toNat < 128 := by
  have htext : authorization.grantJws.toList = compactText grantClaims :=
    String.toList_ofList
  rw [htext] at hc
  have hplain := List.all_eq_true.mp (compactText_plain grantClaims) c hc
  simp only [Json.plainChar, Bool.and_eq_true, decide_eq_true_eq] at hplain
  omega

theorem grantJws_size : authorization.grantJws.utf8ByteSize ≤ 1000 := by
  have hlength := grantClaimsToVec_length_le
  have htext : authorization.grantJws.toList = compactText grantClaims :=
    String.toList_ofList
  rw [← utf8_toList_length,
    Json.utf8_length_ascii fun c hc => (grantJws_ascii c hc).right, htext,
    compactText_length]
  omega

theorem grantJws_quotedSize : Json.quotedSize authorization.grantJws ≤ 2002 :=
  Nat.le_trans (Json.quotedSize_le fun c hc => (grantJws_ascii c hc).left) (by
    have hsize := grantJws_size
    omega)

theorem authorization_authentic :
    V1GrantAuthorization.Authentic sample authorization identity grantClaims := by
  have hsize : authorization.grantJws.utf8ByteSize ≤ v1MaxGrantJwsBytes :=
    Nat.le_trans grantJws_size (by decide)
  exact
    { decoded := decodeSigned_compactGrant grantClaims
        (grantClaimsToVec_ne_nil grantClaims) hsize
      identity := parsePublicKey_z32 (P := sample) (keyOf 1)
      independent := by decide
      clientId := by decide
      someCaps := by decide
      boundedCaps := by decide
      distinctCaps := by decide
      covers := by decide }

theorem authorization_verify {now : UInt64} (hstart : 1000 ≤ now.toNat)
    (hstop : now.toNat < 1000000) :
    authorization.verify sample identity now = Except.ok grantClaims := by
  have hiat : grantClaims.iat.toNat = 1000 := by decide
  have hexp : grantClaims.exp.toNat = 1000000 := by decide
  have hmax : v1MaxGrantLifetimeSeconds.toNat = 63072000 := by decide
  exact V1GrantAuthorization.verify_eq_ok.mpr
    ⟨authorization_authentic, by omega, by omega, by omega, by omega⟩

/--
Two device keys that are different from each other and from the Grant's keys, and
the sequence of the locator they announce.
-/
structure DeviceKeys where
  control : Key
  iroh : Key
  deviceId : String
  sequence : UInt64
  positive : sequence ≠ 0
  distinct : [grantClaims.iss, grantClaims.cnf, control, iroh].Nodup
  usable : ¬ unusableText deviceId maxDeviceIdBytes

def laptop : DeviceKeys where
  control := keyOf 3
  iroh := keyOf 4
  deviceId := "laptop"
  sequence := 1
  positive := by decide
  distinct := by decide
  usable := by decide

def phone : DeviceKeys where
  control := keyOf 5
  iroh := keyOf 6
  deviceId := "phone"
  sequence := 1
  positive := by decide
  distinct := by decide
  usable := by decide

/-- The laptop with its next locator. -/
def laterLaptop : DeviceKeys :=
  { laptop with
    sequence := 2
    positive := by decide }

namespace DeviceKeys

def credential (keys : DeviceKeys) : V1DeviceCredential :=
  V1DeviceCredential.issued sample authorization grantClaims (keyOf 2)
    keys.deviceId 1000 500000 keys.control keys.iroh

def relay : Url :=
  { asStr := "https://relay.example/" }

def instanceNonce : String :=
  v1RandomChallenge sample (keyOf 9)

def locatorClaims (keys : DeviceKeys) : V1LocatorClaims :=
  V1SignedLocator.announcement sample authorization keys.credential.certificate
    [relay] instanceNonce keys.sequence 1000 1900

def locator (keys : DeviceKeys) : V1SignedLocator :=
  V1SignedLocator.sealed sample keys.control keys.locatorClaims

def record (keys : DeviceKeys) : V1DeviceRecord :=
  { authorization := authorization
    certificate := keys.credential.certificate
    locator := keys.locator }

theorem issue_eq (keys : DeviceKeys) :
    V1DeviceCredential.issue sample authorization identity (keyOf 2)
      keys.deviceId 1000 500000 keys.control keys.iroh =
        Except.ok keys.credential :=
  V1DeviceCredential.issue_succeeds
    (authorization_verify (by decide) (by decide)) rfl keys.usable
    ⟨by decide, by decide, by decide, by decide⟩ (by decide) (by decide)
    keys.distinct

theorem credential_verify (keys : DeviceKeys) :
    keys.credential.verify sample 1000 = Except.ok () :=
  V1DeviceCredential.issued_verify
    (authorization_verify (by decide) (by decide)) rfl keys.usable
    ⟨by decide, by decide, by decide, by decide⟩ (by decide) (by decide)
    keys.distinct

theorem credential_controlKey (keys : DeviceKeys) :
    keys.credential.controlKey sample = Except.ok keys.control :=
  V1DeviceCredential.issued_controlKey (P := sample) _ _ _ _ _ _ _ _

theorem relay_accepted :
    validateRelays sample [relay] false = Except.ok () := by
  rw [validateRelays_eq_ok]
  refine ⟨by decide, by decide, ?_, by decide⟩
  intro url hurl
  rw [List.mem_singleton] at hurl
  subst hurl
  exact rejectIf_of_not (by decide)

theorem locator_sign (keys : DeviceKeys) :
    V1SignedLocator.signWithPolicy sample keys.credential [relay] instanceNonce
      keys.sequence (1000, 1900) false = Except.ok keys.locator :=
  V1SignedLocator.signWithPolicy_succeeds keys.credential_verify
    keys.credential_controlKey (validateChallenge_v1RandomChallenge _ _)
    keys.positive relay_accepted ⟨by decide, by decide, by decide, by decide⟩
    (show (1000 : UInt64) ≤ 1000 by decide)
    (show (1900 : UInt64) ≤ 500000 by decide)

theorem record_size (keys : DeviceKeys) :
    keys.record.toJson.size ≤ 4300 := by
  rcases V1DeviceCertificate.verify_eq_ok.mp
    (V1DeviceCredential.verify_eq_ok.mp keys.credential_verify).left with
    ⟨grant, hauth, _⟩
  have hgrant : grant = grantClaims :=
    hauth.grantAuthentic.claims_unique authorization_authentic
  subst hgrant
  have hlocator : keys.record.locator = V1SignedLocator.sealed sample keys.control
      (V1SignedLocator.announcement sample keys.record.authorization
        keys.record.certificate [relay] instanceNonce keys.sequence 1000 1900) := rfl
  have hnonce : validateChallenge sample instanceNonce "v1 instance nonce" =
      Except.ok () := validateChallenge_v1RandomChallenge _ _
  have hsize := V1DeviceRecord.announced_size_le hauth rfl hlocator hnonce
  have hjws := grantJws_quotedSize
  have hjti : Json.quotedSize grantClaims.jti = 11 := by decide
  have hrelays : Json.size (Json.array
      ([relay].map fun url => Json.string url.asStr)) ≤ 30 := by
    decide
  change _ ≤ 2226 + Json.quotedSize authorization.grantJws + _ + _ at hsize
  omega

theorem record_new (keys : DeviceKeys) :
    V1DeviceRecord.new sample keys.credential keys.locator 1000 false =
      Except.ok keys.record :=
  V1DeviceRecord.new_of_sign keys.credential_verify keys.locator_sign
    (Nat.le_trans keys.record_size (by decide))

theorem record_verify (keys : DeviceKeys) {now : UInt64}
    (hstart : (1000 : UInt64) ≤ now) (hstop : now < (1900 : UInt64)) :
    keys.record.verify sample identity now false none = Except.ok () :=
  V1DeviceRecord.verify_later
    (V1DeviceRecord.new_eq_ok keys.record_new).right.right.right hstart hstop

theorem holds (keys : DeviceKeys) : keys.credential.Holds sample keys.record :=
  ⟨rfl, rfl, keys.control, keys.credential_controlKey⟩

def pathDigest (keys : DeviceKeys) : Bytes :=
  sample.sha256 (canonicalForSigning sample v1DevicePathDomain (Json.object
    [("grant_cnf_key", Json.string (sample.z32 grantClaims.cnf)),
     ("control_signing_key", Json.string (sample.z32 keys.control))]))

/-- The path of the device, which its keys determine. -/
def path (keys : DeviceKeys) : String :=
  v1DeviceRecordPathPrefix ++ sample.base64Encode keys.pathDigest ++ ".json"

theorem record_path (keys : DeviceKeys) :
    keys.record.path sample = Except.ok keys.path :=
  v1DeviceRecordPath_z32 (P := sample) grantClaims.cnf keys.control

end DeviceKeys

theorem z32_ne {a b : Key} (h : a ≠ b) : sample.z32 a ≠ sample.z32 b :=
  fun heq => h (z32_injective (P := sample) heq)

def sessionNonce : String :=
  v1RandomChallenge sample (keyOf 7)

def challenge : String :=
  v1RandomChallenge sample (keyOf 8)

theorem challenge_fresh : challenge ≠ sessionNonce := by
  intro heq
  have hbytes : (keyOf 8).val = (keyOf 7).val :=
    base64Encode_injective (P := sample) heq
  exact absurd (Subtype.ext hbytes) (by decide)

namespace DeviceKeys

/-- The Hello of a device to the phone. -/
def hello (keys : DeviceKeys) : V1SignedHello :=
  V1SignedHello.sealed sample keys.control
    (V1SignedHello.greeting sample keys.record phone.record "chat" sessionNonce
      1060 1090)

/-- The keys of a device that is not the phone. -/
structure Caller (keys : DeviceKeys) : Prop where
  control : keys.control ≠ phone.control
  iroh : keys.iroh ≠ phone.iroh

variable {keys : DeviceKeys}

theorem Caller.hello_sign (h : keys.Caller) :
    V1SignedHello.signWithPolicy sample keys.credential keys.record phone.record
      "chat" sessionNonce (1060, 1090) false = Except.ok keys.hello :=
  V1SignedHello.signWithPolicy_succeeds keys.holds keys.credential_controlKey
    (keys.record_verify (by decide) (by decide))
    (phone.record_verify (by decide) (by decide))
    (z32_ne h.control) (z32_ne h.iroh)
    (rejectIf_of_not (by decide)) (validateChallenge_v1RandomChallenge _ _)
    ⟨by decide, by decide, by decide, by decide⟩
    (show (1000 : UInt64) ≤ 1060 by decide)
    (show (1000 : UInt64) ≤ 1060 by decide)
    (show (1090 : UInt64) ≤ 1900 by decide)
    (show (1090 : UInt64) ≤ 1900 by decide)

/-- The Hello is already accepted while its start is still ahead. -/
theorem Caller.hello_verify (h : keys.Caller) {now : UInt64}
    (hstart : (1000 : UInt64) ≤ now) (hstop : now < (1090 : UInt64)) :
    keys.hello.verify sample keys.record phone.record "chat" now false =
      Except.ok () := by
  have hlocator : now < (1900 : UInt64) :=
    UInt64.lt_trans hstop (by decide)
  have hsender := keys.record_verify hstart hlocator
  have htarget := phone.record_verify hstart hlocator
  rcases V1SignedHello.verify_eq_ok.mp
    (V1SignedHello.signWithPolicy_verify h.hello_sign).right.right with
    ⟨senderGrant, targetGrant, hauth, _⟩
  rcases V1DeviceRecord.verify_eq_ok.mp hsender with
    ⟨senderOther, hsenderAuth, hsenderCurrent⟩
  rcases V1DeviceRecord.verify_eq_ok.mp htarget with
    ⟨targetOther, htargetAuth, htargetCurrent⟩
  cases hsenderAuth.grant_unique hauth.bound.senderAuthentic
  cases htargetAuth.grant_unique hauth.bound.targetAuthentic
  refine V1SignedHello.verify_eq_ok.mpr ⟨_, _, hauth,
    hsenderCurrent, htargetCurrent, ?_⟩
  have hissued : keys.hello.claims.issuedAt.toNat = 1060 := by rfl
  have hexpires : keys.hello.claims.expiresAt.toNat = 1090 := by rfl
  have hskew : maxClockSkewSeconds.toNat = 120 := by decide
  have hmax : v1MaxHandshakeLifetimeSeconds.toNat = 120 := by decide
  have hlow : (1000 : UInt64).toNat ≤ now.toNat :=
    UInt64.le_iff_toNat_le.mp hstart
  have hhigh : now.toNat < (1090 : UInt64).toNat :=
    UInt64.lt_iff_toNat_lt.mp hstop
  have hlowNat : (1000 : UInt64).toNat = 1000 := by decide
  have hhighNat : (1090 : UInt64).toNat = 1090 := by decide
  exact ⟨by omega, by omega, by omega, by omega⟩

theorem Caller.hello_verify_start (h : keys.Caller) :
    keys.hello.verify sample keys.record phone.record "chat" 1060 false =
      Except.ok () :=
  h.hello_verify (by decide) (by decide)

theorem Caller.ack_sign (h : keys.Caller) :
    exists ack, V1SignedAck.signWithPolicy sample phone.credential keys.hello
      keys.record phone.record challenge (1060, 1090) false = Except.ok ack :=
  V1SignedAck.signWithPolicy_succeeds phone.holds h.hello_verify_start
    (V1SignedAck.answer_bound h.hello_verify_start
      (validateChallenge_v1RandomChallenge _ _) challenge_fresh
      (UInt64.le_refl 1060) (UInt64.le_refl 1090))
    ⟨by decide, by decide, by decide, by decide⟩

theorem Caller.proof_sign (h : keys.Caller) :
    exists proof, V1SignedCurrentnessProof.sign sample phone.credential
      phone.record keys.record keys.hello V1CurrentnessRole.responder challenge
      1060 1090 false = Except.ok proof :=
  V1SignedCurrentnessProof.sign_succeeds phone.holds h.hello_verify_start
    (V1SignedCurrentnessProof.statement_bound V1CurrentnessRole.responder
      (show (1090 : UInt64) ≤ 1900 by decide)
      (validateChallenge_v1RandomChallenge _ _) challenge_fresh
      (UInt64.le_refl 1060) (UInt64.le_refl 1090))
    ⟨by decide, by decide, by decide⟩

/-- The proof with which the caller answers the Ack of the phone. -/
theorem Caller.answer_sign (h : keys.Caller) :
    exists proof, V1SignedCurrentnessProof.sign sample keys.credential
      keys.record phone.record keys.hello V1CurrentnessRole.initiator challenge
      1060 1090 false = Except.ok proof :=
  V1SignedCurrentnessProof.sign_succeeds keys.holds h.hello_verify_start
    (V1SignedCurrentnessProof.statement_bound V1CurrentnessRole.initiator
      (show (1090 : UInt64) ≤ 1900 by decide)
      (validateChallenge_v1RandomChallenge _ _) challenge_fresh
      (UInt64.le_refl 1060) (UInt64.le_refl 1090))
    ⟨by decide, by decide, by decide⟩

end DeviceKeys

theorem laptop_caller : laptop.Caller :=
  ⟨by decide, by decide⟩

theorem laterLaptop_caller : laterLaptop.Caller :=
  ⟨by decide, by decide⟩

abbrev hello : V1SignedHello := laptop.hello

theorem hello_sign :
    V1SignedHello.signWithPolicy sample laptop.credential laptop.record
      phone.record "chat" sessionNonce (1060, 1090) false = Except.ok hello :=
  laptop_caller.hello_sign

theorem hello_verify {now : UInt64} (hstart : (1000 : UInt64) ≤ now)
    (hstop : now < (1090 : UInt64)) :
    hello.verify sample laptop.record phone.record "chat" now false =
      Except.ok () :=
  laptop_caller.hello_verify hstart hstop

theorem hello_verify_start :
    hello.verify sample laptop.record phone.record "chat" 1060 false =
      Except.ok () :=
  laptop_caller.hello_verify_start

end Reference
end Protocol
end Pubky2Pubky
