import Pubky2Pubky.Foundation.JsonText
import Pubky2Pubky.Foundation.Utf8
import Pubky2Pubky.Protocol.Reference

/-!
# What a canonical form determines

Every JSON value of the protocol is written from a structure with fixed keys.
Sorting the fields of such a value loses nothing: its canonical form determines
the structure it was written from.
-/

namespace Pubky2Pubky
namespace Protocol

open Foundation Reference

/-!
# Objects with fixed keys
-/

theorem lookup_insertField_self (key : String) (value : Json)
    {fields : List (String × Json)} (h : key ∉ fields.map Prod.fst) :
    (insertField key value fields).lookup key = some value := by
  induction fields with
  | nil => exact List.lookup_cons_self
  | cons field rest ih =>
      rcases field with ⟨other, found⟩
      rw [List.map_cons, List.mem_cons, not_or] at h
      unfold insertField
      split
      · exact List.lookup_cons_self
      · rw [List.lookup_cons, beq_eq_false_iff_ne.mpr h.left]
        exact ih h.right

theorem lookup_insertField_of_ne {key wanted : String} (value : Json)
    (fields : List (String × Json)) (h : wanted ≠ key) :
    (insertField key value fields).lookup wanted = fields.lookup wanted := by
  have hkey : (wanted == key) = false := beq_eq_false_iff_ne.mpr h
  induction fields with
  | nil =>
      unfold insertField
      rw [List.lookup_cons, hkey]
  | cons field rest ih =>
      rcases field with ⟨other, found⟩
      unfold insertField
      split
      · rw [List.lookup_cons, hkey]
      · rw [List.lookup_cons, List.lookup_cons, ih]

theorem mem_keys_insertField {key wanted : String} {value : Json}
    {fields : List (String × Json)}
    (h : wanted ∈ (insertField key value fields).map Prod.fst) :
    wanted = key ∨ wanted ∈ fields.map Prod.fst := by
  induction fields with
  | nil => exact Or.inl (List.mem_singleton.mp h)
  | cons field rest ih =>
      rcases field with ⟨other, found⟩
      unfold insertField at h
      split at h
      · exact List.mem_cons.mp h
      · rw [List.map_cons, List.mem_cons] at h
        rcases h with rfl | h
        · exact Or.inr List.mem_cons_self
        · exact (ih h).imp_right (List.mem_cons_of_mem _)

theorem mem_keys_canonicalFields {wanted : String} {fields : List (String × Json)}
    (h : wanted ∈ (canonicalFields fields).map Prod.fst) :
    wanted ∈ fields.map Prod.fst := by
  induction fields with
  | nil => exact h
  | cons field rest ih =>
      rcases field with ⟨key, value⟩
      unfold canonicalFields at h
      rw [List.map_cons, List.mem_cons]
      exact (mem_keys_insertField h).imp_right ih

/-- Sorting the fields keeps the value of every key. -/
theorem lookup_canonicalFields {fields : List (String × Json)}
    (h : (fields.map Prod.fst).Nodup) (wanted : String) :
    (canonicalFields fields).lookup wanted =
      (fields.lookup wanted).map canonical := by
  induction fields with
  | nil => rfl
  | cons field rest ih =>
      rcases field with ⟨key, value⟩
      rw [List.map_cons, List.nodup_cons] at h
      rcases h with ⟨hfresh, hrest⟩
      unfold canonicalFields
      by_cases hwanted : wanted = key
      · subst hwanted
        rw [lookup_insertField_self _ _ fun hmem =>
          hfresh (mem_keys_canonicalFields hmem), List.lookup_cons_self]
        rfl
      · rw [lookup_insertField_of_ne _ _ hwanted, ih hrest, List.lookup_cons,
          beq_eq_false_iff_ne.mpr hwanted]

theorem lookup_of_fresh {wanted : String} {fields : List (String × Json)}
    (h : wanted ∉ fields.map Prod.fst) : fields.lookup wanted = none := by
  rw [List.lookup_eq_none_iff]
  intro field hfield
  rw [bne_iff_ne]
  rintro rfl
  exact h (List.mem_map_of_mem hfield)

/-- Two objects with the same keys and one canonical form agree field by field. -/
theorem canonical_object_values {fields others : List (String × Json)}
    (h : canonical (Json.object fields) = canonical (Json.object others))
    (hkeys : fields.map Prod.fst = others.map Prod.fst)
    (hnodup : (fields.map Prod.fst).Nodup) :
    fields.map (fun field => canonical field.2) =
      others.map (fun field => canonical field.2) := by
  have hlookup : forall key,
      (fields.lookup key).map canonical = (others.lookup key).map canonical := by
    intro key
    unfold canonical at h
    injection h with h
    rw [← lookup_canonicalFields hnodup, ← lookup_canonicalFields (hkeys ▸ hnodup), h]
  clear h
  induction fields generalizing others with
  | nil =>
      cases others with
      | nil => rfl
      | cons field rest => cases hkeys
  | cons field rest ih =>
      cases others with
      | nil => cases hkeys
      | cons other more =>
          rcases field with ⟨key, value⟩
          rcases other with ⟨sameKey, found⟩
          rw [List.map_cons, List.map_cons, List.cons.injEq] at hkeys
          rcases hkeys with ⟨rfl, hkeys⟩
          rw [List.map_cons, List.nodup_cons] at hnodup
          rcases hnodup with ⟨hfresh, hnodup⟩
          have hvalue := hlookup key
          rw [List.lookup_cons_self, List.lookup_cons_self, Option.map_some,
            Option.map_some, Option.some.injEq] at hvalue
          have hrest := ih hkeys hnodup (by
            intro wanted
            by_cases hwanted : wanted = key
            · subst hwanted
              rw [lookup_of_fresh hfresh, lookup_of_fresh (hkeys ▸ hfresh)]
            · have hother := hlookup wanted
              rw [List.lookup_cons, List.lookup_cons,
                beq_eq_false_iff_ne.mpr hwanted] at hother
              exact hother)
          rw [List.map_cons, List.map_cons, hvalue, hrest]

theorem canonicalItems_strings (texts : List String) :
    canonicalItems (texts.map Json.string) = texts.map Json.string := by
  induction texts with
  | nil => rfl
  | cons text rest ih =>
      rw [List.map_cons, canonicalItems, ih]
      rfl

/-- The relays of a locator are written as their texts. -/
theorem canonical_urls_injective {urls others : List Url}
    (h : canonicalItems (urls.map fun url => Json.string url.asStr) =
      canonicalItems (others.map fun url => Json.string url.asStr)) :
    urls = others := by
  have htexts : forall list : List Url,
      list.map (fun url => Json.string url.asStr) =
        (list.map Url.asStr).map Json.string := by
    intro list
    rw [List.map_map]
    rfl
  rw [htexts, htexts, canonicalItems_strings, canonicalItems_strings] at h
  have hstring : Function.Injective Json.string := fun a b hab => by
    injection hab
  have hurl : Function.Injective Url.asStr := by
    rintro ⟨a⟩ ⟨b⟩ hab
    cases hab
    rfl
  exact List.map_injective_iff.mpr hurl (List.map_injective_iff.mpr hstring h)

/-!
# Signed claims
-/

theorem V1DeviceCertificateClaims.canonical_injective
    {claims others : V1DeviceCertificateClaims}
    (h : canonical claims.toJson = canonical others.toJson) : claims = others := by
  have hvalues := canonical_object_values h rfl (by
    dsimp only [List.map]
    decide)
  simp only [List.map_cons, List.map_nil, canonical, List.cons.injEq,
    Json.string.injEq, Json.number.injEq, UInt64.toNat_inj, UInt16.toNat_inj,
    and_true] at hvalues
  rcases hvalues with ⟨hversion, hidentity, hdigest, hjti, hclient, hcnf, hdevice,
    hcontrol, hiroh, hissued, hexpires⟩
  exact V1DeviceCertificateClaims.ext hversion hidentity hdigest hjti hclient hcnf
    hdevice hcontrol hiroh hissued hexpires

theorem V1LocatorClaims.canonical_injective {claims others : V1LocatorClaims}
    (h : canonical claims.toJson = canonical others.toJson) : claims = others := by
  have hvalues := canonical_object_values h rfl (by
    dsimp only [List.map]
    decide)
  simp only [List.map_cons, List.map_nil, canonical, List.cons.injEq,
    Json.string.injEq, Json.number.injEq, Json.array.injEq, UInt64.toNat_inj,
    UInt16.toNat_inj, and_true] at hvalues
  rcases hvalues with ⟨hversion, hidentity, hgrant, hcertificate, hcontrol, hiroh,
    hrelays, halpn, hnonce, hsequence, hissued, hexpires⟩
  exact V1LocatorClaims.ext hversion hidentity hgrant hcertificate hcontrol hiroh
    (canonical_urls_injective hrelays) halpn hnonce hsequence hissued hexpires

/-!
# Signed objects
-/

/-- A signed object is written as its claims and its signature. -/
theorem canonical_signed_injective {claims others : Json}
    {signature other : String}
    (h : canonical (Json.object
        [("claims", claims), ("signature", Json.string signature)]) =
      canonical (Json.object
        [("claims", others), ("signature", Json.string other)])) :
    canonical claims = canonical others ∧ signature = other := by
  have hvalues := canonical_object_values h rfl (by
    dsimp only [List.map]
    decide)
  simp only [List.map_cons, List.map_nil, List.cons.injEq, and_true] at hvalues
  refine ⟨hvalues.left, ?_⟩
  have hsignature := hvalues.right
  unfold canonical at hsignature
  injection hsignature

theorem V1GrantAuthorization.canonical_injective
    {authorization other : V1GrantAuthorization}
    (h : canonical authorization.toJson = canonical other.toJson) :
    authorization = other := by
  have hvalues := canonical_object_values h rfl (by
    dsimp only [List.map]
    decide)
  simp only [List.map_cons, List.map_nil, canonical, List.cons.injEq,
    Json.string.injEq, and_true] at hvalues
  cases authorization
  cases other
  cases hvalues
  rfl

theorem V1DeviceCertificate.canonical_injective
    {certificate other : V1DeviceCertificate}
    (h : canonical certificate.toJson = canonical other.toJson) :
    certificate = other := by
  rcases canonical_signed_injective h with ⟨hclaims, hsignature⟩
  have hsame := V1DeviceCertificateClaims.canonical_injective hclaims
  cases certificate
  cases other
  cases hsame
  cases hsignature
  rfl

theorem V1SignedLocator.canonical_injective {locator other : V1SignedLocator}
    (h : canonical locator.toJson = canonical other.toJson) : locator = other := by
  rcases canonical_signed_injective h with ⟨hclaims, hsignature⟩
  have hsame := V1LocatorClaims.canonical_injective hclaims
  cases locator
  cases other
  cases hsame
  cases hsignature
  rfl

theorem V1DeviceRecord.canonical_injective {record other : V1DeviceRecord}
    (h : canonical record.toJson = canonical other.toJson) : record = other := by
  have hvalues := canonical_object_values h rfl (by
    dsimp only [List.map]
    decide)
  simp only [List.map_cons, List.map_nil, List.cons.injEq, and_true] at hvalues
  rcases hvalues with ⟨hauthorization, hcertificate, hlocator⟩
  have hsame := V1GrantAuthorization.canonical_injective hauthorization
  have hcertified := V1DeviceCertificate.canonical_injective hcertificate
  have hlocated := V1SignedLocator.canonical_injective hlocator
  cases record
  cases other
  cases hsame
  cases hcertified
  cases hlocated
  rfl

/-!
# The handshake
-/

theorem V1HelloClaims.canonical_injective {claims others : V1HelloClaims}
    (h : canonical claims.toJson = canonical others.toJson) : claims = others := by
  have hvalues := canonical_object_values h rfl (by
    dsimp only [List.map]
    decide)
  simp only [List.map_cons, List.map_nil, List.cons.injEq, and_true] at hvalues
  rcases hvalues with ⟨hversion, hrecord, hvalues⟩
  have hsame := V1DeviceRecord.canonical_injective hrecord
  simp only [canonical, Json.string.injEq, Json.number.injEq, UInt64.toNat_inj,
    UInt16.toNat_inj] at hversion hvalues
  rcases hvalues with ⟨hfromIdentity, hfromDevice, hfromControl, hfromIroh,
    htoIdentity, htoDevice, htoControl, htoIroh, happlication, halpn, hnonce,
    htarget, hissued, hexpires⟩
  exact V1HelloClaims.ext hversion hsame hfromIdentity hfromDevice hfromControl
    hfromIroh htoIdentity htoDevice htoControl htoIroh happlication halpn hnonce
    htarget hissued hexpires

theorem V1SignedHello.canonical_injective {hello other : V1SignedHello}
    (h : canonical hello.toJson = canonical other.toJson) : hello = other := by
  rcases canonical_signed_injective h with ⟨hclaims, hsignature⟩
  have hsame := V1HelloClaims.canonical_injective hclaims
  cases hello
  cases other
  cases hsame
  cases hsignature
  rfl

theorem V1AckClaims.canonical_injective {claims others : V1AckClaims}
    (h : canonical claims.toJson = canonical others.toJson) : claims = others := by
  have hvalues := canonical_object_values h rfl (by
    dsimp only [List.map]
    decide)
  simp only [List.map_cons, List.map_nil, canonical, List.cons.injEq,
    Json.string.injEq, Json.number.injEq, UInt64.toNat_inj, UInt16.toNat_inj,
    and_true] at hvalues
  rcases hvalues with ⟨hversion, hfromIdentity, hfromDevice, hfromControl,
    hfromIroh, htoIdentity, htoDevice, htoControl, htoIroh, happlication, halpn,
    hnonce, hresponder, hhello, hrecord, hissued, hexpires⟩
  exact V1AckClaims.ext hversion hfromIdentity hfromDevice hfromControl hfromIroh
    htoIdentity htoDevice htoControl htoIroh happlication halpn hnonce hresponder
    hhello hrecord hissued hexpires

theorem V1CurrentnessRole.canonical_injective {role other : V1CurrentnessRole}
    (h : canonical role.toJson = canonical other.toJson) : role = other := by
  cases role with
  | initiator =>
      cases other with
      | initiator => rfl
      | responder =>
          unfold V1CurrentnessRole.toJson canonical at h
          injection h with h
          exact absurd h (by decide)
  | responder =>
      cases other with
      | initiator =>
          unfold V1CurrentnessRole.toJson canonical at h
          injection h with h
          exact absurd h (by decide)
      | responder => rfl

theorem V1CurrentnessClaims.canonical_injective
    {claims others : V1CurrentnessClaims}
    (h : canonical claims.toJson = canonical others.toJson) : claims = others := by
  have hvalues := canonical_object_values h rfl (by
    dsimp only [List.map]
    decide)
  simp only [List.map_cons, List.map_nil, List.cons.injEq, and_true] at hvalues
  rcases hvalues with ⟨hversion, hrole, hvalues⟩
  have hsame := V1CurrentnessRole.canonical_injective hrole
  simp only [canonical, Json.string.injEq, Json.number.injEq, UInt64.toNat_inj,
    UInt16.toNat_inj] at hversion hvalues
  rcases hvalues with ⟨hchallenge, hhello, hrecord, hgrant, hlocator, hissued,
    hexpires⟩
  exact V1CurrentnessClaims.ext hversion hsame hchallenge hhello hrecord hgrant
    hlocator hissued hexpires

end Protocol
end Pubky2Pubky
