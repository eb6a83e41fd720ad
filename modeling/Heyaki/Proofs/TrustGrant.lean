/-
Purpose: when a signed grant verifies.

Every grant that passes its validation has canonical bytes, so that a signature
over them decides together with the clock.  The clock is checked as for transient
objects: an expiry more than five minutes ahead fails, and a grant that lives
longer is refused until its last five minutes.

Main exports: `validateSignedExpiry_ok_iff`, `grant_valid_until_expiry_iff`
-/
import Heyaki.Core.TrustGrant
import Heyaki.Proofs.Signing

namespace Heyaki

open List

variable {scopes : List (List UInt8)} {grant : SignedTrustGrant}

/-! ### The expiry window -/

/-- The saturated bounds are those of natural numbers. -/
theorem validateSignedExpiry_ok_iff (expires now : UInt64) :
    validateSignedExpiry expires now = .ok () ↔
      now.toNat ≤ expires.toNat + 30000 ∧ expires.toNat ≤ now.toNat + 300000 := by
  have expiresLt := expires.toNat_lt
  have skew : maximumExpiryClockSkewMilliseconds.toNat = 30000 := rfl
  have validity : maximumSignedValidityMilliseconds.toNat = 300000 := rfl
  have edge : ((0xffffffffffffffff : UInt64) - maximumSignedValidityMilliseconds).toNat =
    18446744073709251615 := rfl
  have top : (0xffffffffffffffff : UInt64).toNat = 18446744073709551615 := rfl
  have earliest : (if now > maximumExpiryClockSkewMilliseconds then
      now - maximumExpiryClockSkewMilliseconds else 0).toNat = now.toNat - 30000 := by
    split
    · rename_i late
      rw [UInt64.toNat_sub_of_le _ _ (UInt64.le_of_lt late), skew]
    · rename_i early
      rw [gt_iff_lt, UInt64.lt_iff_toNat_lt, skew] at early
      show 0 = now.toNat - 30000
      omega
  have latest : (if now > 0xffffffffffffffff - maximumSignedValidityMilliseconds then
      0xffffffffffffffff else now + maximumSignedValidityMilliseconds).toNat =
        min 18446744073709551615 (now.toNat + 300000) := by
    split
    · rename_i late
      rw [gt_iff_lt, UInt64.lt_iff_toNat_lt, edge] at late
      rw [top]
      omega
    · rename_i early
      rw [gt_iff_lt, UInt64.lt_iff_toNat_lt, edge] at early
      rw [UInt64.toNat_add, validity]
      omega
  unfold validateSignedExpiry
  simp only [gt_iff_lt, UInt64.lt_iff_toNat_lt] at earliest latest ⊢
  rw [earliest, latest]
  split_ifs <;> simp <;> omega

/-! ### Canonical bytes of a grant -/

def fieldsSize (fields : List CanonicalField) : Nat :=
  (fields.map fun field => 2 + 4 + field.value.length).sum

theorem canonicalSize_ok (total : Nat) {previous : UInt16} {fields : List CanonicalField}
    (ordered : List.IsChain (· < ·) (previous :: fields.map CanonicalField.number))
    (fits : total + fieldsSize fields ≤ maxCanonicalSigningBytes) :
    canonicalSize total previous fields = .ok (total + fieldsSize fields) := by
  induction fields generalizing total previous with
  | nil => simp [canonicalSize, fieldsSize]
  | cons field fields ih =>
    rw [map_cons, isChain_cons_cons] at ordered
    obtain ⟨above, ordered⟩ := ordered
    have sum : fieldsSize (field :: fields) = 2 + 4 + field.value.length + fieldsSize fields := by
      simp [fieldsSize]
    rw [sum] at fits ⊢
    have positive : field.number ≠ 0 := fun zero => by
      rw [zero] at above
      exact UInt16.not_lt_zero above
    have bound : maxCanonicalSigningBytes = 1048576 := rfl
    simp only [canonicalSize]
    rw [if_neg (not_or.mpr ⟨positive, UInt16.not_le.mpr above⟩), if_neg, if_neg,
      ih _ ordered]
    · congr 1
      omega
    · omega
    · omega
    · omega

theorem readUint16_canonicalUint16 {number : Nat} (small : number < 2 ^ 16) :
    ∃ high low, canonicalUint16 (UInt16.ofNat number) = [high, low] ∧
      readUint16 high low = number := by
  refine ⟨_, _, rfl, ?_⟩
  simp only [readUint16, UInt16.toNat_toUInt8, UInt16.toNat_shiftRight,
    UInt16.toNat_ofNat_of_lt' small, show (8 : UInt16).toNat % 16 = 8 from rfl,
    Nat.shiftRight_eq_div_pow]
  omega

theorem validTrustScope_iff {scope : List UInt8} (valid : isValidTrustScope scope = true) :
    0 < scope.length ∧ scope.length ≤ 256 ∧
      scope.all (fun byte => !(byte < 0x20 || byte > 0x7e)) = true := by
  unfold isValidTrustScope at valid
  rw [Bool.and_eq_true, Bool.not_eq_true', Bool.or_eq_false_iff, all_eq_true] at valid
  obtain ⟨⟨nonempty, short⟩, printable⟩ := valid
  refine ⟨length_pos_iff.mpr (by simpa using nonempty), by simpa [maxTrustScopeBytes] using short, ?_⟩
  rw [all_eq_true]
  intro byte member
  have inside := printable byte member
  simp only [ge_iff_le, Bool.and_eq_true, decide_eq_true_eq, UInt8.le_iff_toNat_le] at inside
  simp only [Bool.not_eq_true', Bool.or_eq_false_iff, decide_eq_false_iff_not, gt_iff_lt,
    UInt8.lt_iff_toNat_lt]
  have low : (0x21 : UInt8).toNat = 33 := rfl
  have space : (0x20 : UInt8).toNat = 32 := rfl
  omega

theorem isCanonicalScopeList_chain (canonical : isCanonicalScopeList scopes = true) :
    scopes.IsChain fun one two => byteRank one < byteRank two := by
  induction scopes with
  | nil => exact .nil
  | cons one scopes ih =>
    cases scopes with
    | nil => exact .singleton _
    | cons two scopes =>
      simp only [isCanonicalScopeList, tail_cons, zip_cons_cons, all_cons,
        Bool.and_eq_true, decide_eq_true_eq] at canonical
      refine .cons_cons ?_ (ih canonical.2)
      exact lt_of_le_of_ne canonical.1.1 fun same => canonical.1.2 (byteRank_injective same)

/-- The scopes that validation accepts are read back entry by entry. -/
theorem scopeEntries_ok {previous : List UInt8}
    (valid : ∀ scope ∈ scopes, isValidTrustScope scope = true)
    (chain : (previous = [] ∧ scopes.IsChain fun one two => byteRank one < byteRank two) ∨
      (previous :: scopes).IsChain fun one two => byteRank one < byteRank two) :
    scopeEntries scopes.length previous
      (scopes.flatMap fun scope => canonicalUint16 (UInt16.ofNat scope.length) ++ scope) = true := by
  induction scopes generalizing previous with
  | nil => rfl
  | cons scope scopes ih =>
    obtain ⟨positive, short, printable⟩ := validTrustScope_iff (valid scope (.head _))
    obtain ⟨high, low, bytes, number⟩ :=
      readUint16_canonicalUint16 (lt_of_le_of_lt short (by decide : 256 < 2 ^ 16))
    have later : (scope :: scopes).IsChain fun one two => byteRank one < byteRank two :=
      chain.elim And.right fun above => (isChain_cons_cons.mp above).2
    have next := ih (fun other member => valid other (.tail _ member)) (.inr later)
    simp only [flatMap_cons, bytes, cons_append, nil_append, length_cons,
      scopeEntries, number, length_append, take_left, drop_left, printable, next,
      Bool.and_true, Bool.true_and]
    rw [if_neg (by omega), Bool.or_eq_true]
    rcases chain with ⟨rfl, _⟩ | above
    · exact .inl rfl
    · exact .inr (decide_eq_true (isChain_cons_cons.mp above).1)

theorem length_canonicalScopeList_le (valid : ∀ scope ∈ scopes, isValidTrustScope scope = true) :
    (canonicalScopeList scopes).length ≤ 2 + 258 * scopes.length := by
  have entries : (scopes.flatMap fun scope =>
      canonicalUint16 (UInt16.ofNat scope.length) ++ scope).length ≤ 258 * scopes.length := by
    induction scopes with
    | nil => rfl
    | cons scope scopes ih =>
      have short := (validTrustScope_iff (valid scope (.head _))).2.1
      have rest := ih fun other member => valid other (.tail _ member)
      have width : (canonicalUint16 (UInt16.ofNat scope.length)).length = 2 := rfl
      simp only [flatMap_cons, length_append, length_cons, width]
      omega
  rw [canonicalScopeList, length_append]
  exact Nat.add_le_add (le_refl 2) entries

section

variable (validated : validateSignedTrustGrant grant = .ok ())

include validated

/-- The part of a grant's validation that its canonical bytes rest on. -/
theorem validateSignedTrustGrant_scopes :
    grant.grantedScopes.length ≤ 256 ∧
      (∀ scope ∈ grant.grantedScopes, isValidTrustScope scope = true) ∧
      isCanonicalScopeList grant.grantedScopes = true := by
  unfold validateSignedTrustGrant at validated
  split_ifs at validated with binding generation nonce count scopes canonical expiry
  simp only [Bool.or_eq_true, not_or, decide_eq_true_eq, Nat.not_lt] at count
  simp only [Bool.not_eq_true', Bool.not_eq_false, all_eq_true] at scopes canonical
  exact ⟨count.2, scopes, canonical⟩

theorem canonicalScopeList_shape :
    isCanonicalScopeField (canonicalScopeList grant.grantedScopes) = true := by
  obtain ⟨count, valid, canonical⟩ := validateSignedTrustGrant_scopes validated
  obtain ⟨high, low, bytes, number⟩ :=
    readUint16_canonicalUint16 (lt_of_le_of_lt count (by decide : 256 < 2 ^ 16))
  simp only [canonicalScopeList, bytes, cons_append, nil_append, isCanonicalScopeField,
    number]
  rw [if_neg (Nat.not_lt.mpr count)]
  exact scopeEntries_ok valid (.inl ⟨rfl, isCanonicalScopeList_chain canonical⟩)

theorem trustGrantFields_shape :
    matchesFieldShape .trustGrant (trustGrantFields grant) = true := by
  have scopes := canonicalScopeList_shape validated
  unfold trustGrantFields
  cases grant.expiresUnixMilliseconds <;>
    simp [matchesFieldShape, matchesRules, matchesRulesFrom, trustGrantRequiredRules,
      matchesGrantTail, fieldValue, canonicalUint64, grant.grantId.size, grant.issuer.size,
      grant.subject.size, grant.nonce.property, IdentifierKind.sizeBytes, scopes]

end

theorem trustGrantFields_ordered (grant : SignedTrustGrant) :
    List.IsChain (· < ·) (0 :: (trustGrantFields grant).map CanonicalField.number) := by
  unfold trustGrantFields
  cases grant.expiresUnixMilliseconds with
  | none => exact (by decide : List.IsChain (· < ·) ([0, 1, 2, 3, 4, 5, 6, 8] : List UInt16))
  | some expires =>
    exact (by decide : List.IsChain (· < ·) ([0, 1, 2, 3, 4, 5, 6, 7, 8] : List UInt16))

theorem fieldsSize_trustGrantFields_le (validated : validateSignedTrustGrant grant = .ok ()) :
    fieldsSize (trustGrantFields grant) ≤ 70000 := by
  obtain ⟨count, valid, _⟩ := validateSignedTrustGrant_scopes validated
  have scopes := length_canonicalScopeList_le valid
  unfold trustGrantFields
  cases grant.expiresUnixMilliseconds <;>
    simp only [fieldsSize, cons_append, nil_append, map_cons, map_nil,
      sum_cons, sum_nil, canonicalUint64, length_cons, length_nil,
      grant.grantId.size, grant.issuer.size, grant.subject.size, grant.nonce.property,
      IdentifierKind.sizeBytes] <;>
    omega

/-- Every grant that validation accepts has canonical bytes. -/
theorem canonicalSignedTrustGrant_ok (validated : validateSignedTrustGrant grant = .ok ()) :
    canonicalSignedTrustGrant grant =
      .ok (canonicalObjectBytes (signingDomainSeparator .trustGrant) (trustGrantFields grant)) := by
  have separator : (signingDomainSeparator .trustGrant).length = 21 := by decide +kernel
  have fits := fieldsSize_trustGrantFields_le validated
  have limit : maxCanonicalSigningBytes = 1048576 := rfl
  have few : (trustGrantFields grant).length ≤ 8 := by
    unfold trustGrantFields
    cases grant.expiresUnixMilliseconds <;> simp
  have sized := canonicalSize_ok (4 + 1 + 1 + 21 + 2) (trustGrantFields_ordered grant) (by omega)
  have header : ¬(21 > 0xff ∨ (trustGrantFields grant).length > 0xffff) := by omega
  have canonical : canonicalizeForSignature .trustGrant (trustGrantFields grant) = .ok
      (canonicalObjectBytes (signingDomainSeparator .trustGrant) (trustGrantFields grant)) := by
    simp only [canonicalizeForSignature, trustGrantFields_shape validated, separator, sized,
      if_neg header]
    rfl
  rw [canonicalSignedTrustGrant, validated]
  exact canonical

/-! ### Verification -/

/-- A grant that validation accepts, with a correct signature of its issuer. -/
structure Genuine (crypto : IdentityCrypto) (key : IdentityPublicKey) (grant : SignedTrustGrant) :
    Prop where
  validated : validateSignedTrustGrant grant = .ok ()
  signed : ∀ canonical, canonicalSignedTrustGrant grant = .ok canonical →
    crypto.verifySignature key canonical grant.signature = true
  issuer : crypto.deriveDeviceId key = .ok grant.issuer

variable {crypto : IdentityCrypto} {key : IdentityPublicKey} {grant : SignedTrustGrant}

/-- Of a genuine grant only the expiry is left to check. -/
theorem Genuine.verify_iff (genuine : Genuine crypto key grant)
    (sign : List UInt8 → Except Error IdentitySignature) (now : UInt64) :
    verifySignedTrustGrant (.ofIdentity crypto sign) grant key now = .ok () ↔
      ∀ expires ∈ grant.expiresUnixMilliseconds, validateSignedExpiry expires now = .ok () := by
  have canonical := canonicalSignedTrustGrant_ok genuine.validated
  have signed := genuine.signed _ canonical
  simp only [verifySignedTrustGrant, genuine.validated, GrantCrypto.ofIdentity, canonical, signed,
    genuine.issuer, Except.toOption]
  cases grant.expiresUnixMilliseconds with
  | none => simp [pure, bind, Except.pure, Except.bind]
  | some expires =>
    cases checked : validateSignedExpiry expires now <;>
      simp [pure, bind, Except.pure, Except.bind, checked]

/-- A genuine grant verifies from its issue to its expiry, and fails once the skew
after its expiry is over, exactly when it has no expiry or one at most five minutes
after its issue. -/
theorem grant_valid_until_expiry_iff (genuine : Genuine crypto key grant)
    (sign : List UInt8 → Except Error IdentitySignature) :
    ((∀ now, grant.issuedUnixMilliseconds ≤ now →
        (∀ expires ∈ grant.expiresUnixMilliseconds, now ≤ expires) →
        verifySignedTrustGrant (.ofIdentity crypto sign) grant key now = .ok ()) ∧
      ∀ now, ∀ expires ∈ grant.expiresUnixMilliseconds, expires.toNat + 30000 < now.toNat →
        verifySignedTrustGrant (.ofIdentity crypto sign) grant key now ≠ .ok ()) ↔
      ∀ expires ∈ grant.expiresUnixMilliseconds,
        expires.toNat ≤ grant.issuedUnixMilliseconds.toNat + 300000 := by
  constructor
  · rintro ⟨valid, -⟩ expires member
    -- the issue time is the earliest, and lies before the expiry by the validation
    have before : grant.issuedUnixMilliseconds ≤ expires := by
      have validated := genuine.validated
      unfold validateSignedTrustGrant at validated
      split_ifs at validated with binding generation nonce count scopes canonical expiry
      rw [Option.mem_def.mp member] at expiry
      exact UInt64.le_of_lt (UInt64.not_le.mp (by simpa using expiry))
    have atIssue := valid grant.issuedUnixMilliseconds (UInt64.le_refl _) (by
      intro other mem
      rw [Option.mem_unique mem member]
      exact before)
    exact ((validateSignedExpiry_ok_iff _ _).mp
      ((genuine.verify_iff sign _).mp atIssue expires member)).2
  · intro short
    constructor
    · intro now issued unexpired
      rw [genuine.verify_iff sign]
      intro expires member
      have late := UInt64.le_iff_toNat_le.mp issued
      have early := UInt64.le_iff_toNat_le.mp (unexpired expires member)
      have bound := short expires member
      rw [validateSignedExpiry_ok_iff]
      omega
    · intro now expires member late valid
      have window := (validateSignedExpiry_ok_iff _ _).mp
        ((genuine.verify_iff sign now).mp valid expires member)
      omega

/-! ### Lifetimes of five minutes and of an hour -/

def sampleIdentityCrypto (issuer : DeviceId) : IdentityCrypto where
  verifySignature _ _ _ := true
  deriveDeviceId _ := .ok issuer
  sha256 _ := filledBytes 32 0

def sampleLifetimeGrant (lifetime : UInt64) : SignedTrustGrant where
  grantId := .filled 1
  issuer := .filled 1
  subject := .filled 2
  grantedScopes := [asciiBytes "message.send:*"]
  issuedUnixMilliseconds := 1000000
  expiresUnixMilliseconds := some (1000000 + lifetime)
  nonce := filledBytes 32 1
  signature := filledBytes 64 0

def sampleIssuerKey : IdentityPublicKey := filledBytes 32 1

theorem sampleLifetimeGrant_genuine (lifetime : UInt64)
    (validated : validateSignedTrustGrant (sampleLifetimeGrant lifetime) = .ok ()) :
    Genuine (sampleIdentityCrypto (sampleLifetimeGrant lifetime).issuer) sampleIssuerKey
      (sampleLifetimeGrant lifetime) :=
  ⟨validated, fun _ _ => rfl, rfl⟩

theorem grant_valid_until_expiry_five_minutes :
    verifySignedTrustGrant
      (.ofIdentity (sampleIdentityCrypto (sampleLifetimeGrant 300000).issuer)
        fun _ => .ok (sampleLifetimeGrant 300000).signature)
      (sampleLifetimeGrant 300000) sampleIssuerKey 1200000 = .ok () := by
  have short : ∀ expires ∈ (sampleLifetimeGrant 300000).expiresUnixMilliseconds,
      expires.toNat ≤ (sampleLifetimeGrant 300000).issuedUnixMilliseconds.toNat + 300000 := by
    rintro _ ⟨⟩
    decide
  have unexpired : ∀ expires ∈ (sampleLifetimeGrant 300000).expiresUnixMilliseconds,
      1200000 ≤ expires := by
    rintro _ ⟨⟩
    decide
  exact ((grant_valid_until_expiry_iff (sampleLifetimeGrant_genuine 300000 (by decide +kernel)) _).mpr
    short).1 1200000 (by decide) unexpired

/-- A grant for an hour is refused the moment it is issued. -/
theorem hour_grant_refused :
    Genuine (sampleIdentityCrypto (sampleLifetimeGrant 3600000).issuer) sampleIssuerKey
      (sampleLifetimeGrant 3600000) ∧
    (sampleLifetimeGrant 3600000).issuedUnixMilliseconds = 1000000 ∧
    (sampleLifetimeGrant 3600000).expiresUnixMilliseconds = some 4600000 ∧
    verifySignedTrustGrant
      (.ofIdentity (sampleIdentityCrypto (sampleLifetimeGrant 3600000).issuer)
        fun _ => .ok (sampleLifetimeGrant 3600000).signature)
      (sampleLifetimeGrant 3600000) sampleIssuerKey 1000000 =
        .error (securityError "signed_expiry_too_far") :=
  ⟨sampleLifetimeGrant_genuine 3600000 (by decide +kernel), rfl, rfl, by decide +kernel⟩

end Heyaki
