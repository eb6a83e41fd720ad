/-
Purpose: the log of what an enrollment service answered, and when the challenges and tokens
it keeps agree with that log.

The log is newest first.  Every record has to be covered by the records before it: a
completion by a challenge that is still open, a use of a token by a creation with uses
left.
-/
import Heyaki.Proofs.RelayDatabase
import Heyaki.Relay.TtlTable

namespace Heyaki

open Foundation (SortedMap)
open Foundation.Transaction
open RelayDatabase (Spendable)
open List

/-! ### Tables with expiry -/

namespace RelayTtlTable

variable {now : Int} {κ υ : Type} [LinearOrder κ] {table other : RelayTtlTable κ υ} {key : κ}

/-- Entries may be missing; none is new or changed. -/
def Within (smaller larger : RelayTtlTable κ υ) : Prop :=
  ∀ key entry, smaller.entries.find? key = some entry → larger.entries.find? key = some entry

theorem Within.refl : table.Within table := fun _ _ found => found

theorem Within.trans {smaller larger : RelayTtlTable κ υ} (first : smaller.Within table)
    (second : table.Within larger) : smaller.Within larger :=
  fun key entry found => second key entry (first key entry found)

theorem within_expire : (table.expire now).Within table := by
  intro key entry found
  simp only [expire, SortedMap.find?_filter] at found
  exact (Option.filter_eq_some_iff.mp found).1

theorem within_erase : (table.erase key).Within table := by
  intro other entry found
  exact (SortedMap.find?_of_erase found).2

def put (table : RelayTtlTable κ υ) (key : κ) (value : υ) (ttl now : Int) : RelayTtlTable κ υ :=
  { table with entries := table.entries.insert key ⟨value, now + ttl * 1000000⟩ }

theorem within_erase_put (value : υ) (ttl : Int) :
    ((table.put key value ttl now).erase key).Within table := by
  intro other entry found
  obtain ⟨same, found⟩ := SortedMap.find?_of_erase found
  exact ((SortedMap.find?_of_insert found).resolve_left fun new => same new.1).2

theorem insertEntry_cases (table : RelayTtlTable κ υ) (key : κ) (value : υ) (ttl now : Int) :
    ∃ room, room.Within table ∧
      ((∃ error, table.insertEntry key value ttl now = (.error error, room)) ∨
        table.insertEntry key value ttl now = (.ok .inserted, room.put key value ttl now)) := by
  refine ⟨if table.entries.size ≥ table.capacity then table.expire now else table, ?_, ?_⟩
  · split_ifs
    · exact within_expire
    · exact Within.refl
  · unfold insertEntry
    dsimp only
    generalize (if table.entries.size ≥ table.capacity then table.expire now else table) = room
    split_ifs
    · exact .inl ⟨_, rfl⟩
    · exact .inr rfl

/-- An update writes one entry or fails; either way entries that expired may go. -/
theorem upsert_cases (table : RelayTtlTable κ υ) (value : υ) (ttl : Int) :
    ∃ room, room.Within table ∧
      ((∃ error, table.upsert key value ttl now = (.error error, room)) ∨
        ∃ outcome, table.upsert key value ttl now = (.ok outcome, room.put key value ttl now)) := by
  unfold upsert
  by_cases invalid : ttl ≤ 0
  · rw [if_pos invalid]
    exact ⟨table, Within.refl, .inl ⟨_, rfl⟩⟩
  rw [if_neg invalid]
  cases table.entries.find? key with
  | none =>
    obtain ⟨room, within, failed | done⟩ := insertEntry_cases table key value ttl now
    · exact ⟨room, within, .inl failed⟩
    · exact ⟨room, within, .inr ⟨_, done⟩⟩
  | some existing =>
    dsimp only
    by_cases live : existing.expiresAt > now
    · rw [if_pos live]
      exact ⟨table, Within.refl, .inr ⟨_, rfl⟩⟩
    rw [if_neg live]
    obtain ⟨room, within, failed | done⟩ := insertEntry_cases (table.erase key) key value ttl now
    · exact ⟨room, within.trans within_erase, .inl failed⟩
    · exact ⟨room, within.trans within_erase, .inr ⟨_, done⟩⟩

/-- What is taken was there, is not there any more and had not expired. -/
theorem take_cases (table : RelayTtlTable κ υ) (key : κ) (now : Int) :
    (table.take key now).2.Within table ∧ (table.take key now).2.entries.find? key = none ∧
      ∀ value, (table.take key now).1 = some value →
        ∃ expiresAt, table.entries.find? key = some ⟨value, expiresAt⟩ ∧ now < expiresAt := by
  unfold take
  cases found : table.entries.find? key with
  | none =>
    refine ⟨Within.refl, found, ?_⟩
    rintro value ⟨⟩
  | some entry =>
    refine ⟨within_erase, SortedMap.find?_erase_self, ?_⟩
    intro value taken
    dsimp only at taken
    split_ifs at taken with expired
    cases taken
    exact ⟨entry.expiresAt, rfl, not_le.mp expired⟩

end RelayTtlTable

/-! ### The log -/

inductive EnrollmentRecord where
  | issued (nonce : EnrollmentChallengeNonce) (steadyNow validity : Int)
  | completed (nonce : EnrollmentChallengeNonce) (steadyNow : Int)
  | created (token : List UInt8) (tenant : Text) (expires uses : UInt64)
  | spent (token : List UInt8) (tenant : Text) (now : UInt64)
  deriving Repr, DecidableEq

namespace EnrollmentRecord

def issues (nonce : EnrollmentChallengeNonce) : EnrollmentRecord → Bool
  | .issued other _ _ => other == nonce
  | _ => false

def completes (nonce : EnrollmentChallengeNonce) : EnrollmentRecord → Bool
  | .completed other _ => other == nonce
  | _ => false

def spends (token : List UInt8) : EnrollmentRecord → Bool
  | .spent other _ _ => other == token
  | _ => false

def token? : EnrollmentRecord → Option (List UInt8)
  | .created token _ _ _ => some token
  | .spent token _ _ => some token
  | _ => none

end EnrollmentRecord

open EnrollmentRecord

namespace EnrollmentHistory

variable {crypto : IdentityCrypto} {log : List EnrollmentRecord}

/-! ### What the log has to say -/

def issues (nonce : EnrollmentChallengeNonce) (log : List EnrollmentRecord) : Nat :=
  log.countP (EnrollmentRecord.issues nonce)

def completions (nonce : EnrollmentChallengeNonce) (log : List EnrollmentRecord) : Nat :=
  log.countP (completes nonce)

def spendings (token : List UInt8) (log : List EnrollmentRecord) : Nat := log.countP (spends token)

def Covered (older : List EnrollmentRecord) : EnrollmentRecord → Prop
  | .issued _ _ _ => True
  | .completed nonce steadyNow =>
    completions nonce older < issues nonce older ∧
      ∃ issuedAt validity, .issued nonce issuedAt validity ∈ older ∧
        steadyNow < issuedAt + validity * 1000000
  | .created token _ _ _ =>
    ∀ tenant expires uses, .created token tenant expires uses ∉ older
  | .spent token tenant now =>
    ∃ expires uses, .created token tenant expires uses ∈ older ∧ now < expires ∧
      spendings token older < uses.toNat

inductive Accounted : List EnrollmentRecord → Prop
  | nil : Accounted []
  | cons {record : EnrollmentRecord} {older : List EnrollmentRecord} (covered : Covered older record)
      (rest : Accounted older) : Accounted (record :: older)

/-- The tokens of the log have hashes of their own. -/
def CollisionFree (crypto : IdentityCrypto) (log : List EnrollmentRecord) : Prop :=
  ∀ one ∈ log.filterMap token?, ∀ two ∈ log.filterMap token?,
    crypto.sha256 one = crypto.sha256 two → one = two

theorem CollisionFree.of_append {newer : List EnrollmentRecord}
    (free : CollisionFree crypto (newer ++ log)) : CollisionFree crypto log := by
  intro one first two second
  refine free one ?_ two ?_
  · rw [filterMap_append]
    exact mem_append_right _ first
  · rw [filterMap_append]
    exact mem_append_right _ second

theorem Accounted.completions_le (accounted : Accounted log) (nonce : EnrollmentChallengeNonce) :
    completions nonce log ≤ issues nonce log := by
  induction accounted with
  | nil => exact le_rfl
  | @cons record older covered _ rest =>
    cases record with
    | completed other steadyNow =>
      by_cases same : other = nonce
      · subst same
        have fewer := covered.1
        simp only [completions, issues, countP_cons, EnrollmentRecord.completes,
          EnrollmentRecord.issues, beq_self_eq_true] at fewer ⊢
        exact fewer
      · simpa [completions, issues, countP_cons, EnrollmentRecord.completes,
          EnrollmentRecord.issues, same] using rest
    | issued other steadyNow validity =>
      refine rest.trans ?_
      exact (sublist_cons_self _ _).countP_le
    | created token tenant expires uses | spent token tenant now => exact rest

/-- A token is not spent before it is created. -/
theorem Accounted.spendings_eq_zero {token : List UInt8} (accounted : Accounted log)
    (unknown : ∀ tenant expires uses, .created token tenant expires uses ∉ log) :
    spendings token log = 0 := by
  induction accounted with
  | nil => rfl
  | @cons record older covered _ ih =>
    have rest := ih fun tenant expires uses created =>
      unknown tenant expires uses (mem_cons_of_mem _ created)
    cases record with
    | spent other tenant now =>
      obtain ⟨expires, uses, created, -, -⟩ := covered
      have different : other ≠ token := by
        rintro rfl
        exact unknown tenant expires uses (mem_cons_of_mem _ created)
      simpa [spendings, countP_cons, spends, different] using rest
    | issued other steadyNow validity | completed other steadyNow
    | created other tenant expires uses => exact rest

/-! ### The books -/

/-- The challenges and tokens agree with the log. -/
structure Books (crypto : IdentityCrypto)
    (challenges : RelayTtlTable EnrollmentChallengeNonce EnrollmentChallenge)
    (tokens : SortedMap RelayBootstrapTokenHash RelayBootstrapTokenRow)
    (log : List EnrollmentRecord) : Prop where
  accounted : Accounted log
  pending : ∀ nonce entry, challenges.entries.find? nonce = some entry →
    completions nonce log < issues nonce log ∧
      ∃ issuedAt validity, .issued nonce issuedAt validity ∈ log ∧
        entry.expiresAt = issuedAt + validity * 1000000
  rows : ∀ hash row, tokens.find? hash = some row →
    ∃ token uses, hashRelayBootstrapToken crypto token = .ok hash ∧
      .created token row.tenant row.expiresUnixMilliseconds uses ∈ log ∧
      row.remainingUses.toNat + spendings token log = uses.toNat
  known : ∀ token tenant expires uses, .created token tenant expires uses ∈ log →
    ∃ hash row, hashRelayBootstrapToken crypto token = .ok hash ∧ tokens.find? hash = some row

section Books

variable {challenges other : RelayTtlTable EnrollmentChallengeNonce EnrollmentChallenge}
  {tokens : SortedMap RelayBootstrapTokenHash RelayBootstrapTokenRow} {log : List EnrollmentRecord}
  {hash : RelayBootstrapTokenHash} {token : List UInt8} {nonce : EnrollmentChallengeNonce}
  {steadyNow : Int} {row : RelayBootstrapTokenRow}

theorem Books.empty (capacity : Nat) : Books crypto { capacity := capacity } {} [] where
  accounted := .nil
  pending := by
    rintro nonce entry ⟨⟩
  rows := by
    rintro hash row ⟨⟩
  known := by
    rintro token tenant expires uses ⟨⟩

section

variable (books : Books crypto challenges tokens log)

include books

theorem Books.within (within : other.Within challenges) :
    Books crypto other tokens log :=
  { books with
    pending := fun nonce entry found => books.pending nonce entry (within nonce entry found) }

theorem Books.issue {challenge : EnrollmentChallenge} {validity : Int} :
    Books crypto (challenges.put nonce challenge validity steadyNow) tokens
      (.issued nonce steadyNow validity :: log) where
  accounted := .cons trivial books.accounted
  pending := by
    intro asked entry found
    rcases SortedMap.find?_of_insert found with ⟨rfl, rfl⟩ | ⟨-, found⟩
    · refine ⟨?_, steadyNow, validity, .head _, rfl⟩
      have bounded := books.accounted.completions_le asked
      simp only [completions, issues, countP_cons, EnrollmentRecord.completes,
        EnrollmentRecord.issues, beq_self_eq_true] at bounded ⊢
      exact Nat.lt_succ_of_le bounded
    · obtain ⟨fewer, issuedAt, lifetime, issued, expires⟩ := books.pending asked entry found
      refine ⟨?_, issuedAt, lifetime, .tail _ issued, expires⟩
      exact fewer.trans_le (sublist_cons_self _ _).countP_le
  rows := by
    intro hash row found
    obtain ⟨token, uses, hashed, created, count⟩ := books.rows hash row found
    exact ⟨token, uses, hashed, .tail _ created, count⟩
  known := by
    intro token tenant expires uses created
    cases created with
    | tail _ created => exact books.known token tenant expires uses created

theorem Books.finish {entry : RelayTtlEntry EnrollmentChallenge}
    (found : challenges.entries.find? nonce = some entry) (live : steadyNow < entry.expiresAt)
    (within : other.Within challenges) (gone : other.entries.find? nonce = none) :
    Books crypto other tokens (.completed nonce steadyNow :: log) where
  accounted := by
    obtain ⟨fewer, issuedAt, validity, issued, expires⟩ := books.pending nonce entry found
    exact .cons ⟨fewer, issuedAt, validity, issued, expires ▸ live⟩ books.accounted
  pending := by
    intro asked pending present
    have different : nonce ≠ asked := by
      rintro rfl
      rw [gone] at present
      cases present
    obtain ⟨fewer, issuedAt, validity, issued, expires⟩ :=
      books.pending asked pending (within asked pending present)
    refine ⟨?_, issuedAt, validity, .tail _ issued, expires⟩
    simpa [completions, issues, countP_cons, EnrollmentRecord.completes,
      EnrollmentRecord.issues, different] using fewer
  rows := by
    intro hash row stored
    obtain ⟨token, uses, hashed, created, count⟩ := books.rows hash row stored
    exact ⟨token, uses, hashed, .tail _ created, count⟩
  known := by
    intro token tenant expires uses created
    cases created with
    | tail _ created => exact books.known token tenant expires uses created

end

theorem hash_eq {other : RelayBootstrapTokenHash}
    (first : hashRelayBootstrapToken crypto token = .ok hash)
    (second : hashRelayBootstrapToken crypto token = .ok other) : hash = other :=
  Except.ok.inj (first.symm.trans second)

theorem Books.create (books : Books crypto challenges tokens log)
    (hashed : hashRelayBootstrapToken crypto token = .ok hash) (absent : tokens.find? hash = none) :
    Books crypto challenges (tokens.insert hash row)
      (.created token row.tenant row.expiresUnixMilliseconds row.remainingUses :: log) := by
  have unknown : ∀ tenant expires uses, .created token tenant expires uses ∉ log := by
    intro tenant expires uses created
    obtain ⟨other, stored, hashing, found⟩ := books.known token tenant expires uses created
    rw [← hash_eq hashed hashing, absent] at found
    cases found
  refine ⟨.cons unknown books.accounted, ?_, ?_, ?_⟩
  · intro nonce entry found
    obtain ⟨fewer, issuedAt, validity, issued, expires⟩ := books.pending nonce entry found
    exact ⟨fewer, issuedAt, validity, .tail _ issued, expires⟩
  · intro asked stored found
    rcases SortedMap.find?_of_insert found with ⟨rfl, rfl⟩ | ⟨-, found⟩
    · refine ⟨token, stored.remainingUses, hashed, .head _, ?_⟩
      have none := books.accounted.spendings_eq_zero unknown
      exact (congrArg (stored.remainingUses.toNat + ·) none).trans (Nat.add_zero _)
    · obtain ⟨other, uses, hashing, created, count⟩ := books.rows asked stored found
      exact ⟨other, uses, hashing, .tail _ created, count⟩
  · intro other tenant expires uses created
    cases created with
    | head _ => exact ⟨hash, row, hashed, SortedMap.find?_insert_self _ _ _⟩
    | tail _ created =>
      obtain ⟨asked, stored, hashing, found⟩ := books.known other tenant expires uses created
      refine ⟨asked, stored, hashing, ?_⟩
      rw [SortedMap.find?_insert, if_neg]
      · exact found
      · rintro rfl
        rw [absent] at found
        cases found

theorem toNat_pred {uses : UInt64} (left : uses ≠ 0) : (uses - 1).toNat + 1 = uses.toNat := by
  have positive : 1 ≤ uses.toNat := Nat.one_le_iff_ne_zero.mpr fun zero =>
    left (UInt64.toNat_inj.mp zero)
  have one : 1 ≤ uses := UInt64.le_iff_toNat_le.mpr positive
  rw [UInt64.toNat_sub_of_le _ _ one]
  exact Nat.sub_add_cancel positive

theorem Books.spend {database : RelayDatabase} {tenant : Text} {now : UInt64}
    (books : Books crypto challenges database.bootstrapTokens log)
    (spendable : Spendable database crypto token tenant now hash row)
    (free : CollisionFree crypto (.spent token tenant now :: log)) :
    Books crypto challenges (database.spent hash row).bootstrapTokens
      (.spent token tenant now :: log) := by
  -- A creation of the hash in the books is one of this token.
  have own : ∀ other expires uses,
      hashRelayBootstrapToken crypto other = .ok hash →
      ∀ given, .created other given expires uses ∈ log → other = token := by
    intro other expires uses hashing given created
    obtain ⟨-, -, same⟩ := bind_eq_ok.mp hashing
    obtain ⟨-, -, spent⟩ := bind_eq_ok.mp spendable.hashed
    have bytes := congrArg Bytes32.bytes (Except.ok.inj (same.trans spent.symm))
    refine free other ?_ token ?_ (Subtype.ext bytes)
    · exact mem_filterMap.mpr ⟨_, .tail _ created, rfl⟩
    · exact mem_filterMap.mpr ⟨_, .head _, rfl⟩
  obtain ⟨other, uses, hashing, created, count⟩ := books.rows hash row spendable.found
  obtain rfl := own other _ uses hashing _ created
  have fewer := toNat_pred spendable.left
  refine ⟨.cons ⟨row.expiresUnixMilliseconds, uses, ?_, spendable.inTime, ?_⟩ books.accounted,
    ?_, ?_, ?_⟩
  · rw [← spendable.sameTenant]
    exact created
  · omega
  · intro nonce entry found
    obtain ⟨less, issuedAt, validity, issued, expires⟩ := books.pending nonce entry found
    exact ⟨less, issuedAt, validity, .tail _ issued, expires⟩
  · intro asked stored found
    rcases SortedMap.find?_of_insert found with ⟨rfl, rfl⟩ | ⟨same, found⟩
    · refine ⟨other, uses, hashing, .tail _ created, ?_⟩
      have more : spendings other (.spent other tenant now :: log) = spendings other log + 1 := by
        simp [spendings, EnrollmentRecord.spends]
      rw [more]
      dsimp only
      omega
    · obtain ⟨known, allowed, knownHash, knownCreated, knownCount⟩ := books.rows asked stored found
      have different : other ≠ known := by
        rintro rfl
        exact same (hash_eq knownHash hashing)
      refine ⟨known, allowed, knownHash, .tail _ knownCreated, ?_⟩
      have unspent : spendings known (.spent other tenant now :: log) = spendings known log := by
        simp [spendings, EnrollmentRecord.spends, different]
      rw [unspent]
      exact knownCount
  · intro known given expires allowed knownCreated
    cases knownCreated with
    | tail _ knownCreated =>
      obtain ⟨asked, stored, knownHash, found⟩ :=
        books.known known given expires allowed knownCreated
      by_cases same : asked = hash
      · subst same
        exact ⟨asked, _, knownHash, SortedMap.find?_insert_self _ _ _⟩
      · refine ⟨asked, stored, knownHash, ?_⟩
        unfold RelayDatabase.spent
        rw [SortedMap.find?_insert, if_neg same]
        exact found

end Books

end EnrollmentHistory

end Heyaki
