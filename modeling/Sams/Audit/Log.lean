import Sams.Lib.Paging
import Sams.Lib.Rows

/-!
# The audit log

The log is append-only. A query answers the newest entries of a filter, a page at a time, with the
identifier to read on below.

* **`pages_complete`** — to follow the pages to their end gives every entry that matched when the
  first was read, once and newest first, whatever is appended in between.
-/

namespace Sams.Audit

open Rows

/-- `AuditOutcome`: the check constraint on `outcome`. -/
inductive Outcome where
  | allow
  | deny
  | error
  deriving DecidableEq, Repr

/-- A value of the metadata: a scalar, or the names of the fields that were written. -/
inductive MetadataValue where
  | null
  | bool (b : Bool)
  | number (n : Int)
  | text (s : String)
  | texts (ss : List String)
  deriving DecidableEq, Repr

/-- An entry, as far as a query returns it. A missing `metadata` reads as the empty object. -/
structure AuditEntry where
  id : Int
  occurredAt : Int
  correlationId : Option String
  actorUserId : Option Int
  actorRole : String
  action : String
  entityType : String
  entityId : Option String
  outcome : Outcome
  changedFields : Option (List String)
  metadata : List (String × MetadataValue)
  deriving DecidableEq, Repr

/-- The table: `id` is its primary key. -/
structure AuditLog where
  entries : List AuditEntry
  keyed : Keyed AuditEntry.id entries

/-- What a query selects by. -/
structure Filter where
  action : Option String := none
  entityType : Option String := none
  entityId : Option String := none
  actorUserId : Option Int := none
  occurredFrom : Option Int := none
  occurredTo : Option Int := none
  deriving DecidableEq, Repr

/-- The conditions of the query, but the one on `before_id`. A condition on a
missing value fails. -/
def Filter.selects (f : Filter) (e : AuditEntry) : Bool :=
  (∀ v ∈ f.action, e.action = v) ∧ (∀ v ∈ f.entityType, e.entityType = v) ∧
    (∀ v ∈ f.entityId, e.entityId = some v) ∧ (∀ v ∈ f.actorUserId, e.actorUserId = some v) ∧
    (∀ v ∈ f.occurredFrom, v ≤ e.occurredAt) ∧ ∀ v ∈ f.occurredTo, e.occurredAt ≤ v

/-- How a query fails. -/
inductive QueryError where
  /-- The request is refused before the query, with a 422. -/
  | requestValidation
  /-- `LIMIT must not be negative`. -/
  | databaseError
  /-- `entries[-1]` of no entries. -/
  | indexError
  deriving DecidableEq, Repr

namespace AuditRepository

def listEntries (f : Filter) (beforeId : Option Int) (limit : Int) (log : AuditLog) :
    Except QueryError (List AuditEntry) :=
  if limit < 0 then throw .databaseError
  else
    let rows := log.entries.filter fun e => f.selects e ∧ ∀ k ∈ beforeId, e.id < k
    pure ((rows.insertionSort fun x y => y.id ≤ x.id).take limit.toNat)

end AuditRepository

namespace AuditService

def query (f : Filter) (beforeId : Option Int) (limit : Int) (log : AuditLog) :
    Except QueryError (List AuditEntry) :=
  AuditRepository.listEntries f beforeId (min limit 200) log

end AuditService

/-- `AuditLogListResponse`. -/
structure AuditPage where
  items : List AuditEntry
  nextBeforeId : Option Int
  deriving DecidableEq, Repr

/-- `GET /audit`. A limit of zero passes the validation, and the empty page is full. -/
def queryAuditLog (f : Filter) (beforeId : Option Int) (limit : Int) (log : AuditLog) :
    Except QueryError AuditPage := do
  if 200 < limit then throw .requestValidation
  let entries ← AuditService.query f beforeId limit log
  if (entries.length : Int) = limit then
    match entries.getLast? with
    | none => throw .indexError
    | some last => pure ⟨entries, some last.id⟩
  else pure ⟨entries, none⟩

/-- A client that follows `next_before_id` until it is null, from the `n`-th request on; `fuel`
bounds the requests. -/
def followPages (f : Filter) (limit : Int) (logs : Nat → AuditLog) :
    Nat → Nat → Option Int → Option (List AuditEntry)
  | 0, _, _ => none
  | fuel + 1, n, beforeId =>
    match queryAuditLog f beforeId limit (logs n) with
    | .error _ => none
    | .ok ⟨items, none⟩ => some items
    | .ok ⟨items, some id⟩ => (followPages f limit logs fuel (n + 1) (some id)).map (items ++ ·)

/-- Entries are appended between two requests, with identifiers above all there were. -/
def Appending (logs : Nat → AuditLog) : Prop :=
  ∀ n, ∃ added, (logs (n + 1)).entries = (logs n).entries ++ added ∧
    ∀ x ∈ added, ∀ y ∈ (logs n).entries, y.id < x.id

/-- The entries of the filter. -/
def selection (f : Filter) (log : AuditLog) : List AuditEntry := log.entries.filter f.selects

section Pages

variable {f : Filter} {limit : Int} {logs : Nat → AuditLog}

/-- A request answers a page of the selection, and where the next begins. -/
theorem queryAuditLog_eq (hlow : 1 ≤ limit) (hhigh : limit ≤ 200) (beforeId : Option Int)
    (log : AuditLog) :
    queryAuditLog f beforeId limit log =
      .ok ⟨Paging.page AuditEntry.id limit.toNat beforeId (selection f log),
        Paging.next AuditEntry.id limit.toNat
          (Paging.page AuditEntry.id limit.toNat beforeId (selection f log))⟩ := by
  have hquery : AuditService.query f beforeId limit log =
      .ok (Paging.page AuditEntry.id limit.toNat beforeId (selection f log)) := by
    unfold AuditService.query AuditRepository.listEntries
    rw [min_eq_left hhigh, if_neg (by omega)]
    unfold Paging.page Paging.newestFirst Paging.below selection
    rw [List.filter_filter]
    have hrows : (fun e : AuditEntry => decide ((f.selects e = true) ∧ ∀ k ∈ beforeId, e.id < k)) =
        fun e => decide (∀ k ∈ beforeId, e.id < k) && f.selects e := by
      funext e
      rw [Bool.and_comm, Bool.decide_and, Bool.decide_eq_true]
    rw [hrows]
    rfl
  unfold queryAuditLog
  rw [hquery, if_neg (by omega)]
  generalize Paging.page AuditEntry.id limit.toNat beforeId (selection f log) = items
  unfold Paging.next
  show (if (items.length : Int) = limit then _ else _) = _
  by_cases hfull : (items.length : Int) = limit
  · rw [if_pos hfull, if_pos (by omega)]
    cases hlast : items.getLast? with
    | none =>
      rw [List.getLast?_eq_none_iff.1 hlast] at hfull
      simp at hfull
      omega
    | some last => rfl
  · rw [if_neg hfull, if_neg (by omega)]
    rfl

theorem followPages_eq (hlow : 1 ≤ limit) (hhigh : limit ≤ 200) (fuel n : Nat)
    (beforeId : Option Int) :
    followPages f limit logs fuel n beforeId =
      Paging.follow AuditEntry.id limit.toNat (fun n => selection f (logs n)) fuel n beforeId := by
  induction fuel generalizing n beforeId with
  | zero => rfl
  | succ fuel ih =>
    unfold followPages Paging.follow
    rw [queryAuditLog_eq hlow hhigh]
    cases Paging.next AuditEntry.id limit.toNat
      (Paging.page AuditEntry.id limit.toNat beforeId (selection f (logs n))) with
    | none => rfl
    | some id =>
      dsimp only
      rw [ih]

/-- What is appended has come above the first table. -/
theorem Appending.since (h : Appending logs) (n : Nat) :
    ∃ added, (logs n).entries = (logs 0).entries ++ added ∧
      ∀ x ∈ added, ∀ y ∈ (logs 0).entries, y.id < x.id := by
  induction n with
  | zero => exact ⟨[], by simp⟩
  | succ n ih =>
    obtain ⟨before, hbefore, habove⟩ := ih
    obtain ⟨added, hadded, hlast⟩ := h n
    refine ⟨before ++ added, by rw [hadded, hbefore, List.append_assoc], fun x hx y hy => ?_⟩
    rcases List.mem_append.1 hx with hx | hx
    · exact habove x hx y hy
    · exact hlast x hx y (by rw [hbefore]; exact List.mem_append_left _ hy)

theorem Appending.grows (h : Appending logs) (f : Filter) :
    Paging.Grows AuditEntry.id fun n => selection f (logs n) := by
  intro n
  obtain ⟨added, hadded, habove⟩ := h.since n
  refine ⟨added.filter f.selects, ?_, fun x hx y hy => ?_⟩
  · show selection f (logs n) = selection f (logs 0) ++ added.filter f.selects
    unfold selection
    rw [hadded, List.filter_append]
  · exact habove x (List.mem_of_mem_filter hx) y (List.mem_of_mem_filter hy)

/-- **The pages lose nothing**: the client comes to an end, with every entry that matched at the
first request, once and in descending order. -/
theorem pages_complete (happending : Appending logs) (f : Filter) (hlow : 1 ≤ limit)
    (hhigh : limit ≤ 200) :
    ∃ entries, (∃ fuel, followPages f limit logs fuel 0 none = some entries) ∧
      entries.Perm (selection f (logs 0)) ∧ entries.Pairwise fun x y => y.id < x.id := by
  have hnodup : ((selection f (logs 0)).map AuditEntry.id).Nodup :=
    (logs 0).keyed.sublist (List.filter_sublist.map AuditEntry.id)
  have hfollow := Paging.follow_eq limit.toNat (by omega) (happending.grows f) hnodup
  rw [← followPages_eq hlow hhigh] at hfollow
  exact ⟨_, ⟨_, hfollow⟩, Paging.newestFirst_perm AuditEntry.id _,
    Paging.newestFirst_descending hnodup⟩

end Pages

/-! ## Two pages, and an entry between them -/

/-- A read of a health record. -/
def healthRead (id : Int) : AuditEntry :=
  { id, occurredAt := id, correlationId := none, actorUserId := some 1, actorRole := "school_admin"
    action := "student.health.read", entityType := "student", entityId :=
      some "7", outcome := .allow
    changedFields := none, metadata := [] }

/-- Two entries, and a third once the first page is read. -/
def reads : Nat → AuditLog
  | 0 => ⟨[healthRead 1, healthRead 2], by decide⟩
  | _ + 1 => ⟨[healthRead 1, healthRead 2, healthRead 3], by decide⟩

theorem appending_reads : Appending reads := by
  intro n
  cases n with
  | zero => exact ⟨[healthRead 3], rfl, by decide⟩
  | succ n => exact ⟨[], rfl, by simp⟩

theorem reads_complete : ∃ entries, (∃ fuel, followPages {} 1 reads fuel 0 none = some entries) ∧
    entries.Perm (selection {} (reads 0)) ∧ entries.Pairwise fun x y => y.id < x.id :=
  pages_complete appending_reads {} (by decide) (by decide)

end Sams.Audit
