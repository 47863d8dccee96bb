import Mathlib.Data.List.Dedup
import Mathlib.Data.String.Basic
import Sams.Keycloak.Accounts

/-!
# Members of organizations

Users that were there before their tenants had organizations are made members of these afterwards,
by a script that goes through the memberships of the control plane. It may be run again.
-/

namespace Sams.Keycloak

open Programs Clients

/-- A row of `user_tenant_map`. -/
structure Membership where
  email : String
  tenantId : String
  role : String
  deriving DecidableEq, Repr

namespace Backfill

/-- What is counted. The rows that failed are printed. -/
structure Counts where
  added : Nat
  failed : List Membership
  skipped : Nat
  deriving DecidableEq, Repr

inductive Report where
  /-- The first rows with their marks, and how many more there are. -/
  | dryRun (missingOrgs : List String) (shown : List (String × Membership)) (more : Nat)
  | applied (missingOrgs : List String) (counts : Counts)
  deriving DecidableEq, Repr

namespace Report

def missingOrgs : Report → List String
  | dryRun missingOrgs _ _ => missingOrgs
  | applied missingOrgs _ => missingOrgs

def exitCode : Report → Nat
  | dryRun _ _ _ => 0
  | applied _ counts => if counts.failed = [] then 0 else 1

/-- The script fails where a row does. -/
theorem exitCode_applied {missingOrgs : List String} {counts : Counts} :
    (applied missingOrgs counts).exitCode = 0 ↔ counts.failed = [] := by
  unfold exitCode
  by_cases h : counts.failed = []
  · simp [h]
  · simp [h]

end Report

/-- `sorted({r["tenant_id"] for r in rows})` -/
def tenants (rows : List Membership) : List String :=
  (rows.map Membership.tenantId).dedup.insertionSort fun t t' => t ≤ t'

section Script

variable [Unicode] (srv : Service Request Answer)

/-- `find_organization_by_alias` without headers: each search gets a token of its own. -/
def findOrganization (orgAlias : String) : Session (Option Organization) :=
  if orgAlias = "" then pure none
  else do
    adminToken srv
    findOrganizationByAlias srv orgAlias

def collectMissing (missing : List String) (t : String) : Session (List String) := do
  let org ← findOrganization srv t
  pure (if org.isNone then missing ++ [t] else missing)

def addRow (missing : List String) (n : Counts) (r : Membership) : Session Counts :=
  if r.tenantId ∈ missing then pure { n with skipped := n.skipped + 1 }
  else do
    let added ← addUserToOrganization srv r.email r.tenantId
    pure (if added then { n with added := n.added + 1 } else { n with failed := n.failed ++ [r] })

def mark (missing : List String) (r : Membership) : String × Membership :=
  (if r.tenantId ∈ missing then "SKIP" else "would add", r)

/-- `main`, with the rows that it reads. -/
def main (apply : Bool) (rows : List Membership) : Session Report := do
  let missing ← (tenants rows).foldlM (collectMissing srv) []
  if apply = false then
    pure (.dryRun missing ((rows.take 20).map (mark missing)) (rows.length - 20))
  else do
    let counts ← rows.foldlM (addRow srv missing) ⟨0, [], 0⟩
    pure (.applied missing counts)

end Script

/-! ## What the script asks for -/

section Facts

variable [Unicode] {srv : Service Request Answer} {start own : Log Request Answer} {apply : Bool}
  {rows : List Membership} {missing : List String}

/-- The call that a row is. -/
def call (r : Membership) : Call := .addToOrganization r.email r.tenantId

/-- The requests of the script: those that look for organizations, and where it is to apply what it
finds those of the membership of a row. -/
def Asks (apply : Bool) (rows : List Membership) (own : Log Request Answer) (q : Request) : Prop :=
  q = .token ∨ q = .listOrganizations ∨ apply = true ∧ ∃ r ∈ rows, May own (call r) q

/-- No organization of the alias was listed. -/
def Absent (own : Log Request Answer) (t : String) : Prop :=
  t = "" ∨ ∃ x ∈ own, ∃ orgs, Listing x orgs ∧ ∀ org ∈ orgs, ¬org.Has t

/-- An organization of the alias was listed. -/
def Present (own : Log Request Answer) (t : String) : Prop :=
  ∃ x ∈ own, ∃ orgs, Listing x orgs ∧ ∃ org ∈ orgs, org.Has t

/-- The tenants that have been looked for are missing if and only if they are so in the listings. -/
structure Looked (done : List String) (missing : List String)
    (own : Log Request Answer) : Prop where
  of : ∀ t ∈ missing, t ∈ done
  absent : ∀ t ∈ missing, Absent own t
  present : ∀ t ∈ done, t ∉ missing → Present own t

/-- No request has changed anything. -/
def Harmless (own : Log Request Answer) : Prop := ∀ x ∈ own, x.1 = .token ∨ x.1 = .listOrganizations

omit [Unicode] in
theorem Harmless.append {new : Log Request Answer} (h : Harmless own) (hnew : Harmless new) :
    Harmless (own ++ new) := by
  intro x hx
  rcases List.mem_append.1 hx with hx | hx
  · exact h x hx
  · exact hnew x hx

theorem Absent.append {t : String} (h : Absent own t) (new : Log Request Answer) :
    Absent (own ++ new) t := by
  rcases h with h | ⟨x, hx, h⟩
  · exact .inl h
  · exact .inr ⟨x, List.mem_append_left new hx, h⟩

theorem Present.append {t : String} (h : Present own t) (new : Log Request Answer) :
    Present (own ++ new) t := by
  obtain ⟨x, hx, h⟩ := h
  exact ⟨x, List.mem_append_left new hx, h⟩

theorem Looked.append {done : List String} (h : Looked done missing own)
    (new : Log Request Answer) :
    Looked done missing (own ++ new) :=
  ⟨h.of, fun t ht => (h.absent t ht).append new, fun t ht hnot => (h.present t ht hnot).append new⟩

/-- A tenant is looked for. -/
theorem Looked.next {done : List String} {t : String} {found : Bool} (h : Looked done missing own)
    (hfound : found = true → Present own t) (hnot : found = false → Absent own t) :
    Looked (done ++ [t]) (if found = false then missing ++ [t] else missing) own := by
  cases found with
  | true =>
    refine ⟨fun t' ht' => List.mem_append_left _ (h.of t' ht'), h.absent, fun t' ht' hmissing => ?_⟩
    rcases List.mem_append.1 ht' with ht' | ht'
    · exact h.present t' ht' hmissing
    · obtain rfl := List.mem_singleton.1 ht'
      exact hfound rfl
  | false =>
    rw [if_pos rfl]
    refine ⟨fun t' ht' => ?_, fun t' ht' => ?_, fun t' ht' hmissing => ?_⟩
    · simp only [List.mem_append, List.mem_singleton] at ht' ⊢
      exact ht'.imp_left (h.of t')
    · rcases List.mem_append.1 ht' with ht' | ht'
      · exact h.absent t' ht'
      · obtain rfl := List.mem_singleton.1 ht'
        exact hnot rfl
    · simp only [List.mem_append, not_or] at ht' hmissing
      exact h.present t' (ht'.resolve_right hmissing.2) hmissing.1

/-- The search for one organization. -/
theorem conducts_findOrganization {P : Log Request Answer → Request → Prop} {t : String}
    (hP : ∀ own q, q = .token ∨ q = .listOrganizations → P own q) :
    Conducts start P (· = own) (findOrganization srv t)
      (fun found own' => ∃ new, own' = own ++ new ∧ Harmless new ∧
        (found.isSome = true → Present own' t) ∧ (found.isSome = false → Absent own' t))
      (fun _ own' => ∃ new, own' = own ++ new ∧ Harmless new) := by
  unfold findOrganization
  by_cases ht : t = ""
  · rw [if_pos ht]
    refine conducts_pure fun own' h => ⟨[], ?_, nofun, nofun, fun _ => .inl ht⟩
    rw [h, List.append_nil]
  rw [if_neg ht]
  have hharmless : ∀ a b, Harmless [(.token, a), (.listOrganizations, b)] := by
    intro a b x hx
    rcases List.mem_cons.1 hx with rfl | hx
    · exact .inl rfl
    · obtain rfl := List.mem_singleton.1 hx
      exact .inr rfl
  refine conducts_bind (M := fun _ own' => ∃ a, own' = own ++ [(.token, a)])
    (conducts_adminToken (fun _ _ => hP _ _ (.inl rfl)) ?_ ?_) fun _ =>
      Keycloak.conducts_findOrganization ht (fun _ _ => hP _ _ (.inr rfl)) ?_ ?_ ?_
  · rintro _ a rfl
    exact ⟨a, rfl⟩
  · rintro _ a e rfl
    refine ⟨[(.token, a)], rfl, fun x hx => ?_⟩
    obtain rfl := List.mem_singleton.1 hx
    exact .inl rfl
  · rintro _ b orgs org ⟨a, rfl⟩ horgs hmem hhas
    refine ⟨_, List.append_assoc _ _ _, hharmless a b, fun _ => ?_, nofun⟩
    exact ⟨_, List.mem_append_right _ List.mem_cons_self, orgs, ⟨rfl, horgs⟩, org, hmem, hhas⟩
  · rintro _ b orgs ⟨a, rfl⟩ horgs hnone
    refine ⟨_, List.append_assoc _ _ _, hharmless a b, nofun, fun _ => .inr ?_⟩
    exact ⟨_, List.mem_append_right _ List.mem_cons_self, orgs, ⟨rfl, horgs⟩, hnone⟩
  · rintro _ b e ⟨a, rfl⟩ -
    exact ⟨_, List.append_assoc _ _ _, hharmless a b⟩

/-- The tenants are looked for, one after the other. -/
theorem conducts_collectMissing {P : Log Request Answer → Request → Prop}
    (srv : Service Request Answer) (start : Log Request Answer) (ts : List String)
    (hP : ∀ own q, q = .token ∨ q = .listOrganizations → P own q) :
    Conducts start P (· = []) (ts.foldlM (collectMissing srv) [])
      (fun missing own => Looked ts missing own ∧ Harmless own)
      fun _ => Harmless := by
  have hround : ∀ t rest missing, Conducts start P
      (fun own => ∃ done, ts = done ++ t :: rest ∧ Looked done missing own ∧
        Harmless own) (collectMissing srv missing t)
      (fun missing' own => ∃ done, ts = done ++ rest ∧ Looked done missing' own ∧
        Harmless own) fun _ => Harmless := by
    refine fun t rest missing => conducts_at fun own h => ?_
    obtain ⟨done, hdone, hlooked, hharmless⟩ := h
    refine conducts_bind ((conducts_findOrganization hP).mono (fun _ _ => id) (fun _ => id)
      (fun _ _ => id) ?_) fun found =>
      conducts_pure fun own' h => ?_
    · rintro e own' ⟨new, rfl, hnew⟩
      exact hharmless.append hnew
    · obtain ⟨new, rfl, hnew, hpresent, habsent⟩ := h
      refine ⟨done ++ [t], by simp [hdone], ?_, hharmless.append hnew⟩
      simpa using (hlooked.append new).next hpresent habsent
  refine (conducts_foldlM (fun rest missing own => ∃ done, ts = done ++ rest ∧
    Looked done missing own ∧ Harmless own) hround ts []).mono (fun _ _ => id) ?_ ?_ fun _ _ => id
  · rintro _ rfl
    exact ⟨[], rfl, ⟨nofun, nofun, nofun⟩, nofun⟩
  · rintro missing own ⟨done, hdone, h⟩
    rw [List.append_nil] at hdone
    rwa [hdone]

theorem done_append {r : Membership} (h : Call.Done own (call r)) (new : Log Request Answer) :
    Call.Done (own ++ new) (call r) := by
  obtain ⟨u, o, a, ⟨b, hb, hnames⟩, ⟨c, orgs, hc, horgs⟩, ha, hjoined⟩ := h
  exact ⟨u, o, a, ⟨b, List.mem_append_left new hb, hnames⟩,
    ⟨c, orgs, List.mem_append_left new hc, horgs⟩, List.mem_append_left new ha, hjoined⟩

theorem done_after {r : Membership} (h : Call.Done own (call r)) (old : Log Request Answer) :
    Call.Done (old ++ own) (call r) := by
  obtain ⟨u, o, a, hnamed, haliased, ha, hjoined⟩ := h
  exact ⟨u, o, a, hnamed.after old, haliased.after old, List.mem_append_right old ha, hjoined⟩

/-- Each row that has been gone through is counted, and was made a member where it is counted so. -/
structure Counted (missing : List String) (done : List Membership) (n : Counts)
    (own : Log Request Answer) : Prop where
  total : done.length = n.added + n.failed.length + n.skipped
  skipped : n.skipped = (done.filter fun r => r.tenantId ∈ missing).length
  failed : List.Sublist n.failed (done.filter fun r => r.tenantId ∉ missing)
  each : ∀ r ∈ done, r.tenantId ∈ missing ∨ r ∈ n.failed ∨ Call.Done own (call r)

theorem Counted.skip {done : List Membership} {n : Counts} {r : Membership}
    (h : Counted missing done n own)
    (hr : r.tenantId ∈ missing) :
    Counted missing (done ++ [r]) { n with skipped := n.skipped + 1 } own where
  total := by simp only [List.length_append, List.length_singleton, h.total]; omega
  skipped := by simp [h.skipped, hr]
  failed := by simpa [hr] using h.failed
  each r' hr' := by
    rcases List.mem_append.1 hr' with hr' | hr'
    · exact h.each r' hr'
    · obtain rfl := List.mem_singleton.1 hr'
      exact .inl hr

theorem Counted.next {done : List Membership} {n : Counts} {r : Membership} {added : Bool}
    {new : Log Request Answer}
    (h : Counted missing done n own) (hr : r.tenantId ∉ missing)
    (hadded : added = true → Call.Done new (call r)) :
    Counted missing (done ++ [r])
      (if added then { n with added := n.added + 1 } else { n with
        failed := n.failed ++ [r] }) (own ++ new) := by
  have hold : ∀ r' ∈ done, r'.tenantId ∈ missing ∨ r' ∈ n.failed ∨
      Call.Done (own ++ new) (call r') :=
    fun r' hr' => (h.each r' hr').imp_right fun h' => h'.imp_right fun hdone =>
      done_append hdone new
  cases added with
  | true =>
    refine ⟨?_, ?_, ?_, fun r' hr' => ?_⟩
    · simp only [List.length_append, List.length_singleton, h.total, if_true]
      omega
    · simp [h.skipped, hr]
    · simpa [hr] using h.failed.trans (List.sublist_append_left _ _)
    · rcases List.mem_append.1 hr' with hr' | hr'
      · exact hold r' hr'
      · obtain rfl := List.mem_singleton.1 hr'
        exact .inr (.inr (done_after (hadded rfl) own))
  | false =>
    rw [if_neg (by simp)]
    refine ⟨?_, ?_, ?_, fun r' hr' => ?_⟩
    · simp only [List.length_append, List.length_singleton, h.total]
      omega
    · simp [h.skipped, hr]
    · simpa [hr] using h.failed.append (List.Sublist.refl [r])
    · rcases List.mem_append.1 hr' with hr' | hr'
      · exact (hold r' hr').imp_right fun h' => h'.imp_left fun hmem => List.mem_append_left _ hmem
      · obtain rfl := List.mem_singleton.1 hr'
        exact .inr (.inl (List.mem_append_right _ List.mem_cons_self))

/-- The rows are gone through, one after the other. -/
theorem conducts_addRows (srv : Service Request Answer) (start : Log Request Answer)
    (own : Log Request Answer)
    (rows : List Membership) (missing : List String) {E : Raised → Log Request Answer → Prop} :
    Conducts start (Asks true rows) (· = own) (rows.foldlM (addRow srv missing) ⟨0, [], 0⟩)
      (fun n own' => (∃ new, own' = own ++ new) ∧ Counted missing rows n own') E := by
  have hround : ∀ r rest n, Conducts start (Asks true rows)
      (fun own' => ∃ done, rows = done ++ r :: rest ∧ (∃ new, own' = own ++ new) ∧
        Counted missing done n own')
      (addRow srv missing n r)
      (fun n' own' => ∃ done, rows = done ++ rest ∧ (∃ new, own' = own ++ new) ∧
        Counted missing done n' own') E := by
    refine fun r rest n => conducts_at fun own' h => ?_
    obtain ⟨done, hdone, ⟨new, rfl⟩, hcounted⟩ := h
    unfold addRow
    by_cases hr : r.tenantId ∈ missing
    · rw [if_pos hr]
      exact conducts_pure fun own' h =>
        ⟨done ++ [r], by simp [hdone], ⟨new, h⟩, h ▸ hcounted.skip hr⟩
    · rw [if_neg hr]
      have hmem : r ∈ rows := by simp [hdone]
      refine conducts_bind
        (Conducts.call_answers (fun start => kept_addToOrganization srv r.email r.tenantId start _)
        fun old own q _ h => .inr (.inr ⟨rfl, r, hmem, h.after old⟩)) fun added =>
          conducts_pure fun own' h => ?_
      obtain ⟨old, new', rfl, rfl, hadded⟩ := h
      exact ⟨done ++ [r], by simp [hdone], ⟨new ++ new', List.append_assoc _ _ _⟩,
        hcounted.next hr hadded.1⟩
  refine (conducts_foldlM (fun rest n own' => ∃ done, rows = done ++ rest ∧
    (∃ new, own' = own ++ new) ∧
    Counted missing done n own') hround rows ⟨0, [], 0⟩).mono (fun _ _ => id) ?_ ?_ fun _ _ => id
  · rintro _ rfl
    exact ⟨[], rfl, ⟨[], (List.append_nil _).symm⟩, ⟨rfl, rfl, List.Sublist.refl _, nofun⟩⟩
  · rintro n own' ⟨done, hdone, h⟩
    rw [List.append_nil] at hdone
    rwa [hdone]

/-- What a run of the script has come to. -/
structure Backfilled (apply : Bool) (rows : List Membership) (own : Log Request Answer)
    (report : Report) : Prop where
  /-- A tenant of a row is missing if and only if it is so in the listings. -/
  looked : Looked (tenants rows) report.missingOrgs own
  /-- Rows are counted only where they are applied. -/
  counted : if apply = true then ∃ n, report = .applied report.missingOrgs n ∧
    Counted report.missingOrgs rows n own
    else report = .dryRun report.missingOrgs ((rows.take 20).map (mark report.missingOrgs))
      (rows.length - 20)

end Facts

end Backfill

end Sams.Keycloak
