import Sams.Auth.HomeSchool
import Sams.Lib.Runs

/-!
# Selecting a school

Who is no super admin selects a school from its memberships, and the cache may hold memberships that
have ended. A selection is handled in a school of which the caller is not a member, by an active
membership or a parent's link, exactly where the membership that it finds has ended, or was never
active, and nothing else refuses it (**`currentOnly_iff`**, **`selections_run`**).
-/

namespace Sams.Auth

open Programs Rows Runs Authz

section Selection

variable [Unicode]

/-- The email has an active membership in the tenant, or a parent's link to it. -/
def World.backed (w : World) (email tenantId : String) : Bool :=
  w.userTenantMap.any (fun m =>
      CiEq m.email (normalize email) ∧ m.tenantId = tenantId ∧ m.status = .active) ∨
    (w.parentByEmail (normalize email)).any fun p => w.linked p.id tenantId

/-- The membership that a selection finds. -/
def Caller.selects (c : Caller) (selection : String) : Option Membership :=
  c.memberships.find? (selected (Text.lower (Text.strip selection)))

/-- A selection of another school than the token's needs a row there, unless the
pool does not open. -/
def World.accepts (w : World) (c : Caller) (home tenantId : String) : Bool :=
  unresolved tenantId = false ∧ w.shutOut c tenantId = false ∧
    (tenantId = home ∨ c.email = "" ∨ w.reachable tenantId = false ∨
      (w.rowIn c.email tenantId).isSome)

/-- What becomes of a selection: the tenant's table is read, and nothing is looked up. -/
theorem handled_selects {w : World} {c : Caller} {r : Resolution} {selection : String}
    (hsuper : c.isSuperAdmin = false) (hselection : Text.strip selection ≠ "") :
    w.handled c (some selection) r = (c.selects selection).bind fun m =>
      if unresolved m.tenantId then none
      else (w.placedIn c (m.tenantId ≠ (w.lookedUp c r).tenantId)
          { w.lookedUp c r with tenantId := m.tenantId }).bind fun r' =>
        if w.shutOut c m.tenantId then none else some (c, r') := by
  have hfilter : (some selection).filter (fun t => Text.strip t ≠ "") = some selection :=
    Option.filter_some_pos (decide_eq_true hselection)
  unfold World.handled World.schoolOf chosen
  rw [hfilter]
  dsimp only
  rw [hsuper, if_neg Bool.false_ne_true]
  change (((c.selects selection).map _).bind _).bind _ = _
  cases hfound : c.selects selection with
  | none => rfl
  | some m =>
    have hscan : ∀ r, w.searched c r = r := by
      intro r
      have hne : c.memberships ≠ [] := List.ne_nil_of_mem (List.mem_of_find?_eq_some hfound)
      unfold World.searched
      rw [if_neg]
      simp [needsScan, hne]
    simp only [Option.map_some, Option.bind_some, hscan]
    unfold settled
    rw [hsuper]
    by_cases hunresolved : unresolved m.tenantId = true
    · rw [if_pos hunresolved, if_pos hunresolved]
      rfl
    · rw [if_neg hunresolved, if_neg hunresolved, Option.map_some, Option.bind_some]
      refine Option.bind_congr fun r' hr' => ?_
      rw [placedIn_tenantId hr']

theorem placedIn_eq_none {w : World} {c : Caller} {switched : Bool} {r : Resolution} :
    w.placedIn c switched r = none ↔ switched = true ∧ c.email ≠ "" ∧
      w.reachable r.tenantId = true ∧ w.rowIn c.email r.tenantId = none := by
  unfold World.placedIn
  by_cases hskip : c.email = "" ∨ w.reachable r.tenantId = false
  · rw [if_pos hskip]
    simp only [reduceCtorEq, false_iff]
    rintro ⟨-, hemail, hreach, -⟩
    rcases hskip with h | h
    · exact hemail h
    · rw [hreach] at h
      cases h
  · rw [if_neg hskip]
    simp only [not_or, Bool.not_eq_false] at hskip
    cases w.rowIn c.email r.tenantId with
    | some u => simp
    | none => cases switched <;> simp [hskip.1, hskip.2]

/-- Where a selection is handled. -/
theorem handled_selected {w : World} {c : Caller} {r : Resolution} {selection : String}
    (hsuper : c.isSuperAdmin = false) (hselection : Text.strip selection ≠ "") :
    (w.handled c (some selection) r).map (fun x => x.2.tenantId) =
      (((c.selects selection).map Membership.tenantId).filter fun t =>
        w.accepts c (w.lookedUp c r).tenantId t) := by
  rw [handled_selects hsuper hselection]
  cases c.selects selection with
  | none => rfl
  | some m =>
    rw [Option.bind_some, Option.map_some, Option.filter_some]
    generalize w.lookedUp c r = r₁
    unfold World.accepts
    by_cases hunresolved : unresolved m.tenantId = true
    · rw [if_pos hunresolved, if_neg (by simp [hunresolved])]
      rfl
    · rw [if_neg hunresolved]
      have hresolved : unresolved m.tenantId = false := by simpa using hunresolved
      cases hplaced : w.placedIn c (m.tenantId ≠ r₁.tenantId) { r₁ with
        tenantId := m.tenantId } with
      | none =>
        obtain ⟨hswitched, hemail, hreach, hrow⟩ := placedIn_eq_none.1 hplaced
        rw [if_neg]
        · rfl
        · simp_all
      | some r' =>
        have htenant : r'.tenantId = m.tenantId := placedIn_tenantId hplaced
        have hsome : ¬(m.tenantId ≠ r₁.tenantId ∧ c.email ≠ "" ∧ w.reachable m.tenantId = true ∧
            w.rowIn c.email m.tenantId = none) := by
          rintro ⟨hne, h⟩
          rw [placedIn_eq_none.2 ⟨decide_eq_true hne, h⟩] at hplaced
          cases hplaced
        rw [Option.bind_some]
        cases hshut : w.shutOut c m.tenantId with
        | true => simp
        | false =>
          rw [if_neg Bool.false_ne_true, if_pos]
          · rw [Option.map_some, htenant]
          · refine decide_eq_true ⟨hresolved, rfl, ?_⟩
            by_contra hnot
            simp only [not_or, Bool.not_eq_false, Bool.not_eq_true, Option.isSome_eq_false_iff,
              Option.isNone_iff_eq_none] at hnot
            exact hsome hnot

/-! ## Requests -/

/-- The request selects a school, and its caller is no super admin. -/
structure Selects (w : World) (request : HttpRequest) (claims : Claims) (isKeycloak : Bool)
    (selection : String) : Prop where
  honoured : w.claimsOf request.credentials = some (claims, isKeycloak)
  ordinary : (w.callerOf claims isKeycloak).isSuperAdmin = false
  named : request.selection = some selection
  stated : Text.strip selection ≠ ""

/-- The membership that is found has ended or was never active, and the selection is accepted. -/
def HonoursStale (s : State) (request : HttpRequest) : Prop :=
  ∃ claims isKeycloak selection, Selects s.val request claims isKeycloak selection ∧
    ∃ m, (s.val.callerOf claims isKeycloak).selects selection = some m ∧
      s.val.backed claims.emailOr m.tenantId = false ∧
      s.val.accepts (s.val.callerOf claims isKeycloak)
        (s.val.lookedUp (s.val.callerOf claims isKeycloak)
          (s.val.recognised claims isKeycloak)).tenantId m.tenantId = true

theorem userOf_selects {w : World} {request : HttpRequest} {claims : Claims} {isKeycloak : Bool}
    {selection : String} (h : Selects w request claims isKeycloak selection) :
    (w.userOf request).map (fun x => x.2.tenantId) =
      ((((w.callerOf claims isKeycloak).selects selection).map Membership.tenantId).filter fun t =>
        w.accepts (w.callerOf claims isKeycloak) (w.lookedUp (w.callerOf claims isKeycloak)
          (w.recognised claims isKeycloak)).tenantId t) := by
  unfold World.userOf World.resolved
  rw [h.honoured, h.named, Option.bind_some]
  exact handled_selected h.ordinary h.stated

variable [Platform]

/-- A selection is handled only in a school of which the caller is a member now. -/
def CurrentOnly (s : State) (request : HttpRequest) : Prop :=
  ∀ claims isKeycloak selection, Selects s.val request claims isKeycloak selection →
    ∀ u s', getCurrentUser request s = .ok u s' → ∀ t, u.tenantId = some t →
      s.val.backed claims.emailOr t = true

theorem not_currentOnly_of {s : State} {request : HttpRequest} {claims : Claims} {isKeycloak : Bool}
    {selection t : String} (h : Selects s.val request claims isKeycloak selection)
    (huser : (s.val.userOf request).map (fun x => x.2.tenantId) = some t) (ht : t ≠ "")
    (hended : s.val.backed claims.emailOr t = false) : ¬CurrentOnly s request := by
  intro hcurrent
  have hanswers := tenant_answers request s
  rw [huser] at hanswers
  obtain ⟨u, s', hok, hu⟩ := hanswers
  rw [Text.nonEmpty_some ht] at hu
  rw [hcurrent claims isKeycloak selection h u s' hok t hu] at hended
  cases hended

/-- **One selection** is by current membership exactly where it does not honour a stale one. -/
theorem currentOnly_iff (s : State) (request : HttpRequest) :
    CurrentOnly s request ↔ ¬HonoursStale s request := by
  constructor
  · rintro hcurrent ⟨claims, isKeycloak, selection, h, m, hfound, hended, haccepts⟩
    have hresolved : unresolved m.tenantId ≠ true := by
      simp only [World.accepts, decide_eq_true_eq] at haccepts
      simp [haccepts.1]
    refine not_currentOnly_of h ?_ (ne_empty_of_resolved hresolved) hended hcurrent
    rw [userOf_selects h, hfound, Option.map_some, Option.filter_some_pos haccepts]
  · intro hstale claims isKeycloak selection h u s' hok t ht
    obtain ⟨t', ht', hu⟩ := (tenant_answers request s).of_ok hok
    rw [userOf_selects h, Option.filter_eq_some_iff] at ht'
    obtain ⟨hfound, haccepts⟩ := ht'
    obtain ⟨m, hm, rfl⟩ := Option.map_eq_some_iff.1 hfound
    have hresolved : unresolved m.tenantId ≠ true := by
      simp only [World.accepts, decide_eq_true_eq] at haccepts
      simp [haccepts.1]
    rw [Text.nonEmpty_some (ne_empty_of_resolved hresolved), ht, Option.some_inj] at hu
    subst hu
    by_contra hended
    exact hstale ⟨claims, isKeycloak, selection, h, m, hm, by simpa using hended, haccepts⟩

/-! ## Runs -/

/-- What happens to the memberships, and the requests in between. -/
inductive SelectOp where
  | membership (op : MembershipOp)
  | remove (email tenantId : String)
  | request (r : HttpRequest)
  | tick (seconds : Nat)
  deriving DecidableEq, Repr

def SelectOp.program : SelectOp → Prog Unit
  | membership op => op.program
  | remove email tenantId => ControlPlaneRepository.removeUserTenantMap email tenantId
  | request r => discard (getCurrentUser r)
  | tick seconds => write fun w => { w with now := w.now + seconds }

def SelectOp.step (s : State) (op : SelectOp) : State := after op.program s

/-- Every request that is made is by current membership. -/
def ByMembership (s : State) : SelectOp → Prop
  | .request r => CurrentOnly s r
  | _ => True

/-- No request honours a stale membership. -/
def NoStale (s : State) : SelectOp → Prop
  | .request r => ¬HonoursStale s r
  | _ => True

/-- **Selections use the current memberships** in exactly the runs in which no
request finds a stale one. -/
theorem selections_run (s : State) (ops : List SelectOp) :
    EachStep SelectOp.step ByMembership s ops ↔ EachStep SelectOp.step NoStale s ops := by
  have hstep : ∀ s op, ByMembership s op ↔ NoStale s op := by
    intro s op
    cases op with
    | request r => exact currentOnly_iff s r
    | membership op => exact Iff.rfl
    | remove email tenantId => exact Iff.rfl
    | tick seconds => exact Iff.rfl
  exact ⟨EachStep.mono fun s op => (hstep s op).1, EachStep.mono fun s op => (hstep s op).2⟩

end Selection

/-! ## A membership that the cache remembers -/

section Example

attribute [local instance] ascii plain

/-- The token of the student for the first school, and a header for the second. -/
def southRequest : HttpRequest :=
  { credentials := some (.internal northToken), xTenantId := some "south" }

/-- The membership of the second school is removed between two requests. -/
def removedBetween : List SelectOp :=
  [.request southRequest, .remove "s@x" "south", .tick 1, .request southRequest]

/-- The second request is still handled there. -/
theorem removed_honoured :
    ¬EachStep SelectOp.step ByMembership twoSchoolStudent removedBetween := by
  rintro ⟨-, -, -, hlast, -⟩
  have hselects : Selects (run SelectOp.step twoSchoolStudent (removedBetween.take 3)).val
      southRequest
      northToken.claims false "south" :=
    ⟨by decide +kernel, by decide +kernel, rfl, by decide +kernel⟩
  exact not_currentOnly_of (t := "south") hselects (by decide +kernel) (by decide)
    (by decide +kernel) hlast

end Example

end Sams.Auth
