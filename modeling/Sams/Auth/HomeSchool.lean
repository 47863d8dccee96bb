import Sams.Auth.Outcome

/-!
# The school of a token

Where no school is selected, a request belongs to the school that its token names: unless the name
is one of the platform's, or the role is one that nobody has been placed in yet. Then the email is
looked up, and the newest membership or invitation decides, whatever school the token names
(**`honouredAtHome_iff`**).
-/

namespace Sams.Auth

open Programs Authz

theorem firstNonEmpty_cons {guess : String} (h : guess ≠ "") (rest : List (Option String)) :
    Claims.firstNonEmpty (some guess :: rest) = guess := by
  unfold Claims.firstNonEmpty
  rw [Text.nonEmpty_some h]
  rfl

/-- The email of a token of our own. -/
@[simp] theorem emailOr_claims (token : AccessToken) : token.claims.emailOr = token.email := by
  unfold Claims.emailOr AccessToken.claims
  by_cases h : token.email = ""
  · rw [h]
    rfl
  · rw [Text.nonEmpty_some h]
    rfl

@[simp] theorem orgAmbiguous_claims (token : AccessToken) : token.claims.orgAmbiguous = false := rfl

section HomeSchool

variable [Unicode]

/-- A token of our own hints at the school that it names. -/
@[simp] theorem hintedTenant_claims (token : AccessToken) :
    token.claims.hintedTenant = token.tenantId := by
  by_cases h : token.tenantId = ""
  · rw [h]
    unfold Claims.hintedTenant AccessToken.claims
    rw [h]
    rfl
  · exact firstNonEmpty_cons h _

theorem recognised_tenantId (w : World) (token : AccessToken) :
    (w.recognised token.claims false).tenantId = token.tenantId := by
  unfold World.recognised recognise
  dsimp only
  split_ifs <;> exact hintedTenant_claims token

namespace World

variable (w : World)

/-- The caller of a token of our own. -/
def holder (token : AccessToken) : Caller := w.callerOf token.claims false

/-- The school that the newest invitation, or else the newest membership, of the caller names. -/
def schoolByEmail (c : Caller) (r : Resolution) : Option String :=
  match w.lastInvitation c.email r with
  | some m => some m.tenantId
  | none => (w.tenantsForEmail c.email).head?.map MembershipRow.tenantId

/-- The first tenant in whose table the email is. -/
def schoolByTable (email : String) : List TenantRow → Option String
  | [] => none
  | t :: ts =>
    if t.tenantId ≠ "" ∧ (w.rowIn email t.tenantId).isSome then some t.tenantId
    else schoolByTable email ts

/-- Where the email of a caller is looked up, the school that is found. -/
def ledTo (c : Caller) (r : Resolution) : String :=
  let found := if needsLastResort c r then (w.schoolByEmail c r).getD r.tenantId else r.tenantId
  if needsScan c { r with tenantId := found } then (w.schoolByTable c.email w.tenants).getD found
  else found

end World

theorem lookedUp_tenantId (w : World) (c : Caller) (r : Resolution) :
    (w.lookedUp c r).tenantId =
      if needsLastResort c r then (w.schoolByEmail c r).getD r.tenantId else r.tenantId := by
  unfold World.lookedUp World.lastResort World.schoolByEmail
  split_ifs with h
  · cases w.lastInvitation c.email r with
    | some m => rfl
    | none =>
      unfold World.mappedTo
      dsimp only
      cases (w.tenantsForEmail c.email).head? with
      | none => rfl
      | some m =>
        dsimp only
        split_ifs <;> rfl
  · rfl

theorem scanned_tenantId (w : World) (email : String) (r : Resolution) (tenants : List TenantRow) :
    (w.scanned email r tenants).tenantId = (w.schoolByTable email tenants).getD r.tenantId := by
  induction tenants with
  | nil => rfl
  | cons t ts ih =>
    unfold World.scanned World.schoolByTable
    by_cases ht : t.tenantId = ""
    · rw [if_pos ht, if_neg (fun h => h.1 ht), ih]
    · rw [if_neg ht]
      cases hrow : w.rowIn email t.tenantId with
      | none =>
        rw [if_neg (by simp)]
        exact ih
      | some u =>
        rw [if_pos ⟨ht, rfl⟩]
        dsimp only [takeFound]
        split_ifs <;> rfl

/-- Without a selection, the school is the one that the caller is led to. -/
theorem searched_tenantId (w : World) (c : Caller) (r : Resolution) :
    (w.searched c (w.lookedUp c r)).tenantId = w.ledTo c r := by
  have hscan : needsScan c (w.lookedUp c r) =
      needsScan c { r with tenantId := (w.lookedUp c r).tenantId } := rfl
  unfold World.searched World.ledTo
  dsimp only
  rw [hscan, lookedUp_tenantId]
  split_ifs
  · rw [scanned_tenantId, lookedUp_tenantId, if_pos ‹_›]
  · rw [lookedUp_tenantId, if_pos ‹_›]
  · rw [scanned_tenantId, lookedUp_tenantId, if_neg ‹_›]
  · rw [lookedUp_tenantId, if_neg ‹_›]

/-- The tenant's table changes no school. -/
theorem placedIn_tenantId {w : World} {c : Caller} {switched : Bool} {r r' : Resolution}
    (h : w.placedIn c switched r = some r') : r'.tenantId = r.tenantId := by
  unfold World.placedIn at h
  by_cases hskip : c.email = "" ∨ w.reachable r.tenantId = false
  · rw [if_pos hskip] at h
    cases h
    rfl
  · rw [if_neg hskip] at h
    cases hrow : w.rowIn c.email r.tenantId with
    | some u =>
      rw [hrow] at h
      cases h
      unfold withUserRow
      dsimp only
      split_ifs <;> rfl
    | none =>
      rw [hrow] at h
      cases switched with
      | true => cases h
      | false =>
        cases h
        rfl

/-- It refuses only a selection. -/
theorem placedIn_isSome (w : World) (c : Caller) (r : Resolution) :
    ∃ r', w.placedIn c false r = some r' := by
  unfold World.placedIn
  by_cases hskip : c.email = "" ∨ w.reachable r.tenantId = false
  · exact ⟨r, if_pos hskip⟩
  · rw [if_neg hskip]
    cases w.rowIn c.email r.tenantId with
    | some u => exact ⟨_, rfl⟩
    | none => exact ⟨r, rfl⟩

/-- The school of a request without a selection; `none` refuses. -/
theorem handled_home (w : World) (c : Caller) (r : Resolution) :
    (w.handled c none r).map (fun x => x.2.tenantId) =
      if unresolved (w.ledTo c r) then if c.isSuperAdmin then some "" else none
      else if w.shutOut c (w.ledTo c r) then none else some (w.ledTo c r) := by
  have hschool : w.schoolOf c none r =
      (settled c (w.searched c (w.lookedUp c r))).map fun r => (r, false) := rfl
  rw [← searched_tenantId]
  unfold World.handled
  rw [hschool]
  generalize w.searched c (w.lookedUp c r) = r₁
  unfold settled
  by_cases hunresolved : unresolved r₁.tenantId = true
  · rw [if_pos hunresolved, if_pos hunresolved]
    cases hsuper : c.isSuperAdmin with
    | false => rfl
    | true =>
      have hopen : w.shutOut c "" = false := by
        simp [World.shutOut]
      have hplaced : w.placedIn c false { r₁ with tenantId := "" } =
          some { r₁ with tenantId := "" } :=
        if_pos (.inr (by simp [World.reachable]))
      simp [hplaced, hopen]
  · rw [if_neg hunresolved, if_neg hunresolved]
    obtain ⟨r', hr'⟩ := placedIn_isSome w c r₁
    have htenant := placedIn_tenantId hr'
    simp only [Option.map_some, Option.bind_some, hr', htenant]
    split_ifs
    · rfl
    · rw [Option.map_some, htenant]

/-- A token of our own is handled until it expires. -/
theorem userOf_internal {w : World} {token : AccessToken} {request : HttpRequest}
    (hcredentials : request.credentials = some (.internal token)) (hexp : w.now < token.exp) :
    w.userOf request =
      w.handled (w.holder token) request.selection (w.recognised token.claims false) := by
  unfold World.userOf World.claimsOf
  rw [hcredentials]
  dsimp only
  rw [if_neg (Nat.not_le.2 hexp)]
  rfl

theorem userOf_expired {w : World} {token : AccessToken} {request : HttpRequest}
    (hcredentials : request.credentials = some (.internal token)) (hexp : token.exp ≤ w.now) :
    w.userOf request = none := by
  unfold World.userOf World.claimsOf
  rw [hcredentials]
  dsimp only
  rw [if_pos hexp]
  rfl

theorem ne_empty_of_resolved {t : String} (h : unresolved t ≠ true) : t ≠ "" := by
  rintro rfl
  exact h (decide_eq_true (.inl rfl))

variable [Platform]

/-- The school of the user that a request comes to. -/
theorem tenant_answers (request : HttpRequest) (s : State) :
    Answers ((s.val.userOf request).map fun x => x.2.tenantId)
      (fun t u _ => u.tenantId = Text.nonEmpty (some t)) (getCurrentUser request) s := by
  have h := getCurrentUser_answers request s
  cases hx : s.val.userOf request with
  | none =>
    rw [hx] at h
    exact h
  | some x =>
    rw [hx] at h
    refine Reaches.mono h fun u _ hu => ?_
    exact congrArg CurrentUser.tenantId hu

/-- A token is honoured in its own school: what it is not refused, it is handled in. -/
def HonouredAtHome (s : State) (token : AccessToken) : Prop :=
  ∀ request : HttpRequest, request.credentials = some (.internal token) → request.selection = none →
    ∀ u s', getCurrentUser request s = .ok u s' → u.tenantId = some token.tenantId

/-- The token leads the caller to a school that it does not name, and is not refused there. -/
def LedAway (s : State) (token : AccessToken) : Prop :=
  let c := s.val.holder token
  let school := s.val.ledTo c (s.val.recognised token.claims false)
  s.val.now < token.exp ∧
    if unresolved school then c.isSuperAdmin = true
    else school ≠ token.tenantId ∧ s.val.shutOut c school = false

theorem not_honoured_of {s : State} {token : AccessToken} {t : String}
    (h : (s.val.userOf { credentials := some (.internal token) }).map (fun x => x.2.tenantId) =
      some t)
    (hne : Text.nonEmpty (some t) ≠ some token.tenantId) : ¬HonouredAtHome s token := by
  intro hhome
  have hanswers := tenant_answers { credentials := some (.internal token) } s
  rw [h] at hanswers
  obtain ⟨u, s', hok, hu⟩ := hanswers
  rw [hhome _ rfl rfl u s' hok] at hu
  exact hne hu.symm

/-- **A token is honoured in its own school** exactly where its email leads to no other one. -/
theorem honouredAtHome_iff (s : State) (token : AccessToken) :
    HonouredAtHome s token ↔ ¬LedAway s token := by
  have hhandled := handled_home s.val (s.val.holder token) (s.val.recognised token.claims false)
  unfold LedAway
  dsimp only
  generalize hschool : s.val.ledTo (s.val.holder token) (s.val.recognised token.claims false) =
    school at *
  constructor
  · rintro hhome ⟨hexp, haway⟩
    have huser : s.val.userOf { credentials := some (.internal token) } = _ :=
      userOf_internal rfl hexp
    by_cases hunresolved : unresolved school = true
    · rw [if_pos hunresolved] at haway hhandled
      rw [if_pos haway] at hhandled
      exact not_honoured_of ((congrArg _ huser).trans hhandled) (Option.some_ne_none _).symm hhome
    · rw [if_neg hunresolved] at haway hhandled
      rw [if_neg (by simp [haway.2])] at hhandled
      refine not_honoured_of ((congrArg _ huser).trans hhandled) ?_ hhome
      rw [Text.nonEmpty_some (ne_empty_of_resolved hunresolved), ne_eq, Option.some_inj]
      exact haway.1
  · intro haway request hcredentials hselection u s' hok
    obtain ⟨t, ht, hu⟩ := (tenant_answers request s).of_ok hok
    by_cases hexp : token.exp ≤ s.val.now
    · rw [userOf_expired hcredentials hexp] at ht
      cases ht
    · rw [userOf_internal hcredentials (Nat.lt_of_not_le hexp), hselection, hhandled] at ht
      have haway := fun h => haway ⟨Nat.lt_of_not_le hexp, h⟩
      by_cases hunresolved : unresolved school = true
      · rw [if_pos hunresolved] at haway ht
        rw [if_neg haway] at ht
        cases ht
      · rw [if_neg hunresolved] at haway ht
        cases hshut : s.val.shutOut (s.val.holder token) school with
        | true =>
          rw [hshut, if_pos rfl] at ht
          cases ht
        | false =>
          rw [hshut, if_neg Bool.false_ne_true, Option.some_inj] at ht
          have hsame : school = token.tenantId := by
            by_contra hne
            exact haway ⟨hne, hshut⟩
          rw [hu, ← ht, Text.nonEmpty_some (ne_empty_of_resolved hunresolved), hsame]

end HomeSchool

/-! ## A student of two schools -/

section Example

attribute [local instance] ascii plain

/-- A student whose membership of the second school is the newer one. -/
def twoSchoolStudent : State where
  val :=
    { tenants := [⟨"north"⟩, ⟨"south"⟩]
      schemas := [⟨"north", [⟨1, "s@x", "student", [], [], "$p"⟩], 2⟩,
        ⟨"south", [⟨1, "s@x", "student", [], [], "$p"⟩], 2⟩]
      superAdmins := [], parents := [], parentTenantLinks := [], identities := [⟨2, "s@x"⟩]
      userTenantMap := [⟨2, "s@x", "north", "student", .active, 0, none, true⟩,
        ⟨2, "s@x", "south", "student", .active, 5, none, false⟩]
      invitations := [], userInvitations := [], selectionChallenges := [], refreshTokens := []
      opened := [], unreachable := [], membershipCache := [], seq := 3, now := 10 }
  ok := by decide +kernel

/-- What the student got by logging in to the first school. -/
def northToken : AccessToken := ⟨"1", "north", "student", ["student"], "s@x", 900, some 2⟩

/-- Its request is handled in the second school. -/
theorem northToken_ledAway : ¬HonouredAtHome twoSchoolStudent northToken :=
  not_honoured_of (t := "south") (by decide +kernel) (by decide)

end Example

end Sams.Auth
