import Sams.Health.Records
import Sams.Lib.Runs

/-!
# What a health record shows

A run of writes leaves for each student what was written last. No read shows it in full, since the
list of a caller's roles is no text; and a mask shows the end of a value, which is all of a value
that is no longer than that.

* **`written_run`** — the record of a student decrypts to what was written last.
* **`masked_iff`** — when the end of a value behind asterisks conceals the value.
* **`shown_iff`** — when a read shows what it is to show.
-/

namespace Sams.Health

open Programs Rows Runs Authz TenantRepository TenantService

/-! ## What has been written -/

/-- A call of `create_or_update_health_record`. -/
structure Write where
  draws : Draws
  studentId : Nat
  values : Values
  userRole : UserRole
  deriving DecidableEq, Repr

/-- A school, and what has last been written for each student. -/
structure HealthRun where
  db : State
  last : Nat → Option Values

section Writes

variable [Fernet]

def Write.program (w : Write) : Prog Nat :=
  createOrUpdateHealthRecord w.draws w.studentId w.values w.userRole

/-- A call that raises has written nothing. -/
def HealthRun.step (r : HealthRun) (w : Write) : HealthRun where
  db := after w.program r.db
  last :=
    if returns w.program r.db then Function.update r.last w.studentId (some w.values) else r.last

/-- The record of a student, decrypted. -/
def recordOf (t : Tables) (studentId : Nat) : Option (Option Values) :=
  (getStudentHealthByStudentId t studentId).map decryptRow

/-- Every student has what was written last, and no record where nothing was. -/
def HealthRun.UpToDate (r : HealthRun) : Prop :=
  ∀ studentId, recordOf r.db.val studentId = (r.last studentId).map some

/-- The row that a write inserts, and the fields that it writes in a row that is there. -/
def Write.row (w : Write) : HealthRow where
  id := w.draws.id
  studentId := w.studentId
  nationalIdEncrypted := encrypt w.draws.nationalId w.values.nationalId
  medicalConditionsEncrypted := encrypt w.draws.medicalConditions w.values.medicalConditions
  emergencyContactEncrypted := encrypt w.draws.emergencyContact w.values.emergencyContact

def Write.patch (w : Write) (r : HealthRow) : HealthRow :=
  { w.row with id := r.id, studentId := r.studentId }

/-- The tables after a write. -/
def Write.onTables (w : Write) (t : Tables) : Tables :=
  match getStudentHealthByStudentId t w.studentId with
  | some _ =>
    { t with records := updateWhere (fun r => r.studentId = w.studentId) w.patch t.records }
  | none => { t with records := t.records ++ [w.row] }

variable [LawfulFernet]

theorem decryptRow_row (w : Write) : decryptRow w.row = some w.values := by
  unfold decryptRow Write.row
  dsimp only
  rw [decrypt_encrypt, decrypt_encrypt, decrypt_encrypt]
  rfl

theorem decryptRow_patch (w : Write) (r : HealthRow) : decryptRow (w.patch r) = some w.values :=
  decryptRow_row w

/-- The student has the values, and no other record is touched. -/
theorem recordOf_onTables (w : Write) (t : Tables) (studentId : Nat) :
    recordOf (w.onTables t) studentId =
      if studentId = w.studentId then some (some w.values) else recordOf t studentId := by
  unfold Write.onTables
  cases hfound : getStudentHealthByStudentId t w.studentId with
  | some row =>
    unfold getStudentHealthByStudentId at hfound
    unfold recordOf getStudentHealthByStudentId
    dsimp only
    rw [find?_updateWhere]
    · by_cases hid : studentId = w.studentId
      · rw [hid, hfound, if_pos rfl, Option.map_some, Option.map_some,
          if_pos (List.find?_some hfound), decryptRow_patch]
      · rw [if_neg hid]
        cases hrow : t.records.find? fun r => decide (r.studentId = studentId) with
        | none => rfl
        | some r =>
          have hr := List.find?_some hrow
          rw [decide_eq_true_eq] at hr
          have hne : ¬decide (r.studentId = w.studentId) = true := by
            rw [decide_eq_true_eq, hr]
            exact hid
          rw [Option.map_some, if_neg hne]
    · exact fun _ => rfl
  | none =>
    unfold getStudentHealthByStudentId at hfound
    unfold recordOf getStudentHealthByStudentId
    dsimp only
    rw [List.find?_append, List.find?_singleton]
    by_cases hid : studentId = w.studentId
    · have hrow : decide (w.row.studentId = studentId) = true := decide_eq_true hid.symm
      rw [if_pos hrow, if_pos hid, hid, hfound, Option.none_or, Option.map_some, decryptRow_row]
    · have hrow : ¬decide (w.row.studentId = studentId) = true := by
        rw [decide_eq_true_eq]
        exact fun h => hid h.symm
      rw [if_neg hrow, if_neg hid, Option.or_none]

omit [LawfulFernet] in
/-- **A write** is made by staff and leaves the values with the student, or it raises and changes
nothing. -/
theorem write_cases (w : Write) (s : State) :
    (∃ id s', w.program s = .ok id s' ∧ s'.val = w.onTables s.val) ∨
      ∃ e, w.program s = .error e s := by
  have hexec : ∀ (f : Tables → Tables) (id : Nat), f s.val = w.onTables s.val →
      (∃ id' s', (do exec .databaseError f; return id : Prog Nat) s = .ok id' s' ∧
        s'.val = w.onTables s.val) ∨
      ∃ e, (do exec .databaseError f; return id : Prog Nat) s = .error e s := by
    intro f id hf
    by_cases hok : (f s.val).Ok
    · exact .inl ⟨id, ⟨f s.val, hok⟩, bind_of_ok (exec_of hok), hf⟩
    · exact .inr ⟨_, bind_of_error (exec_of_not hok)⟩
  unfold Write.program createOrUpdateHealthRecord
  rw [raiseIf_bind]
  by_cases hstaff : ¬require w.userRole.toList ["school_admin", "teacher"] = true
  · rw [if_pos hstaff]
    exact .inr ⟨_, rfl⟩
  · rw [if_neg hstaff]
    unfold createOrUpdateStudentHealth
    rw [query_bind]
    cases hfound : getStudentHealthByStudentId s.val w.studentId with
    | some row =>
      refine hexec _ row.id ?_
      unfold Write.onTables
      rw [hfound]
      rfl
    | none =>
      refine hexec _ w.draws.id ?_
      unfold Write.onTables
      rw [hfound]
      rfl

theorem upToDate_step {r : HealthRun} (h : r.UpToDate) (w : Write) : (r.step w).UpToDate := by
  intro studentId
  unfold HealthRun.step
  rcases write_cases w r.db with ⟨id, s', hok, hval⟩ | ⟨e, herror⟩
  · have hreturns : returns w.program r.db = true := returns_iff.2 ⟨id, s', hok⟩
    dsimp only
    rw [after_ok hok, hval, recordOf_onTables, if_pos hreturns]
    by_cases hid : studentId = w.studentId
    · rw [if_pos hid, hid, Function.update_self]
      rfl
    · rw [if_neg hid, Function.update_of_ne hid]
      exact h studentId
  · have hreturns : ¬returns w.program r.db = true := by
      intro hr
      obtain ⟨id, s', hok⟩ := returns_iff.1 hr
      cases herror.symm.trans hok
    dsimp only
    rw [after_error herror, if_neg hreturns]
    exact h studentId

/-- **The record of a student** holds what was written last. -/
theorem written_run {r : HealthRun} (h : r.UpToDate) (writes : List Write) :
    (run HealthRun.step r writes).UpToDate := by
  induction writes generalizing r with
  | nil => exact h
  | cons w writes ih => exact ih (upToDate_step h w)

end Writes

/-! ## Masks -/

/-- The text shown is asterisks and a proper end of the value, and it is not the value. -/
def Masks (val shown : String) : Prop :=
  (∃ stars rest, (∀ c ∈ stars, c = '*') ∧ shown.toList = stars ++ rest ∧ rest <:+ val.toList ∧
    rest ≠ val.toList) ∧ shown ≠ val

/-- The last `tail` characters behind `stars` asterisks conceal the value: they are not all of it,
unless it begins with an asterisk, and it does not look like its own mask. -/
def Conceals (stars tail : Nat) (val : String) : Prop :=
  (val.length = tail → val.toList.head? = some '*') ∧
    ¬(val.length = stars + tail ∧ ∀ c ∈ val.toList.take stars, c = '*')

theorem masks_stars {val : String} (hval : val ≠ "") (n : Nat)
    (h : val.length ≠ n) : Masks val (String.ofList (List.replicate n '*')) := by
  refine ⟨⟨List.replicate n '*', [], fun c hc => List.eq_of_mem_replicate hc, by simp,
    List.nil_suffix, ?_⟩, ?_⟩
  · intro hnil
    exact hval (String.toList_eq_nil_iff.1 hnil.symm)
  · intro heq
    rw [← heq] at h
    simp at h

theorem toList_masked (stars tail : Nat) (val : String) :
    (String.ofList (List.replicate stars '*') ++ lastChars tail val).toList =
      List.replicate stars '*' ++ val.toList.drop (val.toList.length - tail) := by
  unfold lastChars
  rw [String.toList_append, String.toList_ofList, String.toList_ofList, String.length_toList]

/-- A proper end of the value can be told from the asterisks, unless it is the whole of it. -/
theorem proper_end_iff {stars tail : Nat} {v : List Char} (hlen : tail ≤ v.length) :
    (∃ front rest, (∀ c ∈ front, c = '*') ∧
      List.replicate stars '*' ++ v.drop (v.length - tail) = front ++ rest ∧
        rest <:+ v ∧ rest ≠ v) ↔
    (v ≠ [] ∧ (v.length = tail → v.head? = some '*')) := by
  constructor
  · intro h
    obtain ⟨front, rest, hfront, happend, hsuffix, hne⟩ := h
    constructor
    · intro hnil
      rw [hnil] at hsuffix hne
      exact hne (List.suffix_nil.1 hsuffix)
    · intro hall
      rw [hall, Nat.sub_self, List.drop_zero] at happend
      rcases List.append_eq_append_iff.1 happend with ⟨more, hstars, hv⟩ | ⟨more, -, hrest⟩
      · cases more with
        | nil => exact absurd hv.symm hne
        | cons c more =>
          have hc : c = '*' := hfront c (by rw [hstars]; simp)
          rw [hv, hc]
          rfl
      · have hle := hsuffix.length_le
        rw [hrest, List.length_append] at hle
        have hmore : more = [] := List.eq_nil_of_length_eq_zero (by omega)
        rw [hmore] at hrest
        exact absurd hrest hne
  · intro h
    obtain ⟨hne, hhead⟩ := h
    by_cases hall : v.length = tail
    · cases v with
      | nil => exact absurd rfl hne
      | cons c v =>
        have hc : c = '*' := Option.some.inj (hhead hall)
        refine ⟨List.replicate stars '*' ++ ['*'], v, ?_, ?_, List.suffix_cons c v, ?_⟩
        · intro x hx
          rcases List.mem_append.1 hx with hx | hx
          · exact List.eq_of_mem_replicate hx
          · exact List.mem_singleton.1 hx
        · rw [hall, Nat.sub_self, List.drop_zero, hc, List.append_assoc]
          rfl
        · exact fun h => List.cons_ne_self c v h.symm
    · refine ⟨List.replicate stars '*', v.drop (v.length - tail), ?_, rfl, List.drop_suffix _ v, ?_⟩
      · exact fun c hc => List.eq_of_mem_replicate hc
      · intro h
        have hlength := congrArg List.length h
        rw [List.length_drop] at hlength
        omega

/-- A value that looks like its own mask. -/
theorem looks_masked_iff {stars tail : Nat} {v : List Char} (hlen : tail ≤ v.length) :
    List.replicate stars '*' ++ v.drop (v.length - tail) = v ↔
      v.length = stars + tail ∧ ∀ c ∈ v.take stars, c = '*' := by
  constructor
  · intro h
    constructor
    · have hlength := congrArg List.length h
      rw [List.length_append, List.length_replicate, List.length_drop] at hlength
      omega
    · intro c hc
      rw [← h, List.take_left' (List.length_replicate ..)] at hc
      exact List.eq_of_mem_replicate hc
  · intro h
    obtain ⟨hlength, hstars⟩ := h
    have htake : v.take stars = List.replicate stars '*' := by
      rw [List.eq_replicate_iff, List.length_take]
      exact ⟨by omega, hstars⟩
    rw [← htake, show v.length - tail = stars by omega]
    exact List.take_append_drop stars v

/-- **The end of a value behind asterisks** is a mask of it just when it conceals it. -/
theorem masked_iff {stars tail : Nat} {val : String} (hval : val ≠ "") (hlen : tail ≤ val.length) :
    Masks val (String.ofList (List.replicate stars '*') ++ lastChars tail val) ↔
      Conceals stars tail val := by
  rw [← String.length_toList] at hlen
  have hne : val.toList ≠ [] := fun h => hval (String.toList_eq_nil_iff.1 h)
  unfold Masks Conceals
  rw [ne_eq, ← String.toList_inj, toList_masked, looks_masked_iff hlen, proper_end_iff hlen,
    String.length_toList, and_iff_right hne]

/-- A branch of `_mask_field`: too short a value is all asterisks. -/
theorem masks_branch {stars tail : Nat} {val mask : String} (hval : val ≠ "") (htail : tail ≤ 8)
    (hmask : mask = String.ofList (List.replicate stars '*')) :
    Masks val (if tail ≤ val.length then mask ++ lastChars tail val else "********") ↔
      Conceals stars tail val := by
  by_cases hlen : tail ≤ val.length
  · rw [if_pos hlen, hmask]
    exact masked_iff hval hlen
  · rw [if_neg hlen]
    refine iff_of_true (masks_stars hval 8 (by omega)) ⟨fun h => ?_, fun h => ?_⟩
    · omega
    · omega

/-- **A field is masked** just when its end conceals it. -/
theorem masks_national_id {val : String} (hval : val ≠ "") :
    Masks val (maskField val "national_id") ↔ Conceals 8 4 val := by
  unfold maskField
  rw [if_neg hval, if_pos rfl]
  exact masks_branch hval (by decide) rfl

theorem masks_medical_conditions {val : String} (hval : val ≠ "") :
    Masks val (maskField val "medical_conditions") ↔ Conceals 3 2 val := by
  unfold maskField
  rw [if_neg hval, if_neg (by decide), if_pos rfl]
  exact masks_branch hval (by decide) rfl

theorem masks_emergency_contact {val : String} (hval : val ≠ "") :
    Masks val (maskField val "emergency_contact") ↔ Conceals 6 4 val := by
  unfold maskField
  rw [if_neg hval, if_neg (by decide), if_neg (by decide), if_pos rfl]
  exact masks_branch hval (by decide) rfl

/-! ## Reads -/

/-- Each value that is there is masked. -/
structure MasksAll (v shown : Values) : Prop where
  nationalId : v.nationalId ≠ "" → Masks v.nationalId shown.nationalId
  medicalConditions : v.medicalConditions ≠ "" → Masks v.medicalConditions shown.medicalConditions
  emergencyContact : v.emergencyContact ≠ "" → Masks v.emergencyContact shown.emergencyContact

/-- Each value that is there is concealed by what a mask shows of it. -/
structure ConcealsAll (v : Values) : Prop where
  nationalId : v.nationalId ≠ "" → Conceals 8 4 v.nationalId
  medicalConditions : v.medicalConditions ≠ "" → Conceals 3 2 v.medicalConditions
  emergencyContact : v.emergencyContact ≠ "" → Conceals 6 4 v.emergencyContact

/-- What a read has to answer: a cleared administrator has what was written last, and everyone else
who is answered has masks of it. -/
def Shows (last : Option Values) (u : CurrentUser) (elevatedClearance : Bool)
    (answer : Except ReadError HealthView) : Prop :=
  if "school_admin" ∈ u.roles ∧ elevatedClearance = true then
    ∀ v, last = some v → ∃ view, answer = .ok view ∧ view.values = v ∧ view.isMasked = false
  else ∀ view, answer = .ok view → ∃ v, last = some v ∧ MasksAll v view.values

/-- The record as a mask shows it. -/
def masked (v : Values) : Values where
  nationalId := maskField v.nationalId "national_id"
  medicalConditions := maskField v.medicalConditions "medical_conditions"
  emergencyContact := maskField v.emergencyContact "emergency_contact"

theorem masksAll_masked {v : Values} : MasksAll v (masked v) ↔ ConcealsAll v := by
  constructor
  · intro h
    exact ⟨fun hval => (masks_national_id hval).1 (h.nationalId hval),
      fun hval => (masks_medical_conditions hval).1 (h.medicalConditions hval),
      fun hval => (masks_emergency_contact hval).1 (h.emergencyContact hval)⟩
  · intro h
    exact ⟨fun hval => (masks_national_id hval).2 (h.nationalId hval),
      fun hval => (masks_medical_conditions hval).2 (h.medicalConditions hval),
      fun hval => (masks_emergency_contact hval).2 (h.emergencyContact hval)⟩

section Reads

variable [Fernet]

/-- **What a read answers**: whoever may look has the masks of what was written, whatever the
clearance. -/
theorem getHealth_ok {t : Tables} {u : CurrentUser} {reached elevatedClearance : Bool}
    {studentId : Nat} {last : Option Values} (h : recordOf t studentId = last.map some) :
    (∀ view, getHealth t u reached studentId elevatedClearance = .ok view →
      ∃ v, last = some v ∧ view.values = masked v ∧ view.isMasked = true) ∧
    ∀ v, last = some v → mayView u reached = true →
      ∃ view, getHealth t u reached studentId elevatedClearance = .ok view := by
  unfold recordOf at h
  unfold getHealth getHealthRecord UserRole.is
  by_cases hmay : mayView u reached = true
  · rw [if_neg (not_not.2 hmay)]
    cases hrow : getStudentHealthByStudentId t studentId with
    | none =>
      rw [hrow] at h
      dsimp only
      refine ⟨fun view hview => (by cases hview), fun v hv => ?_⟩
      rw [hv] at h
      cases h
    | some row =>
      rw [hrow, Option.map_some] at h
      obtain ⟨v, hv, hdecrypted⟩ := Option.map_eq_some_iff.1 h.symm
      have hlist : ¬(decide (UserRole.many u.roles = UserRole.one "school_admin") = true ∧
          elevatedClearance = true) := by
        intro hfull
        cases of_decide_eq_true hfull.1
      dsimp only
      rw [← hdecrypted]
      dsimp only
      rw [if_neg hlist]
      refine ⟨fun view hview => ?_, fun _ _ _ => ⟨_, rfl⟩⟩
      cases hview
      exact ⟨v, hv, rfl, rfl⟩
  · rw [if_pos hmay]
    exact ⟨fun view hview => (by cases hview), fun _ _ hmay' => absurd hmay' hmay⟩

/-- **A read shows what it has to** just when nothing was written for the student, or the reader is
no cleared administrator and the ends of the values conceal them. -/
theorem shown_iff [LawfulFernet] (s : State) (hnone : s.val.records = []) (writes : List Write)
    (u : CurrentUser) (reached elevatedClearance : Bool) (studentId : Nat) :
    let r := run HealthRun.step ⟨s, fun _ => none⟩ writes
    Shows (r.last studentId) u elevatedClearance
        (getHealth r.db.val u reached studentId elevatedClearance) ↔
      ∀ v, r.last studentId = some v → ¬("school_admin" ∈ u.roles ∧ elevatedClearance = true) ∧
        (mayView u reached = true → ConcealsAll v) := by
  intro r
  have hstart : HealthRun.UpToDate ⟨s, fun _ => none⟩ := by
    intro other
    unfold recordOf getStudentHealthByStudentId
    dsimp only
    rw [hnone]
    rfl
  obtain ⟨hanswer, hanswered⟩ := getHealth_ok (u := u) (written_run hstart writes studentId)
  unfold Shows
  by_cases hcleared : "school_admin" ∈ u.roles ∧ elevatedClearance = true
  · rw [if_pos hcleared]
    constructor
    · intro h v hv
      obtain ⟨view, hview, -, hfull⟩ := h v hv
      obtain ⟨-, -, -, hmasked⟩ := hanswer view hview
      rw [hmasked] at hfull
      cases hfull
    · intro h v hv
      exact absurd hcleared (h v hv).1
  · rw [if_neg hcleared]
    constructor
    · intro h v hv
      refine ⟨hcleared, fun hmay => ?_⟩
      obtain ⟨view, hview⟩ := hanswered v hv hmay
      obtain ⟨v₁, hv₁, hvalues, -⟩ := hanswer view hview
      obtain ⟨v₂, hv₂, hmasks⟩ := h view hview
      obtain rfl := Option.some.inj (hv.symm.trans hv₁)
      obtain rfl := Option.some.inj (hv.symm.trans hv₂)
      rw [hvalues] at hmasks
      exact masksAll_masked.1 hmasks
    · intro h view hview
      obtain ⟨v, hv, hvalues, -⟩ := hanswer view hview
      refine ⟨v, hv, ?_⟩
      rw [hvalues]
      refine masksAll_masked.2 ((h v hv).2 ?_)
      by_contra hmay
      unfold getHealth at hview
      rw [if_pos hmay] at hview
      cases hview

end Reads

/-! ## A short value and a cleared administrator -/

/-- Tokens that are the bytes themselves, as characters. -/
@[reducible] def plainFernet : Fernet where
  encrypt _ b := String.ofList (b.data.toList.map fun x => Char.ofNat x.toNat)
  decrypt token := some ⟨(token.toList.map fun c => UInt8.ofNat c.toNat).toArray⟩

theorem lawful_plainFernet : @LawfulFernet plainFernet := by
  refine @LawfulFernet.mk plainFernet fun draw b => ?_
  have hchar : ∀ n < 256, (Char.ofNat n).toNat = n := by decide +kernel
  have hbyte : ∀ x : UInt8, UInt8.ofNat (Char.ofNat x.toNat).toNat = x := by
    intro x
    rw [hchar x.toNat x.toNat_lt]
    exact UInt8.ofNat_toNat
  have hbytes : (b.data.toList.map fun x => Char.ofNat x.toNat).map (fun c => UInt8.ofNat c.toNat) =
      b.data.toList := by
    rw [List.map_map]
    exact (List.map_congr_left fun x _ => hbyte x).trans (List.map_id _)
  show some (ByteArray.mk
      (((String.ofList (b.data.toList.map fun x => Char.ofNat x.toNat)).toList.map
    fun c => UInt8.ofNat c.toNat).toArray)) = some b
  rw [String.toList_ofList, hbytes, Array.toArray_toList]

section Example

attribute [local instance] plainFernet lawful_plainFernet

/-- One student, of whom nothing is recorded. -/
def unrecorded : State where
  val := { students := [1], records := [] }
  ok := by decide +kernel

def admin : CurrentUser where
  id := "2"
  tenantId := some "school"
  role := "school_admin"
  email := "a@school"
  roles := ["school_admin"]

def nurse : CurrentUser where
  id := "3"
  tenantId := some "school"
  role := "teacher"
  email := "t@school"
  roles := ["teacher"]

/-- A teacher writes a record whose first value is as long as what its mask shows. -/
def shortRecord : Write where
  draws := ⟨1, 0, 0, 0⟩
  studentId := 1
  values :=
    { nationalId := "1234", medicalConditions := "Asthma", emergencyContact := "+962791234567" }
  userRole := .many ["teacher"]

/-- The cleared administrator is shown a mask, and the mask that the teacher is shown ends in the
whole of the first value. -/
theorem short_record_shown :
    let r := run HealthRun.step ⟨unrecorded, fun _ => none⟩ [shortRecord]
    ¬Shows (r.last 1) admin true (getHealth r.db.val admin true 1 true) ∧
      ¬Shows (r.last 1) nurse false (getHealth r.db.val nurse true 1 false) := by
  intro r
  have hlast : r.last 1 = some shortRecord.values := by decide +kernel
  have hstart : HealthRun.UpToDate ⟨unrecorded, fun _ => none⟩ := fun _ => rfl
  have hrecord := written_run hstart [shortRecord] 1
  constructor
  · intro h
    unfold Shows at h
    rw [if_pos (by decide)] at h
    obtain ⟨view, hview, -, hfull⟩ := h _ hlast
    obtain ⟨-, -, -, hmasked⟩ := (getHealth_ok hrecord).1 view hview
    rw [hmasked] at hfull
    cases hfull
  · intro h
    unfold Shows at h
    rw [if_neg (by decide)] at h
    have hmay : mayView nurse true = true := by decide +kernel
    obtain ⟨view, hview⟩ := (getHealth_ok hrecord).2 _ hlast hmay
    obtain ⟨v, hv, hvalues, -⟩ := (getHealth_ok hrecord).1 view hview
    obtain ⟨v', hv', hmasks⟩ := h view hview
    obtain rfl := Option.some.inj (hlast.symm.trans hv)
    obtain rfl := Option.some.inj (hlast.symm.trans hv')
    rw [hvalues] at hmasks
    have hhead := ((masksAll_masked.1 hmasks).nationalId (by decide)).1 (by decide)
    revert hhead
    decide

/-- The record is shown as it has to be to a teacher who writes a longer value. -/
def longRecord : Write :=
  { shortRecord with values := { shortRecord.values with nationalId := "9012345678" } }

theorem long_record_shown : unrecorded.val.records = [] ∧
    (let r := run HealthRun.step ⟨unrecorded, fun _ => none⟩ [longRecord]
     Shows (r.last 1) nurse false (getHealth r.db.val nurse true 1 false) ↔
      ∀ v, r.last 1 = some v → ¬("school_admin" ∈ nurse.roles ∧ false = true) ∧
        (mayView nurse true = true → ConcealsAll v)) :=
  ⟨rfl, shown_iff unrecorded rfl [longRecord] nurse true false 1⟩

end Example

end Sams.Health
