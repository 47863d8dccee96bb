import Sams.Lib.Layouts
import Sams.School.Tables

/-!
# Where the rows of a school lie

Names of levels, names of classes and emails of teachers need not be unique but for the case of
their letters, and the program takes the first row that is answered. Which one this is depends
on where the rows lie in their tables, and changes as they are written. `Lying` is what nobody can
rely on, and `lay` brings the tables into the order in which the database would answer them.
-/

namespace Sams.School

open Programs Rows Layouts

/-- Where the levels, the classes and the teachers lie, by their identifiers. -/
structure Lying where
  levels : Layout Nat
  classes : Layout Nat
  teachers : Layout Nat

namespace Lying

/-- Rows lie in the order in which they were inserted. -/
def asInserted : Lying := ⟨inOrder, inOrder, inOrder⟩

end Lying

def Tables.laid (t : Tables) (ℓ : Lying) : Tables :=
  { t with
    levels := ℓ.levels.lay LevelRow.levelId t.levels
    classes := ℓ.classes.lay ClassRow.id t.classes
    teachers := ℓ.teachers.lay TeacherRow.id t.teachers }

/-- No constraint asks where a row lies. -/
theorem Tables.Ok.laid {t : Tables} (h : t.Ok) (ℓ : Lying) : (t.laid ℓ).Ok := by
  have hlevels : (t.laid ℓ).levels.Perm t.levels := lay_perm _ _ _
  have hclasses : (t.laid ℓ).classes.Perm t.classes := lay_perm _ _ _
  have hteachers : (t.laid ℓ).teachers.Perm t.teachers := lay_perm _ _ _
  obtain ⟨keys, unique, checks, placements, rollovers, events, contacts⟩ := h
  constructor
  · exact { keys with
      levels := keys.levels.perm hlevels
      classes := keys.classes.perm hclasses
      teachers := keys.teachers.perm hteachers }
  · exact { unique with class_name_academic_year := unique.class_name_academic_year.perm hclasses }
  · exact { checks with
      level_integers := fun l hl => checks.level_integers l (hlevels.mem_iff.1 hl)
      class_capacity_positive :=
        fun c hc => checks.class_capacity_positive c (hclasses.mem_iff.1 hc) }
  · exact { placements with
      teacher_user := placements.teacher_user.perm_left hteachers
      class_level := (placements.class_level.perm_left hclasses).perm_right hlevels
      class_head_teacher := (placements.class_head_teacher.perm_left hclasses).perm_right hteachers
      class_year := placements.class_year.perm_left hclasses
      student_class := placements.student_class.perm_right hclasses
      history_old_class := placements.history_old_class.perm_right hclasses
      history_new_class := placements.history_new_class.perm_right hclasses }
  · exact { rollovers with
      line_from_class := rollovers.line_from_class.perm_right hclasses
      line_to_level := rollovers.line_to_level.perm_right hlevels
      line_to_class := rollovers.line_to_class.perm_right hclasses
      event_class_class := rollovers.event_class_class.perm_right hclasses }
  · exact { events with }
  · exact { contacts with enrollment_teacher := contacts.enrollment_teacher.perm_right hteachers }

/-- The same tables, lying elsewhere. -/
def Db.laid (d : Db) (ℓ : Lying) : Db := ⟨d.val.laid ℓ, d.ok.laid ℓ⟩

/-- The tables come to lie as `ℓ` says. -/
def lay (ℓ : Lying) : Prog Unit := fun d => .ok () (d.laid ℓ)

section Laid

variable {d : Db} {ℓ ℓ' : Lying}

@[simp] theorem val_laid : (d.laid ℓ).val = d.val.laid ℓ := rfl

theorem lay_bind {α : Type} (f : Unit → Prog α) : (lay ℓ >>= f) d = f () (d.laid ℓ) := rfl

/-- Only where the rows lie now matters. -/
theorem laid_laid (d : Db) (ℓ ℓ' : Lying) : (d.laid ℓ).laid ℓ' = d.laid ℓ' := by
  refine Checked.ext ?_
  unfold Db.laid Tables.laid
  dsimp only
  rw [lay_congr (d.ok.keys.levels.perm (lay_perm _ _ _)) (lay_perm _ _ _),
    lay_congr (d.ok.keys.classes.perm (lay_perm _ _ _)) (lay_perm _ _ _),
    lay_congr (d.ok.keys.teachers.perm (lay_perm _ _ _)) (lay_perm _ _ _)]

end Laid

end Sams.School
