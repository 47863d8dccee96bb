import Sams.Lib.Clients

/-!
# Triples for a client

`Conducts start P I m R E` is about what the program `m` exchanges from the log `start` on. From
exchanges of which `I` holds, each of its requests is made where `P` allows it; where it returns,
`R` holds of the result and of the exchanges, and where it raises, `E` does.

Nothing is assumed of the answers. A program that another one calls is specified from no exchanges
on, and `Conducts.call` puts its exchanges behind those of the caller.
-/

namespace Clients

open Programs

variable {Q A ε α β : Type}

def Conducts (start : Log Q A) (P : Log Q A → Q → Prop) (I : Log Q A → Prop)
    (m : EStateM ε (Log Q A) α) (R : α → Log Q A → Prop) (E : ε → Log Q A → Prop) : Prop :=
  ∀ own, I own → ∃ own', Careful P own own' ∧
    ((∃ a, m (start ++ own) = .ok a (start ++ own') ∧ R a own') ∨
      ∃ e, m (start ++ own) = .error e (start ++ own') ∧ E e own')

variable {start : Log Q A} {P : Log Q A → Q → Prop} {I : Log Q A → Prop} {R : α → Log Q A → Prop}
  {E : ε → Log Q A → Prop}

/-- What is known before may be used. -/
theorem conducts_at {m : EStateM ε (Log Q A) α}
    (h : ∀ own, I own → Conducts start P (· = own) m R E) :
    Conducts start P I m R E := fun own hown => h own hown own rfl

theorem Conducts.mono {P' : Log Q A → Q → Prop} {I' : Log Q A → Prop} {R' : α → Log Q A → Prop}
    {E' : ε → Log Q A → Prop} {m : EStateM ε (Log Q A) α} (h : Conducts start P I m R E)
    (hP : ∀ own q, P own q → P' own q) (hI : ∀ own, I' own → I own)
    (hR : ∀ a own, R a own → R' a own)
    (hE : ∀ e own, E e own → E' e own) : Conducts start P' I' m R' E' := by
  intro own hown
  obtain ⟨own', hcareful, hend⟩ := h own (hI own hown)
  refine ⟨own', hcareful.mono hP, ?_⟩
  rcases hend with ⟨a, hrun, ha⟩ | ⟨e, hrun, he⟩
  · exact .inl ⟨a, hrun, hR a own' ha⟩
  · exact .inr ⟨e, hrun, hE e own' he⟩

theorem conducts_pure {a : α} (h : ∀ own, I own → R a own) :
    Conducts start P I (pure a : EStateM ε (Log Q A) α) R E :=
  fun own hown => ⟨own, .refl P own, .inl ⟨a, rfl, h own hown⟩⟩

theorem conducts_throw {e : ε} (h : ∀ own, I own → E e own) :
    Conducts start P I (throw e : EStateM ε (Log Q A) α) R E :=
  fun own hown => ⟨own, .refl P own, .inr ⟨e, rfl, h own hown⟩⟩

/-- Whatever is answered. -/
theorem conducts_ask {srv : Service Q A} {q : Q} {R : A → Log Q A → Prop}
    (hP : ∀ own, I own → P own q) (hR : ∀ own a, I own → R a (own ++ [(q, a)])) :
    Conducts start P I (ask srv q : EStateM ε (Log Q A) A) R E := by
  intro own hown
  refine ⟨own ++ [(q, srv (start ++ own) q)], ⟨_, rfl, fun i x hx => ?_⟩,
    .inl ⟨_, ?_, hR own _ hown⟩⟩
  · cases i with
    | zero =>
      cases hx
      rw [List.take_zero, List.append_nil]
      exact hP own hown
    | succ i => cases hx
  · unfold ask
    rw [List.append_assoc]

theorem conducts_bind {M : β → Log Q A → Prop} {m : EStateM ε (Log Q A) β}
    {k : β → EStateM ε (Log Q A) α}
    (hm : Conducts start P I m M E) (hk : ∀ b, Conducts start P (M b) (k b) R E) :
    Conducts start P I (m >>= k) R E := by
  intro own hown
  obtain ⟨own₁, hfirst, ⟨b, hrun, hb⟩ | ⟨e, hrun, he⟩⟩ := hm own hown
  · obtain ⟨own₂, hsecond, hend⟩ := hk b own₁ hb
    refine ⟨own₂, hfirst.trans hsecond, ?_⟩
    rwa [bind_of_ok hrun]
  · exact ⟨own₁, hfirst, .inr ⟨e, bind_of_error hrun, he⟩⟩

theorem conducts_rescue {F : ε → Log Q A → Prop} {m : EStateM ε (Log Q A) α}
    {h : ε → EStateM ε (Log Q A) α}
    (hm : Conducts start P I m R F) (hh : ∀ e, Conducts start P (F e) (h e) R E) :
    Conducts start P I (rescue m h) R E := by
  intro own hown
  obtain ⟨own₁, hfirst, ⟨a, hrun, ha⟩ | ⟨e, hrun, he⟩⟩ := hm own hown
  · exact ⟨own₁, hfirst, .inl ⟨a, rescue_of_ok hrun, ha⟩⟩
  · obtain ⟨own₂, hsecond, hend⟩ := hh e own₁ he
    refine ⟨own₂, hfirst.trans hsecond, ?_⟩
    rwa [rescue_of_error hrun]

/-- What is raised is known to the rest of the program. -/
theorem conducts_caught {M : β → Log Q A → Prop} {F : ε → Log Q A → Prop}
    {m : EStateM ε (Log Q A) β}
    {k : Except ε β → EStateM ε (Log Q A) α} (hm : Conducts start P I m M F)
    (hok : ∀ b, Conducts start P (M b) (k (.ok b)) R E)
    (herror : ∀ e, Conducts start P (F e) (k (.error e)) R E) :
    Conducts start P I (caught m >>= k) R E := by
  intro own hown
  obtain ⟨own₁, hfirst, ⟨b, hrun, hb⟩ | ⟨e, hrun, he⟩⟩ := hm own hown
  · obtain ⟨own₂, hsecond, hend⟩ := hok b own₁ hb
    refine ⟨own₂, hfirst.trans hsecond, ?_⟩
    rwa [bind_of_ok (caught_of_ok hrun)]
  · obtain ⟨own₂, hsecond, hend⟩ := herror e own₁ he
    refine ⟨own₂, hfirst.trans hsecond, ?_⟩
    rwa [bind_of_ok (caught_of_error hrun)]

/-- A loop, with an invariant of what is still to be done. -/
theorem conducts_foldlM {f : β → α → EStateM ε (Log Q A) β} (J : List α → β → Log Q A → Prop)
    (hf : ∀ x xs b, Conducts start P (J (x :: xs) b) (f b x) (J xs) E) (xs : List α) (b : β) :
    Conducts start P (J xs b) (xs.foldlM f b) (J []) E := by
  induction xs generalizing b with
  | nil => exact conducts_pure fun own hown => hown
  | cons x xs ih =>
    rw [List.foldlM_cons]
    exact conducts_bind (hf x xs b) ih

/-- A run from no exchanges on. -/
theorem Conducts.runs {m : EStateM ε (Log Q A) α} (h : Conducts start P (· = []) m R E) :
    ∃ own, Careful P [] own ∧ ((∃ a, m start = .ok a (start ++ own) ∧ R a own) ∨
      ∃ e, m start = .error e (start ++ own) ∧ E e own) := by
  obtain ⟨own, hcareful, hend⟩ := h [] rfl
  rw [List.append_nil] at hend
  exact ⟨own, hcareful, hend⟩

/-- A program that raises nothing returns. -/
theorem Conducts.answers {m : EStateM ε (Log Q A) α}
    (h : Conducts start P (· = []) m R fun _ _ => False) :
    ∃ a own, m start = .ok a (start ++ own) ∧ Careful P [] own ∧ R a own := by
  obtain ⟨own, hcareful, ⟨a, hrun, ha⟩ | ⟨e, -, he⟩⟩ := h.runs
  · exact ⟨a, own, hrun, hcareful, ha⟩
  · exact he.elim

/-- Exchanges of another program come before. -/
theorem Careful.after {P' : Log Q A → Q → Prop} {old new : Log Q A} (h : Careful P' [] new)
    (hP : ∀ own q, P' own q → P (old ++ own) q) : Careful P old (old ++ new) := by
  obtain ⟨new', hnew', hnew⟩ := h
  rw [List.nil_append] at hnew'
  subst hnew'
  exact ⟨new, rfl, fun i x hx => hP _ _ (hnew i x hx)⟩

/-- A program that is called: its exchanges come after those of the caller. -/
theorem Conducts.call {P' : Log Q A → Q → Prop} {m : EStateM ε (Log Q A) α}
    (h : ∀ start, Conducts start P' (· = []) m R E)
    (hP : ∀ old new q, I old → P' new q → P (old ++ new) q) :
    Conducts start P I m (fun a own => ∃ old new, own = old ++ new ∧ I old ∧ R a new)
      (fun e own => ∃ old new, own = old ++ new ∧ I old ∧ E e new) := by
  intro own hown
  obtain ⟨new, hcareful, hend⟩ := (h (start ++ own)).runs
  refine ⟨own ++ new, hcareful.after fun before q => hP own before q hown, ?_⟩
  rw [List.append_assoc] at hend
  rcases hend with ⟨a, hrun, ha⟩ | ⟨e, hrun, he⟩
  · exact .inl ⟨a, hrun, own, new, rfl, hown, ha⟩
  · exact .inr ⟨e, hrun, own, new, rfl, hown, he⟩

/-- A program that is called and raises nothing. -/
theorem Conducts.call_answers {P' : Log Q A → Q → Prop} {m : EStateM ε (Log Q A) α}
    (h : ∀ start, Conducts start P' (· = []) m R fun _ _ => False)
    (hP : ∀ old new q, I old → P' new q → P (old ++ new) q) :
    Conducts start P I m (fun a own => ∃ old new, own = old ++ new ∧ I old ∧ R a new) E := by
  refine (Conducts.call h hP).mono (fun _ _ => id) (fun _ => id) (fun _ _ => id) ?_
  rintro e own ⟨old, new, -, -, he⟩
  exact he.elim

end Clients
