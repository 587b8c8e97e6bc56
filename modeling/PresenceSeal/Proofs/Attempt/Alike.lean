import PresenceSeal.Attempt

/-! Programs that do alike. Two programs may work on states of different types; they are
alike if from related states they come to related results and to related states. What is
put together from programs that are alike is alike again. -/
namespace PresenceSeal

/-- Outcomes of one kind: related values, or one and the same failure. -/
inductive Agree (same : α → β → Prop) : Except ε α → Except ε β → Prop where
  | ok {a b} : same a b → Agree same (.ok a) (.ok b)
  | error (e : ε) : Agree same (.error e) (.error e)

theorem Agree.eq {x y : Except ε α} (agree : Agree Eq x y) : x = y := by
  cases agree with
  | ok same => rw [same]
  | error e => rfl

theorem Agree.refl (x : Except ε α) : Agree Eq x x := by
  cases x with
  | ok a => exact .ok rfl
  | error e => exact .error e

theorem Agree.mapError {same : α → β → Prop} {x : Except ε α} {y : Except ε β} (f : ε → ε')
    (agree : Agree same x y) : Agree same (x.mapError f) (y.mapError f) := by
  cases agree with
  | ok same => exact .ok same
  | error e => exact .error (f e)

/-- The programs come to related results and states from all related states. -/
def Alike (rel : σ → τ → Prop) (same : α → β → Prop) (x : StateM σ α) (y : StateM τ β) : Prop :=
  ∀ s t, rel s t → same (x.run s).1 (y.run t).1 ∧ rel (x.run s).2 (y.run t).2

/-- Attempts are alike if they fail alike as well. -/
def Attempt.Alike (rel : σ → τ → Prop) (same : α → β → Prop) (x : Attempt σ ε α)
    (y : Attempt τ ε β) : Prop :=
  PresenceSeal.Alike rel (Agree same) x.run y.run

/-- Where related states keep related parts. -/
structure Part.Alike (p : Part σ υ) (q : Part τ φ) (rel : σ → τ → Prop) (sub : υ → φ → Prop) :
    Prop where
  get : ∀ s t, rel s t → sub (p.get s) (q.get t)
  set : ∀ s t u v, rel s t → sub u v → rel (p.set u s) (q.set v t)

section

variable {rel : σ → τ → Prop} {sub : υ → φ → Prop} {same : α → β → Prop} {next : γ → κ → Prop}

theorem Part.Alike.lift {p : Part σ υ} {q : Part τ φ} (parts : p.Alike q rel sub)
    {x : StateM υ α} {y : StateM φ β} (work : PresenceSeal.Alike sub same x y) :
    PresenceSeal.Alike rel same (p.lift x) (q.lift y) := by
  intro s t related
  obtain ⟨result, after⟩ := work _ _ (parts.get s t related)
  exact ⟨result, parts.set s t _ _ related after⟩

namespace Attempt

theorem Alike.pure {a : α} {b : β} (values : same a b) :
    Alike rel same (pure a : Attempt σ ε α) (pure b : Attempt τ ε β) :=
  fun _ _ related => ⟨.ok values, related⟩

theorem Alike.throw (e : ε) :
    Alike rel same (throw e : Attempt σ ε α) (throw e : Attempt τ ε β) :=
  fun _ _ related => ⟨.error e, related⟩

theorem Alike.ofExcept {x : Except ε α} {y : Except ε β} (agree : Agree same x y) :
    Alike rel same (ofExcept x : Attempt σ ε α) (ofExcept y : Attempt τ ε β) :=
  fun _ _ related => ⟨agree, related⟩

/-- If the second attempts are alike on related values, so are the two sequences. -/
theorem Alike.bind {x : Attempt σ ε α} {y : Attempt τ ε β} {f : α → Attempt σ ε γ}
    {g : β → Attempt τ ε κ} (first : Alike rel same x y)
    (second : ∀ a b, same a b → Alike rel next (f a) (g b)) :
    Alike rel next (x >>= f) (y >>= g) := by
  intro s t related
  obtain ⟨agree, after⟩ := first s t related
  have left := Attempt.run_bind x f s
  have right := Attempt.run_bind y g t
  rw [left, right]
  revert agree after
  rcases x.run.run s with ⟨ranX, s'⟩
  rcases y.run.run t with ⟨ranY, t'⟩
  intro agree after
  cases agree with
  | ok values => exact second _ _ values _ _ after
  | error e => exact ⟨.error e, after⟩

theorem Alike.get_bind {f : σ → Attempt σ ε α} {g : τ → Attempt τ ε β}
    (work : ∀ s t, rel s t → Alike rel same (f s) (g t)) :
    Alike rel same (get >>= f) (get >>= g) :=
  fun s t related => work s t related s t related

theorem Alike.set {s : σ} {t : τ} (related : rel s t) :
    Alike rel Eq (set s : Attempt σ ε PUnit) (set t : Attempt τ ε PUnit) :=
  fun _ _ _ => ⟨.ok rfl, related⟩

theorem Alike.outcome {x : Attempt σ ε α} {y : Attempt τ ε β} (work : Alike rel same x y) :
    Alike rel (Agree same) (x.outcome : Attempt σ ε' _) (y.outcome : Attempt τ ε' _) := by
  intro s t related
  obtain ⟨agree, after⟩ := work s t related
  exact ⟨.ok agree, after⟩

theorem Alike.adapt {x : Attempt σ ε α} {y : Attempt τ ε β} (work : Alike rel same x y)
    (f : ε → ε') : Alike rel same (x.adapt f : Attempt σ ε' α) (y.adapt f : Attempt τ ε' β) := by
  intro s t related
  obtain ⟨agree, after⟩ := work s t related
  exact ⟨agree.mapError f, after⟩

theorem Alike.endingWith {x : Attempt σ ε α} {y : Attempt τ ε β} (work : Alike rel same x y)
    {last : StateM σ Unit} {last' : StateM τ Unit} (ending : PresenceSeal.Alike rel Eq last last') :
    Alike rel same (x.endingWith last) (y.endingWith last') := by
  intro s t related
  obtain ⟨agree, after⟩ := work s t related
  exact ⟨agree, (ending _ _ after).2⟩

theorem Alike.always {x : StateM σ α} {y : StateM τ β} (work : PresenceSeal.Alike rel same x y) :
    Alike rel same (always x : Attempt σ ε α) (always y : Attempt τ ε β) := by
  intro s t related
  obtain ⟨values, after⟩ := work s t related
  exact ⟨.ok values, after⟩

end Attempt

theorem Part.Alike.attempt {p : Part σ υ} {q : Part τ φ} (parts : p.Alike q rel sub)
    {x : Attempt υ ε α} {y : Attempt φ ε β} (work : Attempt.Alike sub same x y) :
    Attempt.Alike rel same (p.attempt x) (q.attempt y) :=
  parts.lift work

theorem Part.Alike.always {p : Part σ υ} {q : Part τ φ} (parts : p.Alike q rel sub)
    {x : StateM υ α} {y : StateM φ β} (work : PresenceSeal.Alike sub same x y) :
    Attempt.Alike rel same (p.always x : Attempt σ ε α) (q.always y : Attempt τ ε β) :=
  .always (parts.lift work)

end

end PresenceSeal
