import Mathlib.Data.List.Forall2

/-!
# Outcomes of computations that can fail

A computation that can fail is a chain of steps, and its outcome is a value exactly when every step
has one. These lemmas take such a chain apart into its steps, so that later proofs follow the steps
and not the definitions of the chain.
-/

namespace Rollout

variable {ε ε' α β γ δ : Type}

/-- Two steps have a value when the first has one and the second has one for it. -/
theorem bind_eq_ok {x : Except ε α} {f : α → Except ε β} {b : β} :
    x >>= f = .ok b ↔ ∃ a, x = .ok a ∧ f a = .ok b := by
  cases x with
  | error e => simp [Bind.bind, Except.bind]
  | ok a => simp [Bind.bind, Except.bind]

/-- Two steps fail when the first fails, or when the second fails after it. -/
theorem bind_eq_error {x : Except ε α} {f : α → Except ε β} {e : ε} :
    x >>= f = .error e ↔ x = .error e ∨ ∃ a, x = .ok a ∧ f a = .error e := by
  cases x with
  | error e' => simp [Bind.bind, Except.bind]
  | ok a => simp [Bind.bind, Except.bind]

/-- A changed value comes from a value. -/
theorem map_eq_ok {x : Except ε α} {f : α → β} {b : β} :
    x.map f = .ok b ↔ ∃ a, x = .ok a ∧ f a = b := by
  cases x with
  | error e => simp [Except.map]
  | ok a => simp [Except.map]

/-- There is a changed value when there is a value. -/
theorem exists_map_eq_ok {x : Except ε α} {f : α → β} :
    (∃ b, x.map f = .ok b) ↔ ∃ a, x = .ok a := by
  cases x with
  | error e => simp [Except.map]
  | ok a => simp [Except.map]

/-- Changing the value keeps the failures. -/
theorem map_eq_error {x : Except ε α} {f : α → β} {e : ε} :
    x.map f = .error e ↔ x = .error e := by
  cases x with
  | error e' => simp [Except.map]
  | ok a => simp [Except.map]

/-- Changing the failures keeps the value. -/
theorem mapError_eq_ok {x : Except ε α} {f : ε → ε'} {a : α} :
    x.mapError f = .ok a ↔ x = .ok a := by
  cases x with
  | error e => simp [Except.mapError]
  | ok a' => simp [Except.mapError]

/-- A changed failure comes from a failure. -/
theorem mapError_eq_error {x : Except ε α} {f : ε → ε'} {e : ε'} :
    x.mapError f = .error e ↔ ∃ e', x = .error e' ∧ f e' = e := by
  cases x with
  | error e' => simp [Except.mapError]
  | ok a => simp [Except.mapError]

/-- A computation fails exactly when it has no value. -/
theorem exists_error_iff {x : Except ε α} : (∃ e, x = .error e) ↔ ¬ ∃ a, x = .ok a := by
  cases x with
  | error e => simp
  | ok a => simp

/-- The value of a computation that need not fail. -/
theorem toOption_eq_some {x : Except ε α} {a : α} : x.toOption = some a ↔ x = .ok a := by
  cases x with
  | error e => simp [Except.toOption]
  | ok a' => simp [Except.toOption]

/-- A step taken for every item has values exactly when it has one for each item. -/
theorem mapM_eq_ok {f : α → Except ε β} {as : List α} {bs : List β} :
    as.mapM f = .ok bs ↔ List.Forall₂ (fun a b => f a = .ok b) as bs := by
  induction as generalizing bs with
  | nil => simp [Pure.pure, Except.pure, eq_comm]
  | cons a as ih =>
    simp only [List.mapM_cons, bind_eq_ok, Pure.pure, Except.pure, Except.ok.injEq, ih,
      List.forall₂_cons_left_iff]
    constructor
    · rintro ⟨b, hb, bs', hbs, rfl⟩
      exact ⟨b, bs', hb, hbs, rfl⟩
    · rintro ⟨b, bs', hb, hbs, rfl⟩
      exact ⟨b, hb, bs', hbs, rfl⟩

/-- Each item on the left has its counterpart on the right. -/
theorem exists_right_of_forall₂ {R : α → β → Prop} {as : List α} {bs : List β}
    (h : List.Forall₂ R as bs) {a : α} (ha : a ∈ as) : ∃ b ∈ bs, R a b := by
  induction h with
  | nil => cases ha
  | @cons a' b as bs hb _ ih =>
    rcases List.mem_cons.mp ha with rfl | ha
    · exact ⟨b, List.mem_cons_self, hb⟩
    · obtain ⟨b', hmem, hb'⟩ := ih ha
      exact ⟨b', List.mem_cons_of_mem _ hmem, hb'⟩

/-- Each item on the right has its counterpart on the left. -/
theorem exists_left_of_forall₂ {R : α → β → Prop} {as : List α} {bs : List β}
    (h : List.Forall₂ R as bs) {b : β} (hb : b ∈ bs) : ∃ a ∈ as, R a b := by
  have hflip : List.Forall₂ (flip R) bs as := List.Forall₂.flip h
  exact exists_right_of_forall₂ hflip hb

/-- There is a list of counterparts exactly when each item has one. -/
theorem exists_forall₂_iff {R : α → β → Prop} {as : List α} :
    (∃ bs, List.Forall₂ R as bs) ↔ ∀ a ∈ as, ∃ b, R a b := by
  induction as with
  | nil => simp
  | cons a as ih =>
    rw [List.forall_mem_cons, ← ih]
    constructor
    · rintro ⟨_, hall⟩
      obtain ⟨b, bs, hb, hbs, -⟩ := List.forall₂_cons_left_iff.mp hall
      exact ⟨⟨b, hb⟩, bs, hbs⟩
    · rintro ⟨⟨b, hb⟩, bs, hbs⟩
      exact ⟨b :: bs, .cons hb hbs⟩

/-- A step taken for every item with values has one of them for each item. -/
theorem exists_ok_of_mapM {f : α → Except ε β} {as : List α} {bs : List β}
    (h : as.mapM f = .ok bs) {a : α} (ha : a ∈ as) : ∃ b ∈ bs, f a = .ok b :=
  exists_right_of_forall₂ (mapM_eq_ok.mp h) ha

/-- Each of the values is that of an item. -/
theorem exists_mem_of_mapM {f : α → Except ε β} {as : List α} {bs : List β}
    (h : as.mapM f = .ok bs) {b : β} (hb : b ∈ bs) : ∃ a ∈ as, f a = .ok b :=
  exists_left_of_forall₂ (mapM_eq_ok.mp h) hb

/-- A step taken for every item fails only where it fails for one of them. -/
theorem exists_error_of_mapM {f : α → Except ε β} {as : List α} {e : ε}
    (h : as.mapM f = .error e) : ∃ a ∈ as, f a = .error e := by
  induction as with
  | nil => simp [Pure.pure, Except.pure] at h
  | cons a as ih =>
    simp only [List.mapM_cons, bind_eq_error, Pure.pure, Except.pure, reduceCtorEq, and_false,
      exists_false, or_false] at h
    rcases h with ha | ⟨b, _, has⟩
    · exact ⟨a, List.mem_cons_self, ha⟩
    · obtain ⟨a', hmem, ha'⟩ := ih has
      exact ⟨a', List.mem_cons_of_mem _ hmem, ha'⟩

/-- A step taken for every item fails at the first item that it fails for, after values for all
items before it. -/
theorem exists_split_of_mapM {f : α → Except ε β} {as : List α} {e : ε}
    (h : as.mapM f = .error e) : ∃ before a after, as = before ++ a :: after ∧
      (∀ a ∈ before, ∃ b, f a = .ok b) ∧ f a = .error e := by
  induction as with
  | nil => simp [Pure.pure, Except.pure] at h
  | cons a as ih =>
    rw [List.mapM_cons] at h
    rcases bind_eq_error.mp h with ha | ⟨b, hb, hrest⟩
    · exact ⟨[], a, as, rfl, by simp, ha⟩
    · have has : as.mapM f = .error e := by
        rcases bind_eq_error.mp hrest with has | ⟨bs, -, hpure⟩
        · exact has
        · cases hpure
      obtain ⟨before, a', after, rfl, hbefore, ha'⟩ := ih has
      exact ⟨a :: before, a', after, rfl, List.forall_mem_cons.mpr ⟨⟨b, hb⟩, hbefore⟩, ha'⟩

/-- A step taken for every item fails exactly at the first item that it fails for, after values for
all items before it. -/
theorem mapM_eq_error {f : α → Except ε β} {as : List α} {e : ε} :
    as.mapM f = .error e ↔ ∃ before a after, as = before ++ a :: after ∧
      (∀ a ∈ before, ∃ b, f a = .ok b) ∧ f a = .error e := by
  refine ⟨exists_split_of_mapM, ?_⟩
  rintro ⟨before, a, after, rfl, hbefore, ha⟩
  induction before with
  | nil =>
    rw [List.nil_append, List.mapM_cons]
    exact bind_eq_error.mpr (Or.inl ha)
  | cons a' before ih =>
    rw [List.forall_mem_cons] at hbefore
    obtain ⟨b, hb⟩ := hbefore.1
    rw [List.cons_append, List.mapM_cons]
    exact bind_eq_error.mpr (Or.inr ⟨b, hb, bind_eq_error.mpr (Or.inl (ih hbefore.2))⟩)

/-- A step taken for every item has values when it has one for each of them. -/
theorem exists_mapM_eq_ok {f : α → Except ε β} {as : List α} :
    (∃ bs, as.mapM f = .ok bs) ↔ ∀ a ∈ as, ∃ b, f a = .ok b := by
  simp only [mapM_eq_ok, exists_forall₂_iff]

/-- Going through the items fails exactly at an item that fails after the items before it. -/
theorem foldlM_eq_error {f : β → α → Except ε β} {as : List α} {b : β} {e : ε} :
    as.foldlM f b = .error e ↔ ∃ before a after b', as = before ++ a :: after ∧
      before.foldlM f b = .ok b' ∧ f b' a = .error e := by
  constructor
  · intro h
    induction as generalizing b with
    | nil => cases h
    | cons a as ih =>
      rw [List.foldlM_cons] at h
      rcases bind_eq_error.mp h with ha | ⟨b₁, hb₁, has⟩
      · exact ⟨[], a, as, b, rfl, rfl, ha⟩
      · obtain ⟨before, a', after, b', rfl, hbefore, ha'⟩ := ih has
        refine ⟨a :: before, a', after, b', rfl, ?_, ha'⟩
        rw [List.foldlM_cons]
        exact bind_eq_ok.mpr ⟨b₁, hb₁, hbefore⟩
  · rintro ⟨before, a, after, b', rfl, hbefore, ha⟩
    rw [List.foldlM_append]
    refine bind_eq_error.mpr (Or.inr ⟨b', hbefore, ?_⟩)
    rw [List.foldlM_cons]
    exact bind_eq_error.mpr (Or.inl ha)

/-- Going through the items fails only at one of them. -/
theorem exists_error_of_foldlM {f : β → α → Except ε β} {as : List α} {b : β} {e : ε}
    (h : as.foldlM f b = .error e) : ∃ a ∈ as, ∃ b', f b' a = .error e := by
  induction as generalizing b with
  | nil => cases h
  | cons a as ih =>
    rw [List.foldlM_cons] at h
    rcases bind_eq_error.mp h with ha | ⟨b', -, has⟩
    · exact ⟨a, List.mem_cons_self, b, ha⟩
    · obtain ⟨a', hmem, b'', ha'⟩ := ih has
      exact ⟨a', List.mem_cons_of_mem _ hmem, b'', ha'⟩

/-- A step that changes nothing when it is taken once more can be left out there. -/
theorem foldlM_of_repeated {f : β → α → Except ε β} {front between : List α} {a : α} {b : β}
    (hfixed : ∀ b₁ b₂ b₃, front.foldlM f b = .ok b₁ → f b₁ a = .ok b₂ →
      between.foldlM f b₂ = .ok b₃ → f b₃ a = .ok b₃) (back : List α) :
    (front ++ a :: (between ++ a :: back)).foldlM f b =
      (front ++ a :: (between ++ back)).foldlM f b := by
  rw [List.foldlM_append, List.foldlM_append]
  cases hfront : front.foldlM f b with
  | error e => rfl
  | ok b₁ =>
    change (a :: (between ++ a :: back)).foldlM f b₁ = (a :: (between ++ back)).foldlM f b₁
    rw [List.foldlM_cons, List.foldlM_cons]
    cases hfirst : f b₁ a with
    | error e => rfl
    | ok b₂ =>
      change (between ++ a :: back).foldlM f b₂ = (between ++ back).foldlM f b₂
      rw [List.foldlM_append, List.foldlM_append]
      cases hbetween : between.foldlM f b₂ with
      | error e => rfl
      | ok b₃ =>
        change (a :: back).foldlM f b₃ = back.foldlM f b₃
        rw [List.foldlM_cons, hfixed b₁ b₂ b₃ hfront hfirst hbetween]
        rfl

/-- The outcome with its failure changed in one way and its value in another. -/
def mapBoth (f : ε → ε') (g : α → β) (x : Except ε α) : Except ε' β :=
  (x.map g).mapError f

@[simp]
theorem mapBoth_ok (f : ε → ε') (g : α → β) (a : α) : mapBoth f g (.ok a) = .ok (g a) := rfl

@[simp]
theorem mapBoth_error (f : ε → ε') (g : α → β) (e : ε) :
    mapBoth f g (.error e) = .error (f e) := rfl

/-- Two steps on a changed outcome are the changed outcome of two steps. -/
theorem mapBoth_bind {f : ε → ε'} {g : α → β} {h : γ → δ} {x : Except ε α} {step : α → Except ε γ}
    {step' : β → Except ε' δ} (hstep : ∀ a, step' (g a) = mapBoth f h (step a)) :
    mapBoth f g x >>= step' = mapBoth f h (x >>= step) := by
  cases x with
  | error e => rfl
  | ok a => exact hstep a

/-- A step taken for every changed item has the changed values. -/
theorem mapM_map_eq_mapBoth {f : ε → ε'} {g : β → δ} {r : α → γ} {step : α → Except ε β}
    {step' : γ → Except ε' δ} {as : List α}
    (hstep : ∀ a ∈ as, step' (r a) = mapBoth f g (step a)) :
    (as.map r).mapM step' = mapBoth f (List.map g) (as.mapM step) := by
  induction as with
  | nil => rfl
  | cons a as ih =>
    rw [List.forall_mem_cons] at hstep
    rw [List.map_cons, List.mapM_cons, List.mapM_cons, hstep.1, ih hstep.2]
    refine mapBoth_bind fun b => mapBoth_bind fun bs => rfl

/-- Going through changed items from a changed value leads to the changed outcome. -/
theorem foldlM_map_eq_mapBoth {f : ε → ε'} {g : β → δ} {r : α → γ} {step : β → α → Except ε β}
    {step' : δ → γ → Except ε' δ} {as : List α}
    (hstep : ∀ a ∈ as, ∀ b, step' (g b) (r a) = mapBoth f g (step b a)) (b : β) :
    (as.map r).foldlM step' (g b) = mapBoth f g (as.foldlM step b) := by
  induction as generalizing b with
  | nil => rfl
  | cons a as ih =>
    rw [List.forall_mem_cons] at hstep
    rw [List.map_cons, List.foldlM_cons, List.foldlM_cons, hstep.1]
    exact mapBoth_bind fun b' => ih hstep.2 b'

end Rollout
