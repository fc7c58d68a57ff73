/-!
# Outcomes

Reading may fail with an error at each step. A computation of several steps succeeds where all of them do
(`bind_eq_ok_iff`) and fails with the error of one of them (`bind_eq_error_iff`). A loop over a list that succeeds keeps what
each of its steps keeps, where that may depend on the elements that are done (`foldlM_invariant`). Where the errors do not
matter, results are compared (`toOption_bind`, `toOption_foldlM_map`).
-/

namespace CivilTime

variable {ε α β : Type}

theorem eq_ok_of_toOption {x : Except ε α} {a : α} (h : x.toOption = some a) : x = .ok a := by
  cases x with
  | error e => cases h
  | ok b => exact congrArg Except.ok (Option.some.inj h)

/-- The error of a computation that fails. -/
def failure? : Except ε α → Option ε
  | .error e => some e
  | .ok _ => none

theorem eq_error_of_failure? {x : Except ε α} {e : ε} (h : failure? x = some e) : x = .error e := by
  cases x with
  | error e' => exact congrArg Except.error (Option.some.inj h)
  | ok a => cases h

theorem bind_eq_ok_iff {x : Except ε α} {f : α → Except ε β} {b : β} :
    (x >>= f) = .ok b ↔ ∃ a, x = .ok a ∧ f a = .ok b := by
  cases x with
  | error e =>
    constructor
    · intro h
      cases h
    · rintro ⟨a, h, -⟩
      cases h
  | ok a =>
    constructor
    · intro h
      exact ⟨a, rfl, h⟩
    · rintro ⟨_, h, hf⟩
      cases h
      exact hf

theorem bind_eq_error_iff {x : Except ε α} {f : α → Except ε β} {e : ε} :
    (x >>= f) = .error e ↔ x = .error e ∨ ∃ a, x = .ok a ∧ f a = .error e := by
  cases x with
  | error e' =>
    constructor
    · intro h
      cases h
      exact .inl rfl
    · rintro (h | ⟨a, h, -⟩)
      · cases h
        rfl
      · cases h
  | ok a =>
    constructor
    · intro h
      exact .inr ⟨a, rfl, h⟩
    · rintro (h | ⟨_, h, hf⟩)
      · cases h
      · cases h
        exact hf

theorem toOption_bind (x : Except ε α) (f : α → Except ε β) :
    (x >>= f).toOption = x.toOption.bind fun a => (f a).toOption := by
  cases x <;> rfl

/-! ### Loops -/

variable {f : β → α → Except ε β} {l : List α} {b b' : β}

theorem foldlM_invariant {P : List α → β → Prop} (h : l.foldlM f b = .ok b') (start : P [] b)
    (step : ∀ done, ∀ a ∈ l, ∀ b b', P done b → f b a = .ok b' → P (done ++ [a]) b') : P l b' := by
  have run : ∀ done rest : List α, done ++ rest = l → ∀ b, P done b → rest.foldlM f b = .ok b' → P l b' := by
    intro done rest
    induction rest generalizing done with
    | nil =>
      intro hl b hinv hb
      rw [List.append_nil] at hl
      cases hb
      rwa [← hl]
    | cons a rest ih =>
      intro hl b hinv hb
      rw [List.foldlM_cons, bind_eq_ok_iff] at hb
      obtain ⟨next, hnext, hb⟩ := hb
      have ha : a ∈ l := by
        rw [← hl]
        exact List.mem_append_right _ List.mem_cons_self
      exact ih (done ++ [a]) (by rw [← hl, List.append_assoc]; rfl) next (step done a ha b next hinv hnext) hb
  exact run [] l rfl b start h

/-- A loop fails only where one of its steps does. -/
theorem exists_of_foldlM_eq_error {e : ε} (h : l.foldlM f b = .error e) : ∃ a ∈ l, ∃ b, f b a = .error e := by
  induction l generalizing b with
  | nil => cases h
  | cons a l ih =>
    rw [List.foldlM_cons, bind_eq_error_iff] at h
    rcases h with h | ⟨next, -, h⟩
    · exact ⟨a, List.mem_cons_self, b, h⟩
    · obtain ⟨c, hc, hstep⟩ := ih h
      exact ⟨c, List.mem_cons_of_mem _ hc, hstep⟩

/-- A loop with steps that give what those of another loop give has the result of that loop. -/
theorem foldlM_eq_ok_of_steps {g : β → α → Except ε β} (h : l.foldlM f b = .ok b')
    (step : ∀ a ∈ l, ∀ b b', f b a = .ok b' → g b a = .ok b') : l.foldlM g b = .ok b' := by
  induction l generalizing b with
  | nil => exact h
  | cons a l ih =>
    rw [List.foldlM_cons, bind_eq_ok_iff] at h ⊢
    obtain ⟨next, hnext, h⟩ := h
    exact ⟨next, step a List.mem_cons_self b next hnext, ih h fun c hc => step c (List.mem_cons_of_mem _ hc)⟩

/-- Loops with the same steps have the same outcome. -/
theorem foldlM_congr {g : β → α → Except ε β} (step : ∀ a ∈ l, ∀ b, f b a = g b a) (b : β) :
    l.foldlM f b = l.foldlM g b := by
  induction l generalizing b with
  | nil => rfl
  | cons a l ih =>
    rw [List.foldlM_cons, List.foldlM_cons, step a List.mem_cons_self]
    exact bind_congr fun next => ih (fun c hc => step c (List.mem_cons_of_mem _ hc)) next

/-- Loops with steps that have the same results have the same result, also over another list. -/
theorem toOption_foldlM_map {γ : Type} {h : α → γ} {g : β → γ → Except ε β}
    (step : ∀ a ∈ l, ∀ b, (g b (h a)).toOption = (f b a).toOption) (b : β) :
    ((l.map h).foldlM g b).toOption = (l.foldlM f b).toOption := by
  induction l generalizing b with
  | nil => rfl
  | cons a l ih =>
    rw [List.map_cons, List.foldlM_cons, List.foldlM_cons, toOption_bind, toOption_bind, step a List.mem_cons_self]
    congr 1
    funext next
    exact ih (fun c hc => step c (List.mem_cons_of_mem _ hc)) next

end CivilTime
