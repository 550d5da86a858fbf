/-! What a chain of checks that has succeeded tells: each of its checks has succeeded. -/
namespace PassTuner.Checked

variable {ε ε' α β : Type}

theorem bindOk {first : Except ε α} {next : α → Except ε β} {b : β} :
    first >>= next = .ok b ↔ ∃ a, first = .ok a ∧ next a = .ok b := by
  cases first with
  | error e => exact ⟨nofun, nofun⟩
  | ok a => exact ⟨fun ok => ⟨a, rfl, ok⟩, fun ⟨_, same, ok⟩ => by cases same; exact ok⟩

theorem mapOk {first : Except ε α} {f : α → β} {b : β} :
    first.map f = .ok b ↔ ∃ a, first = .ok a ∧ f a = b := by
  cases first with
  | error e => exact ⟨nofun, nofun⟩
  | ok a =>
    refine ⟨fun ok => ⟨a, rfl, Except.ok.inj ok⟩, ?_⟩
    rintro ⟨_, same, rfl⟩
    cases same
    rfl

theorem mapErrorOk {first : Except ε α} {f : ε → ε'} {a : α} :
    first.mapError f = .ok a ↔ first = .ok a := by
  cases first with
  | error e => exact ⟨nofun, nofun⟩
  | ok b => exact ⟨fun ok => by cases ok; rfl, fun ok => by cases ok; rfl⟩

/-- A check that has passed gives what it was made for. -/
theorem passed {fits : Prop} (fit : fits) {a b : α} :
    (.ok a : Except ε α) = .ok b ↔ fits ∧ a = b := by
  rw [Except.ok.injEq]
  exact (and_iff_right fit).symm

theorem refused {fits : Prop} (unfit : ¬fits) {e : ε} {a b : α} :
    (.error e : Except ε α) = .ok b ↔ fits ∧ a = b := by
  refine iff_of_false (by simp) ?_
  rintro ⟨fit, _⟩
  exact unfit fit

end PassTuner.Checked
