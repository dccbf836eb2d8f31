import Checkup.Clock
import Mathlib.Algebra.Order.Ring.Rat

/-!
What is relied on about the times of a clock.

Not every value of the type need be a time that can be compared: floating point has one that is no
number. `Clock.Ordered` names the values that are times, on which the two comparisons read one
total order, and the spans that may be added to any of them.

Main statements: `le_later` and `isTime_later` (a clock moved by `later` does not go back and stays
a time), `le_earlier_iff` (the earlier of two times has passed as soon as one of them has).
-/

namespace Checkup.Clock

/-- A clock whose comparisons read one total order on what counts as a time. A span is something
that takes every time to a time. -/
class Ordered (τ : Type) [Clock τ] where
  IsTime : τ → Prop
  IsSpan : τ → Prop
  le_total {a b : τ} : IsTime a → IsTime b → le a b = true ∨ le b a = true
  le_trans {a b c : τ} : le a b = true → le b c = true → le a c = true
  lt_iff {a b : τ} : IsTime a → IsTime b → (lt a b = true ↔ ¬ le b a = true)
  isTime_of_lt {a b : τ} : lt a b = true → IsTime b
  isTime_add {a b : τ} : IsTime a → IsSpan b → IsTime (add a b)

export Ordered (IsTime IsSpan)

section

variable {τ : Type} [Clock τ] [Ordered τ] {a b t : τ}

theorem le_refl (ha : IsTime a) : le a a = true := by
  rcases Ordered.le_total ha ha with h | h <;> exact h

/-! ### The later of two times -/

theorem isTime_later (ha : IsTime a) (b : τ) : IsTime (later a b) := by
  unfold later
  split
  · rename_i less
    exact Ordered.isTime_of_lt less
  · exact ha

/-- Whatever `b` is, even no time at all, nothing is lost of `a`. -/
theorem le_later (ha : IsTime a) (b : τ) : le a (later a b) = true := by
  unfold later
  split
  · rename_i less
    have hb := Ordered.isTime_of_lt less
    have notBelow := (Ordered.lt_iff ha hb).mp less
    rcases Ordered.le_total ha hb with h | h
    · exact h
    · exact absurd h notBelow
  · exact le_refl ha

/-! ### The earlier of two times -/

theorem isTime_earlier (ha : IsTime a) (hb : IsTime b) : IsTime (earlier a b) := by
  unfold earlier
  split
  · exact hb
  · exact ha

/-- The earlier of two times has come if one of them has. -/
theorem le_earlier_iff (ha : IsTime a) (hb : IsTime b) :
    le (earlier a b) t = true ↔ le a t = true ∨ le b t = true := by
  unfold earlier
  split
  · rename_i less
    have notBelow := (Ordered.lt_iff hb ha).mp less
    have below : le b a = true := (Ordered.le_total ha hb).resolve_left notBelow
    exact ⟨.inr, fun h => h.elim (Ordered.le_trans below) id⟩
  · rename_i notLess
    have below : le a b = true := by
      by_contra h
      exact notLess ((Ordered.lt_iff hb ha).mpr h)
    exact ⟨.inl, fun h => h.elim id (Ordered.le_trans below)⟩

/-- Of two times either of which may be missing, the earlier has passed once one of them has. -/
theorem earliest?_passed_iff {x y : Option τ} (hx : ∀ d, x = some d → IsTime d)
    (hy : ∀ d, y = some d → IsTime d) :
    (∃ d, earliest? x y = some d ∧ le d t = true) ↔
      (∃ d, x = some d ∧ le d t = true) ∨ ∃ d, y = some d ∧ le d t = true := by
  cases x with
  | none => simp [earliest?]
  | some d =>
      cases y with
      | none => simp [earliest?]
      | some d' => simp [earliest?, le_earlier_iff (hx d rfl) (hy d' rfl)]

omit [Ordered τ] in
theorem eq_of_earliest? {x y : Option τ} {d : τ} (h : earliest? x y = some d) :
    x = some d ∨ y = some d := by
  cases x with
  | none => exact .inr h
  | some a =>
      cases y with
      | none => exact .inl h
      | some b =>
          simp only [earliest?, earlier, Option.some.injEq] at h
          split at h
          · exact .inr (congrArg some h)
          · exact .inl (congrArg some h)

/-- The earliest of times is a time. -/
theorem isTime_earliest? {x y : Option τ} (hx : ∀ d, x = some d → IsTime d)
    (hy : ∀ d, y = some d → IsTime d) {d : τ} (h : earliest? x y = some d) : IsTime d := by
  rcases eq_of_earliest? h with first | second
  · exact hx d first
  · exact hy d second

end

/-- In exact time everything is a time and a span. -/
instance : Ordered Rat where
  IsTime _ := True
  IsSpan _ := True
  le_total {a b} _ _ := by
    simp only [Clock.le, decide_eq_true_eq]
    exact Rat.le_total
  le_trans {a b c} h h' := by
    simp only [Clock.le, decide_eq_true_eq] at *
    exact h.trans h'
  lt_iff {a b} _ _ := by simp [Clock.lt, Clock.le]
  isTime_of_lt _ := trivial
  isTime_add _ _ := trivial

end Checkup.Clock
