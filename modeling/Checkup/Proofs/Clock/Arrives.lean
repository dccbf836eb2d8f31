import Checkup.Proofs.Clock.Order

/-!
Clocks that arrive.

Whoever waits until a limit adds to the clock what is missing and looks again. Rounding may leave
the clock short of the limit, and then there is little missing and it is added once more.
`Clock.Arrives` says that three times are enough, from any moment, a time that the clock can leave
by adding to it.

Main statement: `movesTo_later` (a clock that goes to a time, perhaps by way of others, has come
to it).
-/

namespace Checkup.Clock

section

variable {τ : Type} [Clock τ]

/-- Where a clock is sent that is to reach a limit. -/
def aim (limit now : τ) : τ := add now (sub limit now)

/-- A clock has gone on from one time to another and has come to a third, but no farther. -/
structure MovesTo (target now now' : τ) : Prop where
  forward : le now now' = true
  comes : le target now' = true
  stops : le now' now = true ∨ le now' target = true

end

/-- A clock that reaches every limit from every moment by going three times at most to where it is
sent. -/
class Arrives (τ : Type) [Clock τ] [Ordered τ] where
  IsMoment : τ → Prop
  isTime_of_isMoment {a : τ} : IsMoment a → IsTime a
  isMoment_of_le {a b : τ} : IsMoment a → le a b = true → IsMoment b
  isTime_add {a b t : τ} : IsMoment a → lt a b = true → IsTime t → IsTime (add a t)
  isTime_aim {limit now : τ} : IsMoment now → lt now limit = true → IsTime (aim limit now)
  isTime_left {a b : τ} : lt a b = true → IsTime a
  arrives {limit a b c d : τ} : IsMoment a → IsTime limit → MovesTo (aim limit a) a b →
    MovesTo (aim limit b) b c → MovesTo (aim limit c) c d → le limit d = true

export Arrives (IsMoment)

section

variable {τ : Type} [Clock τ] [Ordered τ] {a b t target now now' : τ}

theorem isTime_earlier_left [Arrives τ] (ha : IsTime a) (b : τ) : IsTime (earlier a b) := by
  unfold earlier
  split
  · rename_i less
    exact Arrives.isTime_left less
  · exact ha

/-- Of two times the later one is one of them. -/
theorem later_stops (ha : IsTime a) (hb : IsTime b) :
    le (later a b) a = true ∨ le (later a b) b = true := by
  unfold later
  split
  · exact .inr (le_refl hb)
  · exact .inl (le_refl ha)

theorem le_later_right (ha : IsTime a) (hb : IsTime b) : le b (later a b) = true := by
  unfold later
  split
  · exact le_refl hb
  · rename_i notLess
    by_contra above
    exact notLess ((Ordered.lt_iff ha hb).mpr above)

/-- A clock that went no farther than a time, and then goes there, has come to it. -/
theorem movesTo_later (hn : IsTime now') (ht : IsTime target) (forward : le now now' = true)
    (stops : le now' now = true ∨ le now' target = true) :
    MovesTo target now (later now' target) := by
  refine ⟨Ordered.le_trans forward (le_later hn target), le_later_right hn ht, ?_⟩
  rcases later_stops hn ht with here | there
  · exact stops.imp (Ordered.le_trans here) (Ordered.le_trans here)
  · exact .inr there

end

/-- In exact time the first move arrives. -/
instance : Arrives Rat where
  IsMoment _ := True
  isTime_of_isMoment _ := trivial
  isMoment_of_le _ _ := trivial
  isTime_add _ _ _ := trivial
  isTime_aim _ _ := trivial
  isTime_left _ := trivial
  arrives {limit a b c d} _ _ first second third := by
    have there : aim limit a = limit := add_sub_cancel a limit
    rw [there] at first
    exact Ordered.le_trans first.comes (Ordered.le_trans second.forward third.forward)

end Checkup.Clock
