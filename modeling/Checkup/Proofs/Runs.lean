/-!
Runs of systems that go step by step.

Batches, crews, actors around a lock and threads around a tree or a registry all go on alike: a step
that may be impossible, and a run that makes the steps of a list one after the other. `IsRun` says
of a function that it is the run of a step, and `Emits` that another puts together what the steps of
a run tell. Whatever is said here holds of all of them.

Main statements: `append_eq_some_iff` (a run can be taken apart anywhere, and put together) and
`Emits.history` (what every step keeps, of what was told so far and the state that it leads to,
holds after a run), with what runs keep of their own steps and of states as its instances.
-/

namespace Checkup

variable {S A B : Type} {step : S → A → Option S} {run : S → List A → Option S} {s t u : S} {a : A}
  {steps more : List A}

/-- `run` makes the steps of a list one after the other; there is no run where one of them cannot be
made. -/
structure IsRun (step : S → A → Option S) (run : S → List A → Option S) : Prop where
  nil (s : S) : run s [] = some s
  cons (s : S) (a : A) (steps : List A) :
    run s (a :: steps) = (step s a).bind fun next => run next steps

/-! ### Taking runs apart -/

namespace IsRun

variable (isRun : IsRun step run)
include isRun

theorem nil_eq_some_iff : run s [] = some t ↔ s = t := by
  rw [isRun.nil, Option.some.injEq]

theorem cons_eq_some_iff :
    run s (a :: steps) = some u ↔ ∃ t, step s a = some t ∧ run t steps = some u := by
  rw [isRun.cons, Option.bind_eq_some_iff]

theorem head (makes : step s a = some t) (goesOn : run t steps = some u) :
    run s (a :: steps) = some u :=
  isRun.cons_eq_some_iff.mpr ⟨t, makes, goesOn⟩

theorem singleton_eq_some_iff : run s [a] = some t ↔ step s a = some t := by
  rw [isRun.cons_eq_some_iff]
  constructor
  · rintro ⟨next, makes, ends⟩
    exact isRun.nil_eq_some_iff.mp ends ▸ makes
  · intro makes
    exact ⟨t, makes, isRun.nil t⟩

/-- A run can be taken apart anywhere, and runs can be put together. -/
theorem append_eq_some_iff :
    run s (steps ++ more) = some u ↔ ∃ t, run s steps = some t ∧ run t more = some u := by
  induction steps generalizing s with
  | nil => simp only [List.nil_append, isRun.nil_eq_some_iff, exists_eq_left']
  | cons a steps ih =>
      simp only [List.cons_append, isRun.cons_eq_some_iff, ih]
      constructor
      · rintro ⟨next, makes, t, goesOn, ends⟩
        exact ⟨t, ⟨next, makes, goesOn⟩, ends⟩
      · rintro ⟨t, ⟨next, makes, goesOn⟩, ends⟩
        exact ⟨next, makes, t, goesOn, ends⟩

/-- Runs are put one behind the other. -/
theorem append (runs : run s steps = some t) (goesOn : run t more = some u) :
    run s (steps ++ more) = some u :=
  isRun.append_eq_some_iff.mpr ⟨t, runs, goesOn⟩

end IsRun

/-! ### What runs tell -/

/-- `all` puts together what the steps of a run tell, where `out` is what one of them tells. -/
structure Emits (step : S → A → Option S) (out : S → A → List B) (all : S → List A → List B) :
    Prop where
  nil (s : S) : all s [] = []
  cons {s t : S} {a : A} (makes : step s a = some t) (steps : List A) :
    all s (a :: steps) = out s a ++ all t steps

namespace Emits

variable {out : S → A → List B} {all : S → List A → List B} (emits : Emits step out all)
  (isRun : IsRun step run)
include emits isRun

/-- What every step of a list keeps, of what was told so far and the state that it leads to, holds
after these steps. -/
theorem history {I : List B → S → Prop}
    (keeps : ∀ {told : List B} {s t : S} {a : A},
      a ∈ steps → I told s → step s a = some t → I (told ++ out s a) t)
    (told : List B) (runs : run s steps = some t) (holds : I told s) : I (told ++ all s steps) t := by
  induction steps generalizing told s with
  | nil =>
      rw [emits.nil, List.append_nil]
      exact isRun.nil_eq_some_iff.mp runs ▸ holds
  | cons a steps ih =>
      obtain ⟨next, makes, goesOn⟩ := isRun.cons_eq_some_iff.mp runs
      have later := ih (fun mem => keeps (List.mem_cons_of_mem a mem)) (told ++ out s a) goesOn
        (keeps List.mem_cons_self holds makes)
      rwa [List.append_assoc, ← emits.cons makes] at later

/-- What runs tell that are put together. -/
theorem append (runs : run s steps = some t) : all s (steps ++ more) = all s steps ++ all t more := by
  induction steps generalizing s with
  | nil =>
      obtain rfl := isRun.nil_eq_some_iff.mp runs
      rw [emits.nil, List.nil_append, List.nil_append]
  | cons a steps ih =>
      obtain ⟨next, makes, goesOn⟩ := isRun.cons_eq_some_iff.mp runs
      rw [List.cons_append, emits.cons makes, emits.cons makes, ih goesOn, List.append_assoc]

theorem concat (runs : run s steps = some t) (makes : step t a = some u) :
    all s (steps ++ [a]) = all s steps ++ out t a := by
  rw [emits.append isRun runs, emits.cons makes, emits.nil, List.append_nil]

end Emits

/-! ### What steps keep -/

namespace IsRun

variable (isRun : IsRun step run)
include isRun

/-- What each step of a list keeps, of the steps made so far and the state they lead to, holds after
these steps. -/
theorem history_of_mem {I : List A → S → Prop}
    (keeps : ∀ {past : List A} {s t : S} {a : A},
      a ∈ steps → I past s → step s a = some t → I (past ++ [a]) t)
    (past : List A) (runs : run s steps = some t) (holds : I past s) : I (past ++ steps) t := by
  have itself : Emits step (fun _ a => [a]) fun _ steps => steps := ⟨fun _ => rfl, fun _ _ => rfl⟩
  exact itself.history isRun keeps past runs holds

/-- What every step keeps, of the steps made so far and the state they lead to, holds after a
run. -/
theorem history {I : List A → S → Prop}
    (keeps : ∀ {past : List A} {s t : S} {a : A},
      I past s → step s a = some t → I (past ++ [a]) t)
    (past : List A) (runs : run s steps = some t) (holds : I past s) : I (past ++ steps) t :=
  isRun.history_of_mem (fun _ => keeps) past runs holds

/-- What every step keeps of a state holds after a run. -/
theorem invariant {I : S → Prop} (keeps : ∀ {s t : S} {a : A}, I s → step s a = some t → I t)
    (runs : run s steps = some t) (holds : I s) : I t :=
  isRun.history (I := fun _ => I) keeps [] runs holds

end IsRun

end Checkup
