import Checkup.Proofs.Pool.Batch
import Checkup.Runner

/-!
A batch on a pool and one that is run in order.

Records carry ids, time stamps and what the probes make of the world, which differ with the order in
which checks are run. What is told from a record may depend on its entry alone: then a pool tells
the same as a run in order, however its steps are ordered.

Main statements: `runAll_tells` and `pool_agrees_with_runAll`.
-/

namespace Checkup.Runner

open Pool

variable {τ σ γ : Type} [Clock τ] {services : Array (Service τ σ)} {r : Runner τ σ}
  {entries : List (Entry τ)} {scope : ScopeId} {tell : Record σ → γ} {f : Entry τ → γ}

/-- An entry comes to a record wherever it is run, and what is told from that depends on the entry
alone. -/
def Tells (services : Array (Service τ σ)) (r : Runner τ σ) (tell : Record σ → γ) (f : Entry τ → γ)
    (entry : Entry τ) : Prop :=
  ∀ scope w, ∃ record, (runOne services r entry scope w).1 = .returned record ∧
    tell record = f entry

/-- In order, every entry is told once, and at its place. -/
theorem runEach_tells (tells : ∀ entry ∈ entries, Tells services r tell f entry) (scope : ScopeId)
    (w : World τ) : ∃ records : List (Record σ),
      gather (runEach services r scope entries w).1 = .returned records ∧
        records.map tell = entries.map f := by
  induction entries generalizing w with
  | nil => exact ⟨[], rfl, rfl⟩
  | cons entry entries ih =>
      obtain ⟨record, first, told⟩ := tells entry List.mem_cons_self scope w
      obtain ⟨records, rest, tolds⟩ := ih
        (fun entry mem => tells entry (List.mem_cons_of_mem _ mem))
        (runOne services r entry scope w).2
      refine ⟨record :: records, ?_, ?_⟩
      · simp only [runEach, gather, first, rest]
      · rw [List.map_cons, List.map_cons, told, tolds]

theorem runAll_tells (tells : ∀ entry ∈ entries, Tells services r tell f entry) (scope : ScopeId)
    (w : World τ) : ∃ records : List (Record σ),
      (runAll services r entries scope w).1 = .returned records ∧
        records.map tell = entries.map f :=
  runEach_tells tells _ _

/-- A pool tells what a run in order tells, if every task that ends does so with what its entry came
to somewhere. -/
theorem pool_agrees_with_runAll {size : Nat} {p : Pool (Entry τ) (Record σ)}
    {steps : List (Step (Record σ))}
    (tells : ∀ entry ∈ entries, Tells services r tell f entry)
    (runs : (start size entries).run steps = some p) (final : p.IsFinal)
    (executes : ∀ k result entry, Step.finish k result ∈ steps → entries[k]? = some entry →
      ∃ s w record, (runOne services r entry s w).1 = .returned record ∧ result = .ok record)
    (scope : ScopeId) (w : World τ) : ∃ records : List (Record σ),
      (runAll services r entries scope w).1 = .returned records ∧
        (p.collected.map fun c => tell c.2).Perm (records.map tell) := by
  obtain ⟨records, inOrder, told⟩ := runAll_tells tells scope w
  refine ⟨records, inOrder, ?_⟩
  rw [told]
  have faultless : Faultless steps := by
    intro k fault mem
    have inside := lt_length_of_finish (tracked_run runs) mem
    rw [← List.length_map Task.item, items_of_isFinal (itemized_run runs) final] at inside
    have here : entries[k]? = some entries[k] := List.getElem?_eq_getElem inside
    obtain ⟨s, w, record, -, same⟩ := executes k _ _ mem here
    cases same
  refine told_perm runs faultless final tell f fun k record entry ended here => ?_
  obtain ⟨s, w, record', returns, same⟩ := executes k _ entry ended here
  obtain ⟨record'', returns', told⟩ := tells entry (List.mem_of_getElem? here) s w
  rw [returns] at returns'
  cases returns'
  cases same
  exact told

end Checkup.Runner
