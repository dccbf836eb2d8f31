import Checkup.Proofs.Registry.Undone
import Checkup.Proofs.Runner.Scoped
import Checkup.Service
import Mathlib.Data.Finset.Card

/-!
Registering the definitions of a component.

Of the definitions those go in whose identifier is not taken in their category, and of several with
one identifier the first. Their entries come last in the bucket of the category, in the order of the
definitions, and nothing else in the registry changes. Registering the same definitions again finds
every identifier taken.

Main statements: `Definition.mem_newcomers_iff` (which definitions are new),
`Registry.extend_register` (a registration followed by more is one extension) and
`extended_registerDefinitions`.
-/

namespace Checkup

/-! ### Which definitions are new -/

namespace Service.Definition

variable {taken : String → Bool} {d : Definition} {definitions rest : List Definition}

/-- The definitions that are new: where an identifier is not taken, the first with that
identifier. -/
def newcomers (taken : String → Bool) (definitions : List Definition) : List Definition :=
  (definitions.filter fun d => !taken d.id).eraseDupsBy fun d e => d.id == e.id

@[simp] theorem newcomers_nil (taken : String → Bool) : newcomers taken [] = [] := rfl

theorem newcomers_cons_of_taken (here : taken d.id = true) :
    newcomers taken (d :: rest) = newcomers taken rest := by
  simp [newcomers, here]

/-- From a new definition on its identifier is taken. -/
theorem newcomers_cons_of_free (free : taken d.id = false) :
    newcomers taken (d :: rest) = d :: newcomers (fun id => id == d.id || taken id) rest := by
  have others : (rest.filter fun e => !taken e.id).filter
      (fun e => decide ((e.id == d.id) = false)) =
        rest.filter fun e => !(e.id == d.id || taken e.id) := by
    rw [List.filter_filter]
    congr 1
    funext e
    cases e.id == d.id <;> simp
  simp only [newcomers, List.filter_cons, free, Bool.not_false, if_true, List.eraseDupsBy_cons,
    others]

/-- New are the definitions whose identifier is not taken and that are the first with it. -/
theorem mem_newcomers_iff : d ∈ newcomers taken definitions ↔
    taken d.id = false ∧ definitions.find? (fun e => e.id == d.id) = some d := by
  induction definitions generalizing taken with
  | nil => simp
  | cons e rest ih =>
      rw [List.find?_cons]
      cases here : taken e.id with
      | true =>
          rw [newcomers_cons_of_taken here, ih]
          by_cases same : e.id = d.id
          · simp [← same, here]
          · rw [beq_false_of_ne same]
      | false =>
          rw [newcomers_cons_of_free here, List.mem_cons, ih]
          by_cases same : e.id = d.id
          · simp only [same, beq_self_eq_true, Option.some.injEq]
            rw [same] at here
            simp [here, eq_comm]
          · have apart : d ≠ e := fun h => same (h ▸ rfl)
            rw [beq_false_of_ne same]
            simp [apart, Ne.symm same]

/-- The definitions that are new stand in their order. -/
theorem newcomers_sublist (taken : String → Bool) (definitions : List Definition) :
    (newcomers taken definitions).Sublist definitions := by
  induction definitions generalizing taken with
  | nil => exact .slnil
  | cons e rest ih =>
      cases here : taken e.id with
      | true =>
          rw [newcomers_cons_of_taken here]
          exact (ih taken).cons e
      | false =>
          rw [newcomers_cons_of_free here]
          exact (ih _).cons_cons e

/-- No two of them have one identifier. -/
theorem nodup_newcomers (taken : String → Bool) (definitions : List Definition) :
    ((newcomers taken definitions).map Definition.id).Nodup := by
  induction definitions generalizing taken with
  | nil => exact List.nodup_nil
  | cons e rest ih =>
      cases here : taken e.id with
      | true =>
          rw [newcomers_cons_of_taken here]
          exact ih taken
      | false =>
          rw [newcomers_cons_of_free here, List.map_cons, List.nodup_cons]
          refine ⟨?_, ih _⟩
          intro mem
          obtain ⟨d, later, same⟩ := List.mem_map.mp mem
          have free := (mem_newcomers_iff.mp later).1
          simp [same] at free

/-- Every identifier that is not taken has one. -/
theorem mem_ids_newcomers_iff {id : String} :
    id ∈ (newcomers taken definitions).map Definition.id ↔
      id ∈ definitions.map Definition.id ∧ taken id = false := by
  constructor
  · intro mem
    obtain ⟨d, new, rfl⟩ := List.mem_map.mp mem
    have found := mem_newcomers_iff.mp new
    exact ⟨List.mem_map_of_mem (List.mem_of_find?_eq_some found.2), found.1⟩
  · rintro ⟨mem, free⟩
    obtain ⟨d, there, rfl⟩ := List.mem_map.mp mem
    obtain ⟨first, found⟩ : ∃ first, definitions.find? (fun e => e.id == d.id) = some first :=
      Option.isSome_iff_exists.mp (List.find?_isSome.mpr ⟨d, there, beq_self_eq_true d.id⟩)
    have same : first.id = d.id := by simpa using List.find?_some found
    rw [← same] at free found ⊢
    exact List.mem_map_of_mem (mem_newcomers_iff.mpr ⟨free, found⟩)

/-- There are as many as identifiers that are not taken. -/
theorem length_newcomers (taken : String → Bool) (definitions : List Definition) :
    (newcomers taken definitions).length =
      ((definitions.map Definition.id).toFinset.filter fun id => taken id = false).card := by
  have ids : ((newcomers taken definitions).map Definition.id).toFinset =
      (definitions.map Definition.id).toFinset.filter fun id => taken id = false := by
    ext id
    rw [List.mem_toFinset, mem_ids_newcomers_iff, Finset.mem_filter, List.mem_toFinset]
  rw [← ids, List.toFinset_card_of_nodup (nodup_newcomers taken definitions), List.length_map]

/-- There is none where every identifier is taken. -/
theorem newcomers_eq_nil (all : ∀ d ∈ definitions, taken d.id = true) :
    newcomers taken definitions = [] := by
  apply List.eq_nil_iff_forall_not_mem.mpr
  intro d new
  have found := mem_newcomers_iff.mp new
  rw [all d (List.mem_of_find?_eq_some found.2)] at found
  cases found.1

end Service.Definition

/-! ### Registries with more in one category -/

theorem Ordered.get?_append {α : Type} (key : String) (m m' : Ordered α) :
    get? key (m ++ m') = (get? key m).or (get? key m') := by
  induction m with
  | nil => rfl
  | cons entry rest ih =>
      obtain ⟨k, v⟩ := entry
      by_cases same : k = key
      · simp [get?, same]
      · simp [get?, same, ih]

namespace Registry

variable {α : Type} {r r' : Registry α} {category name : String} {value : α} {added : Ordered α}

/-- A registry with more entries at the end of one category; where it had none, the category goes
last. -/
def extend (r : Registry α) (category : String) (added : Ordered α) : Registry α :=
  if added = [] then r
  else
    { buckets := Ordered.put category ((r.bucket? category).getD [] ++ added) r.buckets
      count := r.count + added.length }

@[simp] theorem extend_nil (r : Registry α) (category : String) : r.extend category [] = r :=
  if_pos rfl

/-- A registration followed by more is one extension. -/
theorem extend_register (registers : r.register category name value = .ok r') :
    r'.extend category added = r.extend category ((name, value) :: added) := by
  obtain ⟨free, buckets⟩ := buckets_of_register registers
  have count := count_of_register registers
  have free : Ordered.get? name ((r.bucket? category).getD []) = none := by
    cases here : r.bucket? category with
    | none => rfl
    | some bucket => simpa [get?, here] using free
  have here : r'.bucket? category = some ((r.bucket? category).getD [] ++ [(name, value)]) := by
    rw [bucket?_of_register registers, if_pos rfl, Ordered.put_of_get?_eq_none value free]
  rw [Ordered.put_of_get?_eq_none value free] at buckets
  by_cases last : added = []
  · subst last
    rw [extend_nil, extend, if_neg (List.cons_ne_nil _ _)]
    obtain ⟨buckets', count'⟩ := r'
    obtain rfl : buckets' = _ := buckets
    obtain rfl : count' = _ := count
    rfl
  · rw [extend, if_neg last, extend, if_neg (List.cons_ne_nil _ _), here, buckets, count,
      Ordered.put_put, Option.getD_some, List.append_assoc, List.singleton_append, List.length_cons,
      Nat.add_assoc, Nat.add_comm 1]

/-- The total grows by the entries that are added. -/
theorem total_extend : (r.extend category added).total = r.total + added.length := by
  unfold extend
  split
  · rename_i none
    simp [none]
  · rfl

/-- What is added stands behind what was there. -/
theorem bucket?_extend (more : added ≠ []) : (r.extend category added).bucket? category =
    some ((r.bucket? category).getD [] ++ added) := by
  rw [extend, if_neg more]
  exact Ordered.get?_put_self ..

/-- The category has the entries it had, and then those that are added. -/
theorem getD_bucket?_extend : ((r.extend category added).bucket? category).getD [] =
    (r.bucket? category).getD [] ++ added := by
  by_cases none : added = []
  · simp [none]
  · rw [bucket?_extend none, Option.getD_some]

/-- Every other category has the entries it had. -/
theorem bucket?_extend_of_ne {other : String} (apart : other ≠ category) :
    (r.extend category added).bucket? other = r.bucket? other := by
  unfold extend
  split
  · rfl
  · exact Ordered.get?_put_of_ne (Ne.symm apart) ..

/-- A category that was not there is the last one. -/
theorem categories_extend : (r.extend category added).categories =
    if added = [] ∨ (r.bucket? category).isSome then r.categories
    else r.categories ++ [category] := by
  by_cases none : added = []
  · simp [none]
  · rw [extend, if_neg none, categories]
    cases here : r.bucket? category with
    | some bucket =>
        rw [if_pos (.inr rfl)]
        exact Ordered.keys_put_of_get? _ here
    | none =>
        rw [if_neg (by simp [none]), Ordered.put_of_get?_eq_none _ here]
        simp [Ordered.keys, categories]

/-- One registry has more entries than another at the end of one category, and is else the same. -/
structure Continues (r : Registry α) (category : String) (added : Ordered α) (r' : Registry α) :
    Prop where
  total_eq : r'.total = r.total + added.length
  bucket_eq : (r'.bucket? category).getD [] = (r.bucket? category).getD [] ++ added
  others : ∀ other, other ≠ category → r'.bucket? other = r.bucket? other
  categories_eq : r'.categories =
    if added = [] ∨ (r.bucket? category).isSome then r.categories else r.categories ++ [category]

theorem continues_extend (r : Registry α) (category : String) (added : Ordered α) :
    r.Continues category added (r.extend category added) where
  total_eq := total_extend
  bucket_eq := getD_bucket?_extend
  others _ apart := bucket?_extend_of_ne apart
  categories_eq := categories_extend

/-- What is found under the category is found among the entries it had, or else among those that
are added. -/
theorem get?_extend (name : String) : (r.extend category added).get? category name =
    (r.get? category name).or (Ordered.get? name added) := by
  have whole (r : Registry α) :
      r.get? category name = Ordered.get? name ((r.bucket? category).getD []) := by
    rw [get?]
    cases r.bucket? category <;> rfl
  rw [whole, getD_bucket?_extend, Ordered.get?_append, whole]

end Registry

/-! ### Registering -/

namespace World

variable {τ : Type} {w w₁ w' : World τ} {store : Nat} {category : String}
  {added : Ordered (Entry τ)} {entry : Entry τ}

/-- A check whose name is taken is refused. -/
theorem register_of_taken
    (taken : (w.store store).contains entry.check.category entry.check.name = true) :
    w.register store entry = .error (.duplicate entry.check.name entry.check.category) := by
  unfold register
  rw [Registry.register_error_iff.mpr ⟨taken, rfl⟩]

/-- Any other is registered. -/
theorem exists_register
    (free : (w.store store).contains entry.check.category entry.check.name = false) :
    ∃ w₁, w.register store entry = .ok w₁ := by
  unfold register
  cases puts : (w.store store).register entry.check.category entry.check.name entry with
  | ok r => exact ⟨_, rfl⟩
  | error fault =>
      have taken := (Registry.register_error_iff.mp puts).1
      rw [free] at taken
      cases taken

/-- Once a check is registered its name is taken. -/
theorem contains_of_register (made : store < w.stores.size)
    (registers : w.register store entry = .ok w₁) :
    (w₁.store store).contains entry.check.category =
      fun name => name == entry.check.name ||
        (w.store store).contains entry.check.category name := by
  obtain ⟨r, puts, rfl⟩ := exists_of_register registers
  have here : (w.setStore store r).store store = r := by rw [store_setStore, if_pos made]
  funext name
  change ((w.setStore store r).store store).contains _ name = _
  rw [here, Registry.contains, Registry.get?_of_register puts]
  by_cases same : name = entry.check.name
  · simp [same]
  · simp [same, Registry.contains]

theorem size_of_register (registers : w.register store entry = .ok w₁) :
    w₁.stores.size = w.stores.size := by
  obtain ⟨r, -, rfl⟩ := exists_of_register registers
  exact Array.size_modify ..

/-- The world has more entries at the end of one category of a registry, and notes in its log;
nothing else is new. -/
structure Extended (store : Nat) (category : String) (added : Ordered (Entry τ))
    (w w' : World τ) : Prop where
  store_eq : w'.store store = (w.store store).extend category added
  others : ∀ other, other ≠ store → w'.store other = w.store other
  size_eq : w'.stores.size = w.stores.size
  rest : ∃ notes, w' = { w with stores := w'.stores, log := w.log ++ notes }

namespace Extended

theorem refl (store : Nat) (category : String) (w : World τ) :
    Extended store category [] w w where
  store_eq := (Registry.extend_nil ..).symm
  others _ _ := rfl
  size_eq := rfl
  rest := ⟨[], by rw [List.append_nil]⟩

/-- A note may come first. -/
theorem of_note {e : Event τ} (extended : Extended store category added (w.note e) w') :
    Extended store category added w w' where
  store_eq := extended.store_eq
  others := extended.others
  size_eq := extended.size_eq
  rest := by
    obtain ⟨notes, rest⟩ := extended.rest
    refine ⟨e :: notes, rest.trans ?_⟩
    simp [note]

/-- A registration may come first. -/
theorem of_register (made : store < w.stores.size) (registers : w.register store entry = .ok w₁)
    (extended : Extended store entry.check.category added w₁ w') :
    Extended store entry.check.category ((entry.check.name, entry) :: added) w w' := by
  obtain ⟨r, puts, rfl⟩ := exists_of_register registers
  have here : (w.setStore store r).store store = r := by rw [store_setStore, if_pos made]
  constructor
  · rw [extended.store_eq, ← Registry.extend_register puts]
    exact congrArg (Registry.extend · _ _) here
  · intro other apart
    exact (extended.others other apart).trans (store_setStore_of_ne apart w r)
  · exact extended.size_eq.trans (Array.size_modify ..)
  · obtain ⟨notes, rest⟩ := extended.rest
    refine ⟨.registered entry.check.category entry.check.name :: notes, rest.trans ?_⟩
    simp [note, setStore]

/-- With no entries there are only notes. -/
theorem eq_of_nil (extended : Extended store category [] w w') :
    ∃ notes, w' = { w with log := w.log ++ notes } := by
  obtain ⟨notes, rest⟩ := extended.rest
  have same (n : Nat) : w'.store n = w.store n := by
    by_cases this : n = store
    · rw [this, extended.store_eq, Registry.extend_nil]
    · exact extended.others n this
  have stores : w'.stores = w.stores := by
    apply Array.ext extended.size_eq
    intro n inside inside'
    have found := same n
    unfold World.store at found
    rwa [Array.getElem?_eq_getElem inside, Array.getElem?_eq_getElem inside'] at found
  rw [stores] at rest
  exact ⟨notes, rest⟩

end Extended

end World

namespace Service

open Definition (newcomers newcomers_cons_of_taken newcomers_cons_of_free)

variable {τ σ : Type} {s : Service τ σ} {w : World τ}

def definitionEntries (number : Nat) (category : String) (detailsFor : String → Probe τ)
    (definitions : List Definition) : Ordered (Entry τ) :=
  definitions.map fun d => (d.id, definitionEntry number category detailsFor d)

theorem keys_definitionEntries (number : Nat) (category : String) (detailsFor : String → Probe τ)
    (definitions : List Definition) :
    Ordered.keys (definitionEntries number category detailsFor definitions) =
      definitions.map Definition.id := by
  simp [Ordered.keys, definitionEntries]

section Steps

variable (number : Nat) (category : String) (detailsFor : String → Probe τ)

/-- A definition that is accepted is counted, and the others follow. -/
theorem registerDefinitions_cons_of_ok {w₁ : World τ} {d : Definition}
    (registers : w.register s.store (definitionEntry number category detailsFor d) = .ok w₁)
    (rest : List Definition) :
    s.registerDefinitions number category detailsFor (d :: rest) w =
      ((s.registerDefinitions number category detailsFor rest w₁).1.map (· + 1),
        (s.registerDefinitions number category detailsFor rest w₁).2) := by
  simp only [registerDefinitions, register, registers]

/-- A name that is taken is noted, and no more. -/
theorem registerDefinitions_cons_of_taken {d : Definition}
    (taken : (w.store s.store).contains category d.id = true) (rest : List Definition) :
    s.registerDefinitions number category detailsFor (d :: rest) w =
      s.registerDefinitions number category detailsFor rest
        (w.note (.skippedDefinition category d.id (Fault.duplicate d.id category).text)) := by
  have refuses : w.register s.store (definitionEntry number category detailsFor d) =
      .error (.duplicate d.id category) := World.register_of_taken taken
  have kind : (Fault.duplicate d.id category).kind = .duplicateDiagnostic := rfl
  simp only [registerDefinitions, register, refuses, kind, if_true]

/-- A component's definitions are registered without a fault: there are new entries for those that
are new, as many as are counted. -/
theorem extended_registerDefinitions (there : s.store < w.stores.size)
    (definitions : List Definition) : ∃ w',
    s.registerDefinitions number category detailsFor definitions w =
      (.returned (newcomers ((w.store s.store).contains category) definitions).length, w') ∧
    World.Extended s.store category (definitionEntries number category detailsFor
      (newcomers ((w.store s.store).contains category) definitions)) w w' := by
  induction definitions generalizing w with
  | nil => exact ⟨w, rfl, .refl ..⟩
  | cons d rest ih =>
      cases taken : (w.store s.store).contains category d.id with
      | true =>
          rw [registerDefinitions_cons_of_taken number category detailsFor taken,
            newcomers_cons_of_taken taken]
          obtain ⟨w', runs, extended⟩ := ih (w := w.note _) there
          exact ⟨w', runs, extended.of_note⟩
      | false =>
          obtain ⟨w₁, registers⟩ : ∃ w₁,
              w.register s.store (definitionEntry number category detailsFor d) = .ok w₁ :=
            World.exists_register taken
          have there₁ : s.store < w₁.stores.size := by rwa [World.size_of_register registers]
          have taken₁ : (w₁.store s.store).contains category =
              fun id => id == d.id || (w.store s.store).contains category id :=
            World.contains_of_register there registers
          obtain ⟨w', runs, extended⟩ := ih there₁
          rw [taken₁] at runs extended
          rw [registerDefinitions_cons_of_ok number category detailsFor registers, runs,
            newcomers_cons_of_free taken]
          exact ⟨w', rfl, extended.of_register there registers⟩

/-- Where every identifier is taken, notes are all that comes of it. -/
theorem registerDefinitions_of_taken (there : s.store < w.stores.size)
    {definitions : List Definition}
    (taken : ∀ d ∈ definitions, (w.store s.store).contains category d.id = true) :
    ∃ notes, s.registerDefinitions number category detailsFor definitions w =
      (.returned 0, { w with log := w.log ++ notes }) := by
  obtain ⟨w', runs, extended⟩ :=
    extended_registerDefinitions number category detailsFor there definitions
  rw [Definition.newcomers_eq_nil taken] at runs extended
  obtain ⟨notes, rfl⟩ := extended.eq_of_nil
  exact ⟨notes, runs⟩

end Steps

/-! ### What is found afterwards -/

section Afterwards

variable {w' : World τ} {number : Nat} {category : String} {detailsFor : String → Probe τ}
  {definitions : List Definition} {d : Definition}
  (extended : World.Extended s.store category (definitionEntries number category detailsFor
    (newcomers ((w.store s.store).contains category) definitions)) w w')
include extended

/-- Under the identifier of a new definition its own entry is found. -/
theorem get?_of_extended
    (new : d ∈ newcomers ((w.store s.store).contains category) definitions) :
    (w'.store s.store).get? category d.id =
      some (definitionEntry number category detailsFor d) := by
  have free : (w.store s.store).get? category d.id = none :=
    Option.isSome_eq_false_iff.mp (Definition.mem_newcomers_iff.mp new).1 |>
      Option.isNone_iff_eq_none.mp
  have nodup := Definition.nodup_newcomers ((w.store s.store).contains category) definitions
  rw [← keys_definitionEntries number category detailsFor] at nodup
  rw [extended.store_eq, Registry.get?_extend, free, Option.none_or]
  exact (Ordered.mem_iff_get? nodup).mp (List.mem_map_of_mem new)

/-- The identifier of every definition is taken. -/
theorem contains_of_extended (mem : d ∈ definitions) :
    (w'.store s.store).contains category d.id = true := by
  cases before : (w.store s.store).contains category d.id with
  | true =>
      obtain ⟨entry, found⟩ := Option.isSome_iff_exists.mp before
      rw [extended.store_eq, Registry.contains, Registry.get?_extend, found]
      rfl
  | false =>
      have there : d.id ∈ (newcomers ((w.store s.store).contains category) definitions).map
          Definition.id :=
        Definition.mem_ids_newcomers_iff.mpr ⟨List.mem_map_of_mem mem, before⟩
      obtain ⟨first, new, same⟩ := List.mem_map.mp there
      rw [← same, Registry.contains, get?_of_extended extended new]
      rfl

end Afterwards

end Service

end Checkup
