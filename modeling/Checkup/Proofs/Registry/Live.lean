import Checkup.Proofs.Registry.Sound

/-!
What is live in a registry, told from the calls that were made and what they returned.

A pair of a category and a name is live if the last call that had an effect on it was one that
registered it. A category is open since the call that registered in it while it had no live pair,
for as long as it has had one ever since. Neither speaks of the two levels of a registry, of its
buckets or of its total.

Main statements: `Write.does_answer` (all that a call can do), `isLive_concat_iff` (what is live
after one call more) and `IsOpen.concat` (a category stays open while it has a live pair).
-/

namespace Checkup.Registry

variable {τ : Type}

/-! ### Calls that write -/

/-- A call that may change a registry. What is offered for registration is a probe, or something
that cannot be run, known by the name of its type. -/
inductive Write (τ : Type) where
  | register (check : Check) (offered : Except String (Probe τ)) (service : Nat)
  | unregister (category name : String)
  | clear

namespace Write

/-- What a call returns and leaves. -/
def answer (r : Registry (Entry τ)) : Write τ → Reply τ × Registry (Entry τ)
  | register check offered service =>
    match Entry.ofOffer check service offered with
    | .ok entry => (Call.register entry).answer r
    | .error fault => (.refused fault, r)
  | unregister category name => (Call.unregister category name).answer r
  | clear => Call.clear.answer r

def after (r : Registry (Entry τ)) (history : List (Write τ)) : Registry (Entry τ) :=
  history.foldl (fun r write => (write.answer r).2) r

/-- The calls of a history, each with what it returned. -/
def trace (r : Registry (Entry τ)) : List (Write τ) → List (Write τ × Reply τ)
  | [] => []
  | write :: rest => (write, (write.answer r).1) :: trace (write.answer r).2 rest

/-- All that a call can do: what it returns, and what it leaves. -/
inductive Does (r : Registry (Entry τ)) : Write τ → Reply τ → Registry (Entry τ) → Prop
  | refuse (check : Check) (offered : Except String (Probe τ)) (service : Nat) (fault : Fault) :
      Does r (.register check offered service) (.refused fault) r
  | register (entry : Entry τ) (offered : Except String (Probe τ)) (service : Nat)
      (r' : Registry (Entry τ)) :
      r.register entry.check.category entry.check.name entry = .ok r' →
      Does r (.register entry.check offered service) (.registered entry) r'
  | miss (category name : String) : Does r (.unregister category name) (.removed false) r
  | unregister (category name : String) : r.contains category name = true →
      Does r (.unregister category name) (.removed true) (r.unregister category name).2
  | clear : Does r .clear .cleared {}

/-- What a call answers is what its specification says. -/
theorem does_answer (r : Registry (Entry τ)) (write : Write τ) :
    write.Does r (write.answer r).1 (write.answer r).2 := by
  cases write with
  | register check offered service =>
      cases offered with
      | error typeName => exact .refuse ..
      | ok probe =>
          simp only [answer, Entry.ofOffer, Call.answer]
          split
          · rename_i registers
            exact .register ⟨check, probe, service⟩ _ _ _ registers
          · exact .refuse ..
  | unregister category name =>
      simp only [answer, Call.answer]
      cases there : r.contains category name with
      | true =>
          have removed : (r.unregister category name).1 = true := by simp [Registry.unregister, there]
          rw [removed]
          exact .unregister category name there
      | false =>
          have same : r.unregister category name = (false, r) := by simp [Registry.unregister, there]
          rw [same]
          exact .miss category name
  | clear => exact .clear

end Write

/-! ### What is live -/

def Registers (entry : Entry τ) (call : Write τ × Reply τ) : Prop :=
  ∃ offered service, call = (.register entry.check offered service, .registered entry)

/-- A call had an effect on a pair: it registered it, took it away, or took everything away. -/
def Touches (category name : String) : Write τ × Reply τ → Prop
  | (.register check .., .registered _) => check.category = category ∧ check.name = name
  | (.unregister category' name', .removed true) => category' = category ∧ name' = name
  | (.clear, _) => True
  | _ => False

/-- A pair is live since the call with a number, with the entry that this call made: it registered
the pair, and no later call had an effect on it. -/
structure IsLive (calls : List (Write τ × Reply τ)) (category name : String) (since : Nat)
    (entry : Entry τ) : Prop where
  registers : ∃ call, calls[since]? = some call ∧ Registers entry call
  category_eq : entry.check.category = category
  name_eq : entry.check.name = name
  last {later : Nat} {call : Write τ × Reply τ} : since < later → calls[later]? = some call →
    ¬ Touches category name call

def HasLive (calls : List (Write τ × Reply τ)) (category : String) : Prop :=
  ∃ name since entry, IsLive calls category name since entry

/-- A category is open since the call with a number: it registered in the category while no pair of
that was live, and ever since one was. -/
structure IsOpen (calls : List (Write τ × Reply τ)) (category : String) (since : Nat) : Prop where
  registers : ∃ call entry, calls[since]? = some call ∧ Registers entry call ∧
    entry.check.category = category
  fresh : ¬ HasLive (calls.take since) category
  filled {later : Nat} : since < later → HasLive (calls.take later) category

def OpenBefore (calls : List (Write τ × Reply τ)) (a b : String) : Prop :=
  ∃ i j, IsOpen calls a i ∧ IsOpen calls b j ∧ i < j

def LiveBefore (calls : List (Write τ × Reply τ)) (category a b : String) : Prop :=
  ∃ i j x y, IsLive calls category a i x ∧ IsLive calls category b j y ∧ i < j

/-- Entries go by the opening of their categories and, within one category, by registration. -/
def Precedes (calls : List (Write τ × Reply τ)) (a b : Entry τ) : Prop :=
  OpenBefore calls a.check.category b.check.category ∨
    a.check.category = b.check.category ∧
      LiveBefore calls a.check.category a.check.name b.check.name

variable {calls : List (Write τ × Reply τ)} {new call : Write τ × Reply τ} {entry other : Entry τ}
  {category name : String} {since later : Nat}

theorem Registers.touches (registers : Registers entry call) :
    Touches entry.check.category entry.check.name call := by
  obtain ⟨offered, service, rfl⟩ := registers
  exact ⟨rfl, rfl⟩

theorem IsLive.lt_length (live : IsLive calls category name since entry) : since < calls.length := by
  obtain ⟨call, here, -⟩ := live.registers
  exact (List.getElem?_eq_some_iff.mp here).1

/-- A pair is live since one call only. -/
theorem IsLive.le (live : IsLive calls category name since entry)
    (live' : IsLive calls category name later other) : later ≤ since := by
  by_contra less
  obtain ⟨call, here, registers⟩ := live'.registers
  refine live.last (Nat.lt_of_not_le less) here ?_
  rw [← live'.category_eq, ← live'.name_eq]
  exact registers.touches

theorem IsOpen.lt_length (isOpen : IsOpen calls category since) : since < calls.length := by
  obtain ⟨call, entry, here, -⟩ := isOpen.registers
  exact (List.getElem?_eq_some_iff.mp here).1

/-- A category is open since one call only. -/
theorem IsOpen.le (isOpen : IsOpen calls category since) (isOpen' : IsOpen calls category later) :
    later ≤ since := by
  by_contra less
  exact isOpen'.fresh (isOpen.filled (Nat.lt_of_not_le less))

theorem OpenBefore.ne {a b : String} (before : OpenBefore calls a b) : a ≠ b := by
  rintro rfl
  obtain ⟨i, j, first, second, less⟩ := before
  exact absurd (first.le second) (Nat.not_le_of_lt less)

theorem LiveBefore.ne {a b : String} (before : LiveBefore calls category a b) : a ≠ b := by
  rintro rfl
  obtain ⟨i, j, x, y, first, second, less⟩ := before
  exact absurd (first.le second) (Nat.not_le_of_lt less)

/-! ### One call more -/

/-- What is live after one call more: what was live and was not touched, and what the call
registered. -/
theorem isLive_concat_iff : IsLive (calls ++ [new]) category name since entry ↔
    (IsLive calls category name since entry ∧ ¬ Touches category name new) ∨
      (since = calls.length ∧ Registers entry new ∧ entry.check.category = category ∧
        entry.check.name = name) := by
  constructor
  · intro live
    have within := live.lt_length
    rw [List.length_append, List.length_singleton] at within
    obtain ⟨call, here, registers⟩ := live.registers
    rcases Nat.lt_or_ge since calls.length with old | fresh
    · rw [List.getElem?_append_left old] at here
      refine .inl ⟨⟨⟨call, here, registers⟩, live.category_eq, live.name_eq, fun less at' => ?_⟩,
        live.last old List.getElem?_concat_length⟩
      have inside := (List.getElem?_eq_some_iff.mp at').1
      exact live.last less (by rw [List.getElem?_append_left inside, at'])
    · obtain rfl : since = calls.length := by omega
      rw [List.getElem?_concat_length] at here
      cases here
      exact .inr ⟨rfl, registers, live.category_eq, live.name_eq⟩
  · rintro (⟨live, untouched⟩ | ⟨rfl, registers, category_eq, name_eq⟩)
    · obtain ⟨call, here, registers⟩ := live.registers
      refine ⟨⟨call, ?_, registers⟩, live.category_eq, live.name_eq, fun {later call} less at' => ?_⟩
      · rw [List.getElem?_append_left live.lt_length, here]
      · have within := (List.getElem?_eq_some_iff.mp at').1
        rw [List.length_append, List.length_singleton] at within
        rcases Nat.lt_or_ge later calls.length with old | last
        · rw [List.getElem?_append_left old] at at'
          exact live.last less at'
        · obtain rfl : later = calls.length := by omega
          rw [List.getElem?_concat_length] at at'
          cases at'
          exact untouched
    · refine ⟨⟨new, List.getElem?_concat_length, registers⟩, category_eq, name_eq, ?_⟩
      intro later call less at'
      have within := (List.getElem?_eq_some_iff.mp at').1
      rw [List.length_append, List.length_singleton] at within
      omega

/-- A call that does not touch a live pair leaves it live. -/
theorem IsLive.concat (live : IsLive calls category name since entry)
    (untouched : ¬ Touches category name new) :
    IsLive (calls ++ [new]) category name since entry :=
  isLive_concat_iff.mpr (.inl ⟨live, untouched⟩)

/-- Calls that touch neither of two live pairs leave their order. -/
theorem LiveBefore.concat {a b : String} (before : LiveBefore calls category a b)
    (first : ¬ Touches category a new) (second : ¬ Touches category b new) :
    LiveBefore (calls ++ [new]) category a b := by
  obtain ⟨i, j, x, y, live, live', less⟩ := before
  exact ⟨i, j, x, y, live.concat first, live'.concat second, less⟩

/-- A category that has a live pair after one call more stays open. -/
theorem IsOpen.concat (isOpen : IsOpen calls category since)
    (still : HasLive (calls ++ [new]) category) : IsOpen (calls ++ [new]) category since := by
  have inside := isOpen.lt_length
  obtain ⟨call, entry, here, registers⟩ := isOpen.registers
  refine ⟨⟨call, entry, ?_, registers⟩, ?_, fun {later} less => ?_⟩
  · rw [List.getElem?_append_left inside, here]
  · rw [List.take_append_of_le_length (Nat.le_of_lt inside)]
    exact isOpen.fresh
  · rcases Nat.lt_or_ge calls.length later with beyond | within
    · have all : (calls ++ [new]).length ≤ later := by
        rwa [List.length_append, List.length_singleton]
      rw [List.take_of_length_le all]
      exact still
    · rw [List.take_append_of_le_length within]
      exact isOpen.filled less

/-- Categories that are open before and after a call stay in their order. -/
theorem OpenBefore.concat {a b : String} (before : OpenBefore calls a b)
    (first : HasLive (calls ++ [new]) a) (second : HasLive (calls ++ [new]) b) :
    OpenBefore (calls ++ [new]) a b := by
  obtain ⟨i, j, isOpen, isOpen', less⟩ := before
  exact ⟨i, j, isOpen.concat first, isOpen'.concat second, less⟩

/-- A call that registers in a category without a live pair opens it. -/
theorem isOpen_concat (registers : Registers entry new)
    (fresh : ¬ HasLive calls entry.check.category) :
    IsOpen (calls ++ [new]) entry.check.category calls.length := by
  refine ⟨⟨new, entry, List.getElem?_concat_length, registers, rfl⟩, ?_, fun {later} less => ?_⟩
  · rw [List.take_left]
    exact fresh
  · have all : (calls ++ [new]).length ≤ later := by
      rwa [List.length_append, List.length_singleton]
    rw [List.take_of_length_le all]
    exact ⟨_, _, _, isLive_concat_iff.mpr (.inr ⟨rfl, registers, rfl, rfl⟩)⟩

theorem Registers.touches_iff (registers : Registers entry new) :
    Touches category name new ↔ entry.check.category = category ∧ entry.check.name = name := by
  obtain ⟨offered, service, rfl⟩ := registers
  exact Iff.rfl

theorem Registers.eq (registers : Registers entry new) (registers' : Registers other new) :
    other = entry := by
  obtain ⟨offered, service, rfl⟩ := registers
  obtain ⟨offered', service', same⟩ := registers'
  exact (Reply.registered.inj (congrArg Prod.snd same)).symm

/-- After a registration its pair is live since then, and every other pair is as before. -/
theorem isLive_register_iff (registers : Registers entry new) :
    IsLive (calls ++ [new]) category name since other ↔
      if category = entry.check.category ∧ name = entry.check.name then
        since = calls.length ∧ other = entry
      else IsLive calls category name since other := by
  rw [isLive_concat_iff, registers.touches_iff]
  split
  · rename_i this
    obtain ⟨rfl, rfl⟩ := this
    constructor
    · rintro (⟨-, apart⟩ | ⟨last, registers', -⟩)
      · exact absurd ⟨rfl, rfl⟩ apart
      · exact ⟨last, registers.eq registers'⟩
    · rintro ⟨last, rfl⟩
      exact .inr ⟨last, registers, rfl, rfl⟩
  · rename_i apart
    constructor
    · rintro (⟨live, -⟩ | ⟨-, registers', category_eq, name_eq⟩)
      · exact live
      · rw [registers.eq registers'] at category_eq name_eq
        exact absurd ⟨category_eq.symm, name_eq.symm⟩ apart
    · exact fun live => .inl ⟨live, fun both => apart ⟨both.1.symm, both.2.symm⟩⟩

/-- After a call that registers nothing what is live is what was live and was not touched. -/
theorem isLive_concat_iff_of_silent (silent : ∀ entry, ¬ Registers entry new) :
    IsLive (calls ++ [new]) category name since entry ↔
      IsLive calls category name since entry ∧ ¬ Touches category name new := by
  rw [isLive_concat_iff]
  exact or_iff_left fun registers => silent entry registers.2.1

end Checkup.Registry
