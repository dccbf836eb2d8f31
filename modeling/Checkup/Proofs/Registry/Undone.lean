import Checkup.Proofs.Registry.Buckets
import Checkup.Proofs.Registry.Linear
import Checkup.Proofs.Registry.Live

/-!
Calls on a registry that fail, and calls that are undone.

A call that is refused or finds nothing to take away leaves the registry as it was, the order of its
buckets and entries included. Taking away what was just registered gives back the registry before
the registration, with no bucket that was not there. And a call that gets its side of the lock at
once gives it back in the state in which it found it, whoever else waits there.

Main statements: `refuses_iff` and `duplicate_iff` (when a registration is refused, and for what),
`unregister_of_register`, `Shared.returns_alone` (a call goes through with nobody else at work),
`Shared.registry_eq_after_successes` (whatever threads did, only calls that succeeded left traces)
and `Shared.calls_are_atomic`.
-/

namespace Checkup

namespace Ordered

variable {α : Type} {key : String} {m : Ordered α}

/-- Taking away what was just put under a new key. -/
theorem erase_put_of_get?_eq_none (value : α) (missing : get? key m = none) :
    erase key (put key value m) = m := by
  induction m with
  | nil => simp [put, erase]
  | cons entry rest ih =>
      obtain ⟨k, v⟩ := entry
      by_cases same : k = key
      · simp [get?, same] at missing
      · simp only [get?, if_neg same] at missing
        simp [put, erase, same, ih missing]

/-- Putting what is there already. -/
theorem put_of_get?_eq_some {value : α} (found : get? key m = some value) :
    put key value m = m := by
  induction m with
  | nil => simp [get?] at found
  | cons entry rest ih =>
      obtain ⟨k, v⟩ := entry
      by_cases same : k = key
      · simp only [get?, if_pos same, Option.some.injEq] at found
        simp [put, same, found]
      · simp only [get?, if_neg same] at found
        simp [put, same, ih found]

end Ordered

namespace Registry

open Lock (Crowd)

variable {α τ : Type}

/-! ### Undoing a registration -/

section Undo

variable {r r' : Registry α} {category name : String} {entry : α}

/-- A registration raises the count by one. -/
theorem count_of_register (registers : r.register category name entry = .ok r') :
    r'.count = r.count + 1 := by
  simp only [register] at registers
  split at registers
  · split at registers <;> cases registers
    rfl
  · cases registers
    rfl

/-- A registration is refused only for a pair that is taken. -/
theorem register_error_iff {fault : Fault} :
    r.register category name entry = .error fault ↔
      r.contains category name = true ∧ fault = .duplicate name category := by
  cases here : r.bucket? category with
  | none => simp [register, contains, get?, here]
  | some bucket =>
      have same : r.contains category name = Ordered.has bucket name := by
        simp [contains, get?, here, Ordered.has]
      cases taken : Ordered.has bucket name <;> simp [register, here, same, taken, eq_comm]

/-- A sound registry has no empty bucket. -/
theorem Sound.bucket_ne_nil (sound : r.Sound) {bucket : Ordered α}
    (here : r.bucket? category = some bucket) : bucket ≠ [] :=
  sound.nonempty (category, bucket) (Ordered.mem_of_get? here)

/-- The buckets are what they were before a registration once its entry is taken away. -/
theorem buckets_of_undone (sound : r.Sound)
    (registers : r.register category name entry = .ok r') :
    (r'.unregister category name).2.buckets = r.buckets := by
  obtain ⟨free, buckets⟩ := buckets_of_register registers
  have there : r'.contains category name = true := by
    rw [contains, get?_of_register registers, if_pos ⟨rfl, rfl⟩, Option.isSome_some]
  obtain ⟨filled, here, left⟩ := buckets_of_unregister there
  rw [bucket?_of_register registers, if_pos rfl, Option.some.injEq] at here
  subst here
  rw [left, buckets]
  cases before : r.bucket? category with
  | none =>
      -- the category is new: its bucket goes with the entry
      rw [Option.getD_none, Ordered.erase_put_of_get?_eq_none entry rfl, if_pos rfl]
      exact Ordered.erase_put_of_get?_eq_none _ before
  | some bucket =>
      have free : Ordered.get? name bucket = none := by rwa [get?, before, Option.bind_some] at free
      rw [Option.getD_some, Ordered.erase_put_of_get?_eq_none entry free,
        if_neg (sound.bucket_ne_nil before), Ordered.put_put]
      exact Ordered.put_of_get?_eq_some before

/-- Taking away what was just registered gives the registry before that. -/
theorem unregister_of_register (sound : r.Sound)
    (registers : r.register category name entry = .ok r') :
    r'.unregister category name = (true, r) := by
  have there : r'.contains category name = true := by
    rw [contains, get?_of_register registers, if_pos ⟨rfl, rfl⟩, Option.isSome_some]
  have buckets := buckets_of_undone sound registers
  have count := count_of_register registers
  simp only [unregister, there, if_true, setCount] at buckets ⊢
  rw [buckets, count]
  rfl

end Undo

/-! ### Calls that fail -/

/-- Whether a call was refused or found nothing to take away. -/
def Reply.isFailure : Reply τ → Bool
  | refused _ => true
  | removed was => !was
  | _ => false

/-- A call that fails leaves the registry as it was. -/
theorem Call.answer_of_isFailure {r : Registry (Entry τ)} (call : Call τ)
    (failed : (call.answer r).1.isFailure = true) : (call.answer r).2 = r := by
  cases call with
  | register entry =>
      simp only [answer] at failed ⊢
      split at failed
      · cases failed
      · rfl
  | unregister category name =>
      simp only [answer, Registry.unregister] at failed ⊢
      split
      · rename_i there
        rw [if_pos there] at failed
        cases failed
      · rfl
  | clear => cases failed
  | get | all | ofCategory | checks | categories | total => rfl

namespace Write

variable {r : Registry (Entry τ)} {check : Check} {offered : Except String (Probe τ)}
  {service : Nat}

/-- A call that fails leaves the registry as it was. -/
theorem answer_of_isFailure {write : Write τ} (failed : (write.answer r).1.isFailure = true) :
    (write.answer r).2 = r := by
  cases write with
  | register check offered service =>
      cases offered with
      | error typeName => rfl
      | ok probe => exact (Call.register ⟨check, probe, service⟩).answer_of_isFailure failed
  | unregister category name => exact (Call.unregister category name).answer_of_isFailure failed
  | clear => cases failed

/-- A registration is refused when what is offered cannot be run, and otherwise when the pair is
taken. -/
theorem refuses_iff {fault : Fault} :
    ((register check offered service).answer r).1 = .refused fault ↔
      (∃ typeName, offered = .error typeName ∧ fault = .notCallable typeName) ∨
        (∃ probe, offered = .ok probe) ∧ r.contains check.category check.name = true ∧
          fault = .duplicate check.name check.category := by
  cases offered with
  | error typeName =>
      simp only [answer, Entry.ofOffer, Reply.refused.injEq]
      constructor
      · rintro rfl
        exact .inl ⟨typeName, rfl, rfl⟩
      · rintro (⟨_, ⟨rfl⟩, rfl⟩ | ⟨⟨_, ⟨⟩⟩, -⟩)
        rfl
  | ok probe =>
      simp only [answer, Entry.ofOffer, Call.answer]
      have taken : r.register check.category check.name ⟨check, probe, service⟩ = .error fault ↔
          r.contains check.category check.name = true ∧
            fault = .duplicate check.name check.category := register_error_iff
      constructor
      · intro refused
        split at refused
        · cases refused
        · rename_i registers
          cases refused
          exact .inr ⟨⟨probe, rfl⟩, taken.mp registers⟩
      · rintro (⟨_, ⟨⟩, -⟩ | ⟨-, there⟩)
        rw [taken.mpr there]

/-- A registration is refused as a duplicate exactly when what is offered can be run and the pair is
taken. -/
theorem duplicate_iff :
    ((register check offered service).answer r).1 =
        .refused (.duplicate check.name check.category) ↔
      (∃ probe, offered = .ok probe) ∧ r.contains check.category check.name = true := by
  rw [refuses_iff]
  constructor
  · rintro (⟨typeName, -, same⟩ | ⟨offers, there, -⟩)
    · have kinds : Kind.duplicateDiagnostic = Kind.typeError := congrArg Fault.kind same
      cases kinds
    · exact ⟨offers, there⟩
  · rintro ⟨offers, there⟩
    exact .inr ⟨offers, there, rfl⟩

/-- A registration and the call that takes its entry away leave the registry as it was. -/
theorem answer_of_registered {entry : Entry τ} (sound : r.Sound)
    (registered : ((register check offered service).answer r).1 = .registered entry) :
    (unregister check.category check.name).answer
        ((register check offered service).answer r).2 = (.removed true, r) := by
  cases offered with
  | error typeName => cases registered
  | ok probe =>
      simp only [answer, Entry.ofOffer, Call.answer] at registered ⊢
      split at registered
      · rename_i r' registers
        simp only [unregister_of_register sound registers]
      · cases registered

end Write

/-! ### A call with nobody else at work -/

/-- A side that was open and has been taken is given back: the lock is what it was. -/
theorem lock_of_release_hold {l l' : Lock} {side : Side} {wake : Bool}
    (isOpen : l.isOpen side = true) (released : (l.hold side).release side = .ok (wake, l')) :
    l' = l := by
  obtain ⟨rfl, -, -, rfl⟩ | ⟨rfl, -, -, rfl⟩ := Lock.release_cases released
  · simp [Lock.hold]
  · have free := Lock.writer_of_isOpen isOpen
    cases l
    simp_all [Lock.hold]

namespace Shared

variable {s s₁ s' : Shared τ} {i : Nat} {call : Call τ} {began : Nat} {todo : List (Call τ)}
  {body : Body τ} {programs : List (List (Call τ))} {schedule : List Nat}

/-- A thread makes some steps, and nobody else makes one in between. -/
def Alone (s : Shared τ) (i : Nat) (s' : Shared τ) : Prop :=
  ∃ count, s.run (List.replicate count i) = some s'

theorem Alone.refl (s : Shared τ) (i : Nat) : s.Alone i s := ⟨0, rfl⟩

theorem Alone.head (makes : s.step i = some s₁) (alone : s₁.Alone i s') : s.Alone i s' := by
  obtain ⟨count, runs⟩ := alone
  refine ⟨count + 1, ?_⟩
  rw [List.replicate_succ, run, makes]
  exact runs

theorem Alone.tail (alone : s.Alone i s₁) (makes : s₁.step i = some s') : s.Alone i s' := by
  obtain ⟨count, runs⟩ := alone
  induction count generalizing s with
  | zero =>
      cases runs
      exact .head makes (.refl s' i)
  | succ count ih =>
      rw [List.replicate_succ, run] at runs
      obtain ⟨between, first, goesOn⟩ := Option.bind_eq_some_iff.mp runs
      exact .head first (ih goesOn)

/-- Steps of one thread alone keep a registry and its lock in order. -/
theorem Alone.orderly (alone : s.Alone i s') (orderly : s.Orderly programs) :
    s'.Orderly programs := by
  obtain ⟨count, runs⟩ := alone
  exact orderly_run orderly runs

/-- A thread that is inside goes through its body. -/
theorem body_alone (here : s.workers[i]? = some ⟨.inside call began body, todo⟩) :
    ∃ s', s.Alone i s' ∧
      s'.workers[i]? = some ⟨.inside call began (.reply (body.run s.registry).1), todo⟩ ∧
      s'.registry = (body.run s.registry).2 ∧ s'.crowd = s.crowd ∧ s'.done = s.done := by
  induction body generalizing s with
  | reply reply => exact ⟨s, .refl s i, here, rfl, rfl, rfl⟩
  | look next ih =>
      have inside := (List.getElem?_eq_some_iff.mp here).1
      have makes : s.step i =
          some (s.moveOn i (.inside call began (next s.registry)) todo) := by
        rw [step, here]
      obtain ⟨s', alone, done⟩ := ih s.registry
        (s := s.moveOn i (.inside call began (next s.registry)) todo)
        (List.getElem?_set_self inside)
      exact ⟨s', .head makes alone, done⟩
  | change how next ih =>
      have inside := (List.getElem?_eq_some_iff.mp here).1
      have makes : s.step i = some (moveOn { s with registry := how s.registry } i
          (.inside call began next) todo) := by
        rw [step, here]
      obtain ⟨s', alone, done⟩ := ih
        (s := moveOn { s with registry := how s.registry } i (.inside call began next) todo)
        (List.getElem?_set_self inside)
      exact ⟨s', .head makes alone, done⟩

/-- A call whose side of the lock is open goes through with nobody else at work. It returns and
leaves what the call does as a whole, and the lock is what it was. -/
theorem returns_alone (orderly : s.Orderly programs)
    (here : s.workers[i]? = some ⟨.outside, call :: todo⟩)
    (isOpen : s.crowd.lock.isOpen call.side = true) :
    ∃ s' ended, s.Alone i s' ∧ s'.workers[i]? = some ⟨.outside, todo⟩ ∧
      s'.done = s.done ++ [⟨i, call, (call.answer s.registry).1, s.time, ended⟩] ∧
      s'.registry = (call.answer s.registry).2 ∧ s'.crowd.lock = s.crowd.lock := by
  have inside := (List.getElem?_eq_some_iff.mp here).1
  -- it gets its side of the lock
  have tests : s.crowd.Tests i call.side .keep (.call i (.acquire call.side .keep)) s.crowd.lock :=
    .first (orderly.fits.phases here)
  have moves := Crowd.step_of_open tests isOpen
  let entered : Shared τ :=
    moveOn { s with crowd := s.crowd.moved i (s.crowd.lock.hold call.side) false .idle } i
      (.inside call s.time (.ofCall call)) todo
  have enters : s.step i = some entered := by
    rw [step, here]
    exact congrArg (Option.map (s.asked i call s.time todo)) moves
  -- it goes through its body
  obtain ⟨s₂, alone, there, registry, crowd, done⟩ :=
    body_alone (s := entered) (i := i) (List.getElem?_set_self inside)
  have whole : (Body.ofCall call).run entered.registry = call.answer s.registry :=
    Body.run_ofCall call s.registry
  rw [whole] at there registry
  have alone := alone.head enters
  have orderly := alone.orderly orderly
  -- it gives its side back
  obtain ⟨l, wake, released, gives⟩ :=
    Crowd.step_of_held (.told (orderly.fits.phases there)) (orderly.fits.isHeld there)
  have leaves : s₂.step i = some (s₂.returned i call s.time (call.answer s.registry).1 todo
      (s₂.crowd.moved i l wake .idle, some { actor := i, fault := none })) := by
    rw [step, there]
    exact congrArg (Option.map (s₂.returned i call s.time _ todo)) gives
  have within : i < s₂.workers.length := (List.getElem?_eq_some_iff.mp there).1
  have taken : s₂.crowd.lock = s.crowd.lock.hold call.side := by
    rw [crowd]
    exact Crowd.lock_moved ..
  rw [taken] at released
  refine ⟨_, s₂.time, alone.tail leaves, List.getElem?_set_self within, ?_, registry, ?_⟩
  · exact congrArg (· ++ [_]) done
  · exact (Crowd.lock_moved ..).trans (lock_of_release_hold isOpen released)

/-! ### Whatever threads did -/

/-- Calls that failed left no trace in what the others made. -/
theorem after_successes (r : Registry (Entry τ)) {calls : List (Done τ)}
    (replies : answers r (calls.map Done.call) = calls.map Done.reply) :
    after r (calls.map Done.call) =
      after r ((calls.filter fun d => !d.reply.isFailure).map Done.call) := by
  induction calls generalizing r with
  | nil => rfl
  | cons d calls ih =>
      simp only [List.map_cons, answers, List.cons.injEq] at replies
      obtain ⟨reply, later⟩ := replies
      have rest := ih _ later
      rw [List.map_cons, List.filter_cons]
      cases failed : d.reply.isFailure with
      | true =>
          have same : (d.call.answer r).2 = r := d.call.answer_of_isFailure (reply ▸ failed)
          rw [same] at rest
          simpa [after, same] using rest
      | false => simpa [after] using rest

/-- Whatever threads did: while no writer is inside, the registry is what the calls that succeeded
would have made of it one by one. -/
theorem registry_eq_after_successes (runs : (start programs).run schedule = some s)
    (free : s.crowd.lock.writer = false) :
    s.registry = after {} ((s.done.filter fun d => !d.reply.isFailure).map Done.call) := by
  have orderly := orderly_run (orderly_start programs) runs
  rw [orderly.agrees.quiet free]
  exact after_successes {} orderly.agrees.replies

/-- Calls on a registry are atomic and can be undone, in every state that threads can bring it to in
which a writer can go in. A call that fails leaves it as it was; a registration is refused as a
duplicate exactly when what is offered can be run and the pair is taken, and otherwise only when it
cannot be run; a registration is undone by taking its entry away, with nothing left of it; and a
call that a thread makes then returns with the lock as it was. -/
theorem calls_are_atomic (runs : (start programs).run schedule = some s)
    (free : s.crowd.lock.isOpen .write = true) :
    (∀ write : Write τ, (write.answer s.registry).1.isFailure = true →
      (write.answer s.registry).2 = s.registry) ∧
    (∀ (check : Check) (offered : Except String (Probe τ)) (service : Nat),
      (((Write.register check offered service).answer s.registry).1 =
          .refused (.duplicate check.name check.category) ↔
        (∃ probe, offered = .ok probe) ∧
          s.registry.contains check.category check.name = true) ∧
      (∀ typeName, offered = .error typeName →
        ((Write.register check offered service).answer s.registry).1 =
          .refused (.notCallable typeName)) ∧
      (∀ entry, ((Write.register check offered service).answer s.registry).1 =
          .registered entry →
        (Write.unregister check.category check.name).answer
          ((Write.register check offered service).answer s.registry).2 =
            (.removed true, s.registry))) ∧
    ∀ (i : Nat) (call : Call τ) (todo : List (Call τ)), call.side = .write →
      s.workers[i]? = some ⟨.outside, call :: todo⟩ →
      ∃ s' ended, s.Alone i s' ∧ s'.workers[i]? = some ⟨.outside, todo⟩ ∧
        s'.done = s.done ++ [⟨i, call, (call.answer s.registry).1, s.time, ended⟩] ∧
        s'.registry = (call.answer s.registry).2 ∧ s'.crowd.lock = s.crowd.lock := by
  have orderly := orderly_run (orderly_start programs) runs
  have sound : s.registry.Sound := by
    rw [orderly.agrees.quiet (Lock.writer_of_isOpen free)]
    exact sound_after sound_empty _
  refine ⟨fun write => Write.answer_of_isFailure, fun check offered service => ⟨?_, ?_, ?_⟩, ?_⟩
  · exact Write.duplicate_iff
  · rintro typeName rfl
    exact Write.refuses_iff.mpr (.inl ⟨typeName, rfl, rfl⟩)
  · exact fun entry => Write.answer_of_registered sound
  · intro i call todo writes here
    exact returns_alone orderly here (by rwa [writes])

/-- A check that has been registered cannot be registered again. -/
theorem second_newcomer_refused : ∃ s, (start newcomer).run [0, 0, 0, 0, 0, 0] = some s ∧
    s.crowd.lock.isOpen .write = true ∧
    ((Write.register { name := "disk", description := "", category := "storage" }
      (.ok (.done .none)) 0).answer s.registry).1 = .refused (.duplicate "disk" "storage") := by
  obtain ⟨s, runs, free, there⟩ : ∃ s, (start newcomer).run [0, 0, 0, 0, 0, 0] = some s ∧
      s.crowd.lock.isOpen .write = true ∧ s.registry.contains "storage" "disk" = true :=
    ⟨_, rfl, rfl, rfl⟩
  have atomic := calls_are_atomic runs free
  have refused := (atomic.2.1 { name := "disk", description := "", category := "storage" }
    (.ok (.done .none)) 0).1.mpr ⟨⟨_, rfl⟩, there⟩
  exact ⟨s, runs, free, refused⟩

end Shared

end Registry

end Checkup
