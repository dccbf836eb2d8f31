import Checkup.Registry.Shared
import Mathlib.Algebra.Ring.Nat

/-!
A registry where nobody else is at work.

The steps of a call's body, made one after the other, return and leave what the call does as a
whole. A registry is sound when its total is the number of its entries and no bucket is empty; that
is so between two calls, not between two steps of one.

Main statements: `run_ofCall` (a body does what its call does), `readOnly_ofCall` (the body of a
call that takes the side of readers changes nothing) and `Sound.answer` (calls keep a registry
sound).
-/

namespace Checkup

namespace Ordered

variable {α : Type} {key : String} {m : Ordered α}

/-! ### Sizes -/

def weight (size : α → Nat) (m : Ordered α) : Nat := (m.map fun entry => size entry.2).sum

theorem length_eq_weight (m : Ordered α) : m.length = weight (fun _ => 1) m := by
  induction m with
  | nil => rfl
  | cons entry rest ih =>
      rw [List.length_cons, ih]
      simp only [weight, List.map_cons, List.sum_cons]
      omega

/-- A put changes the weight by that of the new value, less that of the one it takes the place of.
-/
theorem weight_put (size : α → Nat) (key : String) (value : α) (m : Ordered α) :
    weight size (put key value m) + ((get? key m).map size).getD 0 =
      weight size m + size value := by
  induction m with
  | nil => simp [weight, put, get?]
  | cons entry rest ih =>
      obtain ⟨k, v⟩ := entry
      simp only [weight] at ih
      by_cases same : k = key
      · simp only [weight, put, get?, if_pos same, List.map_cons, List.sum_cons, Option.map_some,
          Option.getD_some]
        omega
      · simp only [weight, put, get?, if_neg same, List.map_cons, List.sum_cons]
        omega

theorem weight_erase (size : α → Nat) (key : String) (m : Ordered α) :
    weight size (erase key m) + ((get? key m).map size).getD 0 = weight size m := by
  induction m with
  | nil => rfl
  | cons entry rest ih =>
      obtain ⟨k, v⟩ := entry
      simp only [weight] at ih
      by_cases same : k = key
      · simp only [weight, erase, get?, if_pos same, List.map_cons, List.sum_cons, Option.map_some,
          Option.getD_some]
        omega
      · simp only [weight, erase, get?, if_neg same, List.map_cons, List.sum_cons]
        omega

/-! ### Members -/

theorem put_put (key : String) (first second : α) (m : Ordered α) :
    put key second (put key first m) = put key second m := by
  induction m with
  | nil => simp [put]
  | cons entry rest ih =>
      obtain ⟨k, v⟩ := entry
      by_cases same : k = key <;> simp [put, same, ih]

theorem put_ne_nil (key : String) (value : α) (m : Ordered α) : put key value m ≠ [] := by
  cases m with
  | nil => exact List.cons_ne_nil _ _
  | cons entry rest =>
      rw [put]
      split <;> exact List.cons_ne_nil _ _

/-- To erase a key that was there before a put is to erase it without the put. -/
theorem erase_put (key : String) (value : α) {m : Ordered α} (there : (get? key m).isSome) :
    erase key (put key value m) = erase key m := by
  induction m with
  | nil => simp [get?] at there
  | cons entry rest ih =>
      obtain ⟨k, v⟩ := entry
      by_cases same : k = key
      · simp [put, erase, same]
      · simp only [get?, if_neg same] at there
        simp [put, erase, same, ih there]

theorem mem_of_mem_put {value : α} {entry : String × α} (mem : entry ∈ put key value m) :
    entry = (key, value) ∨ entry ∈ m := by
  induction m with
  | nil => exact .inl (List.mem_singleton.mp mem)
  | cons first rest ih =>
      obtain ⟨k, v⟩ := first
      by_cases same : k = key
      · rw [put, if_pos same, same] at mem
        exact (List.mem_cons.mp mem).imp id (List.mem_cons_of_mem _)
      · rw [put, if_neg same] at mem
        rcases List.mem_cons.mp mem with rfl | mem
        · exact .inr List.mem_cons_self
        · exact (ih mem).imp id (List.mem_cons_of_mem _)

theorem mem_of_mem_erase {entry : String × α} (mem : entry ∈ erase key m) : entry ∈ m := by
  induction m with
  | nil => cases mem
  | cons first rest ih =>
      obtain ⟨k, v⟩ := first
      by_cases same : k = key
      · rw [erase, if_pos same] at mem
        exact List.mem_cons_of_mem _ mem
      · rw [erase, if_neg same] at mem
        rcases List.mem_cons.mp mem with rfl | mem
        · exact List.mem_cons_self
        · exact List.mem_cons_of_mem _ (ih mem)

end Ordered

namespace Registry

variable {α τ : Type} {r : Registry α} {category name : String}

/-! ### Sound registries -/

def size (r : Registry α) : Nat := (r.buckets.map fun bucket => bucket.2.length).sum

/-- The total is the number of entries, and there is no empty bucket. -/
structure Sound (r : Registry α) : Prop where
  count_eq : r.count = r.size
  nonempty : ∀ bucket ∈ r.buckets, bucket.2 ≠ []

theorem sound_empty : ({} : Registry α).Sound := ⟨rfl, nofun⟩

/-- Putting a bucket where there was another. -/
theorem Sound.put (sound : r.Sound) {bucket : Ordered α} (filled : bucket ≠ []) {count : Nat}
    (counts : count + ((r.bucket? category).map List.length).getD 0 = r.count + bucket.length) :
    ({ buckets := Ordered.put category bucket r.buckets, count } : Registry α).Sound := by
  constructor
  · have sizes := Ordered.weight_put List.length category bucket r.buckets
    have before : r.count = Ordered.weight List.length r.buckets := sound.count_eq
    change count = Ordered.weight List.length (Ordered.put category bucket r.buckets)
    rw [bucket?] at counts
    omega
  · intro entry mem
    rcases Ordered.mem_of_mem_put mem with rfl | mem
    · exact filled
    · exact sound.nonempty entry mem

/-- Taking a bucket away. -/
theorem Sound.erase (sound : r.Sound) {count : Nat}
    (counts : count + ((r.bucket? category).map List.length).getD 0 = r.count) :
    ({ buckets := Ordered.erase category r.buckets, count } : Registry α).Sound := by
  constructor
  · have sizes := Ordered.weight_erase List.length category r.buckets
    have before : r.count = Ordered.weight List.length r.buckets := sound.count_eq
    change count = Ordered.weight List.length (Ordered.erase category r.buckets)
    rw [bucket?] at counts
    omega
  · exact fun entry mem => sound.nonempty entry (Ordered.mem_of_mem_erase mem)

/-- A registration keeps a registry sound. -/
theorem Sound.register (sound : r.Sound) {entry : α} {r' : Registry α}
    (registers : r.register category name entry = .ok r') : r'.Sound := by
  simp only [Registry.register] at registers
  split at registers
  · rename_i bucket here
    split at registers
    · cases registers
    · rename_i free
      cases registers
      simp only [putEntry, setCount, here, Option.getD_some]
      refine sound.put (Ordered.put_ne_nil _ _ _) ?_
      have sizes := Ordered.weight_put (fun _ => 1) name entry bucket
      have none : Ordered.get? name bucket = none := by simpa [Ordered.has] using free
      simp only [none, ← Ordered.length_eq_weight, Option.map_none, Option.getD_none] at sizes
      simp only [here, Option.map_some, Option.getD_some]
      omega
  · rename_i missing
    cases registers
    simp only [openBucket, putEntry, setCount, bucket?, Ordered.get?_put_self, Option.getD_some,
      Ordered.put_put]
    refine sound.put (Ordered.put_ne_nil _ _ _) ?_
    simp [missing, Ordered.put]

/-- Taking an entry away keeps a registry sound. -/
theorem Sound.unregister (sound : r.Sound) : (r.unregister category name).2.Sound := by
  simp only [Registry.unregister]
  split
  · rename_i there
    obtain ⟨entry, here⟩ := Option.isSome_iff_exists.mp there
    obtain ⟨bucket, at', inside⟩ := Option.bind_eq_some_iff.mp here
    have sizes := Ordered.weight_erase (fun _ => 1) name bucket
    simp only [inside, ← Ordered.length_eq_weight, Option.map_some, Option.getD_some] at sizes
    have held : ((r.bucket? category).map List.length).getD 0 = bucket.length := by rw [at']; rfl
    have counted : bucket.length ≤ r.count := by
      have whole := Ordered.weight_erase List.length category r.buckets
      have before : r.count = Ordered.weight List.length r.buckets := sound.count_eq
      rw [bucket?] at held
      omega
    simp only [eraseEntry, dropBucket, setCount, bucket?, Ordered.get?_put_self]
    rw [bucket?] at at'
    simp only [at', Option.getD_some]
    split
    · rename_i last
      rw [Ordered.erase_put _ _ (by rw [at']; rfl)]
      rw [Option.some.inj last, List.length_nil] at sizes
      exact sound.erase (by omega)
    · rename_i more
      exact sound.put (fun none => more (congrArg some none)) (by omega)
  · exact sound

/-- Calls keep a registry sound. -/
theorem Sound.answer {r : Registry (Entry τ)} (sound : r.Sound) (call : Call τ) :
    (call.answer r).2.Sound := by
  cases call with
  | register entry =>
      simp only [Call.answer]
      split
      · rename_i registers
        exact sound.register registers
      · exact sound
  | unregister category name => exact sound.unregister
  | clear => exact sound_empty
  | get | all | ofCategory | checks | categories | total => exact sound

namespace Body

variable {r : Registry (Entry τ)} {next : List (Entry τ) → Body τ}

/-! ### What a body does alone -/

/-- Makes the steps of a body, with nobody else at work. -/
def run : Body τ → Registry (Entry τ) → Reply τ × Registry (Entry τ)
  | .reply returned, r => (returned, r)
  | .look next, r => (next r).run r
  | .change how next, r => next.run (how r)

/-- No step of a body changes the registry. -/
def IsReadOnly : Body τ → Prop
  | .reply _ => True
  | .look next => ∀ r, (next r).IsReadOnly
  | .change .. => False

theorem count_dropBucket (r : Registry (Entry τ)) (category : String) :
    (r.dropBucket category).count = r.count := by
  unfold dropBucket
  split <;> rfl

/-- Run alone, the body of a removal erases the entry, drops the bucket if that emptied it, and
lowers the count. -/
theorem run_remove (category name : String) (r : Registry (Entry τ)) :
    (remove category name).run r =
      (.removed true,
        ((r.eraseEntry category name).dropBucket category).setCount (r.count - 1)) := by
  simp only [remove, run, count_dropBucket]
  rfl

theorem run_readEntries (bucket : Nat) (places : List Nat) (seen : List (Entry τ)) :
    (readEntries bucket places seen next).run r =
      (next (seen ++ places.flatMap fun place =>
        ((r.buckets[bucket]?.bind fun b => b.2[place]?).map Prod.snd).toList)).run r := by
  induction places generalizing seen with
  | nil => simp [readEntries]
  | cons place places ih => simp only [readEntries, run, ih, List.flatMap_cons, List.append_assoc]

/-- The entries of a list, place by place. -/
theorem flatMap_range_getElem? {β γ : Type} (f : β → List γ) (l : List β) :
    (List.range l.length).flatMap (fun place => (l[place]?.map f).getD []) = l.flatMap f := by
  have places : (List.range l.length).map (l[·]?) = l.map some :=
    List.ext_getElem (by simp) fun k _ _ => by simp
  have mapped := congrArg (List.flatMap fun x => (Option.map f x).getD []) places
  simpa [List.flatMap_map] using mapped

theorem run_readBuckets (buckets : List Nat) (seen : List (Entry τ)) :
    (readBuckets buckets seen next).run r =
      (next (seen ++ buckets.flatMap fun bucket =>
        (r.buckets[bucket]?.map fun b => Ordered.values b.2).getD [])).run r := by
  induction buckets generalizing seen with
  | nil => simp [readBuckets]
  | cons bucket buckets ih =>
      simp only [readBuckets, run, run_readEntries, ih, List.flatMap_cons, List.append_assoc]
      congr 4
      cases r.buckets[bucket]? with
      | none => rfl
      | some b =>
          have values := flatMap_range_getElem? (fun entry => [entry.2]) b.2
          simp only [Option.map_some, Option.getD_some, Option.bind_some, Ordered.values]
          rw [List.map_eq_flatMap, ← values]
          refine congrArg (List.flatMap · _) (funext fun place => ?_)
          cases b.2[place]? <;> rfl

/-- Run alone, the body that reads every entry reads them as `all` lists them. -/
theorem run_readAll : (readAll next).run r = (next r.all).run r := by
  simp only [readAll, run, run_readBuckets, flatMap_range_getElem?, List.nil_append]
  rfl

/-- Its steps return and leave what a call does as a whole. -/
theorem run_ofCall (call : Call τ) (r : Registry (Entry τ)) :
    (ofCall call).run r = call.answer r := by
  cases call with
  | register entry =>
      simp only [ofCall, run, Call.answer, Registry.register]
      cases here : r.bucket? entry.check.category with
      | none => rfl
      | some bucket =>
          have same : r.contains entry.check.category entry.check.name =
              Ordered.has bucket entry.check.name := by
            simp [contains, get?, here, Ordered.has]
          simp only [Option.isSome_some, if_true, run, same]
          cases Ordered.has bucket entry.check.name <;> rfl
  | unregister category name =>
      simp only [ofCall, run, Call.answer, Registry.unregister]
      cases here : r.bucket? category with
      | none => simp [contains, get?, here, run]
      | some bucket =>
          simp only [Option.isSome_some, if_true, run]
          cases r.contains category name with
          | false => rfl
          | true => simp only [if_true, run_remove]
  | clear => rfl
  | get category name =>
      simp only [ofCall, run, Call.answer]
      cases here : r.bucket? category with
      | none => simp [get?, here, run]
      | some bucket => rfl
  | all => simp only [ofCall, run_readAll, run, Call.answer]
  | ofCategory category =>
      simp only [ofCall, run, Call.answer]
      cases here : r.bucket? category with
      | none => simp [ofCategory?, here, run]
      | some bucket => rfl
  | checks => simp only [ofCall, run_readAll, run, Call.answer]
  | categories => rfl
  | total => rfl

/-! ### Bodies of readers -/

theorem readOnly_readEntries (readOnly : ∀ entries, (next entries).IsReadOnly) (bucket : Nat)
    (places : List Nat) (seen : List (Entry τ)) :
    (readEntries bucket places seen next).IsReadOnly := by
  induction places generalizing seen with
  | nil => exact readOnly seen
  | cons place places ih => exact fun r => ih _

theorem readOnly_readBuckets (readOnly : ∀ entries, (next entries).IsReadOnly) (buckets : List Nat)
    (seen : List (Entry τ)) : (readBuckets buckets seen next).IsReadOnly := by
  induction buckets generalizing seen with
  | nil => exact readOnly seen
  | cons bucket buckets ih => exact fun r => readOnly_readEntries ih _ _ _

/-- To read every entry changes nothing, if what comes after does not. -/
theorem readOnly_readAll (readOnly : ∀ entries, (next entries).IsReadOnly) :
    (readAll next).IsReadOnly :=
  fun _ => readOnly_readBuckets readOnly _ _

/-- A call that takes the side of readers changes nothing. -/
theorem readOnly_ofCall {call : Call τ} (reads : call.side = .read) :
    (ofCall call).IsReadOnly := by
  cases call with
  | register | unregister | clear => cases reads
  | get | ofCategory =>
      intro r
      dsimp only
      split
      · exact fun _ => trivial
      · trivial
  | all | checks => exact readOnly_readAll fun _ => trivial
  | categories | total => exact fun _ => trivial

end Body

end Registry

end Checkup
