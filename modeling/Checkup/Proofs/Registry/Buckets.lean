import Checkup.Proofs.Registry.Sound

/-!
What registering and taking away do to the two levels of a registry.

A registration puts a new name last in the bucket of its category, and a new category last of all.
What is taken away leaves no trace: neither under its name, nor, if it was the last, in a bucket.

Main statements: `get?_of_register` and `get?_of_unregister` (what is found afterwards),
`keys_of_register`, `categories_of_register` and `categories_of_unregister` (what becomes of the
order).
-/

namespace Checkup.Registry

variable {α : Type} {r r' : Registry α} {category name : String} {value : α}

/-! ### Registering -/

/-- A registration puts a new name into the bucket of its category, which may be new itself. -/
theorem buckets_of_register (registers : r.register category name value = .ok r') :
    r.get? category name = none ∧
      r'.buckets = Ordered.put category (Ordered.put name value ((r.bucket? category).getD []))
        r.buckets := by
  simp only [register] at registers
  split at registers
  · rename_i bucket here
    split at registers
    · cases registers
    · rename_i free
      cases registers
      have free : Ordered.get? name bucket = none := by simpa [Ordered.has] using free
      exact ⟨by simp [get?, here, free], by simp [setCount, putEntry, here]⟩
  · rename_i missing
    cases registers
    refine ⟨by simp [get?, missing], ?_⟩
    simp only [setCount, putEntry, openBucket, missing]
    simp [bucket?, Ordered.put_put]

/-- A registration changes the bucket of its category and no other. -/
theorem bucket?_of_register (registers : r.register category name value = .ok r') (c : String) :
    r'.bucket? c =
      if c = category then some (Ordered.put name value ((r.bucket? category).getD []))
      else r.bucket? c := by
  rw [bucket?, (buckets_of_register registers).2]
  split
  · rename_i same
    rw [same, Ordered.get?_put_self]
  · rename_i apart
    rw [Ordered.get?_put_of_ne (Ne.symm apart), bucket?]

/-- After a registration the entry is found under its pair, and every other pair is as before. -/
theorem get?_of_register (registers : r.register category name value = .ok r') (c n : String) :
    r'.get? c n = if c = category ∧ n = name then some value else r.get? c n := by
  rw [get?, bucket?_of_register registers]
  by_cases same : c = category
  · subst same
    rw [if_pos rfl, Option.bind_some]
    by_cases this : n = name
    · rw [this, Ordered.get?_put_self, if_pos ⟨rfl, rfl⟩]
    · rw [Ordered.get?_put_of_ne (Ne.symm this), if_neg fun both => this both.2, get?]
      cases r.bucket? c <;> rfl
  · rw [if_neg same, if_neg fun both => same both.1, get?]

/-- The new name goes last in its bucket. -/
theorem keys_of_register (registers : r.register category name value = .ok r') :
    Ordered.keys (Ordered.put name value ((r.bucket? category).getD [])) =
      Ordered.keys ((r.bucket? category).getD []) ++ [name] := by
  have free : Ordered.get? name ((r.bucket? category).getD []) = none := by
    have free := (buckets_of_register registers).1
    cases here : r.bucket? category with
    | none => rfl
    | some bucket => simpa [get?, here] using free
  rw [Ordered.put_of_get?_eq_none value free]
  simp [Ordered.keys]

/-- A new category goes last. -/
theorem categories_of_register (registers : r.register category name value = .ok r') :
    r'.categories =
      if (r.bucket? category).isSome then r.categories else r.categories ++ [category] := by
  rw [categories, (buckets_of_register registers).2]
  cases here : r.bucket? category with
  | some bucket => exact Ordered.keys_put_of_get? _ here
  | none =>
      rw [Ordered.put_of_get?_eq_none _ here]
      simp [Ordered.keys, categories]

/-! ### Taking away -/

section Unregister

variable (there : r.contains category name = true)
include there

/-- Taking an entry away leaves its bucket without it, and no bucket where it was the last. -/
theorem buckets_of_unregister :
    ∃ bucket, r.bucket? category = some bucket ∧
      (r.unregister category name).2.buckets =
        if Ordered.erase name bucket = [] then Ordered.erase category r.buckets
        else Ordered.put category (Ordered.erase name bucket) r.buckets := by
  obtain ⟨value, found⟩ := Option.isSome_iff_exists.mp there
  obtain ⟨bucket, here, -⟩ := Option.bind_eq_some_iff.mp found
  refine ⟨bucket, here, ?_⟩
  simp only [unregister, there, if_true, setCount, eraseEntry, dropBucket, bucket?,
    Ordered.get?_put_self]
  rw [bucket?] at here
  simp only [here, Option.getD_some]
  split
  · rename_i last
    rw [if_pos (Option.some.inj last), Ordered.erase_put _ _ (by rw [here]; rfl)]
  · rename_i more
    rw [if_neg fun none => more (congrArg some none)]

/-- A removal changes the bucket of its category and no other; where it empties the bucket, it is
gone. -/
theorem bucket?_of_unregister (nodup : r.categories.Nodup) (c : String) :
    ∃ bucket, r.bucket? category = some bucket ∧
      (r.unregister category name).2.bucket? c =
        if c = category then
          if Ordered.erase name bucket = [] then none else some (Ordered.erase name bucket)
        else r.bucket? c := by
  obtain ⟨bucket, here, buckets⟩ := buckets_of_unregister there
  refine ⟨bucket, here, ?_⟩
  rw [bucket?, buckets]
  by_cases same : c = category
  · rw [if_pos same, same]
    split
    · exact Ordered.get?_erase_self nodup category
    · exact Ordered.get?_put_self _ _ _
  · rw [if_neg same]
    split
    · exact Ordered.get?_erase_of_ne (Ne.symm same) _
    · exact Ordered.get?_put_of_ne (Ne.symm same) _ _

/-- After an entry is taken away its pair is free, and every other pair is as before. -/
theorem get?_of_unregister (nodup : r.categories.Nodup)
    (distinct : ∀ bucket, r.bucket? category = some bucket → (Ordered.keys bucket).Nodup)
    (c n : String) : (r.unregister category name).2.get? c n =
      if c = category ∧ n = name then none else r.get? c n := by
  obtain ⟨bucket, here, after⟩ := bucket?_of_unregister there nodup c
  rw [get?, after]
  by_cases same : c = category
  · subst same
    have erased : (if Ordered.erase name bucket = [] then none
        else some (Ordered.erase name bucket)).bind (Ordered.get? n) =
          Ordered.get? n (Ordered.erase name bucket) := by
      split
      · rename_i empty
        rw [empty]
        rfl
      · rfl
    rw [if_pos rfl, erased]
    by_cases this : n = name
    · rw [this, if_pos ⟨rfl, rfl⟩]
      exact Ordered.get?_erase_self (distinct bucket here) name
    · rw [if_neg fun both => this both.2, Ordered.get?_erase_of_ne (Ne.symm this), get?, here]
      rfl
  · rw [if_neg same, if_neg fun both => same both.1, get?]

/-- A removal keeps the order of the categories that stay. -/
theorem categories_of_unregister :
    (r.unregister category name).2.categories.Sublist r.categories := by
  obtain ⟨bucket, here, buckets⟩ := buckets_of_unregister there
  rw [categories, buckets]
  split
  · exact Ordered.keys_erase_sublist _ _
  · rw [Ordered.keys_put_of_get? _ here]
    exact List.Sublist.refl _

end Unregister

/-! ### Entries -/

theorem mem_all_iff_exists {entry : α} : entry ∈ r.all ↔
    ∃ bucket ∈ r.buckets, ∃ key, (key, entry) ∈ bucket.2 := by
  simp [all, Ordered.values]

/-- What is found by category and name is listed. -/
theorem mem_all_of_get? (found : r.get? category name = some value) : value ∈ r.all := by
  obtain ⟨bucket, here, inside⟩ := Option.bind_eq_some_iff.mp found
  exact mem_all_iff_exists.mpr ⟨_, Ordered.mem_of_get? here, _, Ordered.mem_of_get? inside⟩

theorem mem_all_of_mem_bucket {bucket : Ordered α} {key : String} {entry : α}
    (here : r.bucket? category = some bucket) (mem : (key, entry) ∈ bucket) : entry ∈ r.all :=
  mem_all_iff_exists.mpr ⟨_, Ordered.mem_of_get? here, key, mem⟩

/-- A registration adds the entry that is registered and no other. -/
theorem mem_all_of_register {entry : α} (registers : r.register category name value = .ok r')
    (mem : entry ∈ r'.all) : entry = value ∨ entry ∈ r.all := by
  obtain ⟨bucket, here, key, inside⟩ := mem_all_iff_exists.mp mem
  rw [(buckets_of_register registers).2] at here
  rcases Ordered.mem_of_mem_put here with rfl | old
  · rcases Ordered.mem_of_mem_put inside with new | before
    · exact .inl (Prod.mk.inj new).2
    · cases found : r.bucket? category with
      | none =>
          rw [found] at before
          cases before
      | some bucket =>
          rw [found] at before
          exact .inr (mem_all_of_mem_bucket found before)
  · exact .inr (mem_all_iff_exists.mpr ⟨bucket, old, key, inside⟩)

/-- Taking an entry away adds none. -/
theorem mem_all_of_unregister {entry : α} (mem : entry ∈ (r.unregister category name).2.all) :
    entry ∈ r.all := by
  by_cases there : r.contains category name = true
  case neg =>
    have same : r.unregister category name = (false, r) := by simp [unregister, there]
    rwa [same] at mem
  obtain ⟨old, found, buckets⟩ := buckets_of_unregister there
  obtain ⟨bucket, here, key, inside⟩ := mem_all_iff_exists.mp mem
  rw [buckets] at here
  split at here
  · exact mem_all_iff_exists.mpr ⟨bucket, Ordered.mem_of_mem_erase here, key, inside⟩
  · rcases Ordered.mem_of_mem_put here with rfl | before
    · exact mem_all_of_mem_bucket found (Ordered.mem_of_mem_erase inside)
    · exact mem_all_iff_exists.mpr ⟨bucket, before, key, inside⟩

end Checkup.Registry
