import Checkup.Proofs.Registry.Buckets
import Checkup.Proofs.Registry.Live
import Mathlib.Data.Set.Card

/-!
A registry against the pairs that are live.

What the reads of a registry tell follows from what is live and what is open by the calls that were
made: the two levels, the buckets that come and go and the running total do not show.

Main statements: `tracks_concat` (what every call keeps) and `refines_flat`.
-/

namespace Checkup.Registry

variable {τ : Type} {calls : List (Write τ × Reply τ)} {new : Write τ × Reply τ}
  {entry other : Entry τ} {category name : String}

/-! ### What every call keeps -/

/-- A registry tracks calls: what it finds is what is live, and categories and the names in them go
in order. -/
structure Tracks (calls : List (Write τ × Reply τ)) (r : Registry (Entry τ)) : Prop where
  sound : r.Sound
  found {category name : String} {entry : Entry τ} :
    r.get? category name = some entry ↔ ∃ since, IsLive calls category name since entry
  isOpen {category : String} : category ∈ r.categories → ∃ since, IsOpen calls category since
  opened : r.categories.Pairwise (OpenBefore calls)
  placed {category : String} {bucket : Ordered (Entry τ)} : r.bucket? category = some bucket →
    (Ordered.keys bucket).Pairwise (LiveBefore calls category)

theorem tracks_empty : Tracks [] ({} : Registry (Entry τ)) where
  sound := sound_empty
  found := by
    intro category name entry
    refine ⟨nofun, fun ⟨since, live⟩ => ?_⟩
    exact absurd live.lt_length (Nat.not_lt_zero _)
  isOpen := nofun
  opened := .nil
  placed := nofun

section Tracks

variable {r r' : Registry (Entry τ)} {write : Write τ} {reply : Reply τ} {bucket : Ordered (Entry τ)}

/-- A category has a bucket if it has a live pair. -/
theorem mem_categories_iff (sound : r.Sound) (found : ∀ {name : String} {entry : Entry τ},
      r.get? category name = some entry ↔ ∃ since, IsLive calls category name since entry) :
    category ∈ r.categories ↔ HasLive calls category := by
  constructor
  · intro mem
    obtain ⟨bucket, here⟩ := Ordered.mem_keys_iff.mp mem
    cases bucket with
    | nil => exact absurd rfl (sound.nonempty _ (Ordered.mem_of_get? here))
    | cons first rest =>
        obtain ⟨name, entry⟩ := first
        have first : r.get? category name = some entry := by
          simp [get?, bucket?, here, Ordered.get?]
        obtain ⟨since, live⟩ := found.mp first
        exact ⟨name, since, entry, live⟩
  · rintro ⟨name, since, entry, live⟩
    obtain ⟨bucket, here, -⟩ := Option.bind_eq_some_iff.mp (found.mpr ⟨since, live⟩)
    exact Ordered.mem_keys_iff.mpr ⟨bucket, here⟩

namespace Tracks

/-- A registry that tracks its calls has no category twice. -/
theorem nodup (tracks : Tracks calls r) : r.categories.Nodup :=
  tracks.opened.imp OpenBefore.ne

theorem distinct (tracks : Tracks calls r) (here : r.bucket? category = some bucket) :
    (Ordered.keys bucket).Nodup :=
  (tracks.placed here).imp LiveBefore.ne

/-- A category is listed as long as some pair of it is live. -/
theorem hasLive_iff (tracks : Tracks calls r) : category ∈ r.categories ↔ HasLive calls category :=
  mem_categories_iff tracks.sound tracks.found

/-- What becomes of the order after one call more. What a call leaves of the categories are old ones
that stay open; in a bucket that it does not change, no name is touched. -/
theorem still_open (tracks : Tracks calls r) (sound : r'.Sound)
    (found : ∀ {category name : String} {entry : Entry τ}, r'.get? category name = some entry ↔
      ∃ since, IsLive (calls ++ [new]) category name since entry)
    (sub : r'.categories.Sublist r.categories) :
    (∀ {category : String}, category ∈ r'.categories →
        ∃ since, IsOpen (calls ++ [new]) category since) ∧
      r'.categories.Pairwise (OpenBefore (calls ++ [new])) := by
  have filled {category : String} (mem : category ∈ r'.categories) :
      HasLive (calls ++ [new]) category := (mem_categories_iff sound found).mp mem
  refine ⟨fun mem => ?_, ?_⟩
  · obtain ⟨since, isOpen⟩ := tracks.isOpen (sub.subset mem)
    exact ⟨since, isOpen.concat (filled mem)⟩
  · exact (tracks.opened.sublist sub).imp_of_mem fun first second before =>
      before.concat (filled first) (filled second)

/-- Names of a bucket that a call does not touch stay in their order. -/
theorem still_placed (tracks : Tracks calls r) (here : r.bucket? category = some bucket)
    {names : List String} (sub : names.Sublist (Ordered.keys bucket))
    (apart : ∀ name ∈ names, ¬ Touches category name new) :
    names.Pairwise (LiveBefore (calls ++ [new]) category) :=
  ((tracks.placed here).sublist sub).imp_of_mem fun first second before =>
    before.concat (apart _ first) (apart _ second)

/-- A call that has no effect is as if it had not been made. -/
theorem quiet (tracks : Tracks calls r) (untouched : ∀ category name, ¬ Touches category name new) :
    Tracks (calls ++ [new]) r := by
  have found {category name : String} {entry : Entry τ} : r.get? category name = some entry ↔
      ∃ since, IsLive (calls ++ [new]) category name since entry := by
    have silent (entry : Entry τ) : ¬ Registers entry new := fun registers =>
      untouched _ _ registers.touches
    simp only [isLive_concat_iff_of_silent silent, untouched, not_false_eq_true, and_true]
    exact tracks.found
  obtain ⟨isOpen, opened⟩ := tracks.still_open tracks.sound found (List.Sublist.refl _)
  exact ⟨tracks.sound, found, isOpen, opened, fun here =>
    tracks.still_placed here (List.Sublist.refl _) fun name _ => untouched _ name⟩

section Register

variable (tracks : Tracks calls r) (registered : Registers entry new)
  (registers : r.register entry.check.category entry.check.name entry = .ok r')
include tracks registered registers

theorem found_register : r'.get? category name = some other ↔
    ∃ since, IsLive (calls ++ [new]) category name since other := by
  rw [get?_of_register registers]
  simp only [isLive_register_iff registered]
  split
  · simp [eq_comm]
  · exact tracks.found

/-- A category that is new is opened by the registration, after all others. -/
theorem open_register : (∀ {category : String}, category ∈ r'.categories →
      ∃ since, IsOpen (calls ++ [new]) category since) ∧
    r'.categories.Pairwise (OpenBefore (calls ++ [new])) := by
  have found {category name : String} {other : Entry τ} : r'.get? category name = some other ↔
      ∃ since, IsLive (calls ++ [new]) category name since other :=
    found_register tracks registered registers
  have sound := tracks.sound.register registers
  have categories := categories_of_register registers
  cases here : r.bucket? entry.check.category with
  | some bucket =>
      rw [here, Option.isSome_some, if_pos rfl] at categories
      exact tracks.still_open sound found (categories ▸ List.Sublist.refl _)
  | none =>
      rw [here, Option.isSome_none, if_neg Bool.false_ne_true] at categories
      have fresh : ¬ HasLive calls entry.check.category := by
        intro live
        obtain ⟨bucket, there⟩ := Ordered.mem_keys_iff.mp (tracks.hasLive_iff.mpr live)
        rw [bucket?, there] at here
        cases here
      have opens := isOpen_concat registered fresh
      have old {category : String} (mem : category ∈ r.categories) :
          ∃ since, IsOpen calls category since ∧ IsOpen (calls ++ [new]) category since := by
        obtain ⟨since, isOpen⟩ := tracks.isOpen mem
        have mem' : category ∈ r'.categories := categories ▸ List.mem_append_left _ mem
        exact ⟨since, isOpen, isOpen.concat ((mem_categories_iff sound found).mp mem')⟩
      have filled {category : String} (mem : category ∈ r.categories) :
          HasLive (calls ++ [new]) category :=
        (mem_categories_iff sound found).mp (categories ▸ List.mem_append_left _ mem)
      rw [categories]
      refine ⟨fun mem => ?_, List.pairwise_append.mpr ⟨?_, List.pairwise_singleton _ _, ?_⟩⟩
      · rcases List.mem_append.mp mem with mem | last
        · obtain ⟨since, -, isOpen⟩ := old mem
          exact ⟨since, isOpen⟩
        · rw [List.mem_singleton.mp last]
          exact ⟨_, opens⟩
      · exact tracks.opened.imp_of_mem fun first second before =>
          before.concat (filled first) (filled second)
      · intro a mem b last
        obtain ⟨since, before, isOpen⟩ := old mem
        rw [List.mem_singleton.mp last]
        exact ⟨since, calls.length, isOpen, opens, before.lt_length⟩

/-- In its category the new name comes after all others. -/
theorem placed_register (here : r'.bucket? category = some bucket) :
    (Ordered.keys bucket).Pairwise (LiveBefore (calls ++ [new]) category) := by
  rw [bucket?_of_register registers] at here
  split at here
  · rename_i this
    subst this
    cases here
    rw [keys_of_register registers]
    cases here : r.bucket? entry.check.category with
    | none => exact List.pairwise_singleton _ _
    | some bucket =>
        have free := (buckets_of_register registers).1
        have apart (name : String) (mem : name ∈ Ordered.keys bucket) :
            ¬ Touches entry.check.category name new := by
          intro both
          obtain ⟨other, inside⟩ := Ordered.mem_keys_iff.mp mem
          rw [← (registered.touches_iff.mp both).2] at inside
          simp [get?, here, inside] at free
        have last : IsLive (calls ++ [new]) entry.check.category entry.check.name calls.length
            entry := isLive_concat_iff.mpr (.inr ⟨rfl, registered, rfl, rfl⟩)
        refine List.pairwise_append.mpr ⟨?_, List.pairwise_singleton _ _, fun a mem b new => ?_⟩
        · exact tracks.still_placed here (List.Sublist.refl _) apart
        · obtain ⟨other, inside⟩ := Ordered.mem_keys_iff.mp mem
          have there : r.get? entry.check.category a = some other := by
            simpa [get?, here] using inside
          obtain ⟨since, live⟩ := tracks.found.mp there
          rw [List.mem_singleton.mp new]
          exact ⟨since, calls.length, other, entry, live.concat (apart a mem), last,
            live.lt_length⟩
  · rename_i other
    exact tracks.still_placed here (List.Sublist.refl _) fun name _ both =>
      other (registered.touches_iff.mp both).1.symm

/-- A registration that is accepted keeps the registry on the track of its calls. -/
theorem register : Tracks (calls ++ [new]) r' := by
  obtain ⟨isOpen, opened⟩ := open_register tracks registered registers
  exact ⟨tracks.sound.register registers, found_register tracks registered registers, isOpen,
    opened, placed_register tracks registered registers⟩

end Register

/-- A removal that finds its entry keeps the registry on the track of its calls. -/
theorem unregister (tracks : Tracks calls r) (there : r.contains category name = true) :
    Tracks (calls ++ [(.unregister category name, .removed true)])
      (r.unregister category name).2 := by
  have touches {c n : String} :
      Touches c n (.unregister category name, (.removed true : Reply τ)) ↔
        category = c ∧ name = n := Iff.rfl
  have silent (other : Entry τ) : ¬ Registers other (.unregister category name, .removed true) := by
    rintro ⟨offered, service, same⟩
    cases same
  have sound : (r.unregister category name).2.Sound := tracks.sound.unregister
  have found {c n : String} {other : Entry τ} :
      (r.unregister category name).2.get? c n = some other ↔
        ∃ since, IsLive (calls ++ [(.unregister category name, .removed true)]) c n since other := by
    rw [get?_of_unregister there tracks.nodup fun bucket here => tracks.distinct here]
    simp only [isLive_concat_iff_of_silent silent, touches, eq_comm (b := category),
      eq_comm (b := name)]
    split
    · rename_i this
      simp [this]
    · rename_i apart
      simp only [apart, not_false_eq_true, and_true]
      exact tracks.found
  obtain ⟨isOpen, opened⟩ := tracks.still_open sound found (categories_of_unregister there)
  refine ⟨sound, found, isOpen, opened, fun {c bucket} here => ?_⟩
  obtain ⟨old, at', after⟩ := bucket?_of_unregister there tracks.nodup c
  rw [after] at here
  split at here
  · rename_i same
    subst same
    split at here
    · cases here
    · cases here
      refine tracks.still_placed at' (Ordered.keys_erase_sublist name old) fun n mem both => ?_
      obtain ⟨value, inside⟩ := Ordered.mem_keys_iff.mp mem
      rw [← both.2, Ordered.get?_erase_self (tracks.distinct at')] at inside
      cases inside
  · rename_i other
    exact tracks.still_placed here (List.Sublist.refl _) fun n _ both => other both.1.symm

end Tracks

/-- Every call keeps a registry in agreement with the calls that were made. -/
theorem tracks_concat (tracks : Tracks calls r) (does : write.Does r reply r') :
    Tracks (calls ++ [(write, reply)]) r' := by
  cases does with
  | refuse check offered service fault => exact tracks.quiet fun _ _ => nofun
  | register entry offered service r' registers =>
      exact tracks.register ⟨offered, service, rfl⟩ registers
  | miss category name => exact tracks.quiet fun _ _ => nofun
  | unregister category name there => exact tracks.unregister there
  | clear =>
      have none (category name : String) (since : Nat) (entry : Entry τ) :
          ¬ IsLive (calls ++ [(.clear, .cleared)]) category name since entry := by
        rw [isLive_concat_iff]
        rintro (⟨-, untouched⟩ | ⟨-, ⟨offered, service, same⟩, -⟩)
        · exact untouched trivial
        · cases same
      exact ⟨sound_empty, ⟨nofun, fun ⟨since, live⟩ => absurd live (none _ _ _ _)⟩, nofun, .nil, nofun⟩

/-- So does a whole history. -/
theorem tracks_trace (tracks : Tracks calls r) (history : List (Write τ)) :
    Tracks (calls ++ Write.trace r history) (Write.after r history) := by
  induction history generalizing calls r with
  | nil => simpa [Write.trace, Write.after] using tracks
  | cons write rest ih =>
      have later := ih (tracks_concat tracks (write.does_answer r))
      simpa [Write.trace, Write.after] using later

end Tracks

/-! ### What the reads tell -/

def pairOf (entry : Entry τ) : String × String := (entry.check.category, entry.check.name)

/-- What the reads of a registry tell, told from what is live by the calls that were made. -/
structure Refines (calls : List (Write τ × Reply τ)) (r : Registry (Entry τ)) : Prop where
  /-- The total is the number of live pairs. -/
  total : r.total = {pair : String × String |
    ∃ since entry, IsLive calls pair.1 pair.2 since entry}.ncard
  /-- The entry of a live pair is found, and none for any other pair. -/
  get (category name : String) (entry : Entry τ) : r.get? category name = some entry ↔
    ∃ since, IsLive calls category name since entry
  contains (category name : String) : r.contains category name = true ↔
    ∃ since entry, IsLive calls category name since entry
  /-- All that is listed are the entries of live pairs, each once, and in order. -/
  mem_all (entry : Entry τ) : entry ∈ r.all ↔
    ∃ since, IsLive calls entry.check.category entry.check.name since entry
  once : (r.all.map pairOf).Nodup
  ordered : r.all.Pairwise (Precedes calls)
  checks : (Call.checks.answer r).1 = .checks (r.all.map Entry.check)
  /-- A category that has a live pair has of all entries those that are in it, any other none. -/
  ofCategory (category : String) (entries : List (Entry τ)) :
    r.ofCategory? category = some entries ↔ HasLive calls category ∧
      entries = r.all.filter fun entry => entry.check.category = category
  /-- The categories are those that have a live pair, each once, and in order. -/
  mem_categories (category : String) : category ∈ r.categories ↔ HasLive calls category
  distinct : r.categories.Nodup
  opened : r.categories.Pairwise (OpenBefore calls)
  /-- An entry is stored under the category and the name of its check. -/
  stored {category name : String} {bucket : Ordered (Entry τ)} {entry : Entry τ} :
    (category, bucket) ∈ r.buckets → (name, entry) ∈ bucket → pairOf entry = (category, name)

theorem Precedes.pairOf_ne {a b : Entry τ} (before : Precedes calls a b) : pairOf a ≠ pairOf b := by
  intro same
  obtain ⟨category_eq, name_eq⟩ := Prod.mk.inj same
  rcases before with opened | ⟨-, registered⟩
  · exact opened.ne category_eq
  · exact registered.ne name_eq

theorem length_all (r : Registry (Entry τ)) : r.all.length = r.size := by
  simp [all, size, List.length_flatMap, Ordered.values]

namespace Tracks

variable {r : Registry (Entry τ)} {bucket : Ordered (Entry τ)}

/-- What is stored in a bucket is found under its names. -/
theorem get?_of_mem (tracks : Tracks calls r) (here : (category, bucket) ∈ r.buckets)
    (inside : (name, entry) ∈ bucket) : r.get? category name = some entry := by
  have at' : r.bucket? category = some bucket := (Ordered.mem_iff_get? tracks.nodup).mp here
  rw [get?, at', Option.bind_some]
  exact (Ordered.mem_iff_get? (tracks.distinct at')).mp inside

theorem pairOf_of_mem (tracks : Tracks calls r) (here : (category, bucket) ∈ r.buckets)
    (inside : (name, entry) ∈ bucket) : pairOf entry = (category, name) := by
  obtain ⟨since, live⟩ := tracks.found.mp (tracks.get?_of_mem here inside)
  exact Prod.ext live.category_eq live.name_eq

/-- What is listed is what is live. -/
theorem mem_all_iff (tracks : Tracks calls r) : entry ∈ r.all ↔
    ∃ since, IsLive calls entry.check.category entry.check.name since entry := by
  rw [all, List.mem_flatMap]
  constructor
  · rintro ⟨⟨category, bucket⟩, here, mem⟩
    obtain ⟨⟨name, entry⟩, inside, rfl⟩ := List.mem_map.mp mem
    obtain ⟨since, live⟩ := tracks.found.mp (tracks.get?_of_mem here inside)
    obtain rfl := live.category_eq
    obtain rfl := live.name_eq
    exact ⟨since, live⟩
  · intro live
    obtain ⟨bucket, here, inside⟩ := Option.bind_eq_some_iff.mp (tracks.found.mpr live)
    exact ⟨_, Ordered.mem_of_get? here, List.mem_map.mpr ⟨_, Ordered.mem_of_get? inside, rfl⟩⟩

/-- Buckets go by their categories, and the entries of one bucket by their names. -/
theorem ordered_all (tracks : Tracks calls r) : r.all.Pairwise (Precedes calls) := by
  have opened : r.buckets.Pairwise fun a b => OpenBefore calls a.1 b.1 :=
    List.pairwise_map.mp tracks.opened
  refine List.pairwise_flatMap.mpr ⟨fun ⟨category, bucket⟩ here => ?_, ?_⟩
  · have at' : r.bucket? category = some bucket := (Ordered.mem_iff_get? tracks.nodup).mp here
    have placed : bucket.Pairwise fun a b => LiveBefore calls category a.1 b.1 :=
      List.pairwise_map.mp (tracks.placed at')
    refine List.pairwise_map.mpr (placed.imp_of_mem fun {a b} first second before => ?_)
    obtain ⟨category_eq, name_eq⟩ := Prod.mk.inj (tracks.pairOf_of_mem here first)
    obtain ⟨category_eq', name_eq'⟩ := Prod.mk.inj (tracks.pairOf_of_mem here second)
    rw [Precedes, category_eq, category_eq', name_eq, name_eq']
    exact .inr ⟨rfl, before⟩
  · refine opened.imp_of_mem fun {a b} first second before x mem y mem' => ?_
    obtain ⟨⟨n, x⟩, inside, rfl⟩ := List.mem_map.mp mem
    obtain ⟨⟨m, y⟩, inside', rfl⟩ := List.mem_map.mp mem'
    obtain ⟨category_eq, -⟩ := Prod.mk.inj (tracks.pairOf_of_mem first inside)
    obtain ⟨category_eq', -⟩ := Prod.mk.inj (tracks.pairOf_of_mem second inside')
    rw [Precedes, category_eq, category_eq']
    exact .inl before

/-- Of all entries those of a category are the ones in its bucket. -/
theorem filter_all (tracks : Tracks calls r) (category : String) :
    (r.all.filter fun entry => entry.check.category = category) =
      (r.ofCategory? category).getD [] := by
  have nodup : (Ordered.keys r.buckets).Nodup := tracks.nodup
  have stored (c : String) (bucket : Ordered (Entry τ)) (here : (c, bucket) ∈ r.buckets)
      (entry : Entry τ) (mem : entry ∈ Ordered.values bucket) : entry.check.category = c := by
    obtain ⟨⟨name, entry⟩, inside, rfl⟩ := List.mem_map.mp mem
    exact (Prod.mk.inj (tracks.pairOf_of_mem here inside)).1
  rw [all, ofCategory?, bucket?]
  generalize r.buckets = buckets at nodup stored
  induction buckets with
  | nil => rfl
  | cons first rest ih =>
      obtain ⟨c, bucket⟩ := first
      obtain ⟨fresh, nodup⟩ := List.nodup_cons.mp nodup
      have ih := ih nodup fun c bucket here => stored c bucket (List.mem_cons_of_mem _ here)
      have own := stored c bucket List.mem_cons_self
      rw [List.flatMap_cons, List.filter_append, ih, Ordered.get?]
      by_cases same : c = category
      · subst same
        have none : Ordered.get? c rest = none :=
          Option.eq_none_iff_forall_ne_some.mpr fun other there =>
            fresh (Ordered.mem_keys_iff.mpr ⟨other, there⟩)
        rw [List.filter_eq_self.mpr fun entry mem => decide_eq_true (own entry mem), none]
        simp
      · have apart : (Ordered.values bucket).filter (fun entry => entry.check.category = category) =
            [] := by
          refine List.filter_eq_nil_iff.mpr fun entry mem => ?_
          simpa [own entry mem] using same
        simp [apart, same]

/-- The total is the number of live pairs. -/
theorem total_eq (tracks : Tracks calls r) : r.total = {pair : String × String |
    ∃ since entry, IsLive calls pair.1 pair.2 since entry}.ncard := by
  have listed : {pair : String × String | ∃ since entry, IsLive calls pair.1 pair.2 since entry} =
      (r.all.map pairOf).toFinset := by
    ext ⟨category, name⟩
    simp only [Set.mem_ofPred_eq, List.coe_toFinset, List.mem_map]
    constructor
    · rintro ⟨since, entry, live⟩
      obtain rfl := live.category_eq
      obtain rfl := live.name_eq
      exact ⟨entry, tracks.mem_all_iff.mpr ⟨since, live⟩, rfl⟩
    · rintro ⟨entry, mem, same⟩
      obtain ⟨since, live⟩ := tracks.mem_all_iff.mp mem
      obtain ⟨rfl, rfl⟩ := Prod.mk.inj same
      exact ⟨since, entry, live⟩
  have once : (r.all.map pairOf).Nodup :=
    List.pairwise_map.mpr (tracks.ordered_all.imp Precedes.pairOf_ne)
  rw [listed, Set.ncard_coe_finset, List.toFinset_card_of_nodup once, List.length_map, length_all]
  exact tracks.sound.count_eq

end Tracks

/-- Whatever calls were made of an empty registry, and whatever they returned: its reads tell what
is live by these calls. -/
theorem refines_flat (history : List (Write τ)) :
    Refines (Write.trace {} history) (Write.after {} history) := by
  have tracks : Tracks (Write.trace {} history) (Write.after {} history) := by
    simpa using tracks_trace tracks_empty history
  refine ⟨tracks.total_eq, fun _ _ _ => tracks.found, fun category name => ?_,
    fun _ => tracks.mem_all_iff, List.pairwise_map.mpr (tracks.ordered_all.imp Precedes.pairOf_ne),
    tracks.ordered_all, rfl, fun category entries => ?_, fun _ => tracks.hasLive_iff, tracks.nodup,
    tracks.opened, tracks.pairOf_of_mem⟩
  · rw [Registry.contains, Option.isSome_iff_exists, exists_comm]
    exact exists_congr fun entry => tracks.found
  · rw [tracks.filter_all, ← tracks.hasLive_iff, categories, Ordered.mem_keys_iff, ofCategory?,
      bucket?]
    cases Ordered.get? category (Write.after {} history).buckets with
    | none => simp
    | some bucket => simp [eq_comm]

end Checkup.Registry
