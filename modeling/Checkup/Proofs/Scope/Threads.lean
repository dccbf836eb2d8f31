import Checkup.Scope.Threads
import Checkup.Proofs.Runs
import Checkup.Proofs.Scope.Cancel

/-!
Threads on one tree lose no cancellation.

While calls are in progress the tree is formed only up to what the threads owe: the scopes that a
cancel under way has still to claim, and the new scopes that wait to be linked. A step pays some of
that and may add to it, and where no call is in progress nothing is owed.

Main statements: `move_of_goFrom` and `move_of_claimFrom` (all that a step of a thread can do),
`sound_step` (a step keeps the tree formed up to what is owed), `unhooked_step` (a scope on which a
close was called is linked nowhere, or the thread that closes it will see to that), and
`keeps_cancellations` (what holds of every run).
-/

namespace Checkup.Threads

variable {τ : Type} {t t' : Threads τ} {f g : Forest τ} {place other next : Place τ}
  {rest : Rest} {cause known : Fault} {s p c : ScopeId} {i j : Nat} {ids others : List ScopeId}

/-! ### What a thread owes -/

/-- The scope that a thread has made and not handed out yet. -/
def Rest.newborn? : Rest → Option ScopeId
  | .link _ c | .hand c => some c
  | .finish | .detach _ => none

namespace Place

def newborn? (place : Place τ) : Option ScopeId := place.rest?.bind Rest.newborn?

def Owes (place : Place τ) (c : ScopeId) : Prop :=
  c ∈ place.todo ∨ ∃ p, place.rest? = some (.link p c)

@[simp] theorem todo_owing (cause : Fault) (ids : List ScopeId) (rest : Rest) :
    (owing cause ids rest : Place τ).todo = ids := by
  cases ids <;> rfl

@[simp] theorem rest?_owing (cause : Fault) (ids : List ScopeId) (rest : Rest) :
    (owing cause ids rest : Place τ).rest? = some rest := by
  cases ids <;> rfl

end Place

def Owed (t : Threads τ) (c : ScopeId) : Prop :=
  ∃ (i : Nat) (place : Place τ), t.places[i]? = some place ∧ place.Owes c

def OthersOwe (t : Threads τ) (i : Nat) (c : ScopeId) : Prop :=
  ∃ (j : Nat) (place : Place τ), j ≠ i ∧ t.places[j]? = some place ∧ place.Owes c

theorem owed_iff (here : t.places[i]? = some place) (c : ScopeId) :
    t.Owed c ↔ place.Owes c ∨ t.OthersOwe i c := by
  constructor
  · rintro ⟨j, other, there, owes⟩
    by_cases same : j = i
    · subst same
      rw [here] at there
      cases there
      exact .inl owes
    · exact .inr ⟨j, other, same, there, owes⟩
  · rintro (owes | ⟨j, other, -, there, owes⟩)
    · exact ⟨i, place, here, owes⟩
    · exact ⟨j, other, there, owes⟩

/-- Where no call is in progress nothing is owed. -/
theorem not_owed_of_isQuiet (quiet : t.IsQuiet) (c : ScopeId) : ¬ t.Owed c := by
  rintro ⟨i, place, here, owes⟩
  rw [quiet place (List.mem_of_getElem? here)] at owes
  rcases owes with mem | ⟨p, links⟩
  · exact List.not_mem_nil mem
  · cases links

/-! ### What a step does -/

/-- The state after a thread has gone on to the next place, with a tree and scopes known. -/
def moved (t : Threads τ) (i : Nat) (next : Place τ) (f : Forest τ) (ids : List ScopeId) :
    Threads τ :=
  { t with places := t.places.set i next, forest := f, known := ids }

theorem moved_getElem? (here : t.places[i]? = some place) (next : Place τ) (f : Forest τ)
    (ids : List ScopeId) (j : Nat) :
    (t.moved i next f ids).places[j]? = if j = i then some next else t.places[j]? := by
  have inside : i < t.places.length := (List.getElem?_eq_some_iff.mp here).1
  simp only [moved, List.getElem?_set]
  split
  · rename_i same
    subst same
    simp
  · rename_i differ
    rw [if_neg (Ne.symm differ)]

theorem owed_moved (here : t.places[i]? = some place) (next : Place τ) (f : Forest τ)
    (ids : List ScopeId) (c : ScopeId) :
    (t.moved i next f ids).Owed c ↔ next.Owes c ∨ t.OthersOwe i c := by
  constructor
  · rintro ⟨j, other, there, owes⟩
    rw [moved_getElem? here] at there
    split at there
    · cases there
      exact .inl owes
    · rename_i differ
      exact .inr ⟨j, other, differ, there, owes⟩
  · rintro (owes | ⟨j, other, differ, there, owes⟩)
    · exact ⟨i, next, by rw [moved_getElem? here, if_pos rfl], owes⟩
    · exact ⟨j, other, by rw [moved_getElem? here, if_neg differ]; exact there, owes⟩

/-- All that a thread can do in a step: from a place to the next, and what becomes of the tree and
of the scopes that are known. -/
inductive Move (t : Threads τ) : Place τ → Place τ → Forest τ → List ScopeId → Prop
  | make (p : ScopeId) (timeout : Option τ) (deadline : Option τ) :
      Move t (.making p timeout) (.looking p (.link p t.forest.size))
        (t.forest.push { parent := some p, deadline }) t.known
  /-- Looking, comparing and finishing change where the thread is and nothing else. -/
  | see (s : ScopeId) (rest : Rest) : (t.forest.cause? s).isSome →
      Move t (.looking s rest) (.resting rest) t.forest t.known
  | unseen (s : ScopeId) (rest : Rest) : t.forest.cause? s = none →
      Move t (.looking s rest) (.timing s rest) t.forest t.known
  | expire (s : ScopeId) (rest : Rest) :
      Move t (.timing s rest) (.cancelling .deadlineExceeded s [] rest) t.forest t.known
  | inTime (s : ScopeId) (rest : Rest) :
      Move t (.timing s rest) (.resting rest) t.forest t.known
  | claim (cause : Fault) (s : ScopeId) (others : List ScopeId) (rest : Rest)
      (order : List ScopeId) : order.Perm (t.forest.claim s cause).1 →
      Move t (.cancelling cause s others rest) (.owing cause (order ++ others) rest)
        (t.forest.claim s cause).2 t.known
  | finish : Move t (.resting .finish) .idle t.forest t.known
  | alone (s : ScopeId) : t.forest.parent? s = none →
      Move t (.resting (.detach s)) .idle t.forest t.known
  | detach (s p : ScopeId) : t.forest.parent? s = some p →
      Move t (.resting (.detach s)) .idle (t.forest.detach p s) t.known
  | link (p c : ScopeId) : t.forest.cause? p = none →
      Move t (.resting (.link p c)) (.resting (.hand c)) (t.forest.link p c) t.known
  | bear (p c : ScopeId) (cause : Fault) : t.forest.cause? p = some cause →
      Move t (.resting (.link p c)) (.cancelling cause c [] (.hand c)) t.forest t.known
  | hand (c : ScopeId) : Move t (.resting (.hand c)) .idle t.forest (c :: t.known)

/-- A thread that has its turn at the lock makes one of the moves that `Move` names. -/
theorem move_of_claimFrom {order : List ScopeId} (steps : t.claimFrom i order place = some t') :
    ∃ next f ids, t.Move place next f ids ∧ t' = t.moved i next f ids := by
  cases place with
  | cancelling cause s others rest =>
      simp only [claimFrom] at steps
      split at steps
      · rename_i perm
        refine ⟨_, _, _, .claim cause s others rest order (List.isPerm_iff.mp perm), ?_⟩
        exact (Option.some.inj steps).symm
      · cases steps
  | _ => cases steps

section Clocked

variable [Clock τ]

/-- A thread that goes on makes one of the moves that `Move` names. -/
theorem move_of_goFrom (steps : t.goFrom i place = some t') :
    ∃ next f ids, t.Move place next f ids ∧ t' = t.moved i next f ids := by
  cases place with
  | idle => cases steps
  | cancelling cause s others rest => cases steps
  | making p timeout =>
      refine ⟨_, _, _, .make p timeout
        (Clock.earliest? (t.forest.deadline? p) (timeout.map (Clock.add t.now))), ?_⟩
      exact (Option.some.inj steps).symm
  | looking s rest =>
      have result := (Option.some.inj steps).symm
      cases known : t.forest.cause? s with
      | some cause =>
          refine ⟨_, _, _, .see s rest (by rw [known]; rfl), ?_⟩
          simpa [known, moved] using result
      | none =>
          refine ⟨_, _, _, .unseen s rest known, ?_⟩
          simpa [known, moved] using result
  | timing s rest =>
      have result := (Option.some.inj steps).symm
      by_cases expired : t.forest.isExpired t.now s
      · refine ⟨_, _, _, .expire s rest, ?_⟩
        simpa [expired, moved] using result
      · refine ⟨_, _, _, .inTime s rest, ?_⟩
        simpa [expired, moved] using result
  | resting rest =>
      cases rest with
      | finish => exact ⟨_, _, _, .finish, (Option.some.inj steps).symm⟩
      | hand c => exact ⟨_, _, _, .hand c, (Option.some.inj steps).symm⟩
      | detach s =>
          simp only [goFrom] at steps
          split at steps
          · rename_i alone
            exact ⟨_, _, _, .alone s alone, (Option.some.inj steps).symm⟩
          · rename_i p hangs
            exact ⟨_, _, _, .detach s p hangs, (Option.some.inj steps).symm⟩
      | link p c =>
          simp only [goFrom] at steps
          split at steps
          · rename_i live
            exact ⟨_, _, _, .link p c live, (Option.some.inj steps).symm⟩
          · rename_i cause cancelled
            exact ⟨_, _, _, .bear p c cause cancelled, (Option.some.inj steps).symm⟩

end Clocked

/-! ### The invariant -/

/-- What a thread relies on where it is: its new scope is known to no one and, while it waits for
its link, is linked nowhere; a scope that it will unlink is cancelled, or it owes it a cancel. -/
structure Place.Fits (place : Place τ) (f : Forest τ) (ids : List ScopeId) : Prop where
  below {p : ScopeId} {timeout : Option τ} : place = .making p timeout → p < f.size
  newborn {c : ScopeId} : place.newborn? = some c → c < f.size ∧ c ∉ ids
  linking {p c : ScopeId} : place.rest? = some (.link p c) →
    f.parent? c = some p ∧ ∀ q, c ∉ f.children q
  detaching {s : ScopeId} : place.rest? = some (.detach s) →
    s < f.size ∧ (s ∈ place.todo ∨ (f.cause? s).isSome)

/-- What holds of threads in whatever order they make their steps. -/
structure Sound (t : Threads τ) : Prop where
  formed : t.forest.Formed t.Owed
  known_lt {s : ScopeId} : s ∈ t.known → s < t.forest.size
  fits {i : Nat} {place : Place τ} : t.places[i]? = some place → place.Fits t.forest t.known
  apart {i j : Nat} {place other : Place τ} {c : ScopeId} : t.places[i]? = some place →
    t.places[j]? = some other → place.newborn? = some c → other.newborn? = some c → i = j

/-! ### What a step keeps -/

theorem size_le_of_move (move : t.Move place next f ids) : t.forest.size ≤ f.size := by
  cases move with
  | make => simp
  | claim => simp
  | detach => simp
  | link => simp
  | _ => exact Nat.le_refl _

theorem parent?_of_move (move : t.Move place next f ids) (old : s < t.forest.size) :
    f.parent? s = t.forest.parent? s := by
  cases move with
  | make => rw [Forest.parent?_push, if_neg (Nat.ne_of_lt old)]
  | claim => rw [Forest.parent?_claim]
  | detach => rw [Forest.parent?_detach]
  | link => rw [Forest.parent?_link]
  | _ => rfl

/-- A cause once set stays. -/
theorem cause?_of_move (move : t.Move place next f ids)
    (cancelled : t.forest.cause? s = some known) : f.cause? s = some known := by
  cases move with
  | make => rwa [Forest.cause?_push, if_neg (Nat.ne_of_lt (Forest.lt_size_of_cause? cancelled))]
  | claim cause s => exact Forest.cause?_claim_of_some cancelled s cause
  | detach => rwa [Forest.cause?_detach]
  | link => rwa [Forest.cause?_link]
  | _ => exact cancelled

/-- Only the thread that has made a scope links it. -/
theorem mem_children_of_move (move : t.Move place next f ids) (mem : c ∈ f.children p) :
    c ∈ t.forest.children p ∨ place = .resting (.link p c) := by
  cases move with
  | make =>
      rw [Forest.children_push] at mem
      split at mem
      · exact absurd mem List.not_mem_nil
      · exact .inl mem
  | claim => exact .inl (Forest.mem_children_of_claim mem)
  | detach s q =>
      rw [Forest.children_detach] at mem
      split at mem
      · rename_i same
        subst same
        exact .inl (List.mem_of_mem_erase mem)
      · exact .inl mem
  | link q new =>
      rw [Forest.children_link] at mem
      split at mem
      · rename_i here
        obtain ⟨rfl, -⟩ := here
        rcases List.mem_append.mp mem with old | added
        · exact .inl old
        · rw [List.mem_singleton.mp added]
          exact .inr rfl
      · exact .inl mem
  | _ => exact .inl mem

/-- Scopes that are known stay known. -/
theorem mem_known_of_move (move : t.Move place next f ids) (mem : s ∈ t.known) : s ∈ ids := by
  cases move with
  | hand c => exact List.mem_cons_of_mem c mem
  | _ => exact mem

/-- Only the thread that has made a scope hands it out. -/
theorem known_of_move (move : t.Move place next f ids) (mem : s ∈ ids) :
    s ∈ t.known ∨ place = .resting (.hand s) := by
  cases move with
  | hand c =>
      rcases List.mem_cons.mp mem with rfl | old
      · exact .inr rfl
      · exact .inl old
  | _ => exact .inl mem

/-- A new scope stays with its thread; only one that is made now is new. -/
theorem newborn?_of_move (move : t.Move place next f ids) (new : next.newborn? = some c) :
    place.newborn? = some c ∨ c = t.forest.size := by
  cases move with
  | make =>
      cases new
      exact .inr rfl
  | claim =>
      rw [Place.newborn?, Place.rest?_owing] at new
      exact .inl new
  | finish | alone | detach | hand => cases new
  | _ => exact .inl new

namespace Place

theorem newborn?_of_link (links : place.rest? = some (.link p c)) : place.newborn? = some c := by
  rw [newborn?, links]
  rfl

/-- What a thread relies on is not touched by a move that does not link or hand out its scope. -/
theorem Fits.of_move (fits : other.Fits t.forest t.known) (move : t.Move place next f ids)
    (mine : ∀ c, other.newborn? = some c →
      (∀ p, place ≠ .resting (.link p c)) ∧ place ≠ .resting (.hand c)) :
    other.Fits f ids := by
  have size_le := size_le_of_move move
  constructor
  · intro q timeout making
    exact Nat.lt_of_lt_of_le (fits.below making) size_le
  · intro c new
    have ⟨made, unknown⟩ := fits.newborn new
    refine ⟨Nat.lt_of_lt_of_le made size_le, fun mem => ?_⟩
    rcases known_of_move move mem with old | hands
    · exact unknown old
    · exact (mine c new).2 hands
  · intro p c links
    have ⟨hangs, unlinked⟩ := fits.linking links
    have new := newborn?_of_link links
    refine ⟨(parent?_of_move move (fits.newborn new).1).trans hangs, fun q mem => ?_⟩
    rcases mem_children_of_move move mem with old | linked
    · exact unlinked q old
    · exact (mine c new).1 q linked
  · intro s detaches
    have ⟨made, cancels⟩ := fits.detaching detaches
    refine ⟨Nat.lt_of_lt_of_le made size_le, ?_⟩
    rcases cancels with owes | cancelled
    · exact .inl owes
    · obtain ⟨known, cancelled⟩ := Option.isSome_iff_exists.mp cancelled
      rw [cause?_of_move move cancelled]
      exact .inr rfl

/-- A thread that goes on with the same call, owing no less, relies on the same. -/
theorem Fits.of_rest?_eq (fits : place.Fits f ids) (same : next.rest? = place.rest?)
    (begun : next.rest?.isSome)
    (more : ∀ s ∈ place.todo, s < f.size → s ∈ next.todo ∨ (f.cause? s).isSome) :
    next.Fits f ids := by
  constructor
  · intro q timeout making
    rw [making] at begun
    cases begun
  · intro c new
    refine fits.newborn ?_
    rw [newborn?, ← same]
    exact new
  · intro q c links
    refine fits.linking ?_
    rw [← same]
    exact links
  · intro s detaches
    have ⟨made, cancels⟩ := fits.detaching (same ▸ detaches)
    exact ⟨made, cancels.elim (fun mem => more s mem made) .inr⟩

/-- Nothing is relied on where no scope is at stake. -/
theorem fits_idle (f : Forest τ) (ids : List ScopeId) : (idle : Place τ).Fits f ids := by
  constructor <;> intros <;> contradiction

end Place

/-! ### A step keeps the invariant -/

namespace Sound

/-- A move keeps the tree formed up to what is owed after it. -/
theorem formed_of_move (sound : t.Sound) (here : t.places[i]? = some place)
    (move : t.Move place next f ids) : f.Formed fun c => next.Owes c ∨ t.OthersOwe i c := by
  have before : t.forest.Formed fun c => place.Owes c ∨ t.OthersOwe i c :=
    sound.formed.mono fun c => (owed_iff here c).mp
  have fits := sound.fits here
  -- most moves leave the tree alone and go on owing what was owed
  have stays (owes : ∀ c, place.Owes c → next.Owes c) :
      t.forest.Formed fun c => next.Owes c ∨ t.OthersOwe i c :=
    before.mono fun c h => h.imp_left (owes c)
  cases move with
  | make p timeout deadline =>
      have made : ∀ q, some p = some q → q < t.forest.size := by
        rintro q ⟨⟩
        exact fits.below rfl
      refine (before.formed_push deadline made).mono fun c h => ?_
      rcases h with (owes | others) | ⟨rfl, -⟩
      · rcases owes with mem | ⟨p, links⟩
        · exact absurd mem List.not_mem_nil
        · cases links
      · exact .inr others
      · exact .inl (.inr ⟨p, rfl⟩)
  | see s rest => exact stays fun c owes => owes
  | unseen s rest => exact stays fun c owes => owes
  | expire s rest => exact stays fun c owes => owes.imp_left fun mem => absurd mem List.not_mem_nil
  | inTime s rest => exact stays fun c owes => owes
  | claim cause s others rest order perm =>
      refine (before.formed_claim s cause).mono fun c h => ?_
      rw [Place.Owes, Place.todo_owing, Place.rest?_owing]
      rcases h with below | ⟨(mem | links) | others, ne⟩
      · exact .inl (.inl (List.mem_append_left _ (perm.mem_iff.mpr below)))
      · exact .inl (.inl (List.mem_append_right _ ((List.mem_cons.mp mem).resolve_left ne)))
      · exact .inl (.inr links)
      · exact .inr others
  | finish => exact stays fun c owes => owes.imp_right fun ⟨_, links⟩ => by cases links
  | alone s => exact stays fun c owes => owes.imp_right fun ⟨_, links⟩ => by cases links
  | detach s p =>
      have ended := (fits.detaching rfl).2.resolve_left List.not_mem_nil
      refine (before.formed_detach p (.inl ended)).mono fun c h => h.imp_left fun owes => ?_
      exact owes.imp_right fun ⟨_, links⟩ => by cases links
  | link p c live =>
      have ⟨hangs, unlinked⟩ := fits.linking rfl
      refine (before.formed_link hangs live (unlinked p)).mono fun i h => ?_
      obtain ⟨(mem | ⟨q, links⟩) | others, ne⟩ := h
      · exact absurd mem List.not_mem_nil
      · cases links
        exact absurd rfl ne
      · exact .inr others
  | bear p c cause =>
      refine stays fun c owes => ?_
      rcases owes with mem | ⟨q, links⟩
      · exact absurd mem List.not_mem_nil
      · cases links
        exact .inl List.mem_cons_self
  | hand c => exact stays fun c owes => owes.imp_right fun ⟨_, links⟩ => by cases links

/-- After a move a thread can rely on what it relies on where it is then. -/
theorem fits_of_move (sound : t.Sound) (here : t.places[i]? = some place)
    (move : t.Move place next f ids) : next.Fits f ids := by
  have fits := sound.fits here
  cases move with
  | make p timeout deadline =>
      constructor
      · intro q timeout making
        cases making
      · intro c new
        cases new
        exact ⟨by simp, fun mem => Nat.lt_irrefl _ (sound.known_lt mem)⟩
      · intro q c links
        cases links
        refine ⟨by simp [Forest.parent?_push], fun q mem => ?_⟩
        rw [Forest.children_push] at mem
        split at mem
        · exact List.not_mem_nil mem
        · have hangs := sound.formed.parent?_of_mem mem
          exact Nat.lt_irrefl _ (Forest.lt_size_of_parent? hangs)
      · intro s detaches
        cases detaches
  | see s rest => exact fits.of_rest?_eq rfl rfl fun s mem _ => .inl mem
  | unseen s rest => exact fits.of_rest?_eq rfl rfl fun s mem _ => .inl mem
  | expire s rest => exact fits.of_rest?_eq rfl rfl fun s mem _ => absurd mem List.not_mem_nil
  | inTime s rest => exact fits.of_rest?_eq rfl rfl fun s mem _ => .inl mem
  | claim cause s others rest order perm =>
      have claimed := fits.of_move (.claim cause s others rest order perm) fun c _ =>
        ⟨fun p => nofun, nofun⟩
      refine claimed.of_rest?_eq (Place.rest?_owing ..) (by simp) fun i mem made => ?_
      rcases List.mem_cons.mp mem with rfl | later
      · rw [Forest.size_claim] at made
        exact .inr (Forest.isSome_cause?_claim made cause)
      · rw [Place.todo_owing]
        exact .inl (List.mem_append_right _ later)
  | finish => exact Place.fits_idle ..
  | alone s => exact Place.fits_idle ..
  | detach s p => exact Place.fits_idle ..
  | link p c live =>
      have stays := fits.newborn rfl
      refine ⟨nofun, fun new => ?_, nofun, nofun⟩
      cases new
      rw [Forest.size_link]
      exact stays
  | bear p c cause =>
      refine ⟨nofun, fun new => ?_, nofun, nofun⟩
      cases new
      exact fits.newborn rfl
  | hand c => exact Place.fits_idle ..

theorem of_move (sound : t.Sound) (here : t.places[i]? = some place)
    (move : t.Move place next f ids) : (t.moved i next f ids).Sound := by
  constructor
  · refine (sound.formed_of_move here move).mono fun c h => ?_
    exact (owed_moved here next f ids c).mpr h
  · intro s mem
    rcases known_of_move move mem with old | hands
    · exact Nat.lt_of_lt_of_le (sound.known_lt old) (size_le_of_move move)
    · subst hands
      exact Nat.lt_of_lt_of_le ((sound.fits here).newborn rfl).1 (size_le_of_move move)
  · intro j other there
    rw [moved_getElem? here] at there
    split at there
    · cases there
      exact sound.fits_of_move here move
    · rename_i differ
      refine (sound.fits there).of_move move fun c new => ⟨?_, ?_⟩
      · rintro p rfl
        exact differ (sound.apart there here new rfl)
      · rintro rfl
        exact differ (sound.apart there here new rfl)
  · intro j k one other c there there' new new'
    -- a thread other than the one that moves has no scope that is new now, nor that of the mover
    have apart {j : Nat} {other : Place τ} (differ : j ≠ i) (there : t.places[j]? = some other)
        (new : next.newborn? = some c) (new' : other.newborn? = some c) : False := by
      rcases newborn?_of_move move new with mine | rfl
      · exact differ (sound.apart there here new' mine)
      · exact Nat.lt_irrefl _ ((sound.fits there).newborn new').1
    rw [moved_getElem? here] at there there'
    split at there <;> split at there'
    · rename_i one two
      exact one.trans two.symm
    · rename_i differ
      cases there
      exact (apart differ there' new new').elim
    · rename_i differ _
      cases there'
      exact (apart differ there new' new).elim
    · exact sound.apart there there' new new'

/-- A thread that makes a call owes nothing yet but what it is asked for. -/
theorem of_call (sound : t.Sound) (idle : t.places[i]? = some .idle) {what : Call τ}
    (known : what.scope ∈ t.known) :
    (t.moved i (.ofCall what) t.forest t.known).Sound := by
  have unborn : (Place.ofCall what).newborn? = none := by cases what <;> rfl
  constructor
  · refine sound.formed.mono fun c owed => (owed_moved idle ..).mpr ?_
    refine ((owed_iff idle c).mp owed).imp_left fun owes => ?_
    rcases owes with mem | ⟨p, links⟩
    · exact absurd mem List.not_mem_nil
    · cases links
  · exact sound.known_lt
  · intro j other there
    rw [moved_getElem? idle] at there
    split at there
    · cases there
      have made := sound.known_lt known
      cases what with
      | child p timeout =>
          refine ⟨fun making => ?_, nofun, nofun, nofun⟩
          cases making
          exact made
      | cancel s cause => exact ⟨nofun, nofun, nofun, nofun⟩
      | isCancelled s => exact ⟨nofun, nofun, nofun, nofun⟩
      | close s =>
          refine ⟨nofun, nofun, nofun, fun detaches => ?_⟩
          cases detaches
          exact ⟨made, .inl List.mem_cons_self⟩
    · exact sound.fits there
  · intro j k one other c there there' new new'
    rw [moved_getElem? idle] at there there'
    split at there
    · cases there
      rw [unborn] at new
      cases new
    · split at there'
      · cases there'
        rw [unborn] at new'
        cases new'
      · exact sound.apart there there' new new'

end Sound

theorem sound_start (count : Nat) (now : τ) : (start count now).Sound := by
  have idle {i : Nat} {place : Place τ} (here : (start count now).places[i]? = some place) :
      place = .idle := List.eq_of_mem_replicate (List.mem_of_getElem? here)
  constructor
  · have empty : ({} : Forest τ).Formed fun _ => False := .empty
    have noParent : ∀ p : ScopeId, none = some p → p < ({} : Forest τ).size := nofun
    refine (empty.formed_push none noParent).mono fun c h => ?_
    rcases h with never | ⟨-, hangs⟩
    · exact never.elim
    · cases hangs
  · intro s mem
    rw [List.mem_singleton.mp mem]
    exact Nat.zero_lt_one
  · intro i place here
    rw [idle here]
    exact Place.fits_idle ..
  · intro i j place other c here _ new
    rw [idle here] at new
    cases new

/-! ### Scopes that are closed -/

/-- The scope is known, and is linked nowhere unless a thread is about to unlink it. -/
def Unhooked (t : Threads τ) (s : ScopeId) : Prop :=
  s ∈ t.known ∧
    ((∃ (i : Nat) (place : Place τ), t.places[i]? = some place ∧ place.rest? = some (.detach s)) ∨
      ∀ p, s ∉ t.forest.children p)

/-- A scope that is known is never linked again. -/
theorem Sound.mem_children_of_known (sound : t.Sound) (here : t.places[i]? = some place)
    (move : t.Move place next f ids) (known : s ∈ t.known) (mem : s ∈ f.children p) :
    s ∈ t.forest.children p := by
  rcases mem_children_of_move move mem with old | rfl
  · exact old
  · exact absurd known ((sound.fits here).newborn rfl).2

/-- A thread that is about to unlink a scope does so before it leaves the call. -/
theorem Sound.unlinks_of_move (sound : t.Sound) (move : t.Move place next f ids)
    (detaches : place.rest? = some (.detach s)) :
    next.rest? = some (.detach s) ∨ ∀ p, s ∉ f.children p := by
  cases move with
  | claim => exact .inl ((Place.rest?_owing ..).trans detaches)
  | alone s alone =>
      cases detaches
      refine .inr fun p mem => ?_
      rw [sound.formed.parent?_of_mem mem] at alone
      cases alone
  | detach s q hangs =>
      cases detaches
      refine .inr fun p mem => ?_
      rw [Forest.children_detach] at mem
      split at mem
      · exact (sound.formed.nodup q).not_mem_erase mem
      · rename_i differ
        rw [sound.formed.parent?_of_mem mem] at hangs
        exact differ (Option.some.inj hangs)
  | see | unseen | expire | inTime => exact .inl detaches
  | _ => cases detaches

/-! ### Steps and runs -/

section Clocked

variable [Clock τ] {a : Step τ} {steps : List (Step τ)}

theorem call_of_step {what : Call τ} (makes : t.step (.call i what) = some t') :
    t.places[i]? = some .idle ∧ what.scope ∈ t.known ∧
      t' = t.moved i (.ofCall what) t.forest t.known := by
  simp only [step] at makes
  split at makes
  · rename_i idle
    split at makes
    · rename_i known
      exact ⟨idle, known, (Option.some.inj makes).symm⟩
    · cases makes
  · cases makes

/-- All that a step can be. -/
theorem step_cases (makes : t.step a = some t') :
    (∃ i what, t.places[i]? = some .idle ∧ what.scope ∈ t.known ∧
      t' = t.moved i (.ofCall what) t.forest t.known) ∨
    (∃ i place next f ids, t.places[i]? = some place ∧ t.Move place next f ids ∧
      t' = t.moved i next f ids) ∨
    ∃ now, t' = { t with now } := by
  cases a with
  | call i what => exact .inl ⟨i, what, call_of_step makes⟩
  | claim i order =>
      obtain ⟨place, here, makes⟩ := Option.bind_eq_some_iff.mp makes
      obtain ⟨next, f, ids, move, result⟩ := move_of_claimFrom makes
      exact .inr (.inl ⟨i, place, next, f, ids, here, move, result⟩)
  | go i =>
      obtain ⟨place, here, makes⟩ := Option.bind_eq_some_iff.mp makes
      obtain ⟨next, f, ids, move, result⟩ := move_of_goFrom makes
      exact .inr (.inl ⟨i, place, next, f, ids, here, move, result⟩)
  | pass now => exact .inr (.inr ⟨_, (Option.some.inj makes).symm⟩)

theorem sound_step (sound : t.Sound) (makes : t.step a = some t') : t'.Sound := by
  rcases step_cases makes with ⟨i, what, idle, known, rfl⟩ |
    ⟨i, place, next, f, ids, here, move, rfl⟩ | ⟨now, rfl⟩
  · exact sound.of_call idle known
  · exact sound.of_move here move
  · exact ⟨sound.formed, sound.known_lt, sound.fits, sound.apart⟩

/-- A cause once set stays. -/
theorem cause?_step (makes : t.step a = some t') (cancelled : t.forest.cause? s = some known) :
    t'.forest.cause? s = some known := by
  rcases step_cases makes with ⟨i, what, -, -, rfl⟩ | ⟨i, place, next, f, ids, -, move, rfl⟩ |
    ⟨now, rfl⟩
  · exact cancelled
  · exact cause?_of_move move cancelled
  · exact cancelled

/-- A scope that no link leads to stays so. -/
theorem unhooked_step (sound : t.Sound) (makes : t.step a = some t') (unhooked : t.Unhooked s) :
    t'.Unhooked s := by
  obtain ⟨known, unhooked⟩ := unhooked
  rcases step_cases makes with ⟨i, what, idle, -, rfl⟩ |
    ⟨i, place, next, f, ids, here, move, rfl⟩ | ⟨now, rfl⟩
  · refine ⟨known, unhooked.imp_left ?_⟩
    rintro ⟨j, other, there, detaches⟩
    refine ⟨j, other, ?_, detaches⟩
    rw [moved_getElem? idle, if_neg]
    · exact there
    · rintro rfl
      rw [idle] at there
      cases there
      cases detaches
  · refine ⟨mem_known_of_move move known, ?_⟩
    rcases unhooked with ⟨j, other, there, detaches⟩ | unlinked
    · by_cases same : j = i
      · subst same
        rw [here] at there
        cases there
        refine (sound.unlinks_of_move move detaches).imp_left fun detaches => ?_
        exact ⟨j, next, by rw [moved_getElem? here, if_pos rfl], detaches⟩
      · exact .inl ⟨j, other, by rw [moved_getElem? here, if_neg same]; exact there, detaches⟩
    · exact .inr fun p mem => unlinked p (sound.mem_children_of_known here move known mem)
  · exact ⟨known, unhooked⟩

/-- A scope is unhooked from when a close is called on it. -/
theorem unhooked_of_close (makes : t.step (.call i (.close s)) = some t') : t'.Unhooked s := by
  obtain ⟨idle, known, rfl⟩ := call_of_step makes
  refine ⟨known, .inl ⟨i, .ofCall (.close s), ?_, rfl⟩⟩
  rw [moved_getElem? idle, if_pos rfl]

theorem isRun : IsRun (step (τ := τ)) run := ⟨fun _ => rfl, fun _ _ _ => rfl⟩

/-- A run keeps the threads sound. -/
theorem sound_run (runs : t.run steps = some t') (sound : t.Sound) : t'.Sound :=
  isRun.invariant sound_step runs sound

/-- A cause that was there before a run is there after it. -/
theorem cause?_run (runs : t.run steps = some t') (cancelled : t.forest.cause? s = some known) :
    t'.forest.cause? s = some known :=
  isRun.invariant (I := fun t => t.forest.cause? s = some known)
    (fun cancelled makes => cause?_step makes cancelled) runs cancelled

/-- Once a close was called on a scope it stays unhooked. -/
theorem unhooked_run (runs : t.run steps = some t') (sound : t.Sound)
    (closed : .call i (.close s) ∈ steps) : t'.Unhooked s := by
  obtain ⟨before, after, rfl⟩ := List.append_of_mem closed
  obtain ⟨asked, runs, goesOn⟩ := isRun.append_eq_some_iff.mp runs
  obtain ⟨between, makes, goesOn⟩ := isRun.cons_eq_some_iff.mp goesOn
  have both : t'.Sound ∧ t'.Unhooked s :=
    isRun.invariant (I := fun t => t.Sound ∧ t.Unhooked s)
      (fun h makes => ⟨sound_step h.1 makes, unhooked_step h.1 makes h.2⟩) goesOn
      ⟨sound_step (sound_run runs sound) makes, unhooked_of_close makes⟩
  exact both.2

/-- Whatever the threads call, and in whatever order they make their steps: a cause once set stays,
and a scope that has one has nothing linked below it from then on. Where no call is in progress, all
that hangs below a cancelled scope is cancelled, and a scope on which a close was called is linked
nowhere. -/
theorem keeps_cancellations {count : Nat} {now : τ} (runs : (start count now).run steps = some t) :
    (∀ later t' s cause, t.run later = some t' → t.forest.cause? s = some cause →
      t'.forest.cause? s = some cause ∧ t'.forest.children s = []) ∧
    (t.IsQuiet →
      (∀ a s, t.forest.Above a s → (t.forest.cause? a).isSome → (t.forest.cause? s).isSome) ∧
      ∀ i s, Step.call i (.close s) ∈ steps → ∀ p, s ∉ t.forest.children p) := by
  have sound := sound_run runs (sound_start count now)
  refine ⟨fun later t' s cause goesOn cancelled => ?_, fun quiet => ⟨?_, ?_⟩⟩
  · have stays := cause?_run goesOn cancelled
    exact ⟨stays, (sound_run goesOn sound).formed.children_of_cause stays⟩
  · intro a s above cancelled
    have settled : t.forest.Settled := sound.formed.mono (not_owed_of_isQuiet quiet)
    exact settled.cancelled_of_above above cancelled
  · intro i s closed
    rcases (unhooked_run runs (sound_start count now) closed).2 with ⟨j, place, here, detaches⟩ |
      unlinked
    · rw [quiet place (List.mem_of_getElem? here)] at detaches
      cases detaches
    · exact unlinked

end Clocked

/-- One thread makes a scope below the first while the other cancels that one: it is seen live, but
its cancel comes before the link. Then the new scope is closed. -/
def raced : List (Step Rat) :=
  [.call 0 (.child 0 none), .go 0, .go 0, .go 0, .call 1 (.cancel 0 .scopeCancelled), .claim 1 [],
    .go 0, .claim 0 [], .go 1, .go 0, .call 1 (.close 1), .claim 1 [], .go 1]

theorem raced_child_is_cancelled : ∃ t, (start 2 0).run raced = some t ∧
    (t.forest.cause? 1).isSome ∧ 1 ∉ t.forest.children 0 := by
  obtain ⟨t, runs⟩ : ∃ t, (start 2 0).run raced = some t := ⟨_, rfl⟩
  have ends : t.places = List.replicate 2 .idle ∧ t.forest.parent? 1 = some 0 ∧
      t.forest.cause? 0 = some .scopeCancelled := by
    cases runs
    exact ⟨rfl, rfl, rfl⟩
  have quiet : t.IsQuiet := fun place mem => List.eq_of_mem_replicate (ends.1 ▸ mem)
  have ⟨below, unlinked⟩ := (keeps_cancellations runs).2 quiet
  refine ⟨t, runs, below 0 1 (.ofParent ends.2.1 .self) (by rw [ends.2.2]; rfl), ?_⟩
  exact unlinked 1 1 (by simp [raced]) 0

end Checkup.Threads
