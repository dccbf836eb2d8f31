import Checkup.Yaml.Literal
import Mathlib.Algebra.Ring.Nat

/-!
The faults that reading a YAML text can raise of itself.

A text that is not well formed is called so (`Problem.malformed`). Besides, values can be written
that do not exist: a code point beyond the last plane, a number too long to be read, collections
nested too deep, a scalar whose text does not fit its tag. Their faults come out as they are
(`Stray`), and they are of few kinds, none of them the one for bad settings (`Stray.kind_mem`).

`Ends` says how a computation ends in both cases, and `Keeps` how a step of a reader with a state
does; every construct of a `do` block has one lemma.
-/

namespace Checkup.Yaml

/-! ### How a computation ends -/

section Ends

variable {ε α β : Type} {P : ε → Prop} {Q : α → Prop} {S : β → Prop}

/-- What a computation returns satisfies `Q`, and what it raises satisfies `P`. -/
inductive Ends (P : ε → Prop) (Q : α → Prop) : Except ε α → Prop
  | ok {a : α} (returned : Q a) : Ends P Q (.ok a)
  | error {e : ε} (raised : P e) : Ends P Q (.error e)

theorem Ends.raised {x : Except ε α} (hx : Ends P Q x) {e : ε} (raised : x = .error e) : P e := by
  subst raised
  cases hx with
  | error raised => exact raised

theorem Ends.returned {x : Except ε α} (hx : Ends P Q x) {a : α} (returned : x = .ok a) : Q a := by
  subst returned
  cases hx with
  | ok returned => exact returned

/-- A result is bound to a step that ends well from every value it may return. -/
theorem Ends.bind {x : Except ε α} {f : α → Except ε β} (hx : Ends P Q x)
    (hf : ∀ a, Q a → Ends P S (f a)) : Ends P S (x >>= f) := by
  cases hx with
  | ok returned => exact hf _ returned
  | error raised => exact .error raised

theorem Ends.ite {condition : Prop} [Decidable condition] {x y : Except ε α} (hx : Ends P Q x)
    (hy : Ends P Q y) : Ends P Q (if condition then x else y) := by
  split
  · exact hx
  · exact hy

/-- A result is mapped without raising anything else. -/
theorem Ends.map {x : Except ε α} {f : α → β} (hx : Ends P Q x) (hf : ∀ a, Q a → S (f a)) :
    Ends P S (x.map f) := by
  cases hx with
  | ok returned => exact .ok (hf _ returned)
  | error raised => exact .error raised

end Ends

/-! ### Steps with a state -/

section Keeps

variable {ε σ α β : Type} {P : ε → Prop} {I : σ → Prop}

/-- From states that satisfy `I` a step leads to such states, and what it raises satisfies `P`. -/
def Keeps (P : ε → Prop) (I : σ → Prop) (m : StateT σ (Except ε) α) : Prop :=
  ∀ s, I s → Ends P (fun r => I r.2) (m s)

theorem Keeps.pure (a : α) : Keeps P I (Pure.pure a : StateT σ (Except ε) α) :=
  fun _ held => .ok held

/-- Steps are bound, the invariant standing between them. -/
theorem Keeps.bind {m : StateT σ (Except ε) α} {f : α → StateT σ (Except ε) β}
    (hm : Keeps P I m) (hf : ∀ a, Keeps P I (f a)) : Keeps P I (m >>= f) :=
  fun s held => Ends.bind (hm s held) fun r held => hf r.1 r.2 held

theorem Keeps.get : Keeps P I (MonadState.get : StateT σ (Except ε) σ) :=
  fun _ held => .ok held

theorem Keeps.modify {f : σ → σ} (hf : ∀ s, I s → I (f s)) :
    Keeps P I (modify f : StateT σ (Except ε) PUnit) :=
  fun s held => .ok (hf s held)

theorem Keeps.throw {e : ε} (raised : P e) :
    Keeps P I (throw e : StateT σ (Except ε) α) :=
  fun _ _ => .error raised

theorem Keeps.throw_bind {e : ε} {f : α → StateT σ (Except ε) β} (raised : P e) :
    Keeps P I (MonadExcept.throw e >>= f) :=
  fun _ _ => .error raised

/-- A result without a state keeps any invariant. -/
theorem Keeps.lift {x : Except ε α} (hx : Ends P (fun _ => True) x) :
    Keeps P I (liftM x : StateT σ (Except ε) α) := by
  intro s held
  cases hx with
  | ok => exact .ok held
  | error raised => exact .error raised

/-- A step is made for each item, the invariant standing before each. -/
theorem Keeps.mapM {f : α → StateT σ (Except ε) β} {xs : List α} (hf : ∀ a, Keeps P I (f a)) :
    Keeps P I (xs.mapM f) := by
  induction xs with
  | nil => exact Keeps.pure []
  | cons a rest ih =>
      rw [List.mapM_cons]
      exact (hf a).bind fun _ => ih.bind fun _ => Keeps.pure _

theorem Keeps.forM {f : α → StateT σ (Except ε) PUnit} {xs : List α} (hf : ∀ a, Keeps P I (f a)) :
    Keeps P I (xs.forM f) := by
  induction xs with
  | nil => exact Keeps.pure ()
  | cons a rest ih => exact (hf a).bind fun _ => ih

theorem Keeps.foldlM {f : β → α → StateT σ (Except ε) β} {b : β} {xs : List α}
    (hf : ∀ b a, Keeps P I (f b a)) : Keeps P I (xs.foldlM f b) := by
  induction xs generalizing b with
  | nil => exact Keeps.pure b
  | cons a rest ih =>
      rw [List.foldlM_cons]
      exact (hf b a).bind fun _ => ih

theorem Keeps.findM? {f : α → StateT σ (Except ε) Bool} {xs : List α} (hf : ∀ a, Keeps P I (f a)) :
    Keeps P I (xs.findM? f) := by
  induction xs with
  | nil => exact Keeps.pure none
  | cons a rest ih =>
      rw [List.findM?]
      refine (hf a).bind fun found => ?_
      cases found with
      | true => exact Keeps.pure (some a)
      | false => exact ih

end Keeps

/-! ### Stray faults -/

/-- A text that its tag promises to be a value of some kind, and the fault of reading it as one. -/
inductive Literal.Refuses (text : Text.Points) : Fault → Prop
  | truth {f : Fault} (refused : Literal.truth text = .error f) : Refuses text f
  | int {f : Fault} (refused : Literal.int text = .error f) : Refuses text f
  | float {f : Fault} (refused : Literal.float text = .error f) : Refuses text f
  | stamp {f : Fault} (refused : Literal.stamp text = .error f) : Refuses text f

/-- The faults that come up where a text is well formed but has no value. -/
inductive Stray : Fault → Prop
  /-- An escape by a number that no character has. -/
  | codePoint {code : Nat} {f : Fault} (refused : codePoint code = .error (.fault f)) : Stray f
  /-- A version with too many digits. -/
  | tooLong {digits : Nat} (long : Value.maxDigits < digits) : Stray (.tooLongToRead digits)
  /-- Collections that are nested too deep, or a mapping that stands for itself. -/
  | tooDeep : Stray .tooDeep
  /-- A date whose text is that of a mapping. -/
  | noText : Stray (.because .typeError "expected string or bytes-like object, got 'list'")
  /-- A scalar whose text does not fit its tag. -/
  | literal {text : Text.Points} {f : Fault} (refused : Literal.Refuses text f) : Stray f

def strayKinds : List Kind :=
  [.valueError, .overflowError, .recursionError, .typeError, .keyError, .indexError,
    .attributeError]

theorem configError_not_mem_strayKinds : Kind.configError ∉ strayKinds := by decide

namespace Literal

/-- What a reading of a scalar raises is of a stray kind. -/
abbrev IsStray {α : Type} (x : Except Fault α) : Prop :=
  Ends (·.kind ∈ strayKinds) (fun _ => True) x

/-- If no reading of an item raises anything else, the reading of all of them does not. -/
theorem isStray_mapM {α β : Type} {f : α → Except Fault β} (hf : ∀ a, IsStray (f a))
    (xs : List α) : IsStray (xs.mapM f) := by
  induction xs with
  | nil => exact .ok trivial
  | cons a rest ih =>
      rw [List.mapM_cons]
      exact (hf a).bind fun _ _ => ih.bind fun _ _ => .ok trivial

/-- What the reading of a whole number raises is the limit on digits, or that it is none. -/
theorem isStray_whole (base : Nat) (text : Text.Points) : IsStray (whole base text) := by
  unfold whole
  dsimp only
  split
  · exact .error (by decide : Kind.valueError ∈ strayKinds)
  · split
    · exact .error (by decide : Kind.valueError ∈ strayKinds)
    · exact .ok trivial

theorem isStray_signed (text : Text.Points) : IsStray (signed text) := by
  unfold signed
  split
  · exact .error (by decide : Kind.indexError ∈ strayKinds)
  · split
    · exact .ok trivial
    · split <;> exact .ok trivial

theorem isStray_int (text : Text.Points) : IsStray (int text) := by
  unfold int
  refine (isStray_signed _).bind fun signed _ => ?_
  dsimp only
  split
  · exact .ok trivial
  · exact (isStray_whole 2 _).bind fun _ _ => .ok trivial
  · exact (isStray_whole 16 _).bind fun _ _ => .ok trivial
  · exact (isStray_whole 8 _).bind fun _ _ => .ok trivial
  · exact .error (by decide : Kind.indexError ∈ strayKinds)
  · split
    · exact (isStray_mapM (isStray_whole 10) _).bind fun _ _ => .ok trivial
    · exact (isStray_whole 10 _).bind fun _ _ => .ok trivial

theorem isStray_real (text : Text.Points) : IsStray (real text) := by
  unfold real
  split
  · exact .ok trivial
  · exact .error (by decide : Kind.valueError ∈ strayKinds)

theorem isStray_sixtiethsFrom (sum : Float) (base : Nat) (places : List Float) :
    IsStray (sixtiethsFrom sum base places) := by
  induction places generalizing sum base with
  | nil => exact .ok trivial
  | cons place rest ih =>
      rw [sixtiethsFrom]
      split
      · exact .error (by decide : Kind.overflowError ∈ strayKinds)
      · exact ih _ _

theorem isStray_float (text : Text.Points) : IsStray (float text) := by
  unfold float
  refine (isStray_signed _).bind fun signed _ => ?_
  dsimp only
  split
  · exact .ok trivial
  · split
    · exact .ok trivial
    · split
      · refine (isStray_mapM isStray_real _).bind fun parts _ => ?_
        exact (isStray_sixtiethsFrom _ _ _).bind fun _ _ => .ok trivial
      · exact (isStray_real _).bind fun _ _ => .ok trivial

/-- What is no word for true or false is a key that is not there. -/
theorem isStray_truth (text : Text.Points) : IsStray (truth text) := by
  unfold truth
  dsimp only
  split
  · exact .ok trivial
  · split
    · exact .ok trivial
    · exact .error (by decide : Kind.keyError ∈ strayKinds)

/-- The parts of a moment raise that one of them is out of its range. -/
theorem isStray_ofParts (year month day hour minute second microsecond : Int)
    (offset : Option Int) :
    IsStray (Moment.ofParts year month day hour minute second microsecond offset) := by
  unfold Moment.ofParts
  refine Ends.bind (Q := fun _ => True) ?_ fun _ _ => ?_
  · cases offset with
    | none => exact .ok trivial
    | some seconds =>
        show IsStray (Moment.checkOffset seconds)
        unfold Moment.checkOffset
        split
        · exact .ok trivial
        · exact .error (by decide : Kind.valueError ∈ strayKinds)
  · split
    · exact .error (by decide : Kind.valueError ∈ strayKinds)
    · exact .ok trivial

/-- What is no time stamp has no match, and a time stamp may not fit the calendar. -/
theorem isStray_stamp (text : Text.Points) : IsStray (stamp text) := by
  unfold stamp
  split
  · exact .error (by decide : Kind.attributeError ∈ strayKinds)
  · dsimp only
    split
    · split
      · exact .error (by decide : Kind.valueError ∈ strayKinds)
      · exact .ok trivial
    · exact (isStray_ofParts ..).map fun _ _ => trivial

/-- A text is refused with a fault of a stray kind. -/
theorem Refuses.kind_mem {text : Text.Points} {f : Fault} (refused : Refuses text f) :
    f.kind ∈ strayKinds := by
  cases refused with
  | truth refused => exact (isStray_truth text).raised refused
  | int refused => exact (isStray_int text).raised refused
  | float refused => exact (isStray_float text).raised refused
  | stamp refused => exact (isStray_stamp text).raised refused

end Literal

/-- A stray fault is of a stray kind. -/
theorem Stray.kind_mem {f : Fault} (stray : Stray f) : f.kind ∈ strayKinds := by
  cases stray with
  | @codePoint code f refused =>
      unfold Yaml.codePoint at refused
      split at refused
      · cases refused
      · split at refused
        · cases refused
          decide
        · cases refused
          decide
  | tooLong long => exact (by decide : Kind.valueError ∈ strayKinds)
  | tooDeep => exact (by decide : Kind.recursionError ∈ strayKinds)
  | noText => exact (by decide : Kind.typeError ∈ strayKinds)
  | literal refused => exact refused.kind_mem

/-- A stray fault is not the one for bad settings. -/
theorem Stray.kind_ne {f : Fault} (stray : Stray f) : f.kind ≠ .configError := by
  intro same
  exact configError_not_mem_strayKinds (same ▸ stray.kind_mem)

/-- What reading a text can raise that is cut by a problem, if by any. -/
inductive Raises (cut : Option Problem) : Problem → Prop
  | malformed : Raises cut .malformed
  | cut {p : Problem} (here : cut = some p) : Raises cut p
  | stray {f : Fault} (stray : Stray f) : Raises cut (.fault f)

end Checkup.Yaml
