import Checkup.Runner
import Mathlib.Data.List.Sort
import Mathlib.Data.String.Basic

/-!
Which mappings are settings.

A mapping gives settings when it has no keys but theirs, a whole number of workers of at least 1,
and a number for the deadline that is not 0 or below. Of all numbers only one that is not a number
is neither above 0 nor at most 0, and it is let through. Every refusal is a fault of the
configuration, unless its message would have to show a whole number that is too long to be written.
Neither the settings nor the text of a refusal depends on the order of the entries.

Main statements: `make_ok_iff`, `ofEntries_ok_iff` (what is admitted, and as which settings),
`shows_of_refused` (what a refusal shows), `toFault_eq_of_perm` and `ofValue_settles`.
-/

namespace Checkup

/-! ### Numbers above 0 -/

namespace Decimal

open Float.Model (UnpackedFloat Format)

/-- The number is read as not a number where it is none. -/
theorem magnitude_eq_notANumber_iff (x : Float) :
    (parts x).magnitude = .notANumber ↔ x.isNaN = true := by
  let bits : BitVec Format.binary64.numBits := x.toBits.toBitVec
  have exponent : x.toBits.toNat / pow2 52 % 2048 = 2047 ↔
      UnpackedFloat.unpackExponent bits = -1#_ := by
    have scale : (UnpackedFloat.unpackExponent bits).toNat = x.toBits.toNat / pow2 52 % 2048 := by
      simp [UnpackedFloat.unpackExponent, bits, Nat.shiftRight_eq_div_pow]
    rw [← BitVec.toNat_inj, scale]
    rfl
  have mantissa : x.toBits.toNat % pow2 52 = 0 ↔ UnpackedFloat.unpackMantissa bits = 0#_ := by
    rw [← BitVec.toNat_inj]
    simp [UnpackedFloat.unpackMantissa, bits]
  show _ ↔ (UnpackedFloat.unpack _ bits).isNaN = true
  unfold parts UnpackedFloat.unpack
  dsimp only
  by_cases top : UnpackedFloat.unpackExponent bits = -1#_
  · rw [if_pos top, if_pos (exponent.mpr top)]
    by_cases empty : UnpackedFloat.unpackMantissa bits = 0#_
    · rw [if_pos empty, if_pos (mantissa.mpr empty)]
      exact iff_of_false (by rintro ⟨⟩) Bool.false_ne_true
    · rw [if_neg empty, if_neg (mt mantissa.mp empty)]
      exact iff_of_true rfl rfl
  · rw [if_neg top, if_neg (mt exponent.mp top)]
    refine iff_of_false ?_ ?_
    · split <;> rintro ⟨⟩
    · by_cases least : UnpackedFloat.unpackExponent bits = 0#_
      · rw [if_pos least]
        by_cases empty : UnpackedFloat.unpackMantissa bits = 0#_
        · rw [dif_pos empty]
          exact Bool.false_ne_true
        · rw [dif_neg empty]
          exact Bool.false_ne_true
      · rw [if_neg least]
        exact Bool.false_ne_true

end Decimal

namespace Value

def Number.IsNaN : Number → Prop
  | .whole _ => False
  | .real x => x.isNaN = true

/-- What is not at most 0 is above 0, or no number. -/
theorem Number.le_zero_eq_false_iff (t : Number) :
    t.le (.whole 0) = false ↔ Number.lt (.whole 0) t = true ∨ t.IsNaN := by
  cases t with
  | whole n =>
      simp only [le, lt, same, IsNaN, or_false, Bool.or_eq_false_iff, decide_eq_false_iff_not,
        beq_eq_false_iff_ne, decide_eq_true_eq]
      omega
  | real x =>
      simp only [le, lt, same, IsNaN, ← Decimal.magnitude_eq_notANumber_iff, Decimal.ltInt,
        Decimal.eqInt, Decimal.intLt]
      rcases Decimal.parts x with ⟨negative, _ | _ | _⟩
      · cases negative <;> simp
      · cases negative <;> simp
      · simp

/-! ### Keys -/

variable {entries entries' : List (Value × Value)} {key : String} {v v' : Value}

def Distinct (entries : List (Value × Value)) : Prop :=
  entries.Pairwise fun a b => sameKey a.1 b.1 = false

theorem sameKey_str_iff {k : Value} : sameKey k (.str key) = true ↔ k = .str key := by
  cases k <;> simp [sameKey, number?]

theorem Distinct.unique (distinct : Distinct entries) (mem : (.str key, v) ∈ entries)
    (mem' : (.str key, v') ∈ entries) : v = v' := by
  induction entries with
  | nil => cases mem
  | cons first rest ih =>
      obtain ⟨apart, others⟩ := List.pairwise_cons.mp distinct
      have alone (u : Value) : (.str key, u) ∈ rest → first.1 ≠ .str key := by
        intro later same
        exact Bool.false_ne_true ((apart _ later).symm.trans (sameKey_str_iff.mpr same))
      rcases List.mem_cons.mp mem with rfl | later <;>
        rcases List.mem_cons.mp mem' with here | later'
      · exact (congrArg Prod.snd here).symm
      · exact absurd rfl (alone v' later')
      · exact absurd (congrArg Prod.fst here).symm (alone v later)
      · exact ih others later later'

theorem mem_of_lookup? (found : lookup? key entries = some v) : (.str key, v) ∈ entries := by
  obtain ⟨⟨k, u⟩, stands, rfl⟩ := Option.map_eq_some_iff.mp found
  have is := List.find?_some stands
  have same : k = .str key := sameKey_str_iff.mp is
  exact same ▸ List.mem_of_find?_eq_some stands

/-- Where no key comes twice, a setting is looked up if and only if it is there. -/
theorem lookup?_eq_some_iff (distinct : Distinct entries) :
    lookup? key entries = some v ↔ (.str key, v) ∈ entries := by
  constructor
  · exact mem_of_lookup?
  · intro mem
    have stands : (entries.find? fun entry => sameKey entry.1 (.str key)).isSome :=
      List.find?_isSome.mpr ⟨_, mem, sameKey_str_iff.mpr rfl⟩
    obtain ⟨⟨k, u⟩, found⟩ := Option.isSome_iff_exists.mp stands
    have is := List.find?_some found
    have same : k = .str key := sameKey_str_iff.mp is
    have mem' := List.mem_of_find?_eq_some found
    rw [same] at mem'
    rw [lookup?, found, distinct.unique mem mem', Option.map_some]

theorem lookup?_eq_none_iff : lookup? key entries = Option.none ↔ ∀ v, (.str key, v) ∉ entries := by
  rw [lookup?, Option.map_eq_none_iff, List.find?_eq_none]
  constructor
  · intro apart v mem
    exact apart _ mem (sameKey_str_iff.mpr rfl)
  · rintro apart ⟨k, v⟩ mem same
    exact apart v (sameKey_str_iff.mp same ▸ mem)

/-- What is taken for a key: what stands under it, or where nothing does what is put in place. -/
theorem lookup?_getD_eq_iff (distinct : Distinct entries) {instead : Value} :
    (lookup? key entries).getD instead = v ↔
      (.str key, v) ∈ entries ∨ (∀ u, (.str key, u) ∉ entries) ∧ instead = v := by
  rw [← lookup?_eq_some_iff distinct, ← lookup?_eq_none_iff]
  cases lookup? key entries <;> simp

/-- What stands under a key does not depend on the order of the entries. -/
theorem lookup?_eq_of_perm (distinct : Distinct entries) (distinct' : Distinct entries')
    (perm : entries'.Perm entries) : lookup? key entries' = lookup? key entries := by
  apply Option.ext
  intro v
  rw [lookup?_eq_some_iff distinct, lookup?_eq_some_iff distinct', perm.mem_iff]

/-! ### What can be written -/

theorem areEntriesWritable_iff : areEntriesWritable entries = true ↔
    ∀ entry ∈ entries, isWritable entry.1 = true ∧ isWritable entry.2 = true := by
  induction entries with
  | nil => simp [areEntriesWritable]
  | cons entry rest ih => simp [areEntriesWritable, ih, and_assoc]

end Value

/-- Sorted texts do not tell the order that they came in. -/
theorem Text.sorted_eq_of_perm {xs ys : List String} (perm : xs.Perm ys) :
    sorted xs = sorted ys := by
  have le_iff (a b : String) : ascending a b = true ↔ a ≤ b := by
    rw [ascending, Bool.not_eq_true', decide_eq_false_iff_not, not_lt]
  have trans (a b c : String) : ascending a b → ascending b c → ascending a c := by
    simp only [le_iff]
    exact le_trans
  have total (a b : String) : ascending a b || ascending b a := by
    simp only [Bool.or_eq_true, le_iff]
    exact le_total a b
  have same : (sorted xs).Perm (sorted ys) :=
    ((List.mergeSort_perm xs _).trans perm).trans (List.mergeSort_perm ys _).symm
  refine same.eq_of_pairwise (fun a b _ _ below above => ?_)
    (List.pairwise_mergeSort trans total xs) (List.pairwise_mergeSort trans total ys)
  exact le_antisymm ((le_iff a b).mp below) ((le_iff b a).mp above)

namespace Config

variable {workers timeout : Value} {entries entries' : List (Value × Value)} {c : Config}
  {issue : ConfigIssue}

/-! ### Single settings -/

/-- A count of workers is accepted if it is a whole number from one on. -/
theorem checkWorkers_ok_iff {given : Value} {n : Int} :
    checkWorkers given = .ok n ↔ given = .int n ∧ 1 ≤ n := by
  cases given with
  | int m =>
      by_cases few : m < 1
      · simp only [checkWorkers, if_pos few, Value.int.injEq, reduceCtorEq, false_iff]
        rintro ⟨rfl, enough⟩
        exact Int.not_lt.mpr enough few
      · simp only [checkWorkers, if_neg few, Except.ok.injEq, Value.int.injEq]
        constructor
        · rintro rfl
          exact ⟨rfl, Int.not_lt.mp few⟩
        · exact And.left
  | _ => simp [checkWorkers]

/-- A timeout is accepted if it is a number that is not at most zero. -/
theorem checkTimeout_ok_iff {given : Value} {t : Value.Number} :
    checkTimeout given = .ok t ↔ given = numberValue t ∧ t.le (.whole 0) = false := by
  have positive (given : Value) (seconds : Value.Number) :
      checkTimeout.positive given seconds = .ok t ↔ seconds = t ∧ t.le (.whole 0) = false := by
    unfold checkTimeout.positive
    split
    · simp only [reduceCtorEq, false_iff]
      rintro ⟨rfl, above⟩
      exact absurd ‹_› (Bool.eq_false_iff.mp above)
    · simp only [Except.ok.injEq]
      constructor
      · rintro rfl
        exact ⟨rfl, Bool.eq_false_iff.mpr ‹_›⟩
      · exact And.left
  cases given with
  | int n => cases t <;> simp [checkTimeout, positive, numberValue]
  | float x => cases t <;> simp [checkTimeout, positive, numberValue]
  | _ => cases t <;> simp [checkTimeout, numberValue]

/-- The settings that are valid, and what comes of them. -/
theorem make_ok_iff : make workers timeout = .ok c ↔
    (workers = .int c.maxWorkers ∧ 1 ≤ c.maxWorkers) ∧
      timeout = numberValue c.timeout ∧ c.timeout.le (.whole 0) = false := by
  rw [← checkWorkers_ok_iff, ← checkTimeout_ok_iff]
  unfold make
  cases checkWorkers workers with
  | error issue => simp [bind, Except.bind]
  | ok n =>
      cases checkTimeout timeout with
      | error issue => simp [bind, Except.bind]
      | ok seconds =>
          obtain ⟨m, t⟩ := c
          simp [bind, Except.bind, pure, Except.pure]

theorem shows_of_checkWorkers {given : Value} (refused : checkWorkers given = .error issue) :
    issue.shows = [given] := by
  cases given with
  | int n =>
      rw [checkWorkers] at refused
      split at refused <;> cases refused
      rfl
  | _ => cases refused; rfl

theorem shows_of_checkTimeout {given : Value} (refused : checkTimeout given = .error issue) :
    issue.shows = [given] := by
  have positive (seconds : Value.Number)
      (refused : checkTimeout.positive given seconds = .error issue) : issue.shows = [given] := by
    rw [checkTimeout.positive] at refused
    split at refused <;> cases refused
    rfl
  cases given with
  | int n => exact positive _ refused
  | float x => exact positive _ refused
  | _ => cases refused; rfl

/-- The count of workers is looked at first. -/
theorem refused_of_make (refused : make workers timeout = .error issue) :
    checkWorkers workers = .error issue ∨ checkTimeout timeout = .error issue := by
  unfold make at refused
  cases checked : checkWorkers workers with
  | error other =>
      rw [checked] at refused
      cases refused
      exact .inl rfl
  | ok n =>
      cases checked' : checkTimeout timeout with
      | error other =>
          rw [checked, checked'] at refused
          cases refused
          exact .inr rfl
      | ok seconds =>
          rw [checked, checked'] at refused
          cases refused

/-! ### Entries -/

theorem isKnown_iff {k : Value} :
    isKnown k = true ↔ k = .str workersKey ∨ k = .str timeoutKey := by
  cases k <;> simp [isKnown]

/-- No key is unknown if each is the name of a setting. -/
theorem unknownKeys_eq_nil_iff : unknownKeys entries = [] ↔
    ∀ entry ∈ entries, entry.1 = .str workersKey ∨ entry.1 = .str timeoutKey := by
  simp [unknownKeys, List.filter_eq_nil_iff, isKnown_iff]

/-- The settings that the entries of a mapping give, the default for each that is missing. -/
structure Gives (entries : List (Value × Value)) (c : Config) : Prop where
  known : ∀ entry ∈ entries, entry.1 = .str workersKey ∨ entry.1 = .str timeoutKey
  workers : (.str workersKey, .int c.maxWorkers) ∈ entries ∨
    (∀ v, (.str workersKey, v) ∉ entries) ∧ c.maxWorkers = default.maxWorkers
  timeout : (.str timeoutKey, numberValue c.timeout) ∈ entries ∨
    (∀ v, (.str timeoutKey, v) ∉ entries) ∧ c.timeout = default.timeout
  enough : 1 ≤ c.maxWorkers
  above : c.timeout.le (.whole 0) = false

theorem numberValue_inj {s t : Value.Number} : numberValue s = numberValue t ↔ s = t := by
  cases s <;> cases t <;> simp [numberValue]

/-- Settings are made from entries that give them, and from no others. -/
theorem ofEntries_ok_iff (distinct : Value.Distinct entries) :
    ofEntries entries = .ok c ↔ Gives entries c := by
  have unfolded : ofEntries entries = .ok c ↔ unknownKeys entries = [] ∧
      ofSettings (Value.lookup? workersKey entries) (Value.lookup? timeoutKey entries) = .ok c := by
    unfold ofEntries
    cases unknownKeys entries <;> simp
  rw [unfolded, ofSettings, make_ok_iff, unknownKeys_eq_nil_iff,
    Value.lookup?_getD_eq_iff distinct, Value.lookup?_getD_eq_iff distinct, Value.int.injEq,
    numberValue_inj, eq_comm (a := default.maxWorkers), eq_comm (a := default.timeout)]
  constructor
  · rintro ⟨known, ⟨workers, enough⟩, timeout, above⟩
    exact ⟨known, workers, timeout, enough, above⟩
  · rintro ⟨known, workers, timeout, enough, above⟩
    exact ⟨known, ⟨workers, enough⟩, timeout, above⟩

/-- The entries of a mapping that is let through as settings. -/
structure Admitted (entries : List (Value × Value)) : Prop where
  known : ∀ entry ∈ entries, entry.1 = .str workersKey ∨ entry.1 = .str timeoutKey
  workers : ∀ v, (.str workersKey, v) ∈ entries → ∃ n : Int, v = .int n ∧ 1 ≤ n
  timeout : ∀ v, (.str timeoutKey, v) ∈ entries →
    ∃ t, v = numberValue t ∧ (Value.Number.lt (.whole 0) t = true ∨ t.IsNaN)

theorem above_default : default.timeout.le (.whole 0) = false := by decide +kernel

/-- Entries give settings if and only if they are admitted. -/
theorem exists_gives_iff (distinct : Value.Distinct entries) :
    (∃ c, Gives entries c) ↔ Admitted entries := by
  constructor
  · rintro ⟨c, known, workers, timeout, enough, above⟩
    refine ⟨known, fun v mem => ?_, fun v mem => ?_⟩
    · rcases workers with stands | ⟨absent, -⟩
      · exact ⟨_, distinct.unique mem stands, enough⟩
      · exact absurd mem (absent v)
    · rcases timeout with stands | ⟨absent, -⟩
      · exact ⟨_, distinct.unique mem stands, (Value.Number.le_zero_eq_false_iff _).mp above⟩
      · exact absurd mem (absent v)
  · rintro ⟨known, workers, timeout⟩
    have count : ∃ n : Int, ((.str workersKey, .int n) ∈ entries ∨
        (∀ v, (.str workersKey, v) ∉ entries) ∧ n = default.maxWorkers) ∧ 1 ≤ n := by
      by_cases given : ∃ v, (.str workersKey, v) ∈ entries
      · obtain ⟨v, stands⟩ := given
        obtain ⟨n, rfl, enough⟩ := workers v stands
        exact ⟨n, .inl stands, enough⟩
      · exact ⟨_, .inr ⟨not_exists.mp given, rfl⟩, by decide⟩
    have deadline : ∃ t, ((.str timeoutKey, numberValue t) ∈ entries ∨
        (∀ v, (.str timeoutKey, v) ∉ entries) ∧ t = default.timeout) ∧
          t.le (.whole 0) = false := by
      by_cases given : ∃ v, (.str timeoutKey, v) ∈ entries
      · obtain ⟨v, stands⟩ := given
        obtain ⟨t, rfl, above⟩ := timeout v stands
        exact ⟨t, .inl stands, (Value.Number.le_zero_eq_false_iff t).mpr above⟩
      · exact ⟨_, .inr ⟨not_exists.mp given, rfl⟩, above_default⟩
    obtain ⟨n, workers, enough⟩ := count
    obtain ⟨t, timeout, above⟩ := deadline
    exact ⟨⟨n, t⟩, known, workers, timeout, enough, above⟩

/-! ### Refusals -/

/-- A refusal shows keys and values of the entries only. -/
theorem shows_of_refused (refused : ofEntries entries = .error issue) {v : Value}
    (shown : v ∈ issue.shows) : ∃ entry ∈ entries, v = entry.1 ∨ v = entry.2 := by
  have stands {key : String} {instead : Value} (other : v ≠ instead)
      (taken : v = (Value.lookup? key entries).getD instead) :
      ∃ entry ∈ entries, v = entry.1 ∨ v = entry.2 := by
    cases found : Value.lookup? key entries with
    | none =>
        rw [found] at taken
        exact absurd taken other
    | some u =>
        rw [found] at taken
        exact ⟨_, Value.mem_of_lookup? found, .inr taken⟩
  unfold ofEntries at refused
  split at refused
  · rcases refused_of_make refused with few | short
    · rw [shows_of_checkWorkers few, List.mem_singleton] at shown
      refine stands ?_ shown
      rintro rfl
      rw [← shown] at few
      cases few
    · rw [shows_of_checkTimeout short, List.mem_singleton] at shown
      refine stands ?_ shown
      rintro rfl
      rw [← shown, checkTimeout_ok_iff.mpr ⟨rfl, above_default⟩] at short
      cases short
  · cases refused
    obtain ⟨entry, mem, rfl⟩ := List.mem_map.mp (List.mem_of_mem_filter shown)
    exact ⟨entry, mem, .inl rfl⟩

end Config

namespace ConfigIssue

/-- The fault of an issue is one of configurations, unless what it shows cannot be written. -/
theorem toFault_cases (issue : ConfigIssue) : issue.toFault.kind = .configError ∨
    issue.toFault = .tooLongToWrite ∧ ∃ v ∈ issue.shows, v.isWritable = false := by
  unfold toFault
  split
  · exact .inl rfl
  · rename_i unwritable
    rw [Bool.not_eq_true, List.all_eq_false] at unwritable
    obtain ⟨v, shown, unwritable⟩ := unwritable
    exact .inr ⟨rfl, v, shown, Bool.eq_false_iff.mpr unwritable⟩

/-- Unknown keys are told in one order, whatever order they came in. -/
theorem toFault_eq_of_perm {keys keys' : List Value} (perm : keys'.Perm keys) :
    (unknownKeys keys').toFault = (unknownKeys keys).toFault := by
  have writable : (unknownKeys keys').shows.all Value.isWritable =
      (unknownKeys keys).shows.all Value.isWritable := perm.all_eq
  have texts : Text.sorted (keys'.map Value.text) = Text.sorted (keys.map Value.text) :=
    Text.sorted_eq_of_perm (perm.map Value.text)
  have message : (unknownKeys keys').message = (unknownKeys keys).message := by
    unfold ConfigIssue.message
    dsimp only
    rw [texts]
  rw [toFault, toFault, writable, message]

end ConfigIssue

namespace Config

variable {entries entries' : List (Value × Value)} {c : Config} {given : Value} {σ : Type}

theorem unknownKeys_perm (perm : entries'.Perm entries) :
    (unknownKeys entries').Perm (unknownKeys entries) :=
  (perm.map Prod.fst).filter _

/-- The order of the entries does not matter to the fault, or to the settings. -/
theorem mapError_ofEntries_eq_of_perm (distinct : Value.Distinct entries)
    (distinct' : Value.Distinct entries') (perm : entries'.Perm entries) :
    (ofEntries entries').mapError ConfigIssue.toFault =
      (ofEntries entries).mapError ConfigIssue.toFault := by
  have keys := unknownKeys_perm perm
  unfold ofEntries
  cases unknown : unknownKeys entries with
  | nil =>
      rw [unknown] at keys
      rw [keys.eq_nil, Value.lookup?_eq_of_perm distinct distinct' perm,
        Value.lookup?_eq_of_perm distinct distinct' perm]
  | cons key rest =>
      rw [unknown] at keys
      cases unknown' : unknownKeys entries' with
      | nil =>
          rw [unknown'] at keys
          exact absurd keys.symm.eq_nil (List.cons_ne_nil key rest)
      | cons key' rest' =>
          rw [unknown'] at keys
          exact congrArg Except.error (ConfigIssue.toFault_eq_of_perm keys)

theorem ofValue_eq (mapping : given.entries? = some entries) :
    ofValue given = (ofEntries entries).mapError ConfigIssue.toFault := by
  rw [ofValue, mapping]

end Config

/-- A runner is made of any valid settings. -/
theorem Runner.ofConfig_of_valid {workers timeout : Value} {c : Config}
    (valid : Config.make workers timeout = .ok c) (ids : IdSource)
    (stamp : Float → Except Fault σ) : Runner.ofConfig c ids stamp =
      .ok { workers := .int c.maxWorkers, timeout := .ofValue (Config.numberValue c.timeout), ids
            stamp } := by
  obtain ⟨⟨-, enough⟩, -, above⟩ := Config.make_ok_iff.mp valid
  have few : compareInt "<" Value.Number.lt (.int c.maxWorkers) 1 = .ok false :=
    congrArg Except.ok (decide_eq_false (Int.not_lt.mpr enough))
  have short : compareInt "<=" Value.Number.le (Config.numberValue c.timeout) 0 = .ok false := by
    rw [← above]
    cases c.timeout <;> rfl
  simp [ofConfig, make, validate, few, short, bind, Except.bind, pure, Except.pure]

/-- A number of seconds is the value that it was given as. -/
theorem Span.toValue_ofValue (t : Value.Number) :
    (Span.ofValue (Config.numberValue t)).toValue = Config.numberValue t := by
  cases t <;> rfl

namespace Config

/-- Settings are among the entries that they are written as. -/
theorem gives_toEntries (enough : 1 ≤ c.maxWorkers) (above : c.timeout.le (.whole 0) = false) :
    Gives c.toEntries c where
  known entry mem := by
    rcases List.mem_pair.mp mem with rfl | rfl
    · exact .inl rfl
    · exact .inr rfl
  workers := .inl List.mem_cons_self
  timeout := .inl (List.mem_cons_of_mem _ List.mem_cons_self)
  enough := enough
  above := above

/-- Settings have no key twice. -/
theorem distinct_toEntries (c : Config) : Value.Distinct c.toEntries := by
  have apart : Value.sameKey (.str workersKey) (.str timeoutKey) = false := by decide
  exact List.pairwise_pair.mpr apart

/-- What a mapping comes to as settings. It is let through exactly if it has no keys but theirs, a
whole number of workers of at least 1, and for the deadline a number that is above 0 or is none; any
other is refused with a fault of the configuration, unless the fault would have to show a whole
number that is too long to be written. The order of the entries plays no part. What is let through
has the values given and the defaults for the others; a runner is made of it with these values, and
written as a mapping it is read back. -/
theorem ofValue_settles (mapping : given.entries? = some entries)
    (distinct : Value.Distinct entries) :
    ((∃ c, ofValue given = .ok c) ↔ Admitted entries) ∧
      (∀ f, ofValue given = .error f → f.kind = .configError ∨
        f = .tooLongToWrite ∧ Value.areEntriesWritable entries = false) ∧
      (∀ other entries', other.entries? = some entries' → Value.Distinct entries' →
        entries'.Perm entries → ofValue other = ofValue given) ∧
      ∀ c, ofValue given = .ok c → Gives entries c ∧
        (∀ {σ : Type} (ids : IdSource) (stamp : Float → Except Fault σ),
          ∃ r, Runner.ofConfig c ids stamp = .ok r ∧ r.workers = .int c.maxWorkers ∧
            r.timeout.toValue = numberValue c.timeout) ∧
        ofValue c.toValue = .ok c := by
  have ok_iff (given : Value) {entries : List (Value × Value)} (c : Config)
      (mapping : given.entries? = some entries) (distinct : Value.Distinct entries) :
      ofValue given = .ok c ↔ Gives entries c := by
    rw [ofValue_eq mapping, ← ofEntries_ok_iff distinct]
    cases ofEntries entries <;> simp [Except.mapError]
  refine ⟨?_, ?_, ?_, ?_⟩
  · rw [← exists_gives_iff distinct]
    exact exists_congr fun c => ok_iff given c mapping distinct
  · intro f refused
    rw [ofValue_eq mapping] at refused
    cases made : ofEntries entries with
    | ok c =>
        rw [made] at refused
        cases refused
    | error issue =>
        rw [made] at refused
        cases refused
        rcases issue.toFault_cases with kind | ⟨tooLong, v, shown, unwritable⟩
        · exact .inl kind
        · obtain ⟨entry, mem, part⟩ := shows_of_refused made shown
          refine .inr ⟨tooLong, Bool.eq_false_iff.mpr fun all => ?_⟩
          have parts := Value.areEntriesWritable_iff.mp all entry mem
          rcases part with rfl | rfl
          · exact Bool.false_ne_true (unwritable.symm.trans parts.1)
          · exact Bool.false_ne_true (unwritable.symm.trans parts.2)
  · intro other entries' mapping' distinct' perm
    rw [ofValue_eq mapping', ofValue_eq mapping,
      mapError_ofEntries_eq_of_perm distinct distinct' perm]
  · intro c admitted
    have gives := (ok_iff given c mapping distinct).mp admitted
    have valid : make (.int c.maxWorkers) (numberValue c.timeout) = .ok c :=
      make_ok_iff.mpr ⟨⟨rfl, gives.enough⟩, rfl, gives.above⟩
    refine ⟨gives, ?_, ?_⟩
    · intro σ ids stamp
      exact ⟨_, Runner.ofConfig_of_valid valid ids stamp, rfl, Span.toValue_ofValue c.timeout⟩
    · exact (ok_iff c.toValue c rfl (distinct_toEntries c)).mpr
        (gives_toEntries gives.enough gives.above)

/-- Settings without a deadline to speak of. -/
def patient : Config := { maxWorkers := 3, timeout := .real (Float.ofBits 0x7ff0000000000000) }

theorem patient_is_admitted_either_way :
    (Value.view patient.toEntries).entries? = some patient.toEntries ∧
      Value.Distinct patient.toEntries ∧ ofValue (.view patient.toEntries) = .ok patient ∧
      ofValue (.mapping patient.toEntries.reverse) = .ok patient := by
  have mapping : (Value.view patient.toEntries).entries? = some patient.toEntries := rfl
  have distinct := distinct_toEntries patient
  have distinct' : Value.Distinct patient.toEntries.reverse := List.pairwise_pair.mpr (by decide)
  have admitted : ofValue (.view patient.toEntries) = .ok patient := rfl
  obtain ⟨-, -, order, -⟩ := ofValue_settles mapping distinct
  have reversed := order (.mapping patient.toEntries.reverse) _ rfl distinct'
    (List.reverse_perm patient.toEntries)
  exact ⟨mapping, distinct, admitted, reversed.trans admitted⟩

/-- A deadline that is not a number is let through, though it is not above 0. -/
theorem notANumber_is_admitted :
    let notANumber := Float.ofBits 0x7ff8000000000000
    ofValue (.mapping [(.str timeoutKey, .float notANumber)]) =
        .ok { default with timeout := .real notANumber } ∧
      Value.Number.lt (.whole 0) (.real notANumber) = false :=
  ⟨rfl, rfl⟩

end Config

end Checkup
