import Checkup.Detail
import Mathlib.Data.List.Lex

/-!
Which values serve as details, and what becomes of them.

A value is a tree of places: a sequence has its items as parts, a mapping the key and the value of
one entry after the other, and a key has none. A place has a name, spelled as it is reached, and
tells by itself whether it is refused: a key that is not text, or a value that is neither text, a
number nor a truth value and is no mapping or sequence. An address leads to a place part by part;
the order of addresses as sequences of numbers is the order in which a reader meets the places who
goes from left to right and all the way into one part before turning to the next.

Main statements: `copy_settles` (the copy fails with the issue of the first refused place; without
one it is the value with plain mappings and lists), `normalize_error_iff` and `normalize_ok_iff`
(the same for all that a check may return) and `normalize_of_normalize` (details are their own
copy), put together in `normalize_settles`.
-/

namespace Checkup

namespace Value

def items? : Value → Option (List Value)
  | .list items | .tuple items => some items
  | _ => Option.none

def isText : Value → Bool
  | .str _ | .ragged _ => true
  | _ => false

def isScalar : Value → Bool
  | .str _ | .ragged _ | .int _ | .float _ | .bool _ => true
  | _ => false

end Value

namespace Detail

/-! ### Places -/

/-- A place in a value: a key of the mapping named `path`, or the value named `path`. -/
inductive Place where
  | key (path : String) (k : Value)
  | value (path : String) (v : Value)
  deriving Repr

/-- The items of the sequence named `path`, from the one with a given index on. -/
def itemPlaces (path : String) (index : Nat) (items : List Value) : List Place :=
  (items.zipIdx index).map fun (item, i) => .value (itemPath path i) item

/-- The keys and values of the mapping named `path`, every key right before its own value. -/
def entryPlaces (path : String) (entries : List (Value × Value)) : List Place :=
  entries.flatMap fun (key, value) => [.key path key, .value (entryPath path key.text) value]

namespace Place

/-- The parts of what stands at a place. -/
def parts : Place → List Place
  | .value path (.list items) | .value path (.tuple items) => itemPlaces path 0 items
  | .value path (.mapping entries) | .value path (.view entries) => entryPlaces path entries
  | _ => []

/-- The place that an address leads to. -/
def at? (place : Place) : List Nat → Option Place
  | [] => some place
  | index :: rest => place.parts[index]?.bind fun part => part.at? rest

/-- Why a place is refused, if it is. -/
def issue? : Place → Option DetailIssue
  | .key path k => if k.isText then none else some (.keyNotText k path)
  | .value path v =>
    if v.isScalar || v.items?.isSome || v.entries?.isSome then none
    else some (.unsupported v.typeName path)

/-- Neither a place nor anything in it is refused. -/
def IsClean (place : Place) : Prop :=
  ∀ address inner, place.at? address = some inner → inner.issue? = none

/-- The first that is refused of a place and all places in it is refused for this issue. -/
def FirstRefused (place : Place) (issue : DetailIssue) : Prop :=
  ∃ address inner, place.at? address = some inner ∧ inner.issue? = some issue ∧
    ∀ earlier other, earlier < address → place.at? earlier = some other → other.issue? = none

end Place

/-! ### What is copied -/

mutual

/-- A value with plain mappings for mappings of either kind and lists for sequences of either
kind. -/
def plain : Value → Value
  | .mapping entries | .view entries => .mapping (plainEntries entries)
  | .list items | .tuple items => .list (plainItems items)
  | other => other

def plainItems : List Value → List Value
  | [] => []
  | item :: rest => plain item :: plainItems rest

def plainEntries : List (Value × Value) → List (Value × Value)
  | [] => []
  | (key, value) :: rest => (key, plain value) :: plainEntries rest

end

theorem plainEntries_eq (entries : List (Value × Value)) :
    plainEntries entries = entries.map fun entry => (entry.1, plain entry.2) := by
  induction entries with
  | nil => rfl
  | cons entry rest ih => rw [plainEntries, ih, List.map_cons]

theorem plain_of_entries? {v : Value} {entries : List (Value × Value)}
    (mapping : v.entries? = some entries) : plain v = .mapping (plainEntries entries) := by
  cases v <;> cases mapping <;> rw [plain]

/-! ### What is clean, and what is refused first -/

namespace Place

variable {place part : Place} {parts : List Place} {issue : DetailIssue}

/-- Of a place one thing at most is the first refused. -/
theorem FirstRefused.unique {other : DetailIssue} (first : place.FirstRefused issue)
    (second : place.FirstRefused other) : issue = other := by
  obtain ⟨a, p, atA, refusedA, beforeA⟩ := first
  obtain ⟨b, q, atB, refusedB, beforeB⟩ := second
  obtain less | rfl | more := lt_trichotomy a b
  · exact absurd (beforeB a p less atA) (by rw [refusedA]; nofun)
  · cases atA.symm.trans atB
    exact Option.some.inj (refusedA.symm.trans refusedB)
  · exact absurd (beforeA b q more atB) (by rw [refusedB]; nofun)

/-- A place with something refused in it is not clean. -/
theorem FirstRefused.not_isClean (first : place.FirstRefused issue) : ¬ place.IsClean := by
  intro clean
  obtain ⟨address, inner, found, refused, -⟩ := first
  exact absurd (clean address inner found) (by rw [refused]; nofun)

/-- A place that is refused for itself is the first refused of all in it. -/
theorem firstRefused_self (refused : place.issue? = some issue) : place.FirstRefused issue :=
  ⟨[], place, rfl, refused, fun earlier _ before => absurd before (List.not_lt_nil earlier)⟩

/-- A place is clean when it is not refused for itself and its parts are clean. -/
theorem isClean_of_parts (fine : place.issue? = none) (each : ∀ part ∈ place.parts, part.IsClean) :
    place.IsClean := by
  intro address inner found
  cases address with
  | nil =>
    cases found
    exact fine
  | cons index rest =>
    obtain ⟨part, held, inside⟩ := Option.bind_eq_some_iff.mp found
    exact each part (List.mem_of_getElem? held) rest inner inside

/-- The first refused of these places and all places in them is refused for this issue: it is in one
of them, and those in front are clean. -/
inductive FirstAmong (issue : DetailIssue) : List Place → Prop where
  | head {place : Place} {rest : List Place} (first : place.FirstRefused issue) :
    FirstAmong issue (place :: rest)
  | later {place : Place} {rest : List Place} (clean : place.IsClean)
    (among : FirstAmong issue rest) : FirstAmong issue (place :: rest)

theorem FirstAmong.append {front : List Place} (among : FirstAmong issue front)
    (back : List Place) : FirstAmong issue (front ++ back) := by
  induction among with
  | head first => exact .head first
  | later clean _ ih => exact .later clean ih

/-- What is refused behind clean places is the first that is. -/
theorem FirstAmong.after_clean {front back : List Place} (clean : ∀ place ∈ front, place.IsClean)
    (among : FirstAmong issue back) : FirstAmong issue (front ++ back) := by
  induction front with
  | nil => exact among
  | cons place rest ih =>
    obtain ⟨head, others⟩ := List.forall_mem_cons.mp clean
    exact .later head (ih others)

theorem FirstAmong.of_single (among : FirstAmong issue [place]) : place.FirstRefused issue := by
  cases among with
  | head first => exact first
  | later _ none => cases none

theorem FirstAmong.exists_index (among : FirstAmong issue parts) :
    ∃ (index : Nat) (part : Place), parts[index]? = some part ∧ part.FirstRefused issue ∧
      ∀ (j : Nat) (other : Place), j < index → parts[j]? = some other → other.IsClean := by
  induction among with
  | @head place rest first => exact ⟨0, place, rfl, first, fun j other less => by omega⟩
  | @later place rest clean _ ih =>
    obtain ⟨index, part, held, first, front⟩ := ih
    refine ⟨index + 1, part, held, first, fun j other less there => ?_⟩
    cases j with
    | zero =>
      cases there
      exact clean
    | succ j => exact front j other (by omega) there

/-- What is refused first among the parts of a place is refused first in the place. -/
theorem firstRefused_of_parts (fine : place.issue? = none)
    (among : FirstAmong issue place.parts) : place.FirstRefused issue := by
  obtain ⟨index, part, held, ⟨address, inner, found, refused, before⟩, front⟩ :=
    among.exists_index
  refine ⟨index :: address, inner, Option.bind_eq_some_iff.mpr ⟨part, held, found⟩, refused, ?_⟩
  intro earlier other less there
  cases earlier with
  | nil =>
    cases there
    exact fine
  | cons j rest =>
    obtain ⟨part', held', inside⟩ := Option.bind_eq_some_iff.mp there
    obtain lower | ⟨same, within⟩ := List.cons_lt_cons_iff.mp less
    · exact front j part' lower held' rest other inside
    · subst same
      cases held.symm.trans held'
      exact before rest other within inside

end Place

/-! ### Reading places one after the other -/

open Place (FirstAmong)

/-- A reading of these places comes out right: it fails with the issue of the first refused one, and
if all are clean it gives `whole`. -/
def Settles {α : Type} (places : List Place) (whole : α) : Except DetailIssue α → Prop
  | .error issue => FirstAmong issue places
  | .ok read => (∀ place ∈ places, place.IsClean) ∧ read = whole

namespace Settles

variable {α β : Type} {places front back : List Place} {place : Place} {a : α} {b : β}
  {result : Except DetailIssue α} {next : α → Except DetailIssue β}

theorem pure (a : α) : Settles [] a (.ok a) := ⟨nofun, rfl⟩

theorem map (f : α → β) (settles : Settles places a result) :
    Settles places (f a) (result.map f) := by
  cases result with
  | error issue => exact settles
  | ok read => exact ⟨settles.1, congrArg f settles.2⟩

/-- A reading that goes on after another one looks at its places after those of the other. -/
theorem bind (first : Settles front a result) (later : Settles back b (next a)) :
    Settles (front ++ back) b (result >>= next) := by
  cases result with
  | error issue => exact FirstAmong.append first back
  | ok read =>
    obtain ⟨clean, rfl⟩ := first
    rw [show (Except.ok read >>= next) = next read from rfl]
    cases ended : next read with
    | error issue =>
      rw [ended] at later
      exact FirstAmong.after_clean clean later
    | ok whole =>
      rw [ended] at later
      exact ⟨List.forall_mem_append.mpr ⟨clean, later.1⟩, later.2⟩

/-- To read a place that is not refused for itself is to read its parts. -/
theorem of_parts (fine : place.issue? = none) (settles : Settles place.parts a result) :
    Settles [place] a result := by
  cases result with
  | error issue => exact .head (Place.firstRefused_of_parts fine settles)
  | ok read =>
    exact ⟨List.forall_mem_singleton.mpr (Place.isClean_of_parts fine settles.1), settles.2⟩

theorem of_refused {issue : DetailIssue} (refused : place.issue? = some issue) :
    Settles [place] a (.error issue) :=
  .head (Place.firstRefused_self refused)

end Settles

/-! ### The copy of a value -/

theorem keyName_settles (path : String) (key : Value) :
    Settles [.key path key] key.text (keyName path key) := by
  cases key with
  | str s => exact .of_parts rfl (.pure s)
  | ragged r => exact .of_parts rfl (.pure r.points.lossy)
  | _ => exact .of_refused rfl

theorem itemPlaces_cons (path : String) (index : Nat) (item : Value) (rest : List Value) :
    itemPlaces path index (item :: rest) =
      [.value (itemPath path index) item] ++ itemPlaces path (index + 1) rest := by
  simp only [itemPlaces, List.zipIdx_cons, List.map_cons, List.singleton_append]

theorem entryPlaces_cons (path : String) (key value : Value) (rest : List (Value × Value)) :
    entryPlaces path ((key, value) :: rest) =
      [.key path key] ++ ([.value (entryPath path key.text) value] ++ entryPlaces path rest) := rfl

mutual

/-- The copy of a value is its plain form, unless something in it is refused. -/
theorem copy_settles (path : String) : (v : Value) →
    Settles [.value path v] (plain v) (copy path v)
  | .str _ | .ragged _ | .int _ | .bool _ | .float _ => by
    rw [copy, plain] <;> first | exact .of_parts rfl (.pure _) | nofun
  | .mapping entries | .view entries => by
    rw [copy, plain]
    exact .of_parts rfl ((copyEntries_settles path entries).map Value.mapping)
  | .list items | .tuple items => by
    rw [copy, plain]
    exact .of_parts rfl ((copyItems_settles path 0 items).map Value.list)
  | .none | .bytes _ | .date _ | .moment _ | .set _ | .foreign _ | .withinList | .withinMapping =>
    by rw [copy] <;> first | exact .of_refused rfl | nofun

/-- The items of a sequence are read from the first to the last. -/
theorem copyItems_settles (path : String) (index : Nat) : (items : List Value) →
    Settles (itemPlaces path index items) (plainItems items) (copyItems path index items)
  | [] => .pure []
  | item :: rest => by
    rw [itemPlaces_cons, plainItems]
    have others := (copyItems_settles path (index + 1) rest).map fun others =>
      plain item :: others
    exact (copy_settles (itemPath path index) item).bind others

/-- The entries of a mapping are read from the first to the last, a key before its own value. -/
theorem copyEntries_settles (path : String) : (entries : List (Value × Value)) →
    Settles (entryPlaces path entries) (plainEntries entries) (copyEntries path entries)
  | [] => .pure []
  | (key, value) :: rest => by
    rw [entryPlaces_cons, plainEntries]
    have others := (copyEntries_settles path rest).map fun others => (key, plain value) :: others
    have held : Settles ([.value (entryPath path key.text) value] ++ entryPlaces path rest)
        ((key, plain value) :: plainEntries rest) (do
          let copied ← copy (entryPath path key.text) value
          return (key, copied) :: (← copyEntries path rest)) :=
      (copy_settles (entryPath path key.text) value).bind others
    exact (keyName_settles path key).bind held

end

/-! ### The copy of a copy -/

mutual

/-- The kind of a mapping or a sequence makes no difference to the copy. -/
theorem copy_plain (path : String) : (v : Value) → copy path (plain v) = copy path v
  | .mapping entries | .view entries => by
    rw [plain, copy, copy, copyEntries_plain]
  | .list items | .tuple items => by
    rw [plain, copy, copy, copyItems_plain]
  | .str _ | .ragged _ | .int _ | .bool _ | .float _ | .none | .bytes _ | .date _ | .moment _
  | .set _ | .foreign _ | .withinList | .withinMapping => by
    rw [plain] <;> nofun

/-- A copy of plain items is the copy of the items. -/
theorem copyItems_plain (path : String) (index : Nat) : (items : List Value) →
    copyItems path index (plainItems items) = copyItems path index items
  | [] => rfl
  | item :: rest => by
    rw [plainItems, copyItems, copyItems, copy_plain, copyItems_plain]

theorem copyEntries_plain (path : String) : (entries : List (Value × Value)) →
    copyEntries path (plainEntries entries) = copyEntries path entries
  | [] => rfl
  | (key, value) :: rest => by
    rw [plainEntries, copyEntries, copyEntries, copyEntries_plain]
    simp only [copy_plain]

end

/-! ### Details -/

variable {v copied : Value} {issue : DetailIssue}

/-- What is no mapping is not looked into; a mapping is copied. -/
theorem normalize_of_entries? (v : Value) :
    v = .none ∧ normalize v = .ok (.mapping []) ∨
      v ≠ .none ∧ v.entries? = none ∧ normalize v = .error (.notMapping v.typeName) ∨
      v ≠ .none ∧ v.entries?.isSome = true ∧ normalize v = copy "" v := by
  cases v with
  | none => exact .inl ⟨rfl, rfl⟩
  | mapping entries => exact .inr (.inr ⟨nofun, rfl, by rw [normalize, copy]⟩)
  | view entries => exact .inr (.inr ⟨nofun, rfl, by rw [normalize, copy]⟩)
  | _ => exact .inr (.inl ⟨nofun, rfl, rfl⟩)

/-- A copy fails with the issue of the first place that is refused. -/
theorem copy_error_iff {path : String} :
    copy path v = .error issue ↔ (Place.value path v).FirstRefused issue := by
  have settles := copy_settles path v
  cases copies : copy path v with
  | error other =>
    rw [copies] at settles
    have first := FirstAmong.of_single settles
    constructor
    · rintro ⟨rfl⟩
      exact first
    · intro second
      rw [first.unique second]
  | ok read =>
    rw [copies] at settles
    constructor
    · nofun
    · intro first
      exact absurd (settles.1 _ (List.mem_singleton_self _)) first.not_isClean

/-- A copy is made if and only if every place is clean, and it is the value made plain. -/
theorem copy_ok_iff {path : String} :
    copy path v = .ok copied ↔ (Place.value path v).IsClean ∧ copied = plain v := by
  have settles := copy_settles path v
  cases copies : copy path v with
  | error issue =>
    rw [copies] at settles
    constructor
    · nofun
    · rintro ⟨clean, -⟩
      exact absurd clean (FirstAmong.of_single settles).not_isClean
  | ok read =>
    rw [copies] at settles
    obtain ⟨clean, rfl⟩ := settles
    constructor
    · rintro ⟨rfl⟩
      exact ⟨clean _ (List.mem_singleton_self _), rfl⟩
    · rintro ⟨-, rfl⟩
      rfl

/-- What is refused: whatever is not a mapping, save nothing at all, and a mapping for the first
refused place in it. -/
theorem normalize_error_iff :
    normalize v = .error issue ↔ v ≠ .none ∧
      (v.entries? = none ∧ issue = .notMapping v.typeName ∨
        v.entries?.isSome = true ∧ (Place.value "" v).FirstRefused issue) := by
  obtain ⟨rfl, eq⟩ | ⟨some, no, eq⟩ | ⟨some, yes, eq⟩ := normalize_of_entries? v
  · rw [eq]
    exact ⟨nofun, fun h => absurd rfl h.1⟩
  · rw [eq]
    constructor
    · rintro ⟨rfl⟩
      exact ⟨some, .inl ⟨no, rfl⟩⟩
    · rintro ⟨-, ⟨-, rfl⟩ | ⟨yes, -⟩⟩
      · rfl
      · rw [no] at yes
        cases yes
  · rw [eq, copy_error_iff]
    constructor
    · intro first
      exact ⟨some, .inr ⟨yes, first⟩⟩
    · rintro ⟨-, ⟨no, -⟩ | ⟨-, first⟩⟩
      · rw [no] at yes
        cases yes
      · exact first

/-- What is accepted: nothing at all, which counts as an empty mapping, and the mappings in which
no place is refused. -/
theorem normalize_ok_iff :
    normalize v = .ok copied ↔
      v = .none ∧ copied = .mapping [] ∨
        v.entries?.isSome = true ∧ (Place.value "" v).IsClean ∧ copied = plain v := by
  obtain ⟨rfl, eq⟩ | ⟨some, no, eq⟩ | ⟨some, yes, eq⟩ := normalize_of_entries? v
  · rw [eq]
    constructor
    · rintro ⟨rfl⟩
      exact .inl ⟨rfl, rfl⟩
    · rintro (⟨-, rfl⟩ | ⟨yes, -⟩)
      · rfl
      · cases yes
  · rw [eq]
    constructor
    · nofun
    · rintro (⟨none, -⟩ | ⟨yes, -⟩)
      · exact absurd none some
      · rw [no] at yes
        cases yes
  · rw [eq, copy_ok_iff]
    constructor
    · intro clean
      exact .inr ⟨yes, clean⟩
    · rintro (⟨none, -⟩ | ⟨-, clean⟩)
      · exact absurd none some
      · exact clean

/-- Details are their own copy. -/
theorem normalize_of_normalize (accepted : normalize v = .ok copied) :
    normalize copied = .ok copied := by
  obtain ⟨rfl, eq⟩ | ⟨some, no, eq⟩ | ⟨some, yes, eq⟩ := normalize_of_entries? v
  · cases eq.symm.trans accepted
    rfl
  · cases eq.symm.trans accepted
  · rw [eq] at accepted
    obtain ⟨-, rfl⟩ := copy_ok_iff.mp accepted
    have again : copy "" (plain v) = .ok (plain v) := by rw [copy_plain, accepted]
    obtain ⟨entries, mapping⟩ := Option.isSome_iff_exists.mp yes
    rw [plain_of_entries? mapping, copy] at again
    rw [plain_of_entries? mapping, normalize, again]

/-- Exactly the values that are no mapping, other than nothing at all, and the mappings with a
refused place are refused. -/
theorem normalize_refuses_iff :
    (∃ issue, normalize v = .error issue) ↔ v ≠ .none ∧
      (v.entries? = none ∨ ∃ address place,
        (Place.value "" v).at? address = some place ∧ place.issue?.isSome = true) := by
  constructor
  · rintro ⟨issue, failed⟩
    obtain ⟨some, ⟨no, -⟩ | ⟨-, address, place, found, refused, -⟩⟩ := normalize_error_iff.mp failed
    · exact ⟨some, .inl no⟩
    · exact ⟨some, .inr ⟨address, place, found, by rw [refused]; rfl⟩⟩
  · rintro ⟨some, reason⟩
    cases ended : normalize v with
    | error issue => exact ⟨issue, rfl⟩
    | ok copied =>
      obtain ⟨none, -⟩ | ⟨yes, clean, -⟩ := normalize_ok_iff.mp ended
      · exact absurd none some
      · obtain no | ⟨address, place, found, refused⟩ := reason
        · exact absurd yes (by rw [no]; nofun)
        · exact absurd refused (by rw [clean address place found]; nofun)

/-- The fault of a refusal is about types and says what is refused, but for a key that cannot be
written: writing it raises a fault of its own. -/
theorem toFault_eq (issue : DetailIssue) :
    (∀ key path, issue = .keyNotText key path → key.isWritable = false →
      issue.toFault = .tooLongToWrite) ∧
    ((∀ key path, issue = .keyNotText key path → key.isWritable = true) →
      issue.toFault = .because .typeError issue.message) := by
  constructor
  · rintro key path rfl unwritable
    rw [DetailIssue.toFault, DetailIssue.isWritable, unwritable]
    exact if_neg Bool.false_ne_true
  · intro writable
    have written : issue.isWritable = true := by
      cases issue with
      | keyNotText key path => exact writable key path rfl
      | notMapping | unsupported => rfl
    rw [DetailIssue.toFault, written, if_pos rfl]

/-- Details are checked and copied as they should be, but for a key that cannot be written. Refused
are the values that are no mapping, other than nothing at all, and the mappings with a refused
place, for the first such place and with a fault about types that says what it is; where it is a key
with a whole number of too many digits, the fault is that of writing the key. Anything else gives a
mapping with the same keys in the same order and plain values, which is its own copy. -/
theorem normalize_settles (v : Value) :
    ((∃ issue, normalize v = .error issue) ↔ v ≠ .none ∧
      (v.entries? = none ∨ ∃ address place,
        (Place.value "" v).at? address = some place ∧ place.issue?.isSome = true)) ∧
    (∀ issue, normalize v = .error issue →
      (v.entries? = none ∧ issue = .notMapping v.typeName ∨
        v.entries?.isSome = true ∧ (Place.value "" v).FirstRefused issue) ∧
      (∀ key path, issue = .keyNotText key path → key.isWritable = false →
        issue.toFault = .tooLongToWrite) ∧
      ((∀ key path, issue = .keyNotText key path → key.isWritable = true) →
        issue.toFault = .because .typeError issue.message)) ∧
    ∀ copied, normalize v = .ok copied →
      (v = .none ∧ copied = .mapping [] ∨ ∃ entries, v.entries? = some entries ∧
        copied = .mapping (entries.map fun entry => (entry.1, plain entry.2))) ∧
      normalize copied = .ok copied := by
  refine ⟨normalize_refuses_iff, ?_, ?_⟩
  · intro issue failed
    exact ⟨(normalize_error_iff.mp failed).2, toFault_eq issue⟩
  · intro copied accepted
    refine ⟨?_, normalize_of_normalize accepted⟩
    obtain nothing | ⟨yes, -, rfl⟩ := normalize_ok_iff.mp accepted
    · exact .inl nothing
    · obtain ⟨entries, mapping⟩ := Option.isSome_iff_exists.mp yes
      exact .inr ⟨entries, mapping, by rw [plain_of_entries? mapping, plainEntries_eq]⟩

/-- A mapping with a key that is not text is refused, and by no fault about types, where the key has
more digits than can be written. -/
theorem long_key_raises_no_typeError :
    let key : Value := .int (pow10 4300)
    let v : Value := .mapping [(key, .str "x")]
    (Place.value "" v).at? [0] = some (.key "" key) ∧ key.isText = false ∧
      normalize v = .error (.keyNotText key "") ∧
      (DetailIssue.keyNotText key "").toFault = .tooLongToWrite ∧
      Fault.tooLongToWrite.kind = .valueError := by
  intro key v
  have long : key.isWritable = false := by decide +kernel
  exact ⟨rfl, rfl, rfl, (toFault_eq _).1 key "" rfl long, rfl⟩

/-- A key is met before its own value. -/
example : normalize (.mapping [(.str "a", .list [.int 1]), (.int 1, .none)]) =
    .error (.keyNotText (.int 1) "") := rfl

end Detail

end Checkup
