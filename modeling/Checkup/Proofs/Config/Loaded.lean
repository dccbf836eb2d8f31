import Checkup.Config.File
import Checkup.Proofs.Config.Admitted
import Checkup.Proofs.Text.Decoded
import Checkup.Proofs.Yaml.Values

/-!
What loading settings from a file comes to.

Whatever loader reads the text, loading gives settings that are valid, or raises the fault for bad
settings, or lets a fault of another kind through: one that the loader raises besides calling the
text malformed, or the one of a number too long to be shown (`Escapes`). So what a loader is known
to let out of itself (`Loader.IsDocumented`) comes out of loading.

Main statements: `load_settles` (for every such loader) and `isDocumented_loader` (the one of this
library is such a loader).
-/

namespace Checkup

namespace Config

/-- Whether what loading has to say of a document can be written: the settings in it, which are
noted, or what their refusal shows. -/
def IsTellable (d : Document) : Prop :=
  match ofDocument d with
  | .ok c => c.toValue.isWritable = true
  | .error issue => issue.shows.all Value.isWritable = true

variable {loader : Loader} {path : String} {bytes : ByteArray} {d : Document} {c : Config}
  {f : Fault}

/-! ### Settings in a document -/

theorem valid_of_ofEntries {entries : List (Value × Value)} (made : ofEntries entries = .ok c) :
    1 ≤ c.maxWorkers ∧ c.timeout.le (.whole 0) = false := by
  unfold ofEntries at made
  split at made
  · obtain ⟨⟨-, enough⟩, -, above⟩ := make_ok_iff.mp made
    exact ⟨enough, above⟩
  · cases made

/-- Settings from a document are valid. -/
theorem valid_of_ofDocument (made : ofDocument d = .ok c) :
    1 ≤ c.maxWorkers ∧ c.timeout.le (.whole 0) = false := by
  unfold ofDocument at made
  split at made
  · exact valid_of_ofEntries made
  · split at made
    · exact valid_of_ofEntries made
    · unfold ofRoot at made
      split at made
      · exact valid_of_ofEntries made
      · split at made
        · exact valid_of_ofEntries made
        · exact valid_of_ofEntries made
        · cases made
    · cases made

section Told

variable {ε ε' α β : Type} (known : ε → ε') (next : α → Except ε' β)

theorem mapError_bind_ok (a : α) : (Except.ok a).mapError known >>= next = next a := rfl

theorem mapError_bind_error (e : ε) :
    (Except.error e).mapError known >>= next = .error (known e) := rfl

end Told

/-- What is said of a document where it can be written: valid settings, or that they are bad. -/
theorem told_of_tellable (tellable : IsTellable d) :
    (∃ c, (ofDocument d).mapError ConfigIssue.toFault >>= noted = .ok c ∧
        1 ≤ c.maxWorkers ∧ c.timeout.le (.whole 0) = false) ∨
      ∃ f, (ofDocument d).mapError ConfigIssue.toFault >>= noted = .error f ∧
        f.kind = .configError := by
  unfold IsTellable at tellable
  cases made : ofDocument d with
  | ok c =>
      rw [made] at tellable
      refine .inl ⟨c, ?_, valid_of_ofDocument made⟩
      rw [mapError_bind_ok, noted, if_pos tellable]
  | error issue =>
      rw [made] at tellable
      refine .inr ⟨issue.toFault, mapError_bind_error _ _ issue, ?_⟩
      rw [ConfigIssue.toFault, if_pos tellable, Fault.because]

/-- Where what has to be shown cannot be written, the fault of that is raised. -/
theorem told_of_not_tellable (untellable : ¬ IsTellable d) :
    (ofDocument d).mapError ConfigIssue.toFault >>= noted = .error .tooLongToWrite := by
  unfold IsTellable at untellable
  cases made : ofDocument d with
  | ok c =>
      rw [made] at untellable
      rw [mapError_bind_ok, noted, if_neg untellable]
  | error issue =>
      rw [made] at untellable
      rw [mapError_bind_error, ConfigIssue.toFault, if_neg untellable]

/-! ### Loading -/

/-- The faults that loading a file with some bytes lets through. -/
inductive Escapes (loader : Loader) (bytes : ByteArray) : Fault → Prop
  /-- The loader raises it, and not because the text is malformed. -/
  | letOut {f : Fault} (raised : loader bytes = .error (.fault f)) : Escapes loader bytes f
  /-- A number is too long to be shown. -/
  | tooLong {d : Document} (read : loader bytes = .ok d) (untellable : ¬ IsTellable d) :
    Escapes loader bytes .tooLongToWrite

theorem loadWith_of_malformed (read : loader bytes = .error .malformed) :
    loadWith loader path (.holding bytes) = .error (ConfigIssue.malformed path).toFault := by
  simp only [loadWith, read]

theorem loadWith_of_fault (read : loader bytes = .error (.fault f)) :
    loadWith loader path (.holding bytes) = .error f := by
  simp only [loadWith, read]

theorem loadWith_of_document (read : loader bytes = .ok d) :
    loadWith loader path (.holding bytes) =
      (ofDocument d).mapError ConfigIssue.toFault >>= noted := by
  simp only [loadWith, read]

/-- What escapes comes out of loading. -/
theorem loadWith_of_escapes (escapes : Escapes loader bytes f) :
    loadWith loader path (.holding bytes) = .error f := by
  cases escapes with
  | letOut raised => exact loadWith_of_fault raised
  | tooLong read untellable =>
      rw [loadWith_of_document read]
      exact told_of_not_tellable untellable

/-- Loading gives valid settings, or says that they are bad, or lets something escape. -/
theorem loadWith_cases (loader : Loader) (path : String) (bytes : ByteArray) :
    (∃ c, loadWith loader path (.holding bytes) = .ok c ∧
        1 ≤ c.maxWorkers ∧ c.timeout.le (.whole 0) = false) ∨
      ∃ f, loadWith loader path (.holding bytes) = .error f ∧
        (f.kind = .configError ∨ Escapes loader bytes f) := by
  cases read : loader bytes with
  | error problem =>
      cases problem with
      | malformed => exact .inr ⟨_, loadWith_of_malformed read, .inl rfl⟩
      | fault f => exact .inr ⟨f, loadWith_of_fault read, .inr (.letOut read)⟩
  | ok d =>
      by_cases tellable : IsTellable d
      · rw [loadWith_of_document read]
        rcases told_of_tellable tellable with valid | ⟨f, told, refused⟩
        · exact .inl valid
        · exact .inr ⟨f, told, .inl refused⟩
      · have escapes : Escapes loader bytes .tooLongToWrite := .tooLong read tellable
        exact .inr ⟨_, loadWith_of_escapes escapes, .inr escapes⟩

/-! ### What is known of a loader -/

def noText : ByteArray := ⟨#[0xff]⟩

def impossibleDate : ByteArray := "max_workers: 2001-02-30".toUTF8

end Config

/-- How a loader raises what is not for it to explain. -/
structure Loader.IsDocumented (loader : Loader) : Prop where
  /-- The text is decoded as UTF-8; where that fails, the fault of it comes out. -/
  decodes {bytes : ByteArray} {f : Fault} : loader bytes = .error (.fault f) →
    f.kind = .unicodeDecodeError → ¬ bytes.IsValidUTF8
  undecoded : ∃ f, loader Config.noText = .error (.fault f) ∧ f.kind = .unicodeDecodeError
  /-- A date that there is not raises a plain fault where the date is made. -/
  dates : ∃ f, loader Config.impossibleDate = .error (.fault f) ∧ f.kind = .valueError
  /-- A loader knows nothing of settings. -/
  foreign {bytes : ByteArray} {f : Fault} : loader bytes = .error (.fault f) →
    f.kind ≠ .configError

namespace Config

/-- What escapes is no fault of configurations. -/
theorem Escapes.kind_ne (documented : loader.IsDocumented) (escapes : Escapes loader bytes f) :
    f.kind ≠ .configError := by
  cases escapes with
  | letOut raised => exact documented.foreign raised
  | tooLong => decide

/-- What loading comes to, whatever bytes the file has. It gives settings that are valid, or raises
the fault for bad settings, or lets a fault of another kind through. Faults of another kind are let
through exactly where the loader raises one, which is the one of decoding only if the bytes are not
those of a text, and where what is to be said of the document cannot be written. A file that is no
text lets one through, and so does a date that there is not. -/
theorem load_settles (documented : loader.IsDocumented) (path : String) (bytes : ByteArray) :
    ((∃ c, loadWith loader path (.holding bytes) = .ok c ∧
          1 ≤ c.maxWorkers ∧ c.timeout.le (.whole 0) = false) ∨
        ∃ f, loadWith loader path (.holding bytes) = .error f ∧
          (f.kind = .configError ∨ Escapes loader bytes f)) ∧
      (∀ f, loadWith loader path (.holding bytes) = .error f ∧ f.kind ≠ .configError ↔
        Escapes loader bytes f) ∧
      (∀ f, Escapes loader bytes f → f.kind = .unicodeDecodeError → ¬ bytes.IsValidUTF8) ∧
      (∃ f, loadWith loader path (.holding noText) = .error f ∧ f.kind = .unicodeDecodeError) ∧
      ∃ f, loadWith loader path (.holding impossibleDate) = .error f ∧ f.kind = .valueError := by
  refine ⟨loadWith_cases loader path bytes, ?_, ?_, ?_, ?_⟩
  · intro f
    constructor
    · rintro ⟨raised, other⟩
      rcases loadWith_cases loader path bytes with ⟨c, loaded, -⟩ | ⟨f', loaded, refused⟩
      · rw [loaded] at raised
        cases raised
      · obtain rfl : f' = f := Except.error.inj (loaded.symm.trans raised)
        exact refused.resolve_left other
    · intro escapes
      exact ⟨loadWith_of_escapes escapes, escapes.kind_ne documented⟩
  · intro f escapes failed
    cases escapes with
    | letOut raised => exact documented.decodes raised failed
    | tooLong => cases failed
  · obtain ⟨f, raised, kind⟩ := documented.undecoded
    exact ⟨f, loadWith_of_fault raised, kind⟩
  · obtain ⟨f, raised, kind⟩ := documented.dates
    exact ⟨f, loadWith_of_fault raised, kind⟩

end Config

/-! ### The loader of this library -/

namespace Yaml

/-- A text is cut where a character is forbidden, or where bytes cannot be decoded. -/
theorem Source.cut_ofLoads {failed : Bool} {loads : List (List Char)} {p : Problem}
    (here : (ofLoads failed loads).cut = some p) :
    p = .malformed ∨ p = .fault undecodable ∧ failed = true := by
  unfold ofLoads at here
  dsimp only at here
  split at here
  · exact .inl (Option.some.inj here).symm
  · split at here
    next failed => exact .inr ⟨(Option.some.inj here).symm, failed⟩
    · cases here

theorem Source.cut_ofReading {r : Text.Reading} {p : Problem} (here : (ofReading r).cut = some p) :
    p = .malformed ∨ p = .fault undecodable ∧ r.failed = true := by
  unfold ofReading at here
  split at here
  · exact cut_ofLoads here
  · exact cut_ofLoads here

/-- The faults that the loader raises: bytes that are not those of a text, or a stray fault. -/
theorem loader_raises {bytes : ByteArray} {f : Fault} (raised : loader bytes = .error (.fault f)) :
    f = Source.undecodable ∧ ¬ bytes.IsValidUTF8 ∨ Stray f := by
  cases (ends_documentOf (.ofReading (.ofBytes bytes))).raised raised with
  | cut here =>
      rcases Source.cut_ofReading here with malformed | ⟨undecodable, failed⟩
      · cases malformed
      · cases undecodable
        refine .inl ⟨rfl, ?_⟩
        intro valid
        rw [Text.Reading.failed_ofBytes_of_valid valid] at failed
        cases failed
  | stray stray => exact .inr stray

/-- The fault that the loader lets out, if it does. -/
def letOut? (bytes : ByteArray) : Option Fault :=
  match loader bytes with
  | .error (.fault f) => some f
  | _ => none

theorem letOut?_eq_some_iff {bytes : ByteArray} {f : Fault} :
    letOut? bytes = some f ↔ loader bytes = .error (.fault f) := by
  unfold letOut?
  split
  · rename_i raised
    rw [raised]
    simp
  · rename_i other
    constructor
    · rintro ⟨⟩
    · intro raised
      exact absurd raised (other f)

/-- What is so of the fault that is let out is so of the one that the loader raises. -/
theorem exists_of_letOut? {bytes : ByteArray} {α : Type} {tell : Fault → α} {a : α}
    (told : (letOut? bytes).map tell = some a) :
    ∃ f, loader bytes = .error (.fault f) ∧ tell f = a := by
  obtain ⟨f, raised, tells⟩ := Option.map_eq_some_iff.mp told
  exact ⟨f, letOut?_eq_some_iff.mp raised, tells⟩

theorem loader_impossibleDate : ∃ f, loader Config.impossibleDate = .error (.fault f) ∧
    f.kind = .valueError ∧ f.text = "day is out of range for month" := by
  have told : (letOut? Config.impossibleDate).map (fun f => (f.kind, f.text)) =
      some (.valueError, "day is out of range for month") := by decide +kernel
  obtain ⟨f, raised, parts⟩ := exists_of_letOut? told
  exact ⟨f, raised, Prod.mk.inj parts⟩

theorem isDocumented_loader : loader.IsDocumented where
  decodes raised failed := by
    rcases loader_raises raised with ⟨-, invalid⟩ | stray
    · exact invalid
    · exact absurd (failed ▸ stray.kind_mem) (by decide)
  undecoded := by
    have told : (letOut? Config.noText).map Fault.kind = some .unicodeDecodeError := by
      decide +kernel
    exact exists_of_letOut? told
  dates := by
    obtain ⟨f, raised, kind, -⟩ := loader_impossibleDate
    exact ⟨f, raised, kind⟩
  foreign raised := by
    rcases loader_raises raised with ⟨rfl, -⟩ | stray
    · decide
    · exact stray.kind_ne

end Yaml

namespace Config

def threeWorkers : ByteArray := "diagnostics: \x7bmax_workers: 3\x7d".toUTF8

theorem threeWorkers_load : Yaml.loader.IsDocumented ∧
    (∃ c, load "CONFIG" (.holding threeWorkers) = .ok c ∧ c.maxWorkers = 3 ∧
      c.timeout.le (.whole 0) = false) ∧
    ∃ f, load "CONFIG" (.holding impossibleDate) = .error f ∧ f.kind = .valueError := by
  have documented : Yaml.loader.IsDocumented := Yaml.isDocumented_loader
  obtain ⟨comes, -, -, -, escapes⟩ := load_settles documented "CONFIG" threeWorkers
  have three : (match load "CONFIG" (.holding threeWorkers) with
      | .ok c => some c.maxWorkers
      | .error _ => none) = some 3 := by decide +kernel
  refine ⟨documented, ?_, escapes⟩
  rcases comes with ⟨c, loaded, -, above⟩ | ⟨f, raised, -⟩
  · have loaded : load "CONFIG" (.holding threeWorkers) = .ok c := loaded
    rw [loaded] at three
    exact ⟨c, loaded, Option.some.inj three, above⟩
  · have raised : load "CONFIG" (.holding threeWorkers) = .error f := raised
    rw [raised] at three
    cases three

/-- A date that there is not comes out as a fault of its own, whatever loader reads the file that
raises it so. -/
theorem impossible_date_escapes :
    (∀ loader : Loader, loader.IsDocumented →
      ∃ f, loadWith loader "CONFIG" (.holding impossibleDate) = .error f ∧
        f.kind = .valueError) ∧
    ∃ f, load "CONFIG" (.holding impossibleDate) = .error f ∧ f.kind = .valueError ∧
      f.text = "day is out of range for month" := by
  constructor
  · intro loader documented
    obtain ⟨f, raised, kind⟩ := documented.dates
    exact ⟨f, loadWith_of_fault raised, kind⟩
  · obtain ⟨f, raised, told⟩ := Yaml.loader_impossibleDate
    exact ⟨f, loadWith_of_fault raised, told⟩

end Config

end Checkup
