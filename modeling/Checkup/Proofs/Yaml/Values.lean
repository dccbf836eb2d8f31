import Checkup.Proofs.Yaml.Nodes
import Checkup.Yaml.Document

/-!
What reading a document can raise.

Building the values of nodes raises the fault of a scalar that its tag does not fit, or finds a
collection malformed. With what composing the nodes raises this is all that can come of a text.

Main statement: `ends_documentOf`.
-/

namespace Checkup.Yaml

variable {cut : Option Problem}

/-! ### Building -/

namespace Build

/-- What a step of building raises is as it may be in a text that is cut. -/
abbrev Builds {α : Type} (cut : Option Problem) (m : Build α) : Prop :=
  Keeps (Raises cut) (fun _ => True) m

variable {α : Type}

theorem builds_malformed : Builds cut (throw .malformed : Build α) := .throw .malformed

theorem builds_modify (f : Building → Building) : Builds cut (modify f) :=
  .modify fun _ _ => trivial

theorem builds_contentOf (id : NodeId) : Builds cut (contentOf id) :=
  Keeps.get.bind fun _ => .pure _

theorem builds_tagOf (id : NodeId) : Builds cut (tagOf id) :=
  Keeps.get.bind fun _ => .pure _

theorem builds_entriesOf (id : NodeId) : Builds cut (entriesOf id) := by
  unfold entriesOf
  refine (builds_contentOf id).bind fun content => ?_
  split
  · exact .pure _
  · exact .pure _

theorem builds_setEntries (id : NodeId) (entries : List NodeEntry) :
    Builds cut (setEntries id entries) :=
  builds_modify _

theorem builds_setTag (id : NodeId) (tag : String) : Builds cut (setTag id tag) := builds_modify _

theorem builds_orFault {x : Except Fault α} (stray : ∀ f, x = .error f → Stray f) :
    Builds cut (orFault x) := by
  cases x with
  | ok a => exact .pure a
  | error f => exact .throw (.stray (stray f rfl))

theorem builds_nextMerge (index : Nat) (entries : List NodeEntry) :
    Builds cut (nextMerge index entries) := by
  induction entries generalizing index with
  | nil => exact .pure none
  | cons entry rest ih =>
      rw [nextMerge]
      refine (builds_tagOf _).bind fun tag => ?_
      split
      · exact .pure _
      · dsimp only
        split
        · exact (builds_setTag _ _).bind fun _ => ih _
        · exact ih _

theorem builds_flatten (fuel : Nat) (id : NodeId) (index : Nat) (taken : List NodeEntry) :
    Builds cut (flatten fuel id index taken) := by
  induction fuel generalizing id index taken with
  | zero => exact builds_malformed
  | succ fuel ih =>
      rw [flatten]
      refine (builds_entriesOf id).bind fun entries => ?_
      refine (builds_nextMerge _ _).bind fun merge => ?_
      split
      · split
        · exact .pure _
        · exact (builds_entriesOf id).bind fun _ => builds_setEntries _ _
      · refine (builds_entriesOf id).bind fun _ => (builds_setEntries _ _).bind fun _ => ?_
        refine (builds_contentOf _).bind fun content => ?_
        dsimp only
        split
        · refine (ih _ _ _).bind fun _ => ?_
          exact (builds_entriesOf _).bind fun _ => ih _ _ _
        · refine Keeps.bind (.mapM fun item => ?_) fun parts => ih _ _ _
          refine (builds_contentOf item).bind fun content => ?_
          split
          · exact (ih _ _ _).bind fun _ => builds_entriesOf item
          · exact builds_malformed
        · exact .throw_bind .malformed

theorem builds_textOf (fuel : Nat) (id : NodeId) : Builds cut (textOf fuel id) := by
  induction fuel generalizing id with
  | zero => exact .throw (.stray .tooDeep)
  | succ fuel ih =>
      rw [textOf]
      refine (builds_contentOf id).bind fun content => ?_
      split
      · exact .pure _
      · exact builds_malformed
      · refine Keeps.bind (.findM? fun entry => (builds_tagOf _).bind fun _ => .pure _) fun found => ?_
        split
        · exact ih _
        · exact builds_malformed

theorem builds_text (id : NodeId) : Builds cut (text id) :=
  Keeps.get.bind fun _ => builds_textOf _ id

theorem builds_stampText (id : NodeId) : Builds cut (stampText id) := by
  unfold stampText
  refine (builds_text id).bind fun text => (builds_contentOf id).bind fun content => ?_
  split
  · exact .pure text
  · exact .throw (.stray .noText)

/-- Bytes in base 64 are read, or are malformed. -/
theorem ends_bytes (text : Text.Points) :
    Ends (Raises cut) (fun _ => True) (Literal.bytes text) := by
  unfold Literal.bytes
  split
  · split
    · exact .ok trivial
    · exact .error .malformed
  · exact .error .malformed

/-- A value is begun by its kind; what the reading of a scalar raises is stray. -/
theorem builds_begun (id : NodeId) (schema : Schema) : Builds cut (begun id schema) := by
  cases schema with
  | null => exact (builds_text id).bind fun _ => .pure _
  | str => exact (builds_text id).bind fun _ => .pure _
  | bool =>
      refine (builds_text id).bind fun text => ?_
      exact (builds_orFault fun f refused => .literal (.truth refused)).bind fun _ => .pure _
  | int =>
      refine (builds_text id).bind fun text => ?_
      exact (builds_orFault fun f refused => .literal (.int refused)).bind fun _ => .pure _
  | float =>
      refine (builds_text id).bind fun text => ?_
      exact (builds_orFault fun f refused => .literal (.float refused)).bind fun _ => .pure _
  | timestamp =>
      refine (builds_stampText id).bind fun text => ?_
      exact (builds_orFault fun f refused => .literal (.stamp refused)).bind fun _ => .pure _
  | binary =>
      refine (builds_text id).bind fun text => ?_
      exact (Keeps.lift (ends_bytes text)).bind fun _ => .pure _
  | seq => exact .pure _
  | orderedMap => exact .pure _
  | pairs => exact .pure _
  | map => exact .pure _
  | set => exact .pure _

theorem builds_keep (id : NodeId) (b : Built) : Builds cut (keep id b) := builds_modify _

theorem builds_construct (id : NodeId) : Builds cut (construct id) := by
  unfold construct
  refine Keeps.get.bind fun s => ?_
  split
  · exact .pure _
  · refine (builds_tagOf id).bind fun tag => ?_
    split
    · exact builds_malformed
    · refine (builds_begun id _).bind fun b => (builds_keep id b).bind fun _ => ?_
      dsimp only
      split
      · exact (builds_modify _).bind fun _ => .pure b
      · exact .pure b

theorem builds_keyOf (id : NodeId) (value : Value) : Builds cut (keyOf id value) := by
  unfold keyOf
  dsimp only
  split
  · refine Keeps.bind ?_ fun _ => .pure _
    unfold originOf
    refine (builds_text id).bind fun text => ?_
    split
    · split
      · exact .pure _
      · exact .pure _
    · exact .pure _
  · exact .pure _

theorem builds_entries (id : NodeId) : Builds cut (entries id) := by
  unfold entries
  refine (builds_contentOf id).bind fun content => ?_
  split
  · refine Keeps.get.bind fun s => (builds_flatten _ _ _ _).bind fun _ => ?_
    refine (builds_entriesOf id).bind fun entries => ?_
    refine Keeps.bind (.foldlM fun built entry => ?_) fun _ => .pure _
    refine (builds_construct _).bind fun key => ?_
    split
    · refine (builds_construct _).bind fun _ => ?_
      exact (builds_keyOf _ _).bind fun _ => .pure _
    · exact builds_malformed
  · exact builds_malformed

theorem builds_pairs (id : NodeId) : Builds cut (pairs id) := by
  unfold pairs
  refine (builds_contentOf id).bind fun content => ?_
  split
  · refine .mapM fun item => ?_
    refine (builds_contentOf item).bind fun content => ?_
    split
    · refine (builds_construct _).bind fun _ => ?_
      exact (builds_construct _).bind fun _ => .pure _
    · exact builds_malformed
  · exact builds_malformed

theorem builds_fill (id : NodeId) : Builds cut (fill id) := by
  unfold fill
  refine Keeps.get.bind fun s => ?_
  split
  · refine (builds_contentOf id).bind fun content => ?_
    split
    · refine Keeps.bind (.forM fun item => ?_) fun _ => builds_keep id _
      exact (builds_construct item).bind fun _ => .pure _
    · exact builds_malformed
  · exact (builds_pairs id).bind fun _ => builds_keep id _
  · exact (builds_entries id).bind fun _ => builds_keep id _
  · exact (builds_entries id).bind fun _ => builds_keep id _
  · exact .pure _

/-- What was begun is filled until nothing is left, by induction on the fuel. -/
theorem builds_fillAll (fuel : Nat) : Builds cut (fillAll fuel) := by
  induction fuel with
  | zero => exact .pure _
  | succ fuel ih =>
      rw [fillAll]
      refine Keeps.get.bind fun s => Keeps.get.bind fun s' => ?_
      split
      · exact .pure _
      · exact (builds_modify _).bind fun _ => ih
      · exact (builds_modify _).bind fun _ => (builds_fill _).bind fun _ => ih

end Build

/-! ### Documents -/

/-- What reading a text can raise: what cuts it, that it is malformed, or a stray fault. -/
theorem ends_documentOf (source : Source) :
    Ends (Raises source.cut) (fun _ => True) (documentOf source) := by
  unfold documentOf
  refine (ends_nodesOf source.text source.cut).bind fun read _ => ?_
  dsimp only
  split
  · exact .ok trivial
  next id _ =>
    have built : Build.Builds source.cut (do
        let _ ← Build.construct id
        Build.fillAll (2 * read.1.size + 1)) :=
      (Build.builds_construct id).bind fun _ => Build.builds_fillAll _
    exact (built _ trivial).bind fun _ _ => .ok trivial

end Checkup.Yaml
