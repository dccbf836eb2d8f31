import Checkup.Proofs.Yaml.Tokens

/-!
What composing the nodes of a text can raise.

A step of composing raises what cutting the next token raises, finds the text malformed, or finds
it nested too deep, and leaves the rest of the same text ahead. For the readers of nodes, which call
each other, this goes by induction on the steps they have left (`composesWithin`), each of them
having a lemma of its own.

Main statement: `ends_nodesOf`.
-/

namespace Checkup.Yaml

variable {cut : Option Problem}

/-! ### Composing -/

namespace Compose

/-- What a step of composing raises is as it may be in a text that is cut, and what is ahead of it
is the rest of that text. -/
abbrev Composes {α : Type} (cut : Option Problem) (m : Compose α) : Prop :=
  Keeps (Raises cut) (·.lexer.cursor.cut = cut) m

variable {α : Type}

theorem composes_malformed : Composes cut (throw .malformed : Compose α) :=
  .throw .malformed

/-- To look at the next token raises what the lexer may raise. -/
theorem composes_peek : Composes cut peek := by
  intro s same
  have read : Ends (Raises cut) (·.1.2.cursor.cut = cut) (s.lexer.peek >>= fun r => .ok (r, s)) :=
    (Lexer.leads_peek same).bind fun _ kept => .ok kept
  exact read.bind fun _ kept => .ok kept

theorem composes_skip : Composes cut skip :=
  .modify fun _ same => same

/-- To go one level deeper raises that this is too deep, or what is raised inside. -/
theorem composes_nested {inside : Compose α} (kept : Composes cut inside) :
    Composes cut (nested inside) := by
  unfold nested
  refine Keeps.get.bind fun s => ?_
  split
  · exact .throw_bind (.stray .tooDeep)
  · refine Keeps.bind (.modify fun _ same => same) fun _ => kept.bind fun a => ?_
    exact Keeps.bind (.modify fun _ same => same) fun _ => .pure a

theorem composes_add (node : Node) : Composes cut (add node) :=
  fun _ same => .ok same

theorem composes_addEmpty : Composes cut addEmpty := composes_add _

theorem composes_fill (id : NodeId) (content : Content) : Composes cut (fill id content) :=
  .modify fun _ same => same

/-- An anchor is put at a node; one that is taken is malformed. -/
theorem composes_anchorAt (anchor : Option String) (id : NodeId) :
    Composes cut (anchorAt anchor id) := by
  unfold anchorAt
  split
  · exact .pure ()
  · exact .modify fun _ same => same

theorem composes_properties : Composes cut properties := by
  unfold properties
  refine composes_peek.bind fun t => ?_
  split
  · refine composes_skip.bind fun _ => composes_peek.bind fun t => ?_
    split
    · exact composes_skip.bind fun _ => .pure _
    · exact .pure _
  · refine composes_skip.bind fun _ => composes_peek.bind fun t => ?_
    split
    · exact composes_skip.bind fun _ => .pure _
    · exact .pure _
  · exact .pure _

/-- A tag is written with a handle that the document knows, or is malformed. -/
theorem composes_fullTag (written : Option (Option String × String)) :
    Composes cut (fullTag written) := by
  unfold fullTag
  split
  · exact .pure none
  · exact .pure _
  · refine Keeps.get.bind fun s => ?_
    split
    · exact .pure _
    · exact composes_malformed

theorem composes_separator (next : Token) : Composes cut (separator next) := by
  unfold separator
  split
  · exact composes_skip
  · exact composes_malformed

theorem composes_omitted (anchor tag : Option String) : Composes cut (omitted anchor tag) := by
  unfold omitted
  dsimp only
  split
  · exact .throw_bind .malformed
  · refine (composes_add _).bind fun id => ?_
    exact (composes_anchorAt anchor id).bind fun _ => .pure id

/-- What holds of the readers of nodes with so many steps left. -/
structure ComposesWithin (cut : Option Problem) (fuel : Nat) : Prop where
  node : ∀ block loose, Composes cut (node fuel block loose)
  content : ∀ block loose, Composes cut (content fuel block loose)
  blockItems : ∀ read, Composes cut (blockItems fuel read)
  looseItems : ∀ read, Composes cut (looseItems fuel read)
  blockEntries : ∀ read, Composes cut (blockEntries fuel read)
  blockValue : Composes cut (blockValue fuel)
  flowPair : ∀ ends, Composes cut (flowPair fuel ends)
  flowItems : ∀ first read, Composes cut (flowItems fuel first read)
  flowEntries : ∀ first read, Composes cut (flowEntries fuel first read)

section Readers

variable {fuel : Nat}

theorem ComposesWithin.node_succ (within : ComposesWithin cut fuel) (block loose : Bool) :
    Composes cut (Compose.node (fuel + 1) block loose) := by
  rw [Compose.node]
  refine composes_peek.bind fun t => ?_
  split
  · refine composes_skip.bind fun _ => Keeps.get.bind fun s => ?_
    split
    · exact .pure _
    · exact composes_malformed
  · exact within.content block loose

theorem ComposesWithin.content_succ (within : ComposesWithin cut fuel) (block loose : Bool) :
    Composes cut (Compose.content (fuel + 1) block loose) := by
  rw [Compose.content]
  refine composes_properties.bind fun properties => ?_
  dsimp only
  refine (composes_fullTag _).bind fun tag => composes_peek.bind fun next => ?_
  refine Keeps.get.bind fun s => ?_
  have collection (node : Node) {β : Type} {inside : Compose β} (kept : Composes cut inside)
      (filled : β → Content) : Composes cut (do
        let id ← add node
        anchorAt properties.1 id
        fill id (filled (← nested inside))
        return id) := by
    refine (composes_add node).bind fun id => (composes_anchorAt _ id).bind fun _ => ?_
    exact (composes_nested kept).bind fun b => (composes_fill id _).bind fun _ => .pure id
  split
  · exact .throw_bind .malformed
  split
  · split
    · exact collection _ (within.looseItems []) .sequence
    · exact composes_omitted _ _
  · refine composes_skip.bind fun _ => (composes_add _).bind fun id => ?_
    exact (composes_anchorAt _ id).bind fun _ => .pure id
  · exact composes_skip.bind fun _ => collection _ (within.flowItems true []) .sequence
  · exact composes_skip.bind fun _ => collection _ (within.flowEntries true []) .mapping
  · split
    · exact composes_skip.bind fun _ => collection _ (within.blockItems []) .sequence
    · exact composes_omitted _ _
  · split
    · exact composes_skip.bind fun _ => collection _ (within.blockEntries []) .mapping
    · exact composes_omitted _ _
  · exact composes_omitted _ _

theorem ComposesWithin.blockItems_succ (within : ComposesWithin cut fuel) (read : List NodeId) :
    Composes cut (Compose.blockItems (fuel + 1) read) := by
  rw [Compose.blockItems]
  refine composes_peek.bind fun t => ?_
  split
  · refine composes_skip.bind fun _ => composes_peek.bind fun t => ?_
    split
    · exact composes_addEmpty.bind fun _ => within.blockItems _
    · exact composes_addEmpty.bind fun _ => within.blockItems _
    · exact (within.node true false).bind fun _ => within.blockItems _
  · exact composes_skip.bind fun _ => .pure _
  · exact composes_malformed

theorem ComposesWithin.looseItems_succ (within : ComposesWithin cut fuel) (read : List NodeId) :
    Composes cut (Compose.looseItems (fuel + 1) read) := by
  rw [Compose.looseItems]
  refine composes_peek.bind fun t => ?_
  split
  · refine composes_skip.bind fun _ => composes_peek.bind fun t => ?_
    split
    · exact composes_addEmpty.bind fun _ => within.looseItems _
    · exact composes_addEmpty.bind fun _ => within.looseItems _
    · exact composes_addEmpty.bind fun _ => within.looseItems _
    · exact composes_addEmpty.bind fun _ => within.looseItems _
    · exact (within.node true false).bind fun _ => within.looseItems _
  · exact .pure _

theorem ComposesWithin.blockEntries_succ (within : ComposesWithin cut fuel)
    (read : List (NodeId × NodeId)) : Composes cut (Compose.blockEntries (fuel + 1) read) := by
  rw [Compose.blockEntries]
  refine composes_peek.bind fun t => ?_
  split
  · refine composes_skip.bind fun _ => composes_peek.bind fun t => ?_
    extract_lets value
    have kept (key : NodeId) : Composes cut (value key) :=
      within.blockValue.bind fun _ => within.blockEntries _
    split
    · exact composes_addEmpty.bind kept
    · exact (within.node true true).bind kept
  · exact composes_skip.bind fun _ => .pure _
  · exact composes_malformed

theorem ComposesWithin.blockValue_succ (within : ComposesWithin cut fuel) :
    Composes cut (Compose.blockValue (fuel + 1)) := by
  rw [Compose.blockValue]
  refine composes_peek.bind fun t => ?_
  split
  · refine composes_skip.bind fun _ => composes_peek.bind fun t => ?_
    split
    · exact composes_addEmpty
    · exact within.node true true
  · exact composes_addEmpty

theorem ComposesWithin.flowPair_succ (within : ComposesWithin cut fuel) (ends : Token → Bool) :
    Composes cut (Compose.flowPair (fuel + 1) ends) := by
  rw [Compose.flowPair]
  refine composes_peek.bind fun next => ?_
  extract_lets value
  have kept (key : NodeId) : Composes cut (value key) := by
    refine composes_peek.bind fun t => ?_
    split
    · refine composes_skip.bind fun _ => composes_peek.bind fun t => ?_
      dsimp only
      split
      · exact composes_addEmpty.bind fun _ => .pure _
      · exact (within.node false false).bind fun _ => .pure _
    · exact composes_addEmpty.bind fun _ => .pure _
  split
  · exact composes_addEmpty.bind kept
  · exact (within.node false false).bind kept

theorem ComposesWithin.flowItems_succ (within : ComposesWithin cut fuel) (first : Bool)
    (read : List NodeId) : Composes cut (Compose.flowItems (fuel + 1) first read) := by
  rw [Compose.flowItems]
  refine composes_peek.bind fun next => ?_
  split
  · exact composes_skip.bind fun _ => .pure _
  · extract_lets item
    have kept (separated : PUnit) : Composes cut (item separated) := by
      refine composes_peek.bind fun t => ?_
      split
      · exact composes_skip.bind fun _ => .pure _
      · refine composes_skip.bind fun _ => (composes_add _).bind fun id => ?_
        refine (composes_nested (within.flowPair _)).bind fun entry => ?_
        exact (composes_fill _ _).bind fun _ => within.flowItems _ _
      · exact (within.node false false).bind fun _ => within.flowItems _ _
    split
    · exact kept ()
    · exact (composes_separator _).bind kept

theorem ComposesWithin.flowEntries_succ (within : ComposesWithin cut fuel) (first : Bool)
    (read : List (NodeId × NodeId)) :
    Composes cut (Compose.flowEntries (fuel + 1) first read) := by
  rw [Compose.flowEntries]
  refine composes_peek.bind fun next => ?_
  split
  · exact composes_skip.bind fun _ => .pure _
  · extract_lets entry
    have kept (separated : PUnit) : Composes cut (entry separated) := by
      refine composes_peek.bind fun t => ?_
      split
      · exact composes_skip.bind fun _ => .pure _
      · refine composes_skip.bind fun _ => ?_
        exact (within.flowPair _).bind fun _ => within.flowEntries _ _
      · refine (within.node false false).bind fun key => ?_
        exact composes_addEmpty.bind fun _ => within.flowEntries _ _
    split
    · exact kept ()
    · exact (composes_separator _).bind kept

end Readers

/-- The readers of nodes call each other with less fuel, so one induction on it settles all of them.
-/
theorem composesWithin (fuel : Nat) : ComposesWithin cut fuel := by
  induction fuel with
  | zero =>
      exact
        { node := fun _ _ => composes_malformed
          content := fun _ _ => composes_malformed
          blockItems := fun _ => composes_malformed
          looseItems := fun _ => composes_malformed
          blockEntries := fun _ => composes_malformed
          blockValue := composes_malformed
          flowPair := fun _ => composes_malformed
          flowItems := fun _ _ => composes_malformed
          flowEntries := fun _ _ => composes_malformed }
  | succ fuel within =>
      exact
        { node := within.node_succ
          content := within.content_succ
          blockItems := within.blockItems_succ
          looseItems := within.looseItems_succ
          blockEntries := within.blockEntries_succ
          blockValue := within.blockValue_succ
          flowPair := within.flowPair_succ
          flowItems := within.flowItems_succ
          flowEntries := within.flowEntries_succ }

theorem composes_directives (fuel : Nat) (versioned : Bool) (handles : Ordered String) :
    Composes cut (directives fuel versioned handles) := by
  induction fuel generalizing versioned handles with
  | zero => exact composes_malformed
  | succ fuel ih =>
      rw [directives]
      refine composes_peek.bind fun t => ?_
      split
      · refine composes_skip.bind fun _ => ?_
        split
        · exact composes_malformed
        · exact ih _ _
      · refine composes_skip.bind fun _ => ?_
        split
        · exact composes_malformed
        · exact ih _ _
      · exact composes_skip.bind fun _ => ih _ _
      · exact .pure _

theorem composes_head (fuel : Nat) : Composes cut (head fuel) := by
  unfold head
  refine (composes_directives fuel false []).bind fun handles => ?_
  refine Keeps.bind (.modify fun _ same => same) fun _ => composes_peek.bind fun t => ?_
  split
  · exact composes_skip
  · exact composes_malformed

theorem composes_skipEnds (fuel : Nat) : Composes cut (skipEnds fuel) := by
  induction fuel with
  | zero => exact composes_malformed
  | succ fuel ih =>
      rw [skipEnds]
      refine composes_peek.bind fun t => ?_
      split
      · exact composes_skip.bind fun _ => ih
      · exact .pure _

theorem composes_markedRoot (fuel : Nat) : Composes cut (markedRoot fuel) := by
  unfold markedRoot
  refine composes_peek.bind fun t => ?_
  split
  · exact composes_addEmpty
  · exact composes_addEmpty
  · exact composes_addEmpty
  · exact composes_addEmpty
  · exact (composesWithin fuel).node true false

/-- A document is composed, or what is raised is as it may be in a text that is cut. -/
theorem composes_document (fuel : Nat) : Composes cut (document fuel) := by
  unfold document
  refine composes_peek.bind fun first => ?_
  split
  · exact .pure none
  · extract_lets ending
    have kept (root : NodeId) : Composes cut (ending root) := by
      refine (composes_skipEnds fuel).bind fun _ => composes_peek.bind fun t => ?_
      split
      · exact .pure _
      · exact (composes_head fuel).bind fun _ => composes_malformed
    split
    · exact (composes_head fuel).bind fun _ => (composes_markedRoot fuel).bind kept
    · exact (composes_head fuel).bind fun _ => (composes_markedRoot fuel).bind kept
    · refine Keeps.bind (.modify fun _ same => same) fun _ => ?_
      exact ((composesWithin fuel).node true false).bind kept

end Compose

/-- What composing the nodes of a text can raise. -/
theorem ends_nodesOf (text : List Char) (cut : Option Problem) :
    Ends (Raises cut) (fun _ => True) (nodesOf text cut) := by
  unfold nodesOf
  exact (Compose.composes_document _ _ (Lexer.start_cut text cut)).bind fun _ _ => .ok trivial

end Checkup.Yaml
