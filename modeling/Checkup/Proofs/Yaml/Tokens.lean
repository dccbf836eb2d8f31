import Checkup.Proofs.Yaml.Stray

/-!
What cutting a text into tokens can raise.

A cursor never forgets what cuts its text (`Cursor.step_cut` and the lemmas after it). So each
reader, from the parts of scalars up to the next token, raises what cuts the text, or finds the
text malformed, or raises a stray fault, and goes on with a cursor that is cut as before.

Main statements: `reads_quotedScalar`, `reads_blockScalar`, `Token.reads_ofTag`,
`Token.reads_ofDirective` and `Lexer.leads_peek`.
-/

namespace Checkup.Yaml

variable {cut : Option Problem} {c c' : Cursor}

/-! ### Cursors -/

namespace Cursor

@[simp] theorem step_cut (c : Cursor) : c.step.cut = c.cut := by
  unfold step
  split
  · rfl
  · split
    · rfl
    · split <;> rfl

@[simp] theorem move_cut (c : Cursor) (n : Nat) : (c.move n).cut = c.cut := by
  induction n generalizing c with
  | zero => rfl
  | succ n ih => rw [move, ih, step_cut]

@[simp] theorem takeWhile_cut (c : Cursor) (p : Char → Bool) : (c.takeWhile p).2.cut = c.cut :=
  move_cut c _

@[simp] theorem skipWhile_cut (c : Cursor) (p : Char → Bool) : (c.skipWhile p).cut = c.cut :=
  takeWhile_cut c p

@[simp] theorem skipSpaces_cut (c : Cursor) : c.skipSpaces.cut = c.cut := skipWhile_cut c _

@[simp] theorem skipLine_cut (c : Cursor) : c.skipLine.cut = c.cut := skipWhile_cut c _

@[simp] theorem lineBreak_cut (c : Cursor) : c.lineBreak.2.cut = c.cut := by
  unfold lineBreak
  split
  · exact move_cut c 2
  · split
    · exact step_cut c
    · split
      · exact step_cut c
      · rfl
  · rfl

theorem cut_of_lineBreak {ch : Option Char} (broken : c.lineBreak = (ch, c')) :
    c'.cut = c.cut := by
  rw [← lineBreak_cut c, broken]

/-- To look behind the end of a text that is cut raises the problem it is cut for. -/
theorem raises_of_cutWithin (same : c.cut = cut) {n : Nat} {p : Problem}
    (within : c.cutWithin n = some p) : Raises cut p := by
  unfold cutWithin at within
  split at within
  · exact .cut (same ▸ within)
  · cases within

/-- A place where a text cannot go on as it does is malformed, or is where it is cut. -/
theorem raises_misplaced (same : c.cut = cut) : Raises cut c.misplaced := by
  unfold misplaced
  cases here : c.cutHere with
  | none => exact .malformed
  | some p => exact raises_of_cutWithin same here

end Cursor

open Cursor

/-- What a reader raises is as it may be in a text that is cut, and the place it goes on from is one
of that text. -/
abbrev Reads {α : Type} (cut : Option Problem) (x : Except Problem (α × Cursor)) : Prop :=
  Ends (Raises cut) (·.2.cut = cut) x

/-! ### Plain scalars -/

/-- To pass the breaks of a gap stays in one text. -/
theorem gapBreaks_cut (fuel : Nat) (breaks : List Char) (c : Cursor) :
    (gapBreaks fuel breaks c).2.cut = c.cut := by
  induction fuel generalizing breaks c with
  | zero => rfl
  | succ fuel ih =>
      rw [gapBreaks]
      split
      · rw [ih, step_cut]
      · split
        next broken => exact cut_of_lineBreak broken
        next broken =>
          split
          · exact cut_of_lineBreak broken
          · rw [ih, cut_of_lineBreak broken]

theorem cut_of_gapBreaks {fuel : Nat} {breaks : List Char} {others : Option (List Char)}
    (gap : gapBreaks fuel breaks c = (others, c')) : c'.cut = c.cut := by
  rw [← gapBreaks_cut fuel breaks c, gap]

theorem plainGap_cut (c : Cursor) : (plainGap c).behind.cut = c.cut := by
  unfold plainGap
  dsimp only
  have spaces := takeWhile_cut c (· == ' ')
  split
  next broken => rw [cut_of_lineBreak broken, spaces]
  next broken =>
    have behind := (cut_of_lineBreak broken).trans spaces
    split
    · exact behind
    · split
      next gap => exact (cut_of_gapBreaks gap).trans behind
      next gap => exact (cut_of_gapBreaks gap).trans behind

theorem plainParts_cut (inFlow : Bool) (indent : Int) (fuel : Nat) (read : List (List Char))
    (gap : List Char) (lineEnded : Bool) (c : Cursor) :
    (plainParts inFlow indent fuel read gap lineEnded c).2.2.cut = c.cut := by
  induction fuel generalizing read gap lineEnded c with
  | zero => rfl
  | succ fuel ih =>
      rw [plainParts]
      dsimp only
      split
      · rfl
      · split
        · rw [plainGap_cut, move_cut]
        · rw [ih, plainGap_cut, move_cut]

@[simp] theorem plainScalar_cut (inFlow : Bool) (indent : Int) (c : Cursor) :
    (plainScalar inFlow indent c).2.2.cut = c.cut := by
  unfold plainScalar
  exact plainParts_cut inFlow indent _ [] [] false c

/-! ### Quoted scalars -/

theorem ends_codePoint (code : Nat) : Ends (Raises cut) (fun _ => True) (codePoint code) := by
  cases made : codePoint code with
  | ok n => exact .ok trivial
  | error p =>
      cases p with
      | malformed => exact .error .malformed
      | fault f => exact .error (.stray (.codePoint made))

theorem reads_quotedBreaks (fuel : Nat) (breaks : List Char) (same : c.cut = cut) :
    Reads cut (quotedBreaks fuel breaks c) := by
  induction fuel generalizing breaks c with
  | zero => exact .ok same
  | succ fuel ih =>
      rw [quotedBreaks]
      dsimp only
      split
      next within => exact .error (raises_of_cutWithin same within)
      · split
        · exact .error .malformed
        · split
          next broken => exact .ok ((cut_of_lineBreak broken).trans (by simp [same]))
          next broken => exact ih _ ((cut_of_lineBreak broken).trans (by simp [same]))

theorem reads_numberedEscape (width : Nat) (same : c.cut = cut) :
    Reads cut (numberedEscape width c) := by
  unfold numberedEscape
  dsimp only
  split
  · exact (ends_codePoint _).map fun _ _ => by simp [same]
  · exact .error (raises_misplaced (by simp [same]))

/-- An escape is read, or is malformed, or is where the text is cut. -/
theorem reads_escape (same : c.cut = cut) : Reads cut (escape c) := by
  unfold escape
  dsimp only
  split
  · exact .error (raises_misplaced (by simp [same]))
  · split
    · exact .ok (by simp [same])
    · exact reads_numberedEscape _ (by simp [same])
    · split
      · exact .error .malformed
      next broken =>
        refine (reads_quotedBreaks _ [] ?_).map fun _ kept => kept
        exact (cut_of_lineBreak broken).trans (by simp [same])

theorem reads_quotedGap (same : c.cut = cut) : Reads cut (quotedGap c) := by
  unfold quotedGap
  dsimp only
  split
  next broken => exact .ok ((cut_of_lineBreak broken).trans (by simp [same]))
  next broken =>
    refine (reads_quotedBreaks _ [] ?_).map fun _ kept => kept
    exact (cut_of_lineBreak broken).trans (by simp [same])

/-- The parts of a quoted scalar are read one after the other, by induction on the fuel. -/
theorem reads_quotedParts (double : Bool) (fuel : Nat) (read : List Text.Points)
    (same : c.cut = cut) : Reads cut (quotedParts double fuel read c) := by
  induction fuel generalizing read c with
  | zero => exact .error .malformed
  | succ fuel ih =>
      rw [quotedParts]
      split
      · exact .error (raises_misplaced same)
      next ch _ =>
        split
        · exact ih _ (by simp [same])
        · split
          · have gap := reads_quotedGap same
            split
            next raised => exact .error (gap.raised raised)
            next returned => exact ih _ (gap.returned returned)
          · split
            · exact ih _ (by simp [same])
            · by_cases closes : (ch == if double then '"' else '\'') = true
              · rw [if_pos closes]
                exact .ok (by simp [same])
              · rw [if_neg closes]
                split
                · have escaped := reads_escape same
                  split
                  next raised => exact .error (escaped.raised raised)
                  next returned => exact ih _ (escaped.returned returned)
                · exact ih _ (by simp [same])

/-- A quoted scalar is read, or is malformed, or is where the text is cut. -/
theorem reads_quotedScalar (double : Bool) (same : c.cut = cut) :
    Reads cut (quotedScalar double c) :=
  (reads_quotedParts double _ [] (by simp [same])).map fun _ kept => kept

/-! ### Block scalars -/

theorem ends_increment? (ch : Option Char) :
    Ends (Raises cut) (fun _ => True) (increment? ch) := by
  unfold increment?
  split
  · split
    · split
      · exact .error .malformed
      · exact .ok trivial
    · exact .ok trivial
  · exact .ok trivial

theorem ends_blockMarks (same : c.cut = cut) :
    Ends (Raises cut) (·.2.2.cut = cut) (blockMarks c) := by
  have closed (marks : Chomping × Option Nat × Cursor) (kept : marks.2.2.cut = cut) :
      Ends (Raises cut) (·.2.2.cut = cut)
        (if isSpaceOrEnd marks.2.2.peek then .ok marks else .error Problem.malformed) := by
    split
    · exact .ok kept
    · exact .error .malformed
  unfold blockMarks
  dsimp only
  split
  next chomping _ =>
    refine (ends_increment? c.step.peek).bind fun increment _ => ?_
    cases increment with
    | some n => exact closed (chomping, some n, c.step.step) (by simp [same])
    | none => exact closed (chomping, none, c.step) (by simp [same])
  · refine (ends_increment? c.peek).bind fun increment _ => ?_
    cases increment with
    | some n =>
        dsimp only
        split
        next chomping _ => exact closed (chomping, some n, c.step.step) (by simp [same])
        · exact closed (.clip, some n, c.step) (by simp [same])
    | none => exact closed (.clip, none, c) same

theorem ends_ignoredLine (same : c.cut = cut) :
    Ends (Raises cut) (·.cut = cut) (ignoredLine c) := by
  have ended (c : Cursor) (same : c.cut = cut) : Ends (Raises cut) (·.cut = cut)
      (if isLineEnd c.peek then .ok c.lineBreak.2 else .error Problem.malformed) := by
    split
    · exact .ok (by simp [same])
    · exact .error .malformed
  unfold ignoredLine
  refine ended _ ?_
  split <;> simp [same]

theorem blockHead_cut (fuel : Nat) (breaks : List Char) (widest : Nat) (c : Cursor) :
    (blockHead fuel breaks widest c).2.2.cut = c.cut := by
  induction fuel generalizing breaks widest c with
  | zero => rfl
  | succ fuel ih =>
      rw [blockHead]
      split
      · rw [ih, step_cut]
      · split
        next broken => exact cut_of_lineBreak broken
        next broken => rw [ih, cut_of_lineBreak broken]

theorem skipIndent_cut (indent fuel : Nat) (c : Cursor) :
    (skipIndent indent fuel c).cut = c.cut := by
  induction fuel generalizing c with
  | zero => rfl
  | succ fuel ih =>
      rw [skipIndent]
      split
      · rw [ih, step_cut]
      · rfl

theorem blockBreaks_cut (indent fuel : Nat) (breaks : List Char) (c : Cursor) :
    (blockBreaks indent fuel breaks c).2.cut = c.cut := by
  induction fuel generalizing breaks c with
  | zero => rfl
  | succ fuel ih =>
      rw [blockBreaks]
      split
      next broken => rw [cut_of_lineBreak broken, skipIndent_cut]
      next broken => rw [ih, cut_of_lineBreak broken, skipIndent_cut]

theorem blockLines_cut (fold : Bool) (indent fuel : Nat) (read : List (List Char))
    (breaks : List Char) (c : Cursor) :
    (blockLines fold indent fuel read breaks c).2.2.2.cut = c.cut := by
  induction fuel generalizing read breaks c with
  | zero => rfl
  | succ fuel ih =>
      rw [blockLines]
      dsimp only
      split
      · rfl
      · split
        · rw [ih, blockBreaks_cut, lineBreak_cut, takeWhile_cut]
        · rw [blockBreaks_cut, lineBreak_cut, takeWhile_cut]

/-- A block scalar is read, or is malformed, or is where the text is cut. -/
theorem reads_blockScalar (fold : Bool) (outer : Int) (same : c.cut = cut) :
    Reads cut (blockScalar fold outer c) := by
  unfold blockScalar
  refine (ends_blockMarks (by simp [same])).bind fun marks marked => ?_
  refine (ends_ignoredLine marked).bind fun c kept => ?_
  obtain ⟨chomping, increment, _⟩ := marks
  cases increment with
  | some n =>
      dsimp only
      exact .ok (((blockLines_cut ..).trans (blockBreaks_cut ..)).trans kept)
  | none =>
      dsimp only
      exact .ok (((blockLines_cut ..).trans (blockHead_cut ..)).trans kept)

/-! ### Tokens with a text of their own -/

namespace Token

theorem reads_name (same : c.cut = cut) : Reads cut (name c) := by
  unfold name
  dsimp only
  split
  · exact .error (raises_misplaced (by simp [same]))
  · exact .ok (by simp [same])

theorem reads_handle (same : c.cut = cut) : Reads cut (handle c) := by
  unfold handle
  dsimp only
  split
  · exact .error (raises_misplaced same)
  · split
    · exact .ok (by simp [same])
    · split
      · exact .ok (by simp [same])
      · exact .error (raises_misplaced (by simp [same]))

theorem reads_percentBytes (fuel : Nat) (bytes : List UInt8) (same : c.cut = cut) :
    Reads cut (percentBytes fuel bytes c) := by
  induction fuel generalizing bytes c with
  | zero => exact .ok same
  | succ fuel ih =>
      rw [percentBytes]
      split
      · split
        · exact ih _ (by simp [same])
        · exact .error .malformed
      · exact .error (raises_misplaced (by simp [same]))
      · exact .ok same

/-- The text of a tag is read character by character, by induction on the fuel. -/
theorem reads_tagText (fuel : Nat) (read : List (List Char)) (same : c.cut = cut) :
    Reads cut (tagText fuel read c) := by
  induction fuel generalizing read c with
  | zero => exact .ok same
  | succ fuel ih =>
      rw [tagText]
      dsimp only
      split
      · refine (reads_percentBytes _ [] (by simp [same])).bind fun bytes kept => ?_
        split
        · exact ih _ kept
        · exact .error .malformed
      · split
        · exact .error (raises_misplaced (by simp [same]))
        · exact .ok (by simp [same])

theorem reads_suffix (same : c.cut = cut) : Reads cut (suffix c) :=
  (reads_tagText _ [] same).map fun _ kept => kept

/-- A tag is read, or is malformed, or is where the text is cut. -/
theorem reads_ofTag (same : c.cut = cut) : Reads cut (ofTag c) := by
  have closed (read : Token × Cursor) (kept : read.2.cut = cut) :
      Reads cut (if isSpaceOrEnd read.2.peek then .ok read else .error read.2.misplaced) := by
    split
    · exact .ok kept
    · exact .error (raises_misplaced kept)
  unfold ofTag
  dsimp only
  split
  · refine (reads_suffix (by simp [same])).bind fun text kept => ?_
    split
    · exact closed (.tag none text.1, text.2.step) (by simp [kept])
    · exact .error (raises_misplaced kept)
  · split
    · exact closed (.tag none "!", c.step) (by simp [same])
    · split
      next within => exact .error (raises_of_cutWithin same within)
      · split
        · refine (reads_handle same).bind fun front kept => ?_
          refine (reads_suffix kept).bind fun text kept => ?_
          exact closed (.tag (some front.1) text.1, text.2) kept
        · refine (reads_suffix (by simp [same] : c.step.cut = cut)).bind fun text kept => ?_
          exact closed (.tag (some "!") text.1, text.2) kept

theorem reads_number (same : c.cut = cut) : Reads cut (number c) := by
  unfold number
  dsimp only
  split
  · exact .error (raises_misplaced (by simp [same]))
  · split
    next long => exact .error (.stray (.tooLong long))
    · exact .ok (by simp [same])

/-- A directive is read, or is malformed, or is where the text is cut. -/
theorem reads_ofDirective (same : c.cut = cut) : Reads cut (ofDirective c) := by
  have closed (d : Directive) {c : Cursor} (same : c.cut = cut) :
      Reads cut (do let c ← ignoredLine c; pure (Token.directive d, c)) :=
    (ends_ignoredLine same).bind fun _ kept => .ok kept
  unfold ofDirective
  dsimp only
  split
  · exact .error (raises_misplaced (by simp [same]))
  · split
    · refine (reads_number (by simp [same])).bind fun major kept => ?_
      split
      · exact .error (raises_misplaced kept)
      · refine (reads_number (by simp [kept])).bind fun minor kept => ?_
        split
        · exact .error (raises_misplaced kept)
        · exact closed (.version major.1 minor.1) kept
    · split
      · refine (reads_handle (by simp [same])).bind fun front kept => ?_
        split
        · exact .error (raises_misplaced kept)
        · refine (reads_suffix (by simp [kept])).bind fun standsFor kept => ?_
          split
          · exact .error (raises_misplaced kept)
          · exact closed (.tagHandle front.1 standsFor.1) kept
      · exact closed .other (by simp [same])

end Token

/-! ### Cutting -/

namespace Lexer

/-- What a step of cutting raises is as it may be in a text that is cut, and the lexer it leads to
is one of that text. -/
abbrev Leads (cut : Option Problem) (x : Except Problem Lexer) : Prop :=
  Ends (Raises cut) (·.cursor.cut = cut) x

variable {l : Lexer}

theorem leads_giveUpKey (same : l.cursor.cut = cut) : Leads cut l.giveUpKey := by
  unfold giveUpKey
  split
  · exact .ok same
  · split
    · exact .error .malformed
    · exact .ok same

theorem leads_giveUpStale (same : l.cursor.cut = cut) : Leads cut l.giveUpStale := by
  unfold giveUpStale
  dsimp only
  split
  · exact .error .malformed
  · exact .ok same

theorem leads_saveKey (same : l.cursor.cut = cut) : Leads cut l.saveKey := by
  unfold saveKey
  split
  · exact (leads_giveUpKey same).bind fun l kept => .ok kept
  · exact .ok same

theorem closeBlocks_cursor (column : Int) (outer : List Int) (l : Lexer) :
    (closeBlocks column outer l).cursor = l.cursor := by
  induction outer generalizing l with
  | nil => rfl
  | cons next outer ih =>
      rw [closeBlocks]
      split
      · rw [ih]
        rfl
      · rfl

@[simp] theorem unwind_cursor (l : Lexer) (column : Int) : (l.unwind column).cursor = l.cursor := by
  unfold unwind
  split
  · exact closeBlocks_cursor ..
  · rfl

@[simp] theorem openBlock_cursor (l : Lexer) (column : Nat) :
    (l.openBlock column).2.cursor = l.cursor := by
  unfold openBlock
  split <;> rfl

theorem skipBlanks_cut (fuel : Nat) (l : Lexer) :
    (skipBlanks fuel l).cursor.cut = l.cursor.cut := by
  induction fuel generalizing l with
  | zero => rfl
  | succ fuel ih =>
      have behind : (if (l.cursor.skipSpaces.peek == some '#') = true then
          l.cursor.skipSpaces.skipLine else l.cursor.skipSpaces).cut = l.cursor.cut := by
        split <;> simp
      rw [skipBlanks]
      generalize (if (l.cursor.skipSpaces.peek == some '#') = true then
        l.cursor.skipSpaces.skipLine else l.cursor.skipSpaces) = c at behind
      split
      next broken => exact (cut_of_lineBreak broken).trans behind
      next broken => exact (ih _).trans ((cut_of_lineBreak broken).trans behind)

/-- A block that may have to be opened in front of a mark, outside brackets. -/
theorem cut_opened {start : Token} (same : l.cursor.cut = cut) :
    (if (l.openBlock l.cursor.column).1 = true then (l.openBlock l.cursor.column).2.push start
      else (l.openBlock l.cursor.column).2).cursor.cut = cut := by
  have opened : (l.openBlock l.cursor.column).2.cursor.cut = cut := by rwa [openBlock_cursor]
  split <;> exact opened

theorem leads_reset (same : l.cursor.cut = cut) : Leads cut l.reset :=
  (leads_giveUpKey (by simp [same])).bind fun _ kept => .ok kept

theorem leads_openFlow (t : Token) (same : l.cursor.cut = cut) : Leads cut (l.openFlow t) :=
  (leads_saveKey same).bind fun l kept => .ok ((move_cut l.cursor 1).trans kept)

theorem leads_closeFlow (t : Token) (same : l.cursor.cut = cut) : Leads cut (l.closeFlow t) :=
  (leads_giveUpKey same).bind fun l kept => .ok ((move_cut l.cursor 1).trans kept)

theorem leads_flowEntry (same : l.cursor.cut = cut) : Leads cut l.flowEntry :=
  (leads_giveUpKey same).bind fun l kept => .ok ((move_cut l.cursor 1).trans kept)

theorem leads_blockEntry (same : l.cursor.cut = cut) : Leads cut l.blockEntry := by
  have marked {l : Lexer} (same : l.cursor.cut = cut) : Leads cut (do
      let l ← l.giveUpKey
      return { l.take .blockEntry 1 with allowKey := true }) :=
    (leads_giveUpKey same).bind fun l kept => .ok ((move_cut l.cursor 1).trans kept)
  unfold blockEntry
  dsimp only
  split
  · split
    · exact marked (cut_opened same)
    · exact .error .malformed
  · exact marked same

theorem leads_keyMark (same : l.cursor.cut = cut) : Leads cut l.keyMark := by
  have marked {l : Lexer} (same : l.cursor.cut = cut) : Leads cut (do
      let l ← l.giveUpKey
      return { l.take .key 1 with allowKey := l.flow == 0 }) :=
    (leads_giveUpKey same).bind fun l kept => .ok ((move_cut l.cursor 1).trans kept)
  unfold keyMark
  dsimp only
  split
  · split
    · exact marked (cut_opened same)
    · exact .error .malformed
  · exact marked same

theorem leads_valueMark (same : l.cursor.cut = cut) : Leads cut l.valueMark := by
  have marked {l : Lexer} (same : l.cursor.cut = cut) : Leads cut (do
      let l ← ({ l with allowKey := l.flow == 0 } : Lexer).giveUpKey
      return l.take .value 1) :=
    (leads_giveUpKey (l := { l with allowKey := l.flow == 0 }) same).bind fun l kept =>
      .ok ((move_cut l.cursor 1).trans kept)
  unfold valueMark
  split
  next key _ =>
    refine .ok ((move_cut _ 1).trans ?_)
    split
    · have opened : ((l.dropKey.insert key.position .key).openBlock key.column).2.cursor.cut =
          cut := by
        rw [openBlock_cursor]
        exact same
      dsimp only
      split <;> exact opened
    · exact same
  · split
    · split
      · exact marked (cut_opened same)
      · exact .error .malformed
    · exact marked same

theorem leads_keyLike {read : Cursor → Except Problem (Token × Cursor)}
    (reads : ∀ {c : Cursor}, c.cut = cut → Reads cut (read c)) (same : l.cursor.cut = cut) :
    Leads cut (l.keyLike read) := by
  unfold keyLike
  refine (leads_saveKey same).bind fun l kept => ?_
  exact (reads kept).bind fun _ kept => .ok kept

theorem leads_plain (same : l.cursor.cut = cut) : Leads cut l.plain := by
  unfold plain
  refine (leads_saveKey same).bind fun l kept => ?_
  dsimp only
  split
  next within => exact .error (raises_of_cutWithin (by simp [kept]) within)
  · exact .ok (by simp [took, kept])

theorem leads_block (fold : Bool) (same : l.cursor.cut = cut) : Leads cut (l.block fold) := by
  unfold block
  refine (leads_giveUpKey same).bind fun l kept => ?_
  exact (reads_blockScalar fold _ kept).bind fun _ kept => .ok kept

theorem leads_unlessCut (n : Nat) (same : l.cursor.cut = cut) : Leads cut (l.unlessCut n) := by
  unfold unlessCut
  split
  next within => exact .error (raises_of_cutWithin same within)
  · exact .ok same

theorem leads_finish (same : l.cursor.cut = cut) : Leads cut l.finish :=
  (leads_reset same).bind fun _ kept => .ok kept

/-- Whatever the next character, what is cut off there stays in one text. -/
theorem leads_dispatch (ch : Char) (same : l.cursor.cut = cut) : Leads cut (l.dispatch ch) := by
  have directive : Leads cut (do
      let l ← l.reset
      return l.took (← Token.ofDirective l.cursor)) := by
    refine (leads_reset same).bind fun l kept => ?_
    exact (Token.reads_ofDirective kept).bind fun _ kept => .ok kept
  have marked (t : Token) : Leads cut (do return (← l.reset).take t 3) :=
    (leads_reset same).bind fun l kept => .ok ((move_cut l.cursor 3).trans kept)
  have named (token : String × Cursor → Token) : Leads cut (l.keyLike fun c =>
      (Token.name c).map fun r => (token r, r.2)) :=
    leads_keyLike (fun same => (Token.reads_name same).map fun _ kept => kept) same
  have quoted (double : Bool) : Leads cut (l.keyLike fun c =>
      (quotedScalar double c).map fun r => (.scalar r.1 false, r.2)) :=
    leads_keyLike (fun same => (reads_quotedScalar double same).map fun _ kept => kept) same
  unfold dispatch
  refine .ite directive ?_
  refine .ite (marked _) (.ite (marked _) ?_)
  refine .ite (leads_openFlow _ same) (.ite (leads_openFlow _ same) ?_)
  refine .ite (leads_closeFlow _ same) (.ite (leads_closeFlow _ same) ?_)
  refine .ite (leads_flowEntry same) ?_
  refine .ite (leads_blockEntry same) ?_
  refine .ite (leads_keyMark same) ?_
  refine .ite (leads_valueMark same) ?_
  refine .ite (named _) (.ite (named _) ?_)
  refine .ite (leads_keyLike Token.reads_ofTag same) ?_
  refine .ite (leads_block false same) (.ite (leads_block true same) ?_)
  refine .ite (quoted false) (.ite (quoted true) ?_)
  exact .ite (leads_plain same) (.error .malformed)

/-- A further token is cut off from one text. -/
theorem leads_next (same : l.cursor.cut = cut) : Leads cut l.next := by
  unfold next
  refine (leads_unlessCut 1 ((skipBlanks_cut _ l).trans same)).bind fun l kept => ?_
  refine (leads_giveUpStale kept).bind fun l kept => ?_
  dsimp only
  split
  · exact leads_finish (by simp [kept])
  · refine (leads_unlessCut _ (by simp [kept])).bind fun l kept => ?_
    exact (leads_dispatch _ kept).bind fun l kept => leads_unlessCut 1 kept

theorem leads_settle (fuel : Nat) (same : l.cursor.cut = cut) : Leads cut (settle fuel l) := by
  induction fuel generalizing l with
  | zero => exact .ok same
  | succ fuel ih =>
      have advanced {l : Lexer} (same : l.cursor.cut = cut) :
          Leads cut (if l.isOpen then (do settle fuel (← l.next)) else .ok l) := by
        split
        · exact (leads_next same).bind fun l kept => ih kept
        · exact .ok same
      rw [settle]
      split
      · exact .ok same
      · split
        · exact advanced same
        · exact (leads_giveUpStale same).bind fun l kept => advanced kept

/-- To look at the next token stays in one text. -/
theorem leads_peek (same : l.cursor.cut = cut) :
    Ends (Raises cut) (·.2.cursor.cut = cut) l.peek :=
  (leads_settle _ same).bind fun _ kept => .ok kept

theorem start_cut (text : List Char) (cut : Option Problem) :
    (start text cut).cursor.cut = cut := by
  unfold start
  dsimp only
  split
  · exact step_cut _
  · rfl

end Lexer

end Checkup.Yaml
