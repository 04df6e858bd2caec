/-
Templates in one pass. A template is literal text and placeholders in turn, and there is only one way to cut it so
that no placeholder begins inside a literal. The names of a template are those of the placeholders of this cut, and
to interpolate is to put the texts of values in their places: the literals, and the placeholders without a value,
stay as they are written, and what is put in is not looked at again.

What stands at some place of a text as a placeholder is settled by the text (`placeholder?_eq_some_iff`), so the scan
from left to right and any cut take the same pieces (`Cut.Of.pieces_eq`), and pieces can be put together to a cut in
only one way (`Cut.ofPieces`).
-/
import Dialogue.Proofs.Text.Name

namespace Dialogue

/-! ## Placeholders -/

/-- What is a placeholder: a name in double braces, with blanks around it or not. -/
def Placeholder.Valid (p : Placeholder) : Prop :=
  Text.IsName p.name ∧ ∃ before behind : List Char, before.all Text.isBlank = true ∧
    behind.all Text.isBlank = true ∧
    p.written = ['\x7b', '\x7b'] ++ before ++ p.name ++ behind ++ ['\x7d', '\x7d']

/-- The name in a piece. -/
def Piece.name? : Piece → Option String
  | .placeholder p => some (String.ofList p.name)
  | .plain _ => none

theorem Placeholder.Valid.written_ne_nil {p : Placeholder} (h : p.Valid) : p.written ≠ [] := by
  obtain ⟨-, before, behind, -, -, hwritten⟩ := h
  rw [hwritten]
  simp

namespace Template

theorem placeholder?_of_prefix {p : Placeholder} (hp : p.Valid) (rest : List Char) :
    placeholder? (p.written ++ rest) = some p := by
  obtain ⟨written, name⟩ := p
  obtain ⟨hname, before, behind, hbefore, hbehind, hwritten⟩ := hp
  dsimp only at hname hwritten ⊢
  subst hwritten
  -- a brace is neither blank nor part of a name
  have hbrace : ∀ c, ('\x7d' :: '\x7d' :: rest).head? = some c →
      Text.isBlank c = false ∧ Text.continuesName c = false := by
    rintro c ⟨⟩
    decide
  have hblank : ∀ c, ('\x7d' :: '\x7d' :: rest).head? = some c → Text.isBlank c = false := fun c hc => (hbrace c hc).1
  have hfirst := hname.isBlank_head (behind ++ '\x7d' :: '\x7d' :: rest)
  have hnext := Text.continuesName_head hbehind fun c hc => (hbrace c hc).2
  have htext : ['\x7b', '\x7b'] ++ before ++ name ++ behind ++ ['\x7d', '\x7d'] ++ rest =
      '\x7b' :: '\x7b' :: (before ++ (name ++ (behind ++ '\x7d' :: '\x7d' :: rest))) := by simp
  rw [htext]
  simp only [placeholder?, Text.trimStart_append_of_head hbefore hfirst, name?_append hname hnext,
    Text.trimStart_append_of_head hbehind hblank, Text.takeWhile_append_of_head hbefore hfirst,
    Text.takeWhile_append_of_head hbehind hblank]

/-- What a text starts with as a placeholder is the one placeholder that it starts with. -/
theorem placeholder?_eq_some_iff {s : List Char} {p : Placeholder} :
    placeholder? s = some p ↔ p.Valid ∧ p.written <+: s := by
  constructor
  · intro h
    unfold placeholder? at h
    split at h
    · rename_i r
      split at h
      · cases h
      · rename_i name rest hname
        obtain ⟨hname, hstart, -⟩ := name?_eq_some_iff.1 hname
        split at h
        · rename_i behind hbehind
          cases h
          refine ⟨⟨hname, _, _, Text.all_takeWhile_isBlank r, Text.all_takeWhile_isBlank rest, rfl⟩, behind, ?_⟩
          have hr := Text.takeWhile_append_trimStart r
          have hrest := Text.takeWhile_append_trimStart rest
          rw [hstart] at hr
          rw [hbehind] at hrest
          conv => rhs; rw [← hr, ← hrest]
          simp
        · cases h
    · cases h
  · rintro ⟨hp, rest, rfl⟩
    exact placeholder?_of_prefix hp rest

/-! ## Pieces -/

theorem piecesAfter_eq (n : Nat) (s : List Char) : piecesAfter n s = pieces (s.drop n) := by
  induction s generalizing n with
  | nil => cases n <;> rfl
  | cons c r ih =>
    cases n with
    | zero => rfl
    | succ n => exact ih n

theorem pieces_of_none {c : Char} {r : List Char} (h : placeholder? (c :: r) = none) :
    pieces (c :: r) = .plain c :: pieces r := by
  rw [pieces, piecesAfter, h]
  rfl

theorem pieces_of_placeholder {p : Placeholder} (hp : p.Valid) (rest : List Char) :
    pieces (p.written ++ rest) = .placeholder p :: pieces rest := by
  have h := placeholder?_of_prefix hp rest
  -- the scan skips what is written behind the first brace
  obtain ⟨c, r, hr⟩ := List.exists_cons_of_ne_nil hp.written_ne_nil
  rw [hr, List.cons_append] at h ⊢
  have hskipped : piecesAfter (p.written.length - 1) (r ++ rest) = pieces rest := by
    rw [piecesAfter_eq, hr, List.length_cons, Nat.add_sub_cancel, List.drop_left]
  rw [pieces, piecesAfter, h]
  simp only [hskipped]

/-- The scan is at the end, at a character that stands for itself, or at a placeholder. -/
theorem pieces_cases (s : List Char) : (s = [] ∧ pieces s = []) ∨
    (∃ c r, s = c :: r ∧ placeholder? (c :: r) = none ∧ pieces s = .plain c :: pieces r) ∨
    ∃ p rest, p.Valid ∧ s = p.written ++ rest ∧ pieces s = .placeholder p :: pieces rest := by
  cases s with
  | nil => exact .inl ⟨rfl, rfl⟩
  | cons c r =>
    cases h : placeholder? (c :: r) with
    | none => exact .inr (.inl ⟨c, r, rfl, h, pieces_of_none h⟩)
    | some p =>
      obtain ⟨hvalid, rest, hrest⟩ := placeholder?_eq_some_iff.1 h
      exact .inr (.inr ⟨p, rest, hvalid, hrest.symm, hrest ▸ pieces_of_placeholder hvalid rest⟩)

/-- No placeholder begins inside a literal, with more text behind it. -/
def Bare (literal behind : List Char) : Prop :=
  ∀ front back, literal = front ++ back → back ≠ [] → ∀ p : Placeholder, p.Valid → ¬ p.written <+: back ++ behind

theorem Bare.nil (behind : List Char) : Bare [] behind := by
  intro front back h hne
  exact absurd (List.append_eq_nil_iff.1 h.symm).2 hne

theorem bare_cons_iff {c : Char} {literal behind : List Char} :
    Bare (c :: literal) behind ↔ placeholder? (c :: (literal ++ behind)) = none ∧ Bare literal behind := by
  constructor
  · intro h
    refine ⟨?_, fun front back hl hne => h (c :: front) back (by rw [hl]; rfl) hne⟩
    cases hp : placeholder? (c :: (literal ++ behind)) with
    | none => rfl
    | some p =>
      obtain ⟨hvalid, hprefix⟩ := placeholder?_eq_some_iff.1 hp
      exact absurd hprefix (h [] (c :: literal) rfl nofun p hvalid)
  · rintro ⟨hnone, hbare⟩ front back hl hne p hvalid hprefix
    cases front with
    | nil =>
      rw [List.nil_append] at hl
      rw [← hl, List.cons_append] at hprefix
      rw [placeholder?_eq_some_iff.2 ⟨hvalid, hprefix⟩] at hnone
      cases hnone
    | cons d front =>
      cases hl
      exact hbare front back rfl hne p hvalid hprefix

theorem pieces_of_bare {literal behind : List Char} (h : Bare literal behind) :
    pieces (literal ++ behind) = literal.map .plain ++ pieces behind := by
  induction literal with
  | nil => rfl
  | cons c literal ih =>
    obtain ⟨hnone, hbare⟩ := bare_cons_iff.1 h
    rw [List.cons_append, pieces_of_none hnone, ih hbare]
    rfl

end Template

/-! ## Cuts -/

/-- Literal text and placeholders in turn: a literal, and placeholders with a literal behind each. -/
structure Cut where
  lead : List Char
  parts : List (Placeholder × List Char)
deriving DecidableEq, Repr

namespace Cut

/-- The text of placeholders with a literal behind each. -/
def writtenParts (parts : List (Placeholder × List Char)) : List Char :=
  parts.flatMap fun part => part.1.written ++ part.2

/-- The text that is cut. -/
def written (cut : Cut) : List Char := cut.lead ++ writtenParts cut.parts

/-- The names in the placeholders, in order. -/
def names (cut : Cut) : List String := cut.parts.map fun part => String.ofList part.1.name

/-- What a placeholder is replaced by: the text of the value of its name, or itself when there is none. -/
def replacement (vars : Variables) (p : Placeholder) : List Char :=
  ((vars.lookupText (String.ofList p.name)).map String.toList).getD p.written

/-- The text with the placeholders replaced. -/
def filled (vars : Variables) (cut : Cut) : List Char :=
  cut.lead ++ cut.parts.flatMap fun part => replacement vars part.1 ++ part.2

/-- A cut of a template into literals and placeholders, with no placeholder that begins inside a literal. -/
structure Of (cut : Cut) (template : List Char) : Prop where
  written_eq : cut.written = template
  valid : ∀ part ∈ cut.parts, part.1.Valid
  bare_lead : Template.Bare cut.lead (writtenParts cut.parts)
  bare_parts : ∀ earlier part later, cut.parts = earlier ++ part :: later →
    Template.Bare part.2 (writtenParts later)

/-! ## Cuts and pieces -/

/-- The pieces of a literal and of the parts behind it. -/
def pieces (cut : Cut) : List Piece :=
  cut.lead.map .plain ++ cut.parts.flatMap fun part => .placeholder part.1 :: part.2.map .plain

/-- The cut that pieces make up. -/
def ofPieces : List Piece → Cut
  | [] => ⟨[], []⟩
  | .plain c :: rest => ⟨c :: (ofPieces rest).lead, (ofPieces rest).parts⟩
  | .placeholder p :: rest => ⟨[], (p, (ofPieces rest).lead) :: (ofPieces rest).parts⟩

theorem ofPieces_literal (literal : List Char) (rest : List Piece) :
    ofPieces (literal.map .plain ++ rest) = ⟨literal ++ (ofPieces rest).lead, (ofPieces rest).parts⟩ := by
  induction literal with
  | nil => rfl
  | cons c literal ih => rw [List.map_cons, List.cons_append, ofPieces, ih, List.cons_append]

theorem ofPieces_pieces (cut : Cut) : ofPieces cut.pieces = cut := by
  obtain ⟨lead, parts⟩ := cut
  show ofPieces (lead.map .plain ++ parts.flatMap _) = _
  induction parts generalizing lead with
  | nil =>
    rw [ofPieces_literal]
    simp [ofPieces]
  | cons part parts ih =>
    rw [ofPieces_literal, List.flatMap_cons, List.cons_append, ofPieces, ih]
    simp

theorem pieces_writtenParts {parts : List (Placeholder × List Char)} (hvalid : ∀ part ∈ parts, part.1.Valid)
    (hbare : ∀ earlier part later, parts = earlier ++ part :: later → Template.Bare part.2 (writtenParts later)) :
    Template.pieces (writtenParts parts) = parts.flatMap fun part => .placeholder part.1 :: part.2.map .plain := by
  induction parts with
  | nil => rfl
  | cons part parts ih =>
    rw [List.forall_mem_cons] at hvalid
    have hrest := ih hvalid.2 fun earlier p later h => hbare (part :: earlier) p later (by rw [h]; rfl)
    have htext : writtenParts (part :: parts) = part.1.written ++ (part.2 ++ writtenParts parts) := by
      simp [writtenParts]
    rw [htext, Template.pieces_of_placeholder hvalid.1, Template.pieces_of_bare (hbare [] part parts rfl), hrest]
    rfl

/-- The scan of a template finds the pieces of every cut of it. -/
theorem Of.pieces_eq {cut : Cut} {template : List Char} (h : cut.Of template) :
    Template.pieces template = cut.pieces := by
  rw [← h.written_eq, written, Template.pieces_of_bare h.bare_lead, pieces_writtenParts h.valid h.bare_parts]
  rfl

theorem Of.unique {cut other : Cut} {template : List Char} (h : cut.Of template) (ho : other.Of template) :
    other = cut := by
  rw [← ofPieces_pieces other, ← ho.pieces_eq, h.pieces_eq, ofPieces_pieces]

theorem Of.plain {cut : Cut} {c : Char} {r : List Char} (h : cut.Of r)
    (hnone : Template.placeholder? (c :: r) = none) : Of ⟨c :: cut.lead, cut.parts⟩ (c :: r) where
  written_eq := congrArg (c :: ·) h.written_eq
  valid := h.valid
  bare_lead := by
    refine Template.bare_cons_iff.2 ⟨?_, h.bare_lead⟩
    rw [show cut.lead ++ writtenParts cut.parts = r from h.written_eq, hnone]
  bare_parts := h.bare_parts

theorem Of.placeholder {cut : Cut} {p : Placeholder} {rest : List Char} (h : cut.Of rest) (hvalid : p.Valid) :
    Of ⟨[], (p, cut.lead) :: cut.parts⟩ (p.written ++ rest) where
  written_eq := by
    rw [← h.written_eq]
    simp [written, writtenParts]
  valid := List.forall_mem_cons.2 ⟨hvalid, h.valid⟩
  bare_lead := .nil _
  bare_parts := by
    intro earlier part later heq
    cases earlier with
    | nil =>
      cases heq
      exact h.bare_lead
    | cons first earlier => exact h.bare_parts earlier part later (List.cons.inj heq).2

/-- The pieces that the scan of a template finds make up a cut of it. -/
theorem of_ofPieces (template : List Char) : (ofPieces (Template.pieces template)).Of template := by
  rcases Template.pieces_cases template with ⟨ht, hpieces⟩ | ⟨c, r, ht, hnone, hpieces⟩ |
    ⟨p, rest, hvalid, ht, hpieces⟩
  · rw [hpieces, ht]
    exact ⟨rfl, nofun, .nil _, fun earlier _ _ h => by cases earlier <;> cases h⟩
  · rw [hpieces, ht]
    exact (of_ofPieces r).plain hnone
  · rw [hpieces, ht]
    exact (of_ofPieces rest).placeholder hvalid
termination_by template.length
decreasing_by
  · rw [ht]
    exact Nat.lt_succ_self _
  · have := List.length_pos_iff.2 hvalid.written_ne_nil
    rw [ht, List.length_append]
    omega

/-! ## Names and values of the pieces -/

theorem name?_literal (literal : List Char) : (literal.map Piece.plain).filterMap Piece.name? = [] := by
  rw [List.filterMap_map]
  exact List.filterMap_eq_nil_iff.2 fun _ _ => rfl

theorem Of.names_eq {cut : Cut} {template : String} (h : cut.Of template.toList) :
    Template.names template = cut.names := by
  have hnames : Template.names template = (Template.pieces template.toList).filterMap Piece.name? := rfl
  have hpart (part : Placeholder × List Char) :
      (Piece.placeholder part.1 :: part.2.map Piece.plain).filterMap Piece.name? = [String.ofList part.1.name] :=
    congrArg (String.ofList part.1.name :: ·) (name?_literal part.2)
  rw [hnames, h.pieces_eq, pieces, List.filterMap_append, name?_literal, List.nil_append, List.filterMap_flatMap]
  simp only [hpart]
  exact (List.map_eq_flatMap ..).symm

theorem fill_literal (vars : Variables) (literal : List Char) :
    (literal.map Piece.plain).flatMap (Template.fill vars) = literal := by
  rw [List.flatMap_map]
  exact List.flatMap_singleton' literal

theorem fill_placeholder (vars : Variables) (p : Placeholder) :
    Template.fill vars (.placeholder p) = replacement vars p := by
  simp only [Template.fill, replacement]
  cases vars.lookupText (String.ofList p.name) <;> rfl

theorem Of.interpolate_eq {cut : Cut} {template : String} (h : cut.Of template.toList) (vars : Variables) :
    interpolate vars template = String.ofList (cut.filled vars) := by
  unfold interpolate filled
  rw [h.pieces_eq, pieces, List.flatMap_append, fill_literal, List.flatMap_assoc]
  simp only [List.flatMap_cons, fill_placeholder, fill_literal]

theorem filled_congr {cut : Cut} {vars vars' : Variables}
    (h : ∀ name ∈ cut.names, vars'.lookupText name = vars.lookupText name) : cut.filled vars' = cut.filled vars := by
  have hparts : ∀ part ∈ cut.parts, replacement vars' part.1 = replacement vars part.1 := by
    intro part hpart
    unfold replacement
    rw [h _ (List.mem_map.2 ⟨part, hpart, rfl⟩)]
  unfold filled
  rw [List.flatMap_def, List.flatMap_def, List.map_congr_left fun part hpart => by rw [hparts part hpart]]

end Cut

/-- Every template is cut into literals and placeholders in exactly one way with no placeholder that begins inside a
literal. Its names are those of the placeholders, in order, and interpolation leaves the literals and puts the text
of its value for each placeholder whose name has one, so that it gives the same wherever these names have the same
texts. -/
theorem Template.single_pass (template : String) : ∃ cut : Cut, cut.Of template.toList ∧
    (∀ other : Cut, other.Of template.toList → other = cut) ∧ Template.names template = cut.names ∧
    (∀ vars, interpolate vars template = String.ofList (cut.filled vars)) ∧
    ∀ vars vars' : Variables, (∀ name ∈ cut.names, vars'.lookupText name = vars.lookupText name) →
      interpolate vars' template = interpolate vars template := by
  have hcut := Cut.of_ofPieces template.toList
  refine ⟨_, hcut, fun other ho => hcut.unique ho, hcut.names_eq, hcut.interpolate_eq, ?_⟩
  intro vars vars' h
  rw [hcut.interpolate_eq, hcut.interpolate_eq, Cut.filled_congr h]

/-- Of three braces the first one is literal text. -/
example : Cut.ofPieces (Template.pieces "\x7b\x7b\x7b a\x7d\x7d\x7d".toList) =
    ⟨['\x7b'], [(⟨"\x7b\x7b a\x7d\x7d".toList, ['a']⟩, ['\x7d'])]⟩ := by
  decide +kernel

end Dialogue
