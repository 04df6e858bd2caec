/-
Documents that are read of YAML text hold what text can hold: a word stands for an integer only if it is in the range
of integers, and the number of any other word is rounded to a double. Aliases add nothing to that, for what they stand
for is made of the same leaves.
-/
import Dialogue.Proofs.Document.Range
import Dialogue.Yaml.Read

namespace Dialogue

/-! ## Words -/

namespace Word

theorem digits?_le {base limit n : Nat} {ds : List Char} (h : digits? base limit ds = some n) : n ≤ limit := by
  unfold digits? at h
  split_ifs at h
  split at h
  · cases h
  · dsimp only at h
    split_ifs at h with hle
    cases h
    exact hle

theorem magnitude?_le {limit n : Nat} {s : List Char} (h : magnitude? limit s = some n) : n ≤ limit := by
  unfold magnitude? at h
  split at h
  · exact digits?_le h
  · exact digits?_le h
  · exact digits?_le h
  · split_ifs at h
    exact digits?_le h

theorem natural?_le {limit n : Nat} {s : List Char} (h : natural? limit s = some n) : n ≤ limit := by
  unfold natural? at h
  split at h <;> exact magnitude?_le h

theorem negative?_spec {limit : Nat} {n : Int} {s : List Char} (h : negative? limit s = some n) :
    -(limit : Int) ≤ n ∧ n ≤ 0 := by
  unfold negative? at h
  split at h
  · obtain ⟨_, hmagnitude, rfl⟩ := Option.map_eq_some_iff.1 h
    obtain ⟨m, hm, hcast⟩ := Option.bind_eq_some_iff.1 hmagnitude
    cases hcast
    have := magnitude?_le hm
    omega
  · cases h

theorem integer?_fromText (s : String) : ∀ x ∈ integer? s, x.FromText := by
  intro x hx
  unfold integer? at hx
  dsimp only at hx
  split at hx
  · rename_i n hn
    cases hx
    have := natural?_le hn
    exact ⟨by omega, Int.ofNat_le.2 this⟩
  · rename_i n _ hn
    cases hx
    obtain ⟨hlow, hhigh⟩ := negative?_spec hn
    split_ifs
    · trivial
    · exact ⟨hlow, hhigh.trans (Int.natCast_nonneg _)⟩
  · split_ifs at hx <;> cases hx
    trivial

theorem resolve_fromText (s : String) : (resolve s).FromText := by
  unfold resolve
  split
  · trivial
  · split
    · trivial
    · split
      · rename_i x hx
        exact integer?_fromText s x hx
      · split
        · trivial
        · split
          · rename_i x hx
            exact float?_fits s x hx
          · trivial

end Word

namespace Yaml

open Document

theorem taggedScalar_fromText (tag : List UInt8) (text : String) (style : LeafStyle) :
    (taggedScalar tag text style).FromText := by
  unfold taggedScalar
  split
  · split_ifs <;> trivial
  · split <;> trivial
  · cases hx : Word.integer? text with
    | none => trivial
    | some x => exact Word.integer?_fromText text x hx
  · split
    · rename_i x hx
      exact Word.float?_fits text x hx
    · trivial
  · split_ifs
    · exact Word.resolve_fromText text
    · trivial

theorem scalarOf_fromText (tag : Option (List UInt8)) (text : String) (style : LeafStyle) :
    (scalarOf tag text style).FromText := by
  unfold scalarOf
  split
  · exact taggedScalar_fromText _ text style
  · split_ifs
    · exact Word.resolve_fromText text
    · trivial

theorem labelledBy_fromText {d : Document} (h : d.FromText) (tag : Option (List UInt8)) :
    (labelledBy tag d).FromText := by
  unfold labelledBy
  split
  · exact .labelled h
  · exact h

/-! ## Aliases -/

/-- What aliases stand for is such that text can hold it. -/
def Anchors.FromText (anchors : Anchors) : Prop := ∀ a ∈ anchors, a.2.FromText

theorem fromText_unreadable : unreadable.FromText := .leaf trivial

theorem Anchors.FromText.document {anchors : Anchors} (h : anchors.FromText) (number : Nat) :
    (anchors.document number).FromText := by
  unfold Anchors.document
  split
  · rename_i found hfound
    exact .shared (h _ (List.mem_of_find?_eq_some hfound))
  · exact fromText_unreadable

/-- What aliases stand for at every depth is such that text can hold it. -/
def BelowFromText (below : List Anchors) : Prop := ∀ anchors ∈ below, anchors.FromText

mutual
theorem expand_fromText : ∀ (n : Node) {here : Anchors} {below : List Anchors}, here.FromText → BelowFromText below →
    (expand here below n).FromText
  | .scalar tag text style, _, _, _, _ => labelledBy_fromText (.leaf (scalarOf_fromText tag text style)) tag
  | .list tag items, _, below, _, hbelow => by
    cases below with
    | nil => exact fromText_unreadable
    | cons next rest =>
      obtain ⟨hnext, hrest⟩ := List.forall_mem_cons.1 hbelow
      exact labelledBy_fromText (.list (expandItems_fromText items hnext hrest)) tag
  | .table tag entries, _, below, _, hbelow => by
    cases below with
    | nil => exact fromText_unreadable
    | cons next rest =>
      obtain ⟨hnext, hrest⟩ := List.forall_mem_cons.1 hbelow
      obtain ⟨hkeys, hentries⟩ := expandEntries_fromText entries hnext hrest
      exact labelledBy_fromText (.table hkeys hentries) tag
  | .alias number, _, _, hhere, _ => hhere.document number

theorem expandItems_fromText : ∀ (items : List Node) {here : Anchors} {below : List Anchors}, here.FromText →
    BelowFromText below → ∀ d ∈ expandItems here below items, d.FromText
  | [], _, _, _, _ => fun _ hd => absurd hd List.not_mem_nil
  | n :: rest, _, _, hhere, hbelow =>
    List.forall_mem_cons.2 ⟨expand_fromText n hhere hbelow, expandItems_fromText rest hhere hbelow⟩

theorem expandEntries_fromText : ∀ (entries : List (Node × Node)) {here : Anchors} {below : List Anchors},
    here.FromText → BelowFromText below → (∀ e ∈ expandEntries here below entries, e.1.FromText) ∧
      ∀ e ∈ expandEntries here below entries, e.2.FromText
  | [], _, _, _, _ => ⟨fun _ he => absurd he List.not_mem_nil, fun _ he => absurd he List.not_mem_nil⟩
  | (k, n) :: rest, _, _, hhere, hbelow =>
    ⟨List.forall_mem_cons.2 ⟨expand_fromText k hhere hbelow, (expandEntries_fromText rest hhere hbelow).1⟩,
      List.forall_mem_cons.2 ⟨expand_fromText n hhere hbelow, (expandEntries_fromText rest hhere hbelow).2⟩⟩
end

theorem fromText_nil : Anchors.FromText [] := fun _ ha => absurd ha List.not_mem_nil

theorem anchors_fromText (g : Graph) (depth : Nat) : BelowFromText (g.anchors depth) := by
  induction depth with
  | zero => exact fun _ ha => absurd ha List.not_mem_nil
  | succ depth ih =>
    refine List.forall_mem_cons.2 ⟨?_, ih⟩
    exact List.forall_mem_map.2 fun target _ => expand_fromText target.2 fromText_nil ih

/-- A YAML text holds a document that text can hold. -/
theorem source?_fromText {text : String} {s : Source} (h : source? text = some s) : s.document.FromText := by
  unfold source? at h
  obtain ⟨tokens, -, h⟩ := Option.bind_eq_some_iff.1 h
  obtain ⟨graph, -, h⟩ := Option.bind_eq_some_iff.1 h
  cases h
  show graph.document.FromText
  unfold Graph.document
  split
  · exact .leaf trivial
  · exact expand_fromText _ fromText_nil (anchors_fromText graph maxDepth)

end Yaml

end Dialogue
