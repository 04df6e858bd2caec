/-
Equality of documents is decidable, so that what is read of a given text can be compared with the document that it
should be.
-/
import Dialogue.Document.Basic

namespace Dialogue.Document

mutual
/-- Whether two documents are the same, part by part. -/
def same : Document → Document → Bool
  | .leaf l, .leaf m => decide (l = m)
  | .list s ds, .list t es => s == t && sameAll ds es
  | .table s ds, .table t es => s == t && sameEntries ds es
  | .labelled l d, .labelled m e => l == m && same d e
  | .shared d, .shared e => same d e
  | _, _ => false

/-- Whether two lists of documents are the same. -/
def sameAll : List Document → List Document → Bool
  | [], [] => true
  | d :: ds, e :: es => same d e && sameAll ds es
  | _, _ => false

/-- Whether the entries of two tables are the same. -/
def sameEntries : List (Document × Document) → List (Document × Document) → Bool
  | [], [] => true
  | (k, d) :: ds, (l, e) :: es => same k l && same d e && sameEntries ds es
  | _, _ => false
end

mutual
theorem same_iff : ∀ d e : Document, d.same e = true ↔ d = e
  | .leaf l, e => by cases e <;> simp [same]
  | .list s ds, e => by cases e <;> simp [same, sameAll_iff ds]
  | .table s ds, e => by cases e <;> simp [same, sameEntries_iff ds]
  | .labelled l d, e => by cases e <;> simp [same, same_iff d]
  | .shared d, e => by cases e <;> simp [same, same_iff d]

theorem sameAll_iff : ∀ ds es : List Document, sameAll ds es = true ↔ ds = es
  | [], es => by cases es <;> simp [sameAll]
  | d :: ds, es => by cases es <;> simp [sameAll, same_iff d, sameAll_iff ds]

theorem sameEntries_iff : ∀ ds es : List (Document × Document), sameEntries ds es = true ↔ ds = es
  | [], es => by cases es <;> simp [sameEntries]
  | (k, d) :: ds, es => by
    cases es <;> simp [sameEntries, same_iff k, same_iff d, sameEntries_iff ds, Prod.ext_iff]
end

instance : DecidableEq Document := fun d e => decidable_of_iff (d.same e = true) (same_iff d e)

end Dialogue.Document
