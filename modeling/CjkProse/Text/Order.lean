import CjkProse.Text.Basic

/-!
# The order of texts

Texts are ordered by their characters, and these by their code points; a text comes after its own
beginnings.  Lists of texts are ordered in the same way by their members.

## Main definitions

* `lexLe` — the order of lists that an order of their members gives.
* `Text.le` — the order of texts.
* `sortBy` — a list in a given order; of two equal members the earlier one stays first.
-/

namespace CjkProse

/-- The order of lists by their first difference, for an order of their members. -/
def lexLe {α : Type} [DecidableEq α] (le : α → α → Bool) : List α → List α → Bool
  | [], _ => true
  | _ :: _, [] => false
  | a :: as, b :: bs => if a = b then lexLe le as bs else le a b

/-- The order of texts. -/
def Text.le : Text → Text → Bool := lexLe fun c d => decide (c.toNat ≤ d.toNat)

/-- Puts a member into a sorted list, before those that are no smaller. -/
def insertBy {α : Type} (le : α → α → Bool) (a : α) : List α → List α
  | [] => [a]
  | b :: bs => if le a b then a :: b :: bs else b :: insertBy le a bs

/-- A list in a given order. -/
def sortBy {α : Type} (le : α → α → Bool) : List α → List α
  | [] => []
  | a :: as => insertBy le a (sortBy le as)

theorem mem_insertBy {α : Type} {le : α → α → Bool} {a b : α} {as : List α} :
    b ∈ insertBy le a as ↔ b = a ∨ b ∈ as := by
  induction as with
  | nil => simp [insertBy]
  | cons c cs ih =>
    unfold insertBy
    split
    · simp
    · simp only [List.mem_cons, ih]
      exact ⟨fun h => h.elim (fun h => .inr (.inl h)) fun h => h.elim .inl fun h => .inr (.inr h),
        fun h => h.elim (fun h => .inr (.inl h)) fun h => h.elim .inl fun h => .inr (.inr h)⟩

@[simp] theorem mem_sortBy {α : Type} {le : α → α → Bool} {b : α} {as : List α} :
    b ∈ sortBy le as ↔ b ∈ as := by
  induction as with
  | nil => simp [sortBy]
  | cons c cs ih => simp [sortBy, mem_insertBy, ih]

example : sortBy Text.le ["b".toList, "é".toList, "B".toList, "ab".toList] =
    ["B".toList, "ab".toList, "b".toList, "é".toList] := by decide

end CjkProse
