/-!
# Pages of a list

A list comes in pages. A page holds its items in order and says which page follows it, if any. Where the number of all
pages is known the successor is counted; otherwise it is named.
-/

namespace ControlPlane

/-- One page of a list. -/
structure Page (α : Type) where
  items : List α
  number : UInt32
  totalPages : Option UInt32 := none
  totalResults : Option UInt64 := none
  next : Option UInt32 := none
deriving Repr

namespace Page

variable {α β : Type}

/-- The number after a page, where fewer pages precede the end of the list. -/
def successor (number : UInt32) (totalPages : Option UInt32) : Option UInt32 :=
  match totalPages with
  | some total => if number < total then some (number + 1) else none
  | none => none

/-- A page of a list whose number of pages may be known: without that number no page follows. -/
def counted (items : List α) (number : UInt32) (totalPages : Option UInt32) : Page α :=
  { items, number, totalPages, next := successor number totalPages }

/-- A page that names its successor. -/
def linked (items : List α) (number : UInt32) (next : Option UInt32) : Page α :=
  { items, number, next }

/-- The page with a number of items of the whole list attached. -/
def withTotalResults (p : Page α) (totalResults : Option UInt64) : Page α := { p with totalResults }

/-- Whether another page follows. -/
def hasMore (p : Page α) : Bool := p.next.isSome

/-- The page with each item changed. -/
def map (f : α → β) (p : Page α) : Page β := { p with items := p.items.map f }

/-- The number that follows a page is one more, so it does not wrap. -/
theorem toNat_successor {number next : UInt32} {total : Option UInt32} (h : successor number total = some next) :
    next.toNat = number.toNat + 1 := by
  cases total with
  | none => simp [successor] at h
  | some t =>
    simp only [successor] at h
    split at h
    · next hlt =>
      cases h
      have := UInt32.lt_iff_toNat_lt.mp hlt
      have := t.toNat_lt
      rw [UInt32.toNat_add]
      have h1 : (1 : UInt32).toNat = 1 := rfl
      omega
    · simp at h

/-- The page after a page, by its number. -/
theorem successor_toNat (n total : UInt32) :
    (total.toNat ≤ n.toNat → successor n (some total) = none) ∧
      (n.toNat < total.toNat → ∃ m : UInt32, successor n (some total) = some m ∧ n < m ∧ m.toNat = n.toNat + 1) := by
  constructor
  · intro hle
    have hlt : ¬n < total := by
      rw [UInt32.lt_iff_toNat_lt]
      omega
    exact if_neg hlt
  · intro hlt
    have hs : successor n (some total) = some (n + 1) := if_pos (UInt32.lt_iff_toNat_lt.mpr hlt)
    have hm := toNat_successor hs
    exact ⟨n + 1, hs, by rw [UInt32.lt_iff_toNat_lt, hm]; exact Nat.lt_succ_self _, hm⟩

end Page

end ControlPlane
